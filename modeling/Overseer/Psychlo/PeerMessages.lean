import Overseer.Psychlo.Bridge
import Overseer.Library.Framing
import Overseer.Library.Traversal

/-! # Messages of the peer

`sign_peer_message` and `verify_peer_request`: what the two ends of the bridge sign with the secret they share,
and how the receiving end takes a request in. Requests come from anyone, in any order and any number of times.
-/
namespace Overseer.Psychlo.Peer
open Overseer.Library Overseer.Agent

/-- The HMAC of a key and a message as a hexadecimal digest, and `json.loads` of bytes. -/
structure PeerHost where
  host : Host
  hmac : List UInt8 → List UInt8 → String
  loads : List UInt8 → Option Json

/-- `text.encode()`. -/
def encode (text : String) : List UInt8 := text.toByteArray.data.toList

def peerVersion : List UInt8 := encode "psychlo-overseer-v1" ++ [0]

def canonical (direction timestamp nonce : String) (body : List UInt8) : List UInt8 :=
  peerVersion ++ encode direction ++ [0] ++ encode timestamp ++ [0] ++ encode nonce ++ [0] ++ body

/-- The direction of what the bridge receives. Its own messages go the other way, under the same secret. -/
def incoming : String := "psychlo-to-overseer"

structure SignedMessage where
  direction : String
  kind : String
  messageId : String
  timestamp : String
  nonce : String
  body : List UInt8
  authority : String := "127.0.0.1:8766"
  deriving DecidableEq

def SignedMessage.canonical (m : SignedMessage) : List UInt8 := Peer.canonical m.direction m.timestamp m.nonce m.body

/-- `sign_peer_message`: the headers of the message. -/
def signPeerMessage (peer : PeerHost) (secret : List UInt8) (m : SignedMessage) : Dict String :=
  Dict.empty.merge [("host",m.authority),("content-type","application/json"),("content-length",toString m.body.length),
    ("x-psychlo-peer-kind",m.kind),("x-psychlo-peer-message-id",m.messageId),("x-psychlo-peer-timestamp",m.timestamp),
    ("x-psychlo-peer-nonce",m.nonce),("x-psychlo-peer-signature",peer.hmac secret m.canonical)]

/-! ### Verification -/

structure PeerRequest where
  expectedKind : String
  body : List UInt8
  headers : Dict String
  now : String

namespace PeerRequest

def header (r : PeerRequest) (name : String) : String := (r.headers.get? name).getD ""
def messageId (r : PeerRequest) : String := r.header "x-psychlo-peer-message-id"
def timestamp (r : PeerRequest) : String := r.header "x-psychlo-peer-timestamp"
def nonce (r : PeerRequest) : String := r.header "x-psychlo-peer-nonce"
def signature (r : PeerRequest) : String := r.header "x-psychlo-peer-signature"
def canonical (r : PeerRequest) : List UInt8 := Peer.canonical incoming r.timestamp r.nonce r.body

end PeerRequest

def maxBodyBytes : ℕ := 256 * 1024

def requiredHeaders : List String := ["host","content-type","content-length","x-psychlo-peer-kind","x-psychlo-peer-message-id",
  "x-psychlo-peer-timestamp","x-psychlo-peer-nonce","x-psychlo-peer-signature"]

/-- The bridge listens on a port of the loopback address only. -/
def isAuthority (authority : String) : Bool :=
  let port := authority.toList.drop 10
  "127.0.0.1:".toList.isPrefixOf authority.toList && !port.isEmpty && port.all Char.isDigit &&
    1 ≤ (port.foldl (fun n c => 10 * n + (c.toNat - 48)) 0 : ℕ) && (port.foldl (fun n c => 10 * n + (c.toNat - 48)) 0 : ℕ) ≤ 65535

/-- A row of `peer_nonces`. -/
structure PeerNonce where
  messageId : String
  claimedAt : Moment

/-- `claim_nonce`: whether the nonce is new, and the table with it. -/
def claimNonce (nonces : Dict PeerNonce) (nonce messageId : String) (claimedAt : Moment) : Bool × Dict PeerNonce :=
  if (nonces.get? nonce).isSome then (false,nonces) else (true,nonces.set nonce ⟨messageId,claimedAt⟩)

def time (peer : PeerHost) (text : String) : Check Moment := ({ host := peer.host } : Bridge).time text

/-- The checks of the headers. -/
def verifyHeaders (peer : PeerHost) (secret : List UInt8) (authority : String) (r : PeerRequest) : Check Moment := do
  check (32 ≤ secret.length ∧ secret.length ≤ 4096 ∧ r.body ≠ [] ∧ r.body.length ≤ maxBodyBytes) (valueError "invalid_request")
  check (isAuthority authority = true) (valueError "invalid_authority")
  check (∀ name ∈ requiredHeaders, (r.headers.get? name).any (fun text => ',' ∉ text.toList) = true) (valueError "invalid_headers")
  check (r.header "host" = authority ∧ r.header "content-type" = "application/json" ∧ r.header "x-psychlo-peer-kind" = r.expectedKind ∧
    r.header "content-length" = toString r.body.length) (valueError "invalid_headers")
  let timestamp ← time peer r.timestamp
  let current ← time peer r.now
  check ((current.micros - timestamp.micros).natAbs ≤ 300000000) (valueError "invalid_timestamp")
  check (16 ≤ r.nonce.length ∧ r.nonce.length ≤ 160 ∧ r.signature.length = 64) (valueError "invalid_signature")
  -- the comparison raises on a text that is not ASCII
  check (r.signature.toList.all (·.toNat < 128) = true) ⟨.type,"comparing strings with non-ASCII characters is not supported"⟩
  check (peer.hmac secret r.canonical = r.signature) (valueError "invalid_signature")
  return current

/-- The checks of the body. -/
def verifyBody (peer : PeerHost) (r : PeerRequest) : Check Payload := do
  let value ← found (peer.loads r.body) (valueError "invalid_message")
  let message ← found (Payload.ofJson? value) (valueError "invalid_message")
  check (message.hasKeys ["kind","messageId","occurredAt","payload"] = true ∧ message.get? "kind" = some (.str r.expectedKind) ∧
    message.get? "messageId" = some (.str r.messageId)) (valueError "invalid_message")
  return message

def verifyPeerRequest (peer : PeerHost) (secret : List UInt8) (authority : String) (nonces : Dict PeerNonce) (r : PeerRequest) :
    Check (Payload × Dict PeerNonce) := do
  let current ← verifyHeaders peer secret authority r
  let message ← verifyBody peer r
  let claim := claimNonce nonces r.nonce r.messageId current
  check (claim.1 = true) (valueError "replay")
  return (message,claim.2)

/-! ### What the parts of a signed text are -/

theorem canonical_eq (direction timestamp nonce : String) (body : List UInt8) : canonical direction timestamp nonce body =
    [0].intercalate [encode "psychlo-overseer-v1",encode direction,encode timestamp,encode nonce,body] := by
  simp [canonical,peerVersion,List.intercalate_cons_cons]

theorem encode_inj {s t : String} (h : encode s = encode t) : s = t := by
  have hdata : s.toByteArray.data = t.toByteArray.data := Array.toList_inj.mp h
  exact String.toByteArray_inj.mp (ByteArray.ext hdata)

/-- No part of the message has a zero byte. -/
structure SignedMessage.ZeroFree (m : SignedMessage) : Prop where
  direction : (0 : UInt8) ∉ encode m.direction
  timestamp : (0 : UInt8) ∉ encode m.timestamp
  nonce : (0 : UInt8) ∉ encode m.nonce
  body : (0 : UInt8) ∉ m.body

/-- The request is the delivery of the message. -/
def PeerRequest.Carries (r : PeerRequest) (m : SignedMessage) : Prop :=
  m.direction = incoming ∧ m.timestamp = r.timestamp ∧ m.nonce = r.nonce ∧ m.body = r.body

instance (r : PeerRequest) (m : SignedMessage) : Decidable (r.Carries m) := inferInstanceAs (Decidable (_ ∧ _))

theorem carries_of_canonical {r : PeerRequest} {m : SignedMessage} (hm : m.ZeroFree) (h : m.canonical = r.canonical) : r.Carries m := by
  unfold SignedMessage.canonical PeerRequest.canonical at h
  rw [canonical_eq,canonical_eq] at h
  have hfree : ∀ part ∈ [encode "psychlo-overseer-v1",encode m.direction,encode m.timestamp,encode m.nonce,m.body], (0 : UInt8) ∉ part := by
    intro part hpart
    simp only [List.mem_cons,List.not_mem_nil,or_false] at hpart
    rcases hpart with rfl | rfl | rfl | rfl | rfl
    · decide +kernel
    · exact hm.direction
    · exact hm.timestamp
    · exact hm.nonce
    · exact hm.body
  have hparts := intercalate_inj hfree (by rfl) h
  simp only [List.cons.injEq,and_true,true_and] at hparts
  obtain ⟨hdirection,htimestamp,hnonce,hbody⟩ := hparts
  exact ⟨encode_inj hdirection,encode_inj htimestamp,encode_inj hnonce,hbody⟩

/-! ### What a request that was taken in has shown -/

section Verification
variable {peer : PeerHost} {secret : List UInt8} {authority : String} {nonces nonces' : Dict PeerNonce} {r : PeerRequest} {message : Payload}

/-- What is known of a request that was verified, whatever the nonces were. -/
structure Verified (peer : PeerHost) (secret : List UInt8) (r : PeerRequest) (message : Payload) : Prop where
  signed : peer.hmac secret r.canonical = r.signature
  fresh : ∃ timestamp current, time peer r.timestamp = .ok timestamp ∧ time peer r.now = .ok current ∧
    (current.micros - timestamp.micros).natAbs ≤ 300000000
  loaded : (peer.loads r.body).bind Payload.ofJson? = some message
  kind : message.get? "kind" = some (.str r.expectedKind)
  named : message.get? "messageId" = some (.str r.messageId)

theorem check_ok {c : Prop} [Decidable c] {e : AgentError} (h : check c e = .ok ()) : c := by
  unfold check at h
  split at h
  · next hc => exact hc
  · cases h

theorem found_ok {α : Type} {o : Option α} {e : AgentError} {a : α} (h : found o e = .ok a) : o = some a := by
  unfold found at h
  split at h
  · cases h
    rfl
  · cases h

theorem verifyHeaders_ok {current : Moment} (h : verifyHeaders peer secret authority r = .ok current) :
    peer.hmac secret r.canonical = r.signature ∧ ∃ timestamp, time peer r.timestamp = .ok timestamp ∧ time peer r.now = .ok current ∧
      (current.micros - timestamp.micros).natAbs ≤ 300000000 := by
  obtain ⟨_,-,h⟩ := except_bind_ok h
  obtain ⟨_,-,h⟩ := except_bind_ok h
  obtain ⟨_,-,h⟩ := except_bind_ok h
  obtain ⟨_,-,h⟩ := except_bind_ok h
  obtain ⟨timestamp,htimestamp,h⟩ := except_bind_ok h
  obtain ⟨now,hnow,h⟩ := except_bind_ok h
  obtain ⟨_,hfresh,h⟩ := except_bind_ok h
  obtain ⟨_,-,h⟩ := except_bind_ok h
  obtain ⟨_,-,h⟩ := except_bind_ok h
  obtain ⟨_,hsigned,h⟩ := except_bind_ok h
  cases h
  exact ⟨check_ok hsigned,timestamp,htimestamp,hnow,check_ok hfresh⟩

theorem verifyBody_ok (h : verifyBody peer r = .ok message) : (peer.loads r.body).bind Payload.ofJson? = some message ∧
    message.get? "kind" = some (.str r.expectedKind) ∧ message.get? "messageId" = some (.str r.messageId) := by
  obtain ⟨value,hvalue,h⟩ := except_bind_ok h
  obtain ⟨read,hread,h⟩ := except_bind_ok h
  obtain ⟨_,hchecked,h⟩ := except_bind_ok h
  cases h
  obtain ⟨-,hkind,hnamed⟩ := check_ok hchecked
  refine ⟨?_,hkind,hnamed⟩
  rw [found_ok hvalue]
  exact found_ok hread

theorem verify_ok (h : verifyPeerRequest peer secret authority nonces r = .ok (message,nonces')) :
    Verified peer secret r message ∧ nonces.get? r.nonce = none ∧ ∃ row, nonces' = nonces.set r.nonce row := by
  obtain ⟨current,hheaders,h⟩ := except_bind_ok h
  obtain ⟨read,hbody,h⟩ := except_bind_ok h
  obtain ⟨_,hclaimed,h⟩ := except_bind_ok h
  cases h
  obtain ⟨hsigned,timestamp,htimestamp,hnow,hfresh⟩ := verifyHeaders_ok hheaders
  obtain ⟨hloaded,hkind,hnamed⟩ := verifyBody_ok hbody
  refine ⟨⟨hsigned,⟨timestamp,current,htimestamp,hnow,hfresh⟩,hloaded,hkind,hnamed⟩,?_⟩
  have hnew := check_ok hclaimed
  unfold claimNonce at hnew ⊢
  split at hnew
  · cases hnew
  · next hnone =>
    rw [if_neg hnone]
    exact ⟨Option.not_isSome_iff_eq_none.mp hnone,_,rfl⟩

end Verification

/-! ### Runs -/

/-- The nonces that are claimed, and what was taken in so far. -/
structure Inbox where
  nonces : Dict PeerNonce := .empty
  accepted : List (PeerRequest × Payload) := []

section Runs
variable (peer : PeerHost) (secret : List UInt8) (authority : String)

/-- A request that is refused changes nothing. -/
def Inbox.receive (s : Inbox) (r : PeerRequest) : Inbox :=
  match verifyPeerRequest peer secret authority s.nonces r with
  | .ok (message,nonces) => ⟨nonces,s.accepted ++ [(r,message)]⟩
  | .error _ => s

def Inbox.run (requests : List PeerRequest) : Inbox := requests.foldl (Inbox.receive peer secret authority) {}

/-- What holds after any requests: every one taken in was verified, was one of them, and has claimed
a nonce of its own. -/
structure Inbox.Sound (requests : List PeerRequest) (s : Inbox) : Prop where
  verified : ∀ e ∈ s.accepted, Verified peer secret e.1 e.2
  received : ∀ e ∈ s.accepted, e.1 ∈ requests
  once : (s.accepted.map fun e => e.1.nonce).Nodup
  claimed : ∀ nonce, (s.nonces.get? nonce).isSome = true ↔ nonce ∈ s.accepted.map fun e => e.1.nonce

variable {peer secret authority}

theorem Inbox.receive_sound {requests : List PeerRequest} {s : Inbox} (hs : s.Sound peer secret requests) (r : PeerRequest) :
    (s.receive peer secret authority r).Sound peer secret (requests ++ [r]) := by
  have hkept : s.Sound peer secret (requests ++ [r]) :=
    ⟨hs.verified,fun e he => List.mem_append_left _ (hs.received e he),hs.once,hs.claimed⟩
  unfold receive
  split
  · next message nonces hverify =>
    obtain ⟨hverified,hnew,row,rfl⟩ := verify_ok hverify
    constructor
    · intro e he
      rcases List.mem_append.mp he with he | he
      · exact hs.verified e he
      · rw [List.mem_singleton.mp he]
        exact hverified
    · intro e he
      rcases List.mem_append.mp he with he | he
      · exact hkept.received e he
      · rw [List.mem_singleton.mp he]
        exact List.mem_append_right _ List.mem_cons_self
    · rw [List.map_append,List.map_singleton,List.nodup_append]
      refine ⟨hs.once,List.nodup_singleton _,?_⟩
      rintro nonce hnonce nonce' hnonce' rfl
      have hclaimed := (hs.claimed nonce).mpr hnonce
      rw [List.mem_singleton.mp hnonce',hnew] at hclaimed
      cases hclaimed
    · intro nonce
      rw [Dict.get?_set,List.map_append,List.mem_append,← hs.claimed nonce,List.map_singleton,List.mem_singleton]
      split
      · next heq => simp [heq]
      · next hne => simp [hne]
  · exact hkept

theorem Inbox.run_concat (requests : List PeerRequest) (r : PeerRequest) :
    run peer secret authority (requests ++ [r]) = (run peer secret authority requests).receive peer secret authority r := by
  unfold run
  rw [List.foldl_append]
  rfl

theorem Inbox.run_sound (requests : List PeerRequest) : (run peer secret authority requests).Sound peer secret requests := by
  induction requests using List.reverseRecOn with
  | nil =>
    refine ⟨?_,?_,List.nodup_nil,?_⟩
    · intro e he
      cases he
    · intro e he
      cases he
    · intro nonce
      exact iff_of_false Bool.false_ne_true List.not_mem_nil
  | append_singleton requests r ih =>
    rw [run_concat]
    exact receive_sound ih r

/-! ### What was signed -/

/-- Nobody but the two ends can sign: what is delivered with the right signature is the text of a message that
one of them has signed. -/
def Unforged (peer : PeerHost) (secret : List UInt8) (sent : List SignedMessage) (requests : List PeerRequest) : Prop :=
  ∀ r ∈ requests, peer.hmac secret r.canonical = r.signature → ∃ m ∈ sent, m.canonical = r.canonical

/-- The deliveries of a message that were taken in. -/
def Inbox.deliveries (s : Inbox) (m : SignedMessage) : List (PeerRequest × Payload) := s.accepted.filter fun e => e.1.Carries m

variable {sent : List SignedMessage} {requests : List PeerRequest}

theorem Inbox.carried (hzero : ∀ m ∈ sent, m.ZeroFree) (hunforged : Unforged peer secret sent requests) {s : Inbox}
    (hs : s.Sound peer secret requests) {e : PeerRequest × Payload} (he : e ∈ s.accepted) : ∃ m ∈ sent, e.1.Carries m := by
  obtain ⟨m,hm,hcanonical⟩ := hunforged e.1 (hs.received e he) (hs.verified e he).signed
  exact ⟨m,hm,carries_of_canonical (hzero m hm) hcanonical⟩

theorem Inbox.deliveries_le_one {s : Inbox} (hs : s.Sound peer secret requests) (m : SignedMessage) : (s.deliveries m).length ≤ 1 := by
  have hnonces : ((s.deliveries m).map fun e => e.1.nonce).Nodup := (List.filter_sublist.map _).nodup hs.once
  have hsame : (s.deliveries m).map (fun e => e.1.nonce) = List.replicate (s.deliveries m).length m.nonce := by
    rw [List.eq_replicate_iff]
    refine ⟨List.length_map _,fun nonce hnonce => ?_⟩
    obtain ⟨e,he,rfl⟩ := List.mem_map.mp hnonce
    have hcarries : e.1.Carries m := of_decide_eq_true (List.mem_filter.mp he).2
    exact hcarries.2.2.1.symm
  rw [hsame] at hnonces
  exact List.nodup_replicate.mp hnonces

/-- In whatever order and however often requests are delivered, and whoever makes them: what is taken in was signed
by the peer for this direction, of these very bytes, no more than five minutes away, for the kind it is
taken in as; and no message is taken in twice. -/
theorem Inbox.peer_messages_once (hzero : ∀ m ∈ sent, m.ZeroFree) (hunforged : Unforged peer secret sent requests) :
    (∀ e ∈ (run peer secret authority requests).accepted, (∃ m ∈ sent, e.1.Carries m) ∧ Verified peer secret e.1 e.2) ∧
    ∀ m, ((run peer secret authority requests).deliveries m).length ≤ 1 := by
  have hs : (run peer secret authority requests).Sound peer secret requests := run_sound requests
  exact ⟨fun e he => ⟨carried hzero hunforged hs he,hs.verified e he⟩,deliveries_le_one hs⟩

end Runs

/-! ### Deliveries -/

section Deliveries
variable {peer : PeerHost} {secret : List UInt8} {authority now : String} {m : SignedMessage} {message : Payload}

/-- The request that the peer makes of a message. -/
def SignedMessage.request (m : SignedMessage) (peer : PeerHost) (secret : List UInt8) (now : String) : PeerRequest where
  expectedKind := m.kind
  body := m.body
  headers := signPeerMessage peer secret m
  now := now

/-- What the peer has to keep to for its message to be taken in at a time. -/
structure Acceptable (peer : PeerHost) (secret : List UInt8) (authority now : String) (m : SignedMessage) (message : Payload) : Prop where
  secretLength : 32 ≤ secret.length ∧ secret.length ≤ 4096
  bodyLength : m.body ≠ [] ∧ m.body.length ≤ maxBodyBytes
  authority : isAuthority authority = true ∧ m.authority = authority
  noComma : ∀ text ∈ [m.authority,m.kind,m.messageId,m.timestamp,m.nonce], ',' ∉ text.toList
  fresh : ∃ timestamp current, time peer m.timestamp = .ok timestamp ∧ time peer now = .ok current ∧
    (current.micros - timestamp.micros).natAbs ≤ 300000000
  nonceLength : 16 ≤ m.nonce.length ∧ m.nonce.length ≤ 160
  loaded : ∃ value, peer.loads m.body = some value ∧ Payload.ofJson? value = some message
  keys : message.hasKeys ["kind","messageId","occurredAt","payload"] = true
  kind : message.get? "kind" = some (.str m.kind)
  named : message.get? "messageId" = some (.str m.messageId)

/-- A digest is written in 64 hexadecimal digits. -/
def HexDigests (peer : PeerHost) : Prop := ∀ key text, (peer.hmac key text).length = 64 ∧ ∀ c ∈ (peer.hmac key text).toList, isHex c = true

theorem isHex_plain {c : Char} (h : isHex c = true) : c ≠ ',' ∧ c.toNat < 128 := by
  unfold isHex Char.isDigit at h
  simp only [Bool.or_eq_true,Bool.and_eq_true,decide_eq_true_eq] at h
  constructor
  · rintro rfl
    revert h
    decide
  · change c.val.toNat < 128
    rcases h with ⟨-,h⟩ | ⟨-,h⟩
    · exact Nat.lt_of_le_of_lt (UInt32.le_iff_toNat_le.mp h) (by decide)
    · exact Nat.lt_of_le_of_lt (UInt32.le_iff_toNat_le.mp h) (by decide)

theorem request_headers : (m.request peer secret now).header "host" = m.authority ∧
    (m.request peer secret now).header "content-type" = "application/json" ∧
    (m.request peer secret now).header "content-length" = toString m.body.length ∧
    (m.request peer secret now).header "x-psychlo-peer-kind" = m.kind ∧ (m.request peer secret now).messageId = m.messageId ∧
    (m.request peer secret now).timestamp = m.timestamp ∧ (m.request peer secret now).nonce = m.nonce ∧
    (m.request peer secret now).signature = peer.hmac secret m.canonical := by
  unfold PeerRequest.messageId PeerRequest.timestamp PeerRequest.nonce PeerRequest.signature PeerRequest.header SignedMessage.request signPeerMessage
  simp [Dict.merge,Dict.get?_set]

theorem check_of {c : Prop} [Decidable c] {e : AgentError} (h : c) : check c e = .ok () := if_pos h

theorem bind_ok {α β : Type} {x : Check α} {f : α → Check β} {a : α} {y : Check β} (hx : x = .ok a) (h : f a = y) : (x >>= f) = y := by
  rw [hx]
  exact h

theorem request_noComma (hhex : HexDigests peer) (h : Acceptable peer secret authority now m message) :
    ∀ name ∈ requiredHeaders, ((m.request peer secret now).headers.get? name).any (fun text => ',' ∉ text.toList) = true := by
  have hlength : ',' ∉ Nat.toDigits 10 m.body.length := by
    intro hmem
    have hdigit := Nat.isDigit_of_mem_toDigits (by decide) (by decide) hmem
    revert hdigit
    decide
  have hsignature : ',' ∉ (peer.hmac secret m.canonical).toList := fun hmem => (isHex_plain ((hhex _ _).2 _ hmem)).1 rfl
  have hfields := h.noComma
  simp only [List.forall_mem_cons,List.not_mem_nil,false_implies,implies_true,and_true] at hfields
  obtain ⟨hauthority,hkind,hid,htimestamp,hnonce⟩ := hfields
  simp [requiredHeaders,SignedMessage.request,signPeerMessage,Dict.merge,Dict.get?_set,hauthority,hkind,hid,htimestamp,hnonce,
    hlength,hsignature]

theorem verify_acceptable (hhex : HexDigests peer) (hdirection : m.direction = incoming)
    (h : Acceptable peer secret authority now m message) {nonces : Dict PeerNonce} (hnew : nonces.get? m.nonce = none) :
    ∃ nonces', verifyPeerRequest peer secret authority nonces (m.request peer secret now) = .ok (message,nonces') := by
  obtain ⟨hhost,htype,hlength,hkind,hid,htimestamp,hnonce,hsignature⟩ := @request_headers peer secret now m
  obtain ⟨timestamp,current,hparsed,hnow,hfresh⟩ := h.fresh
  obtain ⟨value,hvalue,hread⟩ := h.loaded
  have hcanonical : (m.request peer secret now).canonical = m.canonical := by
    unfold PeerRequest.canonical SignedMessage.canonical
    rw [htimestamp,hnonce,hdirection]
    rfl
  have hheaders : verifyHeaders peer secret authority (m.request peer secret now) = .ok current := by
    unfold verifyHeaders
    refine bind_ok (check_of ⟨h.secretLength.1,h.secretLength.2,h.bodyLength⟩) ?_
    refine bind_ok (check_of h.authority.1) ?_
    refine bind_ok (check_of (request_noComma hhex h)) ?_
    refine bind_ok (check_of ⟨hhost.trans h.authority.2,htype,hkind,hlength⟩) ?_
    rw [htimestamp,hnonce,hsignature,hcanonical]
    refine bind_ok hparsed (bind_ok hnow (bind_ok (check_of hfresh) ?_))
    refine bind_ok (check_of ⟨h.nonceLength.1,h.nonceLength.2,(hhex _ _).1⟩) ?_
    refine bind_ok (check_of (List.all_eq_true.mpr fun c hc => decide_eq_true (isHex_plain ((hhex _ _).2 c hc)).2)) ?_
    exact bind_ok (check_of rfl) rfl
  have hbody : verifyBody peer (m.request peer secret now) = .ok message := by
    have hfound : ∀ {α : Type} {o : Option α} {e : AgentError} {a : α}, o = some a → found o e = .ok a := by
      rintro α o e a rfl
      rfl
    refine bind_ok (hfound hvalue) (bind_ok (hfound hread) (bind_ok (check_of ⟨h.keys,h.kind,?_⟩) rfl))
    rw [hid]
    exact h.named
  have hclaim : claimNonce nonces m.nonce m.messageId current = (true,nonces.set m.nonce ⟨m.messageId,current⟩) := by
    unfold claimNonce
    rw [hnew]
    rfl
  refine ⟨nonces.set m.nonce ⟨m.messageId,current⟩,?_⟩
  unfold verifyPeerRequest
  refine bind_ok hheaders (bind_ok hbody ?_)
  dsimp only
  rw [hnonce,hid,hclaim]
  rfl

theorem Inbox.accepted_grows (s : Inbox) (requests : List PeerRequest) :
    s.accepted <+: (requests.foldl (Inbox.receive peer secret authority) s).accepted := by
  induction requests generalizing s with
  | nil => exact List.prefix_rfl
  | cons r rest ih =>
    refine List.IsPrefix.trans ?_ (ih (s.receive peer secret authority r))
    unfold receive
    split
    · exact List.prefix_append _ _
    · exact List.prefix_rfl

/-- A message that the peer has signed and delivers at a time when it is acceptable is taken in exactly once, whatever
else is delivered before and after, as long as the two ends use no nonce twice. -/
theorem Inbox.delivered_exactly_once {sent : List SignedMessage} {before after : List PeerRequest} (hhex : HexDigests peer)
    (hzero : ∀ m ∈ sent, m.ZeroFree) (hnonces : ∀ m ∈ sent, ∀ m' ∈ sent, m.nonce = m'.nonce → m = m')
    (hunforged : Unforged peer secret sent (before ++ m.request peer secret now :: after)) (hm : m ∈ sent)
    (hdirection : m.direction = incoming) (h : Acceptable peer secret authority now m message) :
    ((run peer secret authority (before ++ m.request peer secret now :: after)).deliveries m).length = 1 := by
  have hs : (run peer secret authority (before ++ m.request peer secret now :: after)).Sound peer secret _ := run_sound _
  have hbefore : (run peer secret authority before).Sound peer secret before := run_sound before
  obtain ⟨hhost,htype,hlength,hkind,hid,htimestamp,hnonce,hsignature⟩ := @request_headers peer secret now m
  -- the delivery is taken in, or its nonce was claimed before by one that was
  have hone : ∃ e ∈ ((run peer secret authority before).receive peer secret authority (m.request peer secret now)).accepted,
      e.1.nonce = m.nonce := by
    by_cases hnew : (run peer secret authority before).nonces.get? m.nonce = none
    · obtain ⟨nonces',hverify⟩ := verify_acceptable hhex hdirection h hnew
      refine ⟨(m.request peer secret now,message),?_,hnonce⟩
      unfold receive
      rw [hverify]
      exact List.mem_append_right _ List.mem_cons_self
    · obtain ⟨e,he,heq⟩ := List.mem_map.mp ((hbefore.claimed m.nonce).mp (Option.isSome_iff_ne_none.mpr hnew))
      refine ⟨e,?_,heq⟩
      exact (accepted_grows (run peer secret authority before) [m.request peer secret now]).subset he
  obtain ⟨e,he,heq⟩ := hone
  have hmem : e ∈ (run peer secret authority (before ++ m.request peer secret now :: after)).accepted := by
    unfold run
    rw [List.foldl_append,List.foldl_cons]
    exact (accepted_grows _ after).subset he
  obtain ⟨m',hm',hcarries⟩ := carried hzero hunforged hs hmem
  have hsame : m' = m := hnonces m' hm' m hm (hcarries.2.2.1.trans heq)
  rw [hsame] at hcarries
  have hdelivered : e ∈ (run peer secret authority (before ++ m.request peer secret now :: after)).deliveries m :=
    List.mem_filter.mpr ⟨hmem,decide_eq_true hcarries⟩
  exact Nat.le_antisymm (deliveries_le_one hs m) (List.length_pos_of_mem hdelivered)

end Deliveries

def exampleBody : List UInt8 :=
  encode "\x7b\"kind\":\"round-request\",\"messageId\":\"round-1\",\"occurredAt\":\"2026-09-01T00:00:00Z\",\"payload\":\x7b\x7d\x7d"

def examplePayload : Payload :=
  Payload.ofList [("kind",.str "round-request"),("messageId",.str "round-1"),("occurredAt",.str "2026-09-01T00:00:00Z"),("payload",.obj [])]

def exampleText : List UInt8 := canonical incoming "2026-09-01T00:00:00Z" "nonce-of-the-round" exampleBody

/-- A host whose digests tell the text from every other. -/
def examplePeer : PeerHost where
  host := { sha256 := id, fromisoformat := fun _ => some ⟨true,1788220800000000⟩ }
  hmac _ text := String.ofList (List.replicate 64 (if text = exampleText then '0' else '1'))
  loads body := if body = exampleBody then some (.obj examplePayload.entries) else none

def exampleMessage : SignedMessage where
  direction := incoming
  kind := "round-request"
  messageId := "round-1"
  timestamp := "2026-09-01T00:00:00Z"
  nonce := "nonce-of-the-round"
  body := exampleBody

def exampleSecret : List UInt8 := List.replicate 32 115

theorem example_zeroFree : ∀ m ∈ [exampleMessage], m.ZeroFree := by
  intro m hm
  rw [List.mem_singleton.mp hm]
  exact ⟨by decide +kernel,by decide +kernel,by decide +kernel,by decide +kernel⟩

def exampleRequest : PeerRequest := exampleMessage.request examplePeer exampleSecret "2026-09-01T00:00:00Z"

/-- The request under the same signature with a nonce of its own. -/
def forgedRequest : PeerRequest :=
  { exampleRequest with headers := exampleRequest.headers.set "x-psychlo-peer-nonce" "another-nonce-of-the-round" }

def repeatedRequest : List PeerRequest := [forgedRequest,exampleRequest,exampleRequest]

theorem example_unforged : Unforged examplePeer exampleSecret [exampleMessage] repeatedRequest := by
  have hforged : examplePeer.hmac exampleSecret forgedRequest.canonical ≠ forgedRequest.signature := by decide +kernel
  intro r hr hsigned
  have hr : r = forgedRequest ∨ r = exampleRequest := by
    simpa only [repeatedRequest,List.mem_cons,List.not_mem_nil,or_false,or_self] using hr
  rcases hr with rfl | rfl
  · exact absurd hsigned hforged
  · obtain ⟨-,-,-,-,-,htimestamp,hnonce,-⟩ := @request_headers examplePeer exampleSecret "2026-09-01T00:00:00Z" exampleMessage
    refine ⟨exampleMessage,List.mem_cons_self,?_⟩
    unfold exampleRequest PeerRequest.canonical SignedMessage.canonical
    rw [htimestamp,hnonce]
    rfl

theorem Inbox.peer_messages_once_repeated : forgedRequest.signature = exampleRequest.signature ∧
    (∀ e ∈ (run examplePeer exampleSecret "127.0.0.1:8766" repeatedRequest).accepted, ∃ m ∈ [exampleMessage], e.1.Carries m) ∧
    ((run examplePeer exampleSecret "127.0.0.1:8766" repeatedRequest).deliveries exampleMessage).length ≤ 1 := by
  obtain ⟨haccepted,honce⟩ := @peer_messages_once examplePeer exampleSecret "127.0.0.1:8766" _ _ example_zeroFree example_unforged
  exact ⟨by decide +kernel,fun e he => (haccepted e he).1,honce exampleMessage⟩

theorem example_acceptable :
    Acceptable examplePeer exampleSecret "127.0.0.1:8766" "2026-09-01T00:00:00Z" exampleMessage examplePayload where
  secretLength := by decide
  bodyLength := by decide +kernel
  authority := by decide +kernel
  noComma := by decide +kernel
  fresh := ⟨_,_,rfl,rfl,by decide⟩
  nonceLength := by decide +kernel
  loaded := by
    refine ⟨.obj examplePayload.entries,?_,Payload.ofJson?_entries _⟩
    change (if exampleBody = exampleBody then some (Json.obj examplePayload.entries) else none) = _
    exact if_pos rfl
  keys := by decide +kernel
  kind := by decide +kernel
  named := by decide +kernel

theorem Inbox.delivered_exactly_once_repeated :
    ((run examplePeer exampleSecret "127.0.0.1:8766" repeatedRequest).deliveries exampleMessage).length = 1 := by
  have hdigest : ∀ d : Char, isHex d = true → (String.ofList (List.replicate 64 d)).length = 64 ∧
      ∀ c ∈ (String.ofList (List.replicate 64 d)).toList, isHex c = true := by
    intro d hd
    rw [String.toList_ofList,String.length_ofList,List.length_replicate]
    exact ⟨rfl,fun c hc => List.eq_of_mem_replicate hc ▸ hd⟩
  have hhex : HexDigests examplePeer := fun _ text => hdigest (if text = exampleText then '0' else '1') (by split <;> decide)
  have hnonces : ∀ m ∈ [exampleMessage], ∀ m' ∈ [exampleMessage], m.nonce = m'.nonce → m = m' := by
    intro m hm m' hm' _
    rw [List.mem_singleton.mp hm,List.mem_singleton.mp hm']
  exact @delivered_exactly_once examplePeer exampleSecret "127.0.0.1:8766" "2026-09-01T00:00:00Z" exampleMessage examplePayload [exampleMessage]
    [forgedRequest] [exampleRequest] hhex example_zeroFree hnonces example_unforged List.mem_cons_self rfl example_acceptable

end Overseer.Psychlo.Peer
