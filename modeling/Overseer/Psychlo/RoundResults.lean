import Overseer.Psychlo.Rounds

/-! # The result that is sent and the result that is stored

A callback reads the round, stores its result if it saw none and sends it. Two callbacks
that both saw none disagree when their results do: the store keeps the first, the peer is
sent both. When no callback comes to store a result after a different one was stored, every
result sent is the stored one.
-/
namespace Overseer.Psychlo
open Overseer.Library Overseer.Agent

/-- Every result sent to the peer is the one stored for its round. -/
def SentStored (t : BridgeTrace) : Prop := ∀ i messageId payload response,
  (i,⟨.sender .roundResult messageId payload,response⟩) ∈ t.log → ∃ roundId row stored,
    payload.str? "roundId" = some roundId ∧ t.store.rounds.get? roundId = some row ∧ row.result = some stored ∧
    stored.alike payload = true

/-- A round is marked as forwarded once the peer took the stored result. -/
def ForwardedAccepted (t : BridgeTrace) : Prop := ∀ roundId row, t.store.rounds.get? roundId = some row →
  row.resultForwarded = true → ∃ stored i messageId payload response, row.result = some stored ∧
    stored.alike payload = true ∧ payload.str? "roundId" = some roundId ∧
    (i,⟨.sender .roundResult messageId payload,some response⟩) ∈ t.log ∧ accepts response = true

/-- The rounds are filed under their identifiers. -/
def RoundsFiled (s : BridgeStore) : Prop := ∀ roundId row, s.rounds.get? roundId = some row →
  row.request.str? "roundId" = some roundId

/-- Filed rounds of which no result has been forwarded. -/
def RoundsOpen (s : BridgeStore) : Prop := RoundsFiled s ∧ ∀ roundId row, s.rounds.get? roundId = some row →
  row.resultForwarded = false

def roundSystem : BridgeSystem := ⟨roundCall,fun _ _ _ => True,fun _ _ _ => True⟩

/-- The round has no result yet, or an equal one, when a result comes to be stored. -/
def StoresFirst (s : BridgeStore) (held : Held) (_ : BridgeStore) : Prop := ∀ roundId result,
  held.recording = some (roundId,result) → ∀ row stored, s.rounds.get? roundId = some row → row.result = some stored →
    stored.alike result = true

/-- The round calls, none of which comes late with a result of its own. -/
def firstResultSystem : BridgeSystem := { roundSystem with guard := StoresFirst }

/-! ### What the calls promise each other -/

/-- Rounds stay, and stored results stay as they are. -/
def ResultsKept (s s' : BridgeStore) : Prop := ∀ k row, s.rounds.get? k = some row → ∃ row', s'.rounds.get? k = some row' ∧
  row'.request = row.request ∧ ∀ x, row.result = some x → row'.result = some x

theorem RoundsKept.resultsKept {s s' : BridgeStore} (h : RoundsKept s s') : ResultsKept s s' := by
  intro k row hk
  obtain ⟨row',hk',hreq,hres,-⟩ := h.old k row hk
  exact ⟨row',hk',hreq,fun x hx => hres.trans hx⟩

def resultProtocol : Protocol BridgeStore Held Answer AgentError Unit where
  sys := firstResultSystem
  inv t := RoundsFiled t.store ∧ SentStored t ∧ ForwardedAccepted t
  promise _ t s := ResultsKept t.store s

theorem SentStored.commit {t : BridgeTrace} {s : BridgeStore} (h : SentStored t) (hs : ResultsKept t.store s) :
    SentStored (t.commit s) := by
  intro i messageId payload response hmem
  obtain ⟨roundId,row,stored,hid,hrow,hres,halike⟩ := h i messageId payload response hmem
  obtain ⟨row',hrow',-,hkept⟩ := hs roundId row hrow
  exact ⟨roundId,row',stored,hid,hrow',hkept stored hres,halike⟩

theorem SentStored.record {t : BridgeTrace} (h : SentStored t) (i : ℕ) (q : BridgeQuery) (a : Answer q)
    (hq : ∀ messageId payload, q = .sender .roundResult messageId payload → ∃ roundId row stored,
      payload.str? "roundId" = some roundId ∧ t.store.rounds.get? roundId = some row ∧ row.result = some stored ∧
      stored.alike payload = true) : SentStored (t.record i q a) := by
  intro j messageId payload response hmem
  rcases List.mem_cons.mp hmem with heq | hmem
  · simp only [Prod.mk.injEq,Sigma.mk.injEq] at heq
    exact hq messageId payload heq.2.1.symm
  · exact h j messageId payload response hmem

theorem ForwardedAccepted.record {t : BridgeTrace} (h : ForwardedAccepted t) (i : ℕ) (q : BridgeQuery) (a : Answer q) :
    ForwardedAccepted (t.record i q a) := by
  intro roundId row hrow hfwd
  obtain ⟨stored,j,messageId,payload,response,hres,halike,hid,hmem,hacc⟩ := h roundId row hrow hfwd
  exact ⟨stored,j,messageId,payload,response,hres,halike,hid,List.mem_cons_of_mem _ hmem,hacc⟩

theorem resultProtocol_bears : resultProtocol.Bears RoundsKept isRoundResult where
  commit i t s' ht hs := by
    obtain ⟨hfiled,hsent,hfwd⟩ := ht
    refine ⟨hs.resultsKept,?_,hsent.commit hs.resultsKept,?_⟩
    · intro k row hk
      cases hold : t.store.rounds.get? k with
      | none => exact (hs.fresh k row hk hold).1
      | some row₀ =>
        obtain ⟨row',hk',hreq,-⟩ := hs.old k row₀ hold
        obtain rfl : row = row' := Option.some.inj (hk.symm.trans hk')
        rw [hreq]
        exact hfiled k row₀ hold
    · intro k row hk hforwarded
      cases hold : t.store.rounds.get? k with
      | none =>
        have hfalse := (hs.fresh k row hk hold).2.2
        rw [hforwarded] at hfalse
        cases hfalse
      | some row₀ =>
        obtain ⟨row',hk',-,hres,hsame⟩ := hs.old k row₀ hold
        obtain rfl : row = row' := Option.some.inj (hk.symm.trans hk')
        obtain ⟨stored,i,messageId,payload,response,hstored,hrest⟩ := hfwd k row₀ hold (hsame.symm.trans hforwarded)
        exact ⟨stored,i,messageId,payload,response,hres.trans hstored,hrest⟩
  record i t q a ht _ hq := by
    refine ⟨ht.1,ht.2.1.record i q a fun messageId payload heq => ?_,ht.2.2.record i q a⟩
    rw [heq] at hq
    exact absurd trivial hq

/-! ### One callback -/

/-- The round is there with this request, and with the result that was seen. -/
def Seen (roundId : String) (request : Payload) (seen : Option Payload) (t : BridgeTrace) : Prop :=
  ∃ row, t.store.rounds.get? roundId = some row ∧ row.request = request ∧ ∀ x, seen = some x → row.result = some x

/-- A result equal to this one is stored for its round. -/
def Stored (roundId : String) (result : Payload) (t : BridgeTrace) : Prop :=
  ∃ row stored, t.store.rounds.get? roundId = some row ∧ row.result = some stored ∧ stored.alike result = true

section Callback
variable {i : ℕ} {roundId : String} {request result : Payload} {seen : Option Payload}

theorem lasting_of_kept {F : BridgeStore → Prop} (hF : ∀ s s', ResultsKept s s' → F s → F s') :
    resultProtocol.Lasting i fun t => F t.store where
  other t t' h ht := by
    cases h with
    | commit j s hj _ hp _ => exact hF _ _ hp ht
    | record j q a hj _ _ _ => exact ht
  idle _ ht := ht
  record _ _ _ ht := ht

theorem lasting_seen : resultProtocol.Lasting i (Seen roundId request seen) := by
  refine lasting_of_kept (F := fun s => ∃ row, s.rounds.get? roundId = some row ∧ row.request = request ∧
    ∀ x, seen = some x → row.result = some x) ?_
  rintro s s' hkept ⟨row,hrow,hreq,hseen⟩
  obtain ⟨row',hrow',hreq',hres⟩ := hkept roundId row hrow
  exact ⟨row',hrow',hreq'.trans hreq,fun x hx => hres x (hseen x hx)⟩

theorem lasting_stored : resultProtocol.Lasting i (Stored roundId result) := by
  refine lasting_of_kept (F := fun s => ∃ row stored, s.rounds.get? roundId = some row ∧ row.result = some stored ∧
    stored.alike result = true) ?_
  rintro s s' hkept ⟨row,stored,hrow,hres,halike⟩
  obtain ⟨row',hrow',-,hres'⟩ := hkept roundId row hrow
  exact ⟨row',stored,hrow',hres' stored hres,halike⟩

theorem updateRound_ok {f : RoundRow → RoundRow} {s s' : BridgeStore} {row : RoundRow}
    (h : updateRound roundId f s = .ok ((),s')) (hrow : s.rounds.get? roundId = some row) :
    s' = { s with rounds := s.rounds.set roundId (f row) } := by
  cases h
  simp only [hrow]

theorem resultsKept_set {s : BridgeStore} {row row' : RoundRow} (hrow : s.rounds.get? roundId = some row)
    (hreq : row'.request = row.request) (hres : ∀ x, row.result = some x → row'.result = some x) :
    ResultsKept s { s with rounds := s.rounds.set roundId row' } := by
  intro k r hk
  change ∃ r', (s.rounds.set roundId row').get? k = some r' ∧ _
  rw [Dict.get?_set]
  split
  · next hkr =>
    subst hkr
    obtain rfl : row = r := Option.some.inj (hrow.symm.trans hk)
    exact ⟨row',rfl,hreq,hres⟩
  · exact ⟨r,hk,rfl,fun _ h => h⟩

theorem roundsFiled_set {s : BridgeStore} (h : RoundsFiled s) {row row' : RoundRow} (hrow : s.rounds.get? roundId = some row)
    (hreq : row'.request = row.request) : RoundsFiled { s with rounds := s.rounds.set roundId row' } := by
  intro k r hk
  change (s.rounds.set roundId row').get? k = some r at hk
  rw [Dict.get?_set] at hk
  split at hk
  · next hkr =>
    cases hk
    rw [hreq,hkr]
    exact h roundId row hrow
  · exact h k r hk

/-- A changed row that was forwarded already, or is so for a result the peer took. -/
theorem forwardedAccepted_set {t : BridgeTrace} (h : ForwardedAccepted t) {row row' : RoundRow}
    (hrow : t.store.rounds.get? roundId = some row) (hres : ∀ x, row.result = some x → row'.result = some x)
    (hfwd : row'.resultForwarded = true → row.resultForwarded = true ∨ ∃ stored i messageId payload response,
      row'.result = some stored ∧ stored.alike payload = true ∧ payload.str? "roundId" = some roundId ∧
      (i,⟨.sender .roundResult messageId payload,some response⟩) ∈ t.log ∧ accepts response = true) :
    ForwardedAccepted (t.commit { t.store with rounds := t.store.rounds.set roundId row' }) := by
  intro k r hk hforwarded
  change (t.store.rounds.set roundId row').get? k = some r at hk
  rw [Dict.get?_set] at hk
  split at hk
  · next hkr =>
    cases hk
    subst hkr
    rcases hfwd hforwarded with hold | hnew
    · obtain ⟨stored,i,messageId,payload,response,hstored,hrest⟩ := h k row hrow hold
      exact ⟨stored,i,messageId,payload,response,hres stored hstored,hrest⟩
    · exact hnew
  · exact h k r hk hforwarded

theorem safe_storeResult {t : BridgeTrace} (hseen : Seen roundId request seen t)
    (hsame : seen.all (·.alike result) = true) :
    resultProtocol.Safe i (fun _ => Stored roundId result) (fun _ _ => True) (Bridge.storeResult roundId seen result) t := by
  unfold Bridge.storeResult
  split
  · refine fun t₁ hl₁ now _ => ?_
    have hinv₁ := resultProtocol_bears.record i t₁ .clock now hl₁.1 trivial fun h => h
    have hnow : Seen roundId request seen t₁ := lasting_seen.later hl₁ hseen
    have hseen₁ : Seen roundId request seen (t₁.record i .clock now) := hnow
    refine ⟨hinv₁,?_⟩
    refine Protocol.safe_commit (resultProtocol_bears.calm) lasting_seen hseen₁ ?_ fun _ _ _ _ => trivial
    rintro t₂ ⟨hfiled,hsent,hfwd⟩ ⟨row,hrow,-,-⟩ u s' hrun hguard
    have hs' := updateRound_ok hrun hrow
    cases hres : row.result with
    | none =>
      simp only [hres] at hs'
      have hkept : ResultsKept t₂.store s' := by
        rw [hs']
        exact resultsKept_set hrow rfl fun x hx => absurd (hx.symm.trans hres) (by simp)
      refine ⟨hkept,⟨?_,hsent.commit hkept,?_⟩,fun t₃ hl₃ => lasting_stored.later hl₃ ?_⟩
      · rw [hs']
        exact roundsFiled_set hfiled hrow rfl
      · rw [hs']
        exact forwardedAccepted_set hfwd hrow (fun x hx => absurd (hx.symm.trans hres) (by simp)) .inl
      · have hget := congrArg (fun s => s.rounds.get? roundId) hs'
        simp only [Dict.get?_set,↓reduceIte] at hget
        exact ⟨_,result,hget,rfl,result.alike_refl⟩
    | some stored =>
      -- a result came first: the guard says that it is an equal one
      simp only [hres,reduceCtorEq,↓reduceIte] at hs'
      have halike := hguard roundId result rfl row stored hrow hres
      have hkept : ResultsKept t₂.store s' := by
        rw [hs']
        exact resultsKept_set hrow rfl fun _ h => h
      refine ⟨hkept,⟨?_,hsent.commit hkept,?_⟩,fun t₃ hl₃ => lasting_stored.later hl₃ ?_⟩
      · rw [hs']
        exact roundsFiled_set hfiled hrow rfl
      · rw [hs']
        exact forwardedAccepted_set hfwd hrow (fun _ h => h) .inl
      · refine ⟨row,stored,?_,hres,halike⟩
        rw [hs']
        exact (Dict.get?_set _ _ _ _).trans (if_pos rfl)
  · next hsome =>
    obtain ⟨x,hx⟩ := Option.ne_none_iff_exists'.mp hsome
    refine Protocol.safe_pure lasting_seen hseen ?_
    rintro t' - - ⟨row,hrow,-,hres⟩
    rw [hx] at hsame
    exact ⟨row,x,hrow,hres x hx,by simpa using hsame⟩

theorem safe_forwardResult {t : BridgeTrace} (hid : result.str? "roundId" = some roundId) (hstored : Stored roundId result t) :
    resultProtocol.Safe i (fun _ _ => True) (fun _ _ => True) (Bridge.forwardResult roundId result) t := by
  refine fun t₁ hl₁ answer _ => ?_
  obtain ⟨row,stored,hrow,hres,halike⟩ := lasting_stored.later hl₁ hstored
  obtain ⟨hfiled,hsent,hfwd⟩ := hl₁.1
  have hinv : resultProtocol.inv (t₁.record i (.sender .roundResult (result.get "provenanceId").text result) answer) := by
    refine ⟨hfiled,hsent.record i _ answer fun messageId payload heq => ?_,hfwd.record i _ answer⟩
    cases heq
    exact ⟨roundId,row,stored,hid,hrow,hres,halike⟩
  refine ⟨hinv,?_⟩
  cases answer with
  | none => exact fun _ _ => trivial
  | some response =>
    -- what is known from here on: the result is stored and this answer to it is in the log
    let known : BridgeTrace → Prop := fun t' => Stored roundId result t' ∧
      (i,⟨.sender .roundResult (result.get "provenanceId").text result,some response⟩) ∈ t'.log
    have hlast : resultProtocol.Lasting i known :=
      lasting_stored.and (.of_extends fun t t' h hmem => h.2 hmem)
    have hknown : known (t₁.record i (.sender .roundResult (result.get "provenanceId").text result) (some response)) :=
      ⟨⟨row,stored,hrow,hres,halike⟩,List.mem_cons_self⟩
    change resultProtocol.Safe i _ _ (require (accepts response = true) _ >>= fun _ => atomically (markForwarded roundId)) _
    refine Protocol.safe_bind (Protocol.safe_require hlast hknown fun _ _ _ => trivial) ?_
    rintro - t₂ - hinv₂ ⟨hknown₂,hacc⟩
    refine Protocol.safe_commit resultProtocol_bears.calm hlast hknown₂ ?_ fun _ _ _ _ => trivial
    rintro t₃ ⟨hfiled₃,hsent₃,hfwd₃⟩ ⟨⟨row₃,stored₃,hrow₃,hres₃,halike₃⟩,hmem⟩ u s' hrun -
    have hs' := updateRound_ok hrun hrow₃
    have hkept : ResultsKept t₃.store s' := by
      rw [hs']
      exact resultsKept_set hrow₃ rfl fun _ h => h
    refine ⟨hkept,⟨?_,hsent₃.commit hkept,?_⟩,fun _ _ => trivial⟩
    · rw [hs']
      exact roundsFiled_set hfiled₃ hrow₃ rfl
    · rw [hs']
      refine forwardedAccepted_set hfwd₃ hrow₃ (fun _ h => h) fun _ => .inr ?_
      exact ⟨stored₃,i,_,result,response,hres₃,halike₃,hid,hmem,hacc⟩

theorem roundId_of_bound (h : requireBoundResult request result = .ok ()) (hid : request.str? "roundId" = some roundId) :
    result.str? "roundId" = some roundId := by
  obtain ⟨u,hbound,-⟩ := check_bind h
  rw [check_ok] at hbound
  cases hget : request.get? "roundId" with
  | none => simp [Payload.str?,hget] at hid
  | some v =>
    have hv : v = .str roundId := by
      have hstr : v.asStr? = some roundId := by simpa [Payload.str?,hget] using hid
      cases v <;> simp_all [Json.asStr?]
    have halike := hbound ("roundId",v) ((Dict.mem_entries_iff _ _ _).mpr hget)
    rw [hv] at halike
    have heq := Json.eq_str_of_alike halike
    unfold Payload.get at heq
    cases hres : result.get? "roundId" with
    | none => simp [hres] at heq
    | some w =>
      rw [hres] at heq
      simp only [Option.getD_some] at heq
      simp [Payload.str?,hres,heq,Json.asStr?]

theorem text_of_str? (hid : request.str? "roundId" = some roundId) : (request.get "roundId").text = roundId := by
  unfold Payload.str? at hid
  obtain ⟨v,hv,hstr⟩ := Option.bind_eq_some_iff.mp hid
  simp only [Payload.get,hv,Option.getD_some]
  exact Json.text_of_asStr? hstr

theorem safe_receiveRoundResult (b : Bridge) (capability : String) (result : Payload) {t : BridgeTrace} :
    resultProtocol.Safe i (fun _ _ => True) (fun _ _ => True) (b.receiveRoundResult capability result) t := by
  unfold Bridge.receiveRoundResult
  refine fun t₁ hl₁ _ => ?_
  have hidle := resultProtocol_bears.calm.idle i t₁ hl₁.1
  refine ⟨hidle.1,hidle.2,?_⟩
  change resultProtocol.Safe i _ _ (orRaise (roundForCapability b.host capability t₁.store) _ >>= _) (t₁.commit t₁.store)
  cases hrecord : roundForCapability b.host capability t₁.store with
  | none => exact fun _ _ => trivial
  | some record =>
    obtain ⟨roundId,hrow⟩ := (Dict.mem_values_iff _ _).mp (List.mem_of_find?_eq_some hrecord)
    have hid := hl₁.1.1 roundId record hrow
    have hseen : Seen roundId record.request record.result (t₁.commit t₁.store) := ⟨record,hrow,rfl,fun _ h => h⟩
    change resultProtocol.Safe i _ _ (liftProg (requireBoundResult record.request result) >>= _) (t₁.commit t₁.store)
    cases hbound : requireBoundResult record.request result with
    | error e => exact fun _ _ => trivial
    | ok u =>
      change resultProtocol.Safe i _ _ (require (record.result.all (·.alike result) = true) _ >>= _) (t₁.commit t₁.store)
      refine Protocol.safe_bind (Protocol.safe_require lasting_seen hseen fun _ _ _ => trivial) ?_
      rintro - t₂ - hinv₂ ⟨hseen₂,hsame⟩
      dsimp only
      rw [text_of_str? hid]
      refine Protocol.safe_bind (safe_storeResult hseen₂ hsame) ?_
      rintro - t₃ - hinv₃ hstored
      split
      · exact safe_forwardResult (roundId_of_bound hbound hid) hstored
      · exact fun _ _ => trivial

end Callback

/-! ### Whole runs -/

theorem safe_roundCall {p : BridgeProg Unit} (hp : roundCall p) {i : ℕ} {t : BridgeTrace} :
    resultProtocol.Safe i (fun _ _ => True) (fun _ _ => True) p t := by
  rcases hp with ⟨b,request,rfl⟩ | ⟨b,capability,result,rfl⟩ | helse
  · exact Protocol.safe_tame resultProtocol_bears _
  · exact safe_receiveRoundResult b capability result
  · have := Prog.Tame.mono helse fun s s' => RoundsKept.of_eq
    exact Protocol.safe_tame resultProtocol_bears p

/-- As long as no callback comes to store a result after a different one, whatever the
interleaving, the failures and the retries: what is sent is what is stored, and a round is
marked as forwarded only after the peer took the stored result. -/
theorem forwarded_equals_recorded {s₀ : BridgeStore} {w : BridgeWorld} (h₀ : RoundsOpen s₀)
    (h : World.Reachable firstResultSystem (World.init s₀) w) : SentStored w.trace ∧ ForwardedAccepted w.trace := by
  have hstart : resultProtocol.inv (Trace.start s₀) := by
    refine ⟨h₀.1,fun i messageId payload response hmem => ?_,fun k row hk hfwd => ?_⟩
    · simp [Trace.start] at hmem
    · have hfalse := h₀.2 k row hk
      rw [hfwd] at hfalse
      cases hfalse
  exact (World.Reachable.safe (P := resultProtocol) hstart (fun p hp i t _ _ => safe_roundCall hp) h).1.2

/-! ### Two callbacks of one round -/

def exampleHost : Host := { sha256 := fun text => text, fromisoformat := fun _ => none }
def exampleBridge : Bridge := { host := exampleHost, callbackOrigin := "http://127.0.0.1:8766" }

/-- A request for one bounded round of a project. -/
def roundRequest (roundId projectId : String) : Payload := .ofList [("roundId",.str roundId),("projectId",.str projectId),
  ("projectLeadId",.str ("lead." ++ projectId)),("planId",.str "plan"),("planVersion",.str "1"),
  ("correlationId",.str "correlation"),("idempotencyKey",.str roundId),("snapshotId",.str "snapshot"),
  ("policyVersion",.str "1"),("expectedUsageCost",.int 1),("scope",.str "one bounded round")]

def roundResult (actualUsageCost : ℤ) : Payload := (roundRequest "r1" "p1").merge [("sourceId",.str "lead.p1"),
  ("provenanceId",.str "result.r1"),("status",.str "completed"),("actualUsageCost",.int actualUsageCost)]

def reservedRound : RoundRow where
  request := roundRequest "r1" "p1"
  receipt := .empty
  capabilityHash := "token"
  capabilityToken := "token"
  dispatchState := .dispatched

def reservedStore : BridgeStore := { rounds := Dict.empty.set "r1" reservedRound }

theorem reservedStore_open : RoundsOpen reservedStore := by
  constructor
  · intro k row hk
    simp only [reservedStore,Dict.get?_set,Dict.get?_empty] at hk
    split at hk
    · next hkr =>
      cases hk
      rw [hkr]
      decide
    · cases hk
  · intro k row hk
    simp only [reservedStore,Dict.get?_set,Dict.get?_empty] at hk
    split at hk
    · cases hk
      rfl
    · cases hk

/-- Both callbacks read the round without a result; both store, the first one with effect;
then the second sends its own. -/
def lateResult : List (Move BridgeStore Held Answer AgentError Unit) :=
  [.start (exampleBridge.receiveRoundResult "token" (roundResult 1)),
   .start (exampleBridge.receiveRoundResult "token" (roundResult 2))] ++
  World.steps 0 1 plainAnswers ++ World.steps 1 1 plainAnswers ++ World.steps 0 2 plainAnswers ++ World.steps 1 3 plainAnswers

/-- A result was sent that is not the stored one. -/
def sentOther (w : BridgeWorld) : Bool := w.trace.log.any fun e => match e.2.1 with
  | .sender .roundResult _ payload => (payload.str? "roundId" = some "r1") &&
      ((w.trace.store.rounds.get? "r1").bind (·.result)).all fun stored => !stored.alike payload
  | _ => false

theorem sent_result_differs : ¬ ∀ (s₀ : BridgeStore) (w : BridgeWorld), RoundsOpen s₀ →
    World.Reachable roundSystem (World.init s₀) w → SentStored w.trace ∧ ForwardedAccepted w.trace := by
  have hcall : ∀ result, ∀ mv ∈ [Move.start (exampleBridge.receiveRoundResult "token" result)], mv.Allowed roundSystem :=
    fun result => World.allowed_start roundSystem (.inr (.inl ⟨exampleBridge,"token",result,rfl⟩))
  have hallowed : ∀ mv ∈ lateResult, mv.Allowed roundSystem := by
    simp only [lateResult,List.forall_mem_append]
    refine ⟨⟨⟨⟨?_,World.allowed_steps _ _ _⟩,World.allowed_steps _ _ _⟩,World.allowed_steps _ _ _⟩,World.allowed_steps _ _ _⟩
    intro mv hmv
    rcases List.mem_cons.mp hmv with rfl | hmv
    · exact hcall _ _ (List.mem_singleton.mpr rfl)
    · exact hcall _ mv hmv
  have hplay : ((World.init reservedStore).play (fun _ _ _ => true) (fun _ _ _ => true) lateResult).any sentOther = true := by
    decide +kernel
  obtain ⟨w,hw,hc⟩ := World.exists_reachable _ _ _ (fun _ _ _ _ => trivial) (fun _ _ _ _ => trivial) hallowed hplay
  intro hall
  obtain ⟨hsent,-⟩ := hall reservedStore w reservedStore_open hw
  obtain ⟨e,he,hother⟩ := List.any_eq_true.mp hc
  obtain ⟨i,q,a⟩ := e
  dsimp only at hother
  split at hother
  · next messageId payload =>
    obtain ⟨roundId,row,stored,hid,hrow,hres,halike⟩ := hsent i messageId payload a he
    rw [Bool.and_eq_true] at hother
    obtain rfl : roundId = "r1" := Option.some.inj (hid.symm.trans (of_decide_eq_true hother.1))
    have hnot := hother.2
    rw [hrow] at hnot
    simp [hres,halike] at hnot
  · cases hother

/-- Both callbacks read the round without a result; both store and send, with equal results. -/
def resultsInTurn : List (Move BridgeStore Held Answer AgentError Unit) :=
  [.start (exampleBridge.receiveRoundResult "token" (roundResult 1))] ++ [.start (exampleBridge.receiveRoundResult "token" (roundResult 1))] ++
  World.steps 0 1 plainAnswers ++ World.steps 1 1 plainAnswers ++ World.steps 0 4 plainAnswers ++ World.steps 1 4 plainAnswers

def storesFirst (s : BridgeStore) (held : Held) (_ : BridgeStore) : Bool := held.recording.all fun r =>
  (s.rounds.get? r.1).all fun row => row.result.all (·.alike r.2)

/-- How often a result was sent. -/
def resultsSent (w : BridgeWorld) : ℕ := w.trace.log.countP fun e => match e.2.1 with
  | .sender .roundResult _ _ => true
  | _ => false

theorem forwarded_equals_recorded_turn : ∃ w : BridgeWorld, resultsSent w = 2 ∧
    (w.trace.store.rounds.get? "r1").any (·.resultForwarded) = true ∧ SentStored w.trace ∧ ForwardedAccepted w.trace := by
  have hcall : ∀ mv ∈ [Move.start (exampleBridge.receiveRoundResult "token" (roundResult 1))], mv.Allowed firstResultSystem :=
    World.allowed_start firstResultSystem (.inr (.inl ⟨exampleBridge,"token",_,rfl⟩))
  have hallowed : ∀ mv ∈ resultsInTurn, mv.Allowed firstResultSystem := by
    simp only [resultsInTurn,List.forall_mem_append]
    exact ⟨⟨⟨⟨⟨hcall,hcall⟩,World.allowed_steps _ _ _⟩,World.allowed_steps _ _ _⟩,World.allowed_steps _ _ _⟩,World.allowed_steps _ _ _⟩
  have hplay : ((World.init reservedStore).play (fun _ _ _ => true) storesFirst resultsInTurn).any (fun w =>
      decide (resultsSent w = 2) && (w.trace.store.rounds.get? "r1").any (·.resultForwarded)) = true := by decide +kernel
  have hguard : ∀ s h s', storesFirst s h s' = true → firstResultSystem.guard s h s' := by
    intro s h s' hfirst roundId result hheld row stored hrow hres
    simpa [storesFirst,hheld,hrow,hres] using hfirst
  obtain ⟨w,hw,hc⟩ := World.exists_reachable _ _ _ (fun _ _ _ _ => trivial) hguard hallowed hplay
  rw [Bool.and_eq_true,decide_eq_true_eq] at hc
  exact ⟨w,hc.1,hc.2,forwarded_equals_recorded reservedStore_open hw⟩

end Overseer.Psychlo
