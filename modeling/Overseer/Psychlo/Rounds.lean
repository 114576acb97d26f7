import Overseer.Psychlo.Bridge
import Overseer.Library.Tame
import Overseer.Library.Owned

/-! # What the bridge does to the table of rounds

`request_round` adds a round without a result and marks its dispatch; nothing but
`receive_round_result` stores a result or marks it as forwarded.
-/
namespace Overseer.Psychlo
open Overseer.Library Overseer.Agent

section Checks
variable {α β : Type}

@[simp] theorem check_ok {c : Prop} [Decidable c] {e : AgentError} {u : Unit} : check c e = .ok u ↔ c := by
  unfold check
  split <;> simp_all

@[simp] theorem found_ok {o : Option α} {e : AgentError} {a : α} : found o e = .ok a ↔ o = some a := by
  cases o <;> simp [found]

@[simp] theorem told_ok {message : String} {c : Check α} {a : α} : told message c = .ok a ↔ c = .ok a := by
  cases c <;> simp [told]

theorem check_bind {x : Check α} {f : α → Check β} {b : β} (h : (x >>= f) = .ok b) : ∃ a, x = .ok a ∧ f a = .ok b := by
  cases x with
  | error e => cases h
  | ok a => exact ⟨a,rfl,h⟩

theorem bind_of_passed {x : Check α} {f : α → Check β} {a : α} (h : x = .ok a) : (x >>= f) = f a := by
  rw [h]
  rfl

@[simp] theorem post_liftCheck {c : Check α} {s : BridgeStore} {Q : α → BridgeStore → Prop} :
    Tx.Post (liftCheck c) s Q ↔ ∀ a, c = .ok a → Q a s := by
  cases c <;> simp [Tx.Post,liftCheck]

instance {R : BridgeStore → BridgeStore → Prop} [hR : IsPreorder BridgeStore R] (c : Check α) : Tx.Keeps R (liftCheck c) := by
  refine ⟨fun s => ?_⟩
  cases c with
  | error e => trivial
  | ok a => exact hR.refl s

instance {R : BridgeStore → BridgeStore → Prop} {isIt : BridgeQuery → Prop} (c : Check α) :
    Prog.Tame R isIt (liftProg c) := by
  cases c <;> exact ⟨trivial,trivial⟩

section Ask
variable {R : BridgeStore → BridgeStore → Prop} {isIt : BridgeQuery → Prop}

instance [Prog.Unmarked isIt .clock] : Prog.Tame R isIt (ask .clock : BridgeProg String) := Prog.tame_ask _
instance [Prog.Unmarked isIt .token] : Prog.Tame R isIt (ask .token : BridgeProg String) := Prog.tame_ask _
instance (lead prompt roundId : String) [Prog.Unmarked isIt (.dispatchRound lead prompt roundId)] :
    Prog.Tame R isIt (ask (.dispatchRound lead prompt roundId) : BridgeProg (Option Json)) := Prog.tame_ask _
instance [Prog.Unmarked isIt .storeClock] : Prog.Tame R isIt (ask .storeClock : BridgeProg String) := Prog.tame_ask _
instance [Prog.Unmarked isIt .tickLock] : Prog.Tame R isIt (ask .tickLock : BridgeProg Bool) := Prog.tame_ask _
instance (kind : PeerKind) (id : String) (payload : Payload) [Prog.Unmarked isIt (.sender kind id payload)] :
    Prog.Tame R isIt (ask (.sender kind id payload) : BridgeProg (Option Payload)) := Prog.tame_ask _
instance (lead scope id : String) [Prog.Unmarked isIt (.prepare lead scope id)] :
    Prog.Tame R isIt (ask (.prepare lead scope id) : BridgeProg (Option Json)) := Prog.tame_ask _
instance (lead key : String) (context : Payload) [Prog.Unmarked isIt (.prepareReview lead context key)] :
    Prog.Tame R isIt (ask (.prepareReview lead context key) : BridgeProg (Option Json)) := Prog.tame_ask _
instance (id : String) (request : Payload) [Prog.Unmarked isIt (.projectResult id request)] :
    Prog.Tame R isIt (ask (.projectResult id request) : BridgeProg (Option (Option Payload))) := Prog.tame_ask _
instance (id : String) (context : Payload) [Prog.Unmarked isIt (.supervisorResult id context)] :
    Prog.Tame R isIt (ask (.supervisorResult id context) : BridgeProg (Option (Option Payload))) := Prog.tame_ask _

end Ask

end Checks

/-! ### Rows -/

/-- The commit keeps request, result and forwarding of every round and adds only rounds
without a result, filed under their identifier. -/
structure RoundsKept (s s' : BridgeStore) : Prop where
  old : ∀ k row, s.rounds.get? k = some row → ∃ row', s'.rounds.get? k = some row' ∧ row'.request = row.request ∧
    row'.result = row.result ∧ row'.resultForwarded = row.resultForwarded
  fresh : ∀ k row, s'.rounds.get? k = some row → s.rounds.get? k = none →
    row.request.str? "roundId" = some k ∧ row.result = none ∧ row.resultForwarded = false

theorem RoundsKept.of_eq {s s' : BridgeStore} (h : s'.rounds = s.rounds) : RoundsKept s s' where
  old k row hk := ⟨row,by rw [h,hk],rfl,rfl,rfl⟩
  fresh k row hk hn := by
    rw [h,hn] at hk
    cases hk

theorem RoundsKept.trans {s s' s'' : BridgeStore} (h : RoundsKept s s') (h' : RoundsKept s' s'') : RoundsKept s s'' where
  old k row hk := by
    obtain ⟨row',hk',hreq,hres,hfwd⟩ := h.old k row hk
    obtain ⟨row'',hk'',hreq',hres',hfwd'⟩ := h'.old k row' hk'
    exact ⟨row'',hk'',hreq'.trans hreq,hres'.trans hres,hfwd'.trans hfwd⟩
  fresh k row hk hn := by
    cases hmid : s'.rounds.get? k with
    | none => exact h'.fresh k row hk hmid
    | some row' =>
      obtain ⟨row₂,hk₂,hreq,hres,hfwd⟩ := h'.old k row' hmid
      obtain rfl : row = row₂ := Option.some.inj (hk.symm.trans hk₂)
      obtain ⟨hid,hnone,hfalse⟩ := h.fresh k row' hmid hn
      exact ⟨hreq ▸ hid,hres.trans hnone,hfwd.trans hfalse⟩

instance : IsPreorder BridgeStore RoundsKept where
  refl _ := .of_eq rfl
  trans _ _ _ := .trans

theorem keeps_updateRound {roundId : String} {f : RoundRow → RoundRow} (h : ∀ row, (f row).request = row.request ∧
    (f row).result = row.result ∧ (f row).resultForwarded = row.resultForwarded) : Tx.Keeps RoundsKept (updateRound roundId f) := by
  refine ⟨fun s => ?_⟩
  rw [updateRound,Tx.post_write]
  cases hrow : s.rounds.get? roundId with
  | none => exact .of_eq rfl
  | some row =>
    constructor
    · intro k row' hk
      rw [Dict.get?_set]
      split
      · next hkr =>
        subst hkr
        obtain rfl : row = row' := Option.some.inj (hrow.symm.trans hk)
        exact ⟨_,rfl,h row⟩
      · exact ⟨row',hk,rfl,rfl,rfl⟩
    · intro k row' hk hn
      rw [Dict.get?_set] at hk
      split at hk
      · next hkr =>
        subst hkr
        rw [hrow] at hn
        cases hn
      · rw [hn] at hk
        cases hk

instance (roundId startedAt : String) : Tx.Keeps RoundsKept (markDispatchStarted roundId startedAt) :=
  keeps_updateRound fun row => by split <;> simp

instance (roundId : String) (receipt : Payload) : Tx.Keeps RoundsKept (markDispatched roundId receipt) :=
  keeps_updateRound fun row => by simp

/-- What an insertion did. -/
theorem insertRound_ok {host : Host} {request receipt : Payload} {capability : String} {canary : Option String}
    {s s' : BridgeStore} (h : insertRound host request receipt capability canary s = .ok ((),s')) :
    ∃ roundId row, request.str? "roundId" = some roundId ∧ s.rounds.get? roundId = none ∧ row.request = request ∧
      row.result = none ∧ row.resultForwarded = false ∧ s' = { s with rounds := s.rounds.set roundId row } := by
  have hpost : (insertRound host request receipt capability canary).Post s fun _ s' =>
      ∃ roundId row, request.str? "roundId" = some roundId ∧ s.rounds.get? roundId = none ∧ row.request = request ∧
        row.result = none ∧ row.resultForwarded = false ∧ s' = { s with rounds := s.rounds.set roundId row } := by
    unfold insertRound
    rw [Tx.post_bind]
    cases hid : request.str? "roundId" with
    | none => trivial
    | some roundId =>
      simp only [Tx.post_bind,Tx.post_read,Tx.post_require,Tx.post_write,found]
      exact fun hnone _ => ⟨roundId,_,rfl,hnone,rfl,rfl,rfl,rfl⟩
  exact hpost.of_ok h

instance (host : Host) (request receipt : Payload) (capability : String) (canary : Option String) :
    Tx.Keeps RoundsKept (insertRound host request receipt capability canary) := by
  refine ⟨fun s => ?_⟩
  unfold Tx.Post
  cases h : insertRound host request receipt capability canary s with
  | error e => trivial
  | ok r =>
    obtain ⟨roundId,row,hid,hnone,rfl,hres,hfwd,hs⟩ := insertRound_ok h
    change RoundsKept s r.2
    rw [hs]
    constructor
    · intro k row' hk
      rw [Dict.get?_set]
      split
      · next hkr =>
        subst hkr
        rw [hnone] at hk
        cases hk
      · exact ⟨row',hk,rfl,rfl,rfl⟩
    · intro k row' hk hn
      rw [Dict.get?_set] at hk
      split at hk
      · next hkr =>
        cases hk
        exact ⟨hkr ▸ hid,hres,hfwd⟩
      · rw [hn] at hk
        cases hk

instance (host : Host) (request receipt : Payload) (capability authorizationId : String) (revision : Json) (now : String) :
    Tx.Keeps RoundsKept (recordCanaryRound host request receipt capability authorizationId revision now) := by
  unfold recordCanaryRound
  infer_instance

instance (host : Host) (request receipt : Payload) (capability : String) :
    Tx.Keeps RoundsKept (recordDurableCeilingRound host request receipt capability) := by
  unfold recordDurableCeilingRound
  infer_instance

instance (host : Host) (request receipt : Payload) (capability : String) :
    Tx.Keeps RoundsKept (recordSingleStreamRound host request receipt capability) := by
  unfold recordSingleStreamRound
  infer_instance

/-! ### Programs -/

/-- The result of a round goes to the peer. -/
def isRoundResult : BridgeQuery → Prop
  | .sender .roundResult _ _ => True
  | _ => False

instance : Prog.Unmarked isRoundResult .clock := ⟨fun h => h⟩
instance : Prog.Unmarked isRoundResult .token := ⟨fun h => h⟩
instance (lead prompt roundId : String) : Prog.Unmarked isRoundResult (.dispatchRound lead prompt roundId) := ⟨fun h => h⟩

section Tame
variable {R : BridgeStore → BridgeStore → Prop} [IsPreorder BridgeStore R] {isIt : BridgeQuery → Prop} (b : Bridge)

theorem tame_ceilingOpened (changes : List (String × ProtocolRow)) : Prog.Tame R isIt (b.ceilingOpened changes) := by
  induction changes with
  | nil => exact ⟨trivial,trivial⟩
  | cons change rest ih =>
    obtain ⟨id,change⟩ := change
    unfold Bridge.ceilingOpened
    split
    · refine .bind inferInstance fun _ => ?_
      dsimp only
      split
      all_goals
        refine .bind inferInstance fun row => ?_
        cases row <;> dsimp only <;> infer_instance
    · infer_instance

instance : Prog.Tame R isIt b.durableCeilingAvailable := by
  unfold Bridge.durableCeilingAvailable
  have : ∀ changes, Prog.Tame R isIt (b.ceilingOpened changes) := tame_ceilingOpened b
  infer_instance

theorem tame_canaryCovering (request : Payload) (now : Moment) (records : List (String × ProtocolRow)) :
    Prog.Tame R isIt (b.canaryCovering request now records) := by
  induction records with
  | nil => exact ⟨trivial,trivial⟩
  | cons record rest ih =>
    obtain ⟨id,row⟩ := record
    unfold Bridge.canaryCovering
    split
    · refine .bind inferInstance fun value => ?_
      refine .bind inferInstance fun _ => ?_
      split <;> infer_instance
    · infer_instance

instance [Prog.Unmarked isIt .clock] (request : Payload) : Prog.Tame R isIt (b.canaryAuthorizationForRequest request) := by
  unfold Bridge.canaryAuthorizationForRequest
  have : ∀ now records, Prog.Tame R isIt (b.canaryCovering request now records) := tame_canaryCovering b request
  infer_instance

instance (projectId : String) : Prog.Tame R isIt (Bridge.decisionPending projectId) := by
  unfold Bridge.decisionPending
  infer_instance

end Tame

section Rounds
variable (b : Bridge)

instance (request : Payload) (capability : String) (receipt : Payload) :
    Prog.Tame RoundsKept isRoundResult (b.dispatchReserved request capability receipt) := by
  unfold Bridge.dispatchReserved
  dsimp only
  infer_instance

instance (request receipt : Payload) (capability : String) :
    Prog.Tame RoundsKept isRoundResult (b.reserveRound request receipt capability) := by
  unfold Bridge.reserveRound
  refine .bind inferInstance fun durable => ?_
  split
  · infer_instance
  · refine .bind inferInstance fun canary => ?_
    cases canary <;> dsimp only <;> infer_instance

instance (request : Payload) : Prog.Tame RoundsKept isRoundResult (b.requestRound request) := by
  unfold Bridge.requestRound
  refine .bind inferInstance fun _ => ?_
  refine .bind inferInstance fun _ => ?_
  refine .bind inferInstance fun _ => ?_
  refine .bind inferInstance fun existing => ?_
  cases existing <;> dsimp only <;> infer_instance

end Rounds

/-! ### The system -/

/-- A program that leaves the rounds alone and sends no result of one. -/
def Elsewhere (p : BridgeProg Unit) : Prop := Prog.Tame (fun s s' => s'.rounds = s.rounds) isRoundResult p

/-- Any bridge's round calls, and whatever else runs over the same store. -/
def roundCall (p : BridgeProg Unit) : Prop :=
  (∃ (b : Bridge) (request : Payload), p = (b.requestRound request >>= fun _ => pure ())) ∨
  (∃ (b : Bridge) (capability : String) (result : Payload), p = b.receiveRoundResult capability result) ∨ Elsewhere p

/-- Every question gets an accepting or a plain answer. -/
def plainAnswers : (q : BridgeQuery) → Answer q
  | .clock | .storeClock | .token => "t"
  | .tickLock | .adapter _ _ => true
  | .sender _ _ _ => some (.ofList [("accepted",.bool true)])
  | .dispatchRound _ _ _ | .prepare _ _ _ | .dispatch _ _ _ | .prepareReview _ _ _ | .dispatchReview _ _ _ => some (.str "d")
  | .projectResult _ _ | .supervisorResult _ _ => some none
  | .loadApproval _ => none

end Overseer.Psychlo
