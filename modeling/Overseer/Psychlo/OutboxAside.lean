import Overseer.Psychlo.Outbox
import Overseer.Psychlo.Intents

/-! # Who lets the outbox alone

Coordination and the forwarding of the other peer records neither change the records of
adoptions nor send their messages.
-/
namespace Overseer.Psychlo
open Overseer.Library Overseer.Agent

/-- The kinds of record that `_forward_adoption_record` forwards. -/
def adoptionKinds : List ProtocolKind := [.registryCandidate,.adoptionEvidence]

/-- Nothing changes in the outbox. -/
def OutboxSame (s s' : BridgeStore) : Prop := (∀ kind ∈ adoptionKinds, s'.protocol kind = s.protocol kind) ∧
  s'.filed .candidate = s.filed .candidate

/-- The messages that need a row. -/
def isAdoptionMessage : BridgeQuery → Prop
  | .sender (.protocol kind) _ _ => kind ∈ adoptionKinds
  | _ => False

/-- A program that lets the outbox alone. -/
abbrev Aside {α : Type} (p : BridgeProg α) : Prop := Prog.Tame OutboxSame isAdoptionMessage p

instance : IsPreorder BridgeStore OutboxSame where
  refl _ := ⟨fun _ _ => rfl,rfl⟩
  trans _ _ _ h h' := ⟨fun kind hkind => (h'.1 kind hkind).trans (h.1 kind hkind),h'.2.trans h.2⟩

section Unmarked

instance : Prog.Unmarked isAdoptionMessage .storeClock := ⟨fun h => h⟩
instance (lead scope id : String) : Prog.Unmarked isAdoptionMessage (.prepare lead scope id) := ⟨fun h => h⟩
instance (lead key : String) (context : Payload) : Prog.Unmarked isAdoptionMessage (.prepareReview lead context key) := ⟨fun h => h⟩
instance (id : String) (request : Payload) : Prog.Unmarked isAdoptionMessage (.projectResult id request) := ⟨fun h => h⟩
instance (id : String) (context : Payload) : Prog.Unmarked isAdoptionMessage (.supervisorResult id context) := ⟨fun h => h⟩

instance (lead scope id : String) : Aside (ask (.dispatch lead scope id) : BridgeProg (Option Json)) :=
  have : Prog.Unmarked isAdoptionMessage (.dispatch lead scope id) := ⟨fun h => h⟩
  Prog.tame_ask _

instance (lead key : String) (context : Payload) : Aside (ask (.dispatchReview lead context key) : BridgeProg (Option Json)) :=
  have : Prog.Unmarked isAdoptionMessage (.dispatchReview lead context key) := ⟨fun h => h⟩
  Prog.tame_ask _

/-- A kind of record that is not about adoptions. -/
class OtherKind (kind : ProtocolKind) : Prop where
  other : kind ∉ adoptionKinds

theorem OtherKind.ne {kind kind' : ProtocolKind} [h : OtherKind kind] (hkind : kind' ∈ adoptionKinds) : kind' ≠ kind :=
  fun heq => h.other (heq ▸ hkind)

instance : OtherKind .coordinationWorkRequest := ⟨by decide⟩
instance : OtherKind .crossProjectParticipantResult := ⟨by decide⟩
instance : OtherKind .crossProjectSupervisorReview := ⟨by decide⟩

instance (kind : ProtocolKind) [h : OtherKind kind] (id : String) (message : Payload) :
    Prog.Unmarked isAdoptionMessage (.sender (.protocol kind) id message) := ⟨h.other⟩

end Unmarked

/-! ### Commits -/

theorem aside_write {f : BridgeStore → BridgeStore} (h : ∀ s, OutboxSame s (f s)) : Tx.Keeps OutboxSame (Tx.write f : BridgeTx Unit) :=
  ⟨h⟩

instance (kind : ProtocolKind) (id : String) : Tx.Keeps OutboxSame (protocolRecord kind id) := by
  unfold protocolRecord
  infer_instance

instance (kind : ProtocolKind) [OtherKind kind] (id : String) (f : ProtocolRow → ProtocolRow) :
    Tx.Keeps OutboxSame (updateProtocol kind id f) := by
  refine aside_write fun s => ?_
  split
  · exact ⟨fun kind' hkind => if_neg (OtherKind.ne hkind),rfl⟩
  · exact ⟨fun _ _ => rfl,rfl⟩

instance (kind : IntentKind) (id : String) : Tx.Keeps OutboxSame (coordinationIntent kind id) := by
  unfold coordinationIntent
  infer_instance

instance (kind : ProtocolKind) [OtherKind kind] (ids : List String) : Tx.Keeps OutboxSame (protocolRecordsForIds kind ids) := by
  unfold protocolRecordsForIds
  infer_instance

instance (kind : ProtocolKind) [OtherKind kind] (id : String) (row : ProtocolRow) : Tx.Keeps OutboxSame (insertProtocol kind id row) := by
  have hwrite : Tx.Keeps OutboxSame (Tx.write fun s : BridgeStore =>
      { s with protocol := fun k => if k = kind then (s.protocol kind).set id row else s.protocol k } : BridgeTx Unit) :=
    aside_write fun s => ⟨fun kind' hkind => if_neg (OtherKind.ne hkind),rfl⟩
  unfold insertProtocol
  infer_instance

instance (requestId resultId key digest : String) (payload : Payload) (now : String) :
    Tx.Keeps OutboxSame (admitTerminal requestId resultId key digest payload now) := by
  have hwrite : Tx.Keeps OutboxSame (Tx.write fun s : BridgeStore =>
      { s with terminals := s.terminals.set requestId ⟨resultId,digest,payload⟩ } : BridgeTx Unit) :=
    aside_write fun s => ⟨fun _ _ => rfl,rfl⟩
  unfold admitTerminal
  refine .bind inferInstance fun terminal => ?_
  cases terminal with
  | none => infer_instance
  | some terminal => infer_instance

instance (kind : IntentKind) (id : String) (state : IntentState) : Aside (transitionIntent kind id state) := by
  have hwrite : Tx.Keeps OutboxSame (Tx.write fun s : BridgeStore => match (s.intents kind).get? id with
      | some row => s.setIntents kind ((s.intents kind).set id { row with state })
      | none => s : BridgeTx Unit) := by
    refine aside_write fun s => ?_
    split
    · cases kind <;> exact ⟨fun _ _ => rfl,rfl⟩
    · exact ⟨fun _ _ => rfl,rfl⟩
  unfold transitionIntent
  infer_instance

instance (kind : IntentKind) (i : IntentSpec) : Tx.Keeps OutboxSame (insertIntent kind i) := by
  have hwrite : Tx.Keeps OutboxSame (Tx.write fun s : BridgeStore =>
      s.setIntents kind ((s.intents kind).set i.requestId i.row) : BridgeTx Unit) :=
    aside_write fun s => by cases kind <;> exact ⟨fun _ _ => rfl,rfl⟩
  unfold insertIntent
  refine .bind inferInstance fun rows => ?_
  split <;> infer_instance

/-! ### Programs -/

instance (kind : ProtocolKind) [OtherKind kind] (id : String) (state : ProtocolState) (error : Option String) :
    Aside (transitionProtocol kind id state error) := by
  unfold transitionProtocol
  infer_instance

instance (kind : ProtocolKind) [OtherKind kind] (id key digest : String) (payload : Payload) :
    Aside (recordProtocol kind id key digest payload) := by
  unfold recordProtocol
  refine .bind inferInstance fun row => ?_
  cases row with
  | some row => infer_instance
  | none =>
    refine .bind inferInstance fun taken => .bind inferInstance fun _ => .bind inferInstance fun now => ?_
    infer_instance

instance (kind : ProtocolKind) [OtherKind kind] (id : String) (payload : Payload) : Aside (sendAccepted kind id payload) := by
  unfold sendAccepted
  infer_instance

instance (kind : ProtocolKind) [OtherKind kind] (id : String) (payload : Payload) : Aside (forwardProtocolRecord kind id payload) := by
  unfold forwardProtocolRecord
  infer_instance

instance (host : Host) (kind : ProtocolKind) [OtherKind kind] (id : String) (payload : Payload) (forward : Bool) :
    Aside (persistProtocol host kind id payload forward) := by
  unfold persistProtocol
  infer_instance

instance (requestId resultId key digest : String) (payload : Payload) :
    Aside (recordCoordinationParticipantTerminal requestId resultId key digest payload) := by
  unfold recordCoordinationParticipantTerminal
  infer_instance

instance (requestId : String) : Aside (coordinationParticipantTerminal requestId) := by
  unfold coordinationParticipantTerminal
  refine .bind inferInstance fun terminal => ?_
  cases terminal with
  | none => infer_instance
  | some terminal => infer_instance

instance (request binding : Payload) (requestId : String) (review : CoordinationIntent) :
    Aside (checkReview request binding requestId review) := by
  unfold checkReview
  infer_instance

theorem aside_deliveredResults (requests : List (String × ProtocolRow)) (ids : List String) :
    Aside (deliveredResults requests ids) := by
  induction ids with
  | nil => exact ⟨trivial,trivial⟩
  | cons id rest ih =>
    unfold deliveredResults
    split
    · exact ih
    · refine .bind inferInstance fun result => ?_
      cases result with
      | none => infer_instance
      | some result => infer_instance

instance (request : Payload) : Aside (bindingForRequest request) := by
  unfold bindingForRequest
  infer_instance

section Bridge
variable (b : Bridge)

instance (requestId : String) (accepted : Bool) : Aside (Bridge.reviewDelivered requestId accepted) := by
  unfold Bridge.reviewDelivered
  infer_instance

instance (requestId : String) (review : CoordinationIntent) (value : Payload) :
    Aside (b.settleReview requestId review value) := by
  unfold Bridge.settleReview
  refine .bind inferInstance fun _ => .bind inferInstance fun _ => .bind inferInstance fun persisted => ?_
  dsimp only
  infer_instance

instance (request : Payload) : Aside (b.collectProjectResult request) := by
  unfold Bridge.collectProjectResult
  refine .bind inferInstance fun dispatch => ?_
  cases dispatch with
  | none => infer_instance
  | some dispatch =>
    dsimp only
    split
    · infer_instance
    · refine .bind inferInstance fun answer => ?_
      refine .bind inferInstance fun result => ?_
      cases result with
      | none => infer_instance
      | some result => infer_instance

instance (resultId : String) (row : ProtocolRow) (inserted : Bool) :
    Aside (Bridge.forwardedResult resultId row inserted) := by
  unfold Bridge.forwardedResult
  infer_instance

instance {α : Type} (requestId error : String) : Aside (Bridge.dispatchPending requestId error : BridgeProg α) := by
  unfold Bridge.dispatchPending
  infer_instance

instance (value : Payload) : Aside (b.prepareLead value) := by
  unfold Bridge.prepareLead
  infer_instance

instance (row : ProtocolRow) : Aside (b.revalidateCanaryResult row) := by
  unfold Bridge.revalidateCanaryResult
  refine .bind inferInstance fun _ => .bind inferInstance fun value => .bind inferInstance fun _ => ?_
  refine .bind inferInstance fun authorization => ?_
  infer_instance

instance (row : ProtocolRow) : Aside (b.revalidateCeilingAuthorization row) := by
  unfold Bridge.revalidateCeilingAuthorization
  infer_instance

instance (kind : ProtocolKind) (row : ProtocolRow) : Aside (b.revalidateConcurrencyProtocolRecord kind row) := by
  unfold Bridge.revalidateConcurrencyProtocolRecord
  split
  · infer_instance
  · infer_instance
  · refine .bind inferInstance fun _ => .bind inferInstance fun _ => .bind inferInstance fun record => ?_
    infer_instance
  · infer_instance

instance (reviewId : String) (row : ProtocolRow) : Aside (Bridge.recoverReview reviewId row) := by
  unfold Bridge.recoverReview
  infer_instance

instance (kind : IntentKind) (i : IntentSpec) : Aside (createCoordinationIntent kind i) := by
  unfold createCoordinationIntent
  infer_instance

instance (requestId leadId key : String) (context : Payload) : Aside (b.dispatchReview requestId leadId context key) := by
  unfold Bridge.dispatchReview
  refine .bind inferInstance fun _ => .bind inferInstance fun answer => .bind inferInstance fun prepared => ?_
  refine .bind inferInstance fun _ => .bind inferInstance fun created => ?_
  dsimp only
  infer_instance

instance (value : Payload) : Aside (b.dispatchLead value) := by
  unfold Bridge.dispatchLead
  refine .bind inferInstance fun dispatchId => .bind inferInstance fun created => ?_
  dsimp only
  infer_instance

instance (requestId : String) : Aside (b.maybeDispatchSupervisor requestId) := by
  unfold Bridge.maybeDispatchSupervisor
  refine .bind inferInstance fun record => ?_
  cases record with
  | none => infer_instance
  | some record =>
    have : ∀ requests ids, Aside (deliveredResults requests ids) := aside_deliveredResults
    refine .bind inferInstance fun binding => .bind inferInstance fun requests => .bind inferInstance fun _ => ?_
    refine .bind inferInstance fun review => ?_
    cases review with
    | some review => infer_instance
    | none =>
      refine .bind inferInstance fun results => ?_
      split
      · infer_instance
      · split <;> infer_instance

instance (requestId : String) : Aside (b.collectSupervisorReview requestId) := by
  unfold Bridge.collectSupervisorReview
  refine .bind inferInstance fun _ => .bind inferInstance fun _ => .bind inferInstance fun review => ?_
  cases review with
  | none => infer_instance
  | some review =>
    refine .bind inferInstance fun review => ?_
    cases review with
    | none => infer_instance
    | some review =>
      dsimp only
      split
      · infer_instance
      · split
        · infer_instance
        · refine .bind inferInstance fun answer => .bind inferInstance fun value => ?_
          cases value with
          | none => infer_instance
          | some value => infer_instance

instance (request value : Payload) : Aside (b.persistParticipantResult request value) := by
  unfold Bridge.persistParticipantResult
  refine .bind inferInstance fun recorded => .bind inferInstance fun row => ?_
  infer_instance

instance (value : Payload) : Aside (b.ensureDispatch value) := by
  unfold Bridge.ensureDispatch
  refine .bind inferInstance fun dispatch => ?_
  cases dispatch with
  | none => infer_instance
  | some dispatch => infer_instance

instance (requestId : String) (value result : Payload) (dispatchId : BridgeProg String) [Aside dispatchId] :
    Aside (b.reportResult requestId value result dispatchId) := by
  unfold Bridge.reportResult
  infer_instance

instance (requestId : String) : Aside (b.driveCoordinationRequest requestId) := by
  unfold Bridge.driveCoordinationRequest
  refine .bind inferInstance fun found => .bind inferInstance fun record => .bind inferInstance fun review => ?_
  cases review with
  | some review => infer_instance
  | none =>
    refine .bind inferInstance fun result => ?_
    cases result with
    | some result => infer_instance
    | none =>
      refine .bind inferInstance fun dispatch => ?_
      dsimp only
      split
      · refine .bind inferInstance fun result => ?_
        cases result with
        | none => infer_instance
        | some result => infer_instance
      · infer_instance

theorem aside_recoverRecord (kind : ProtocolKind) [OtherKind kind] (id : String) (row : ProtocolRow) :
    Aside (b.recoverRecord kind id row) := by
  unfold Bridge.recoverRecord
  split
  · infer_instance
  · infer_instance
  · exact absurd (by decide : ProtocolKind.registryCandidate ∈ adoptionKinds) OtherKind.other
  · exact absurd (by decide : ProtocolKind.adoptionEvidence ∈ adoptionKinds) OtherKind.other
  · infer_instance

end Bridge
end Overseer.Psychlo
