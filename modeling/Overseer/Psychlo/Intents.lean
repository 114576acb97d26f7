import Overseer.Psychlo.Passes
import Overseer.Psychlo.Rounds
import Overseer.Library.Vouched

/-! # Intents and the calls they allow

An intent stays once it is stored. Apart from the two places that dispatch, nothing in a pass
over the work requests puts a question to a dispatcher.
-/
namespace Overseer.Psychlo
open Overseer.Library Overseer.Agent

/-- Every intent stays, under the identity it was stored with. -/
def IntentsKept (s s' : BridgeStore) : Prop := ∀ kind id row, (s.intents kind).get? id = some row →
  ∃ row', (s'.intents kind).get? id = some row' ∧ row'.externalId = row.externalId

theorem IntentsKept.of_eq {s s' : BridgeStore} (h : ∀ kind, s'.intents kind = s.intents kind) : IntentsKept s s' := by
  intro kind id row hrow
  exact ⟨row,by rw [h,hrow],rfl⟩

instance : IsPreorder BridgeStore IntentsKept where
  refl _ := .of_eq fun _ => rfl
  trans _ _ _ h h' := by
    intro kind id row hrow
    obtain ⟨row',hrow',hid⟩ := h kind id row hrow
    obtain ⟨row'',hrow'',hid'⟩ := h' kind id row' hrow'
    exact ⟨row'',hrow'',hid'.trans hid⟩

/-- The table a dispatch needs its intent in, and the request. -/
def coordinationTickets : Tickets BridgeStore BridgeQuery (IntentKind × String) where
  needs
    | .dispatch _ _ requestId => some (.dispatch,requestId)
    | .dispatchReview _ context _ => some (.review,(context.get "requestId").text)
    | _ => none
  gone c s := (s.intents c.1).get? c.2 ≠ none

/-- A call to a dispatcher has its intent stored, under the identity it was told. -/
def Intended (own : List (Σ q, Answer q)) (s : BridgeStore) : BridgeQuery → Prop
  | .dispatch leadId scope requestId => ∃ row v, s.dispatches.get? requestId = some row ∧
      ⟨.prepare leadId scope requestId,some v⟩ ∈ own ∧ row.externalId = v.text
  | .dispatchReview leadId context key => ∃ row v, s.reviews.get? (context.get "requestId").text = some row ∧
      ⟨.prepareReview leadId context key,some v⟩ ∈ own ∧ row.externalId = v.text
  | _ => True

theorem intended_of_unmarked (own : List (Σ q, Answer q)) (s : BridgeStore) (q : BridgeQuery)
    (h : ¬ coordinationTickets.marked q) : Intended own s q := by
  cases q <;> first
    | trivial
    | exact absurd (by simp [Tickets.marked,coordinationTickets]) h

section Unmarked

instance : Prog.Unmarked coordinationTickets.marked .clock := ⟨fun h => h rfl⟩
instance : Prog.Unmarked coordinationTickets.marked .storeClock := ⟨fun h => h rfl⟩
instance : Prog.Unmarked coordinationTickets.marked .tickLock := ⟨fun h => h rfl⟩
instance (kind : PeerKind) (id : String) (payload : Payload) :
    Prog.Unmarked coordinationTickets.marked (.sender kind id payload) := ⟨fun h => h rfl⟩
instance (lead scope id : String) : Prog.Unmarked coordinationTickets.marked (.prepare lead scope id) := ⟨fun h => h rfl⟩
instance (id : String) (request : Payload) : Prog.Unmarked coordinationTickets.marked (.projectResult id request) :=
  ⟨fun h => h rfl⟩
instance (id : String) (context : Payload) : Prog.Unmarked coordinationTickets.marked (.supervisorResult id context) :=
  ⟨fun h => h rfl⟩

end Unmarked

/-- A program that keeps the intents and calls no dispatcher. -/
abbrev Bystander {α : Type} (p : BridgeProg α) : Prop := Prog.Tame IntentsKept coordinationTickets.marked p

/-! ### Commits -/

theorem keeps_write {f : BridgeStore → BridgeStore} (h : ∀ s, (f s).dispatches = s.dispatches ∧ (f s).reviews = s.reviews) :
    Tx.Keeps IntentsKept (Tx.write f : BridgeTx Unit) := by
  refine ⟨fun s => IntentsKept.of_eq fun kind => ?_⟩
  obtain ⟨hd,hr⟩ := h s
  cases kind <;> assumption

instance (kind : ProtocolKind) (id : String) (f : ProtocolRow → ProtocolRow) : Tx.Keeps IntentsKept (updateProtocol kind id f) :=
  keeps_write fun s => by split <;> exact ⟨rfl,rfl⟩

instance (kind : ProtocolKind) (id : String) : Tx.Keeps IntentsKept (protocolRecord kind id) := by
  unfold protocolRecord
  infer_instance

instance (kind : IntentKind) (id : String) : Tx.Keeps IntentsKept (coordinationIntent kind id) := by
  unfold coordinationIntent
  infer_instance

instance (kind : ProtocolKind) (ids : List String) : Tx.Keeps IntentsKept (protocolRecordsForIds kind ids) := by
  unfold protocolRecordsForIds
  infer_instance

instance (kind : ProtocolKind) (id : String) (row : ProtocolRow) : Tx.Keeps IntentsKept (insertProtocol kind id row) := by
  have hwrite : Tx.Keeps IntentsKept (Tx.write fun s : BridgeStore =>
      { s with protocol := fun k => if k = kind then (s.protocol kind).set id row else s.protocol k } : BridgeTx Unit) :=
    keeps_write fun s => ⟨rfl,rfl⟩
  unfold insertProtocol
  infer_instance

instance (requestId resultId key digest : String) (payload : Payload) (now : String) :
    Tx.Keeps IntentsKept (admitTerminal requestId resultId key digest payload now) := by
  have hwrite : Tx.Keeps IntentsKept (Tx.write fun s : BridgeStore =>
      { s with terminals := s.terminals.set requestId ⟨resultId,digest,payload⟩ } : BridgeTx Unit) :=
    keeps_write fun s => ⟨rfl,rfl⟩
  unfold admitTerminal
  refine .bind inferInstance fun terminal => ?_
  cases terminal <;> dsimp only <;> infer_instance

theorem intentsKept_set {s : BridgeStore} {kind : IntentKind} {id : String} {row row' : CoordinationIntent}
    (hrow : (s.intents kind).get? id = some row) (hid : row'.externalId = row.externalId) :
    IntentsKept s (s.setIntents kind ((s.intents kind).set id row')) := by
  intro kind' id' r hr
  by_cases hk : kind' = kind
  · subst hk
    have hset : (s.setIntents kind' ((s.intents kind').set id row')).intents kind' = (s.intents kind').set id row' := by
      cases kind' <;> rfl
    rw [hset,Dict.get?_set]
    split
    · next hi =>
      subst hi
      obtain rfl : r = row := Option.some.inj (hr.symm.trans hrow)
      exact ⟨row',rfl,hid⟩
    · exact ⟨r,hr,rfl⟩
  · have hother : (s.setIntents kind ((s.intents kind).set id row')).intents kind' = s.intents kind' := by
      cases kind <;> cases kind' <;> first | rfl | exact absurd rfl hk
    exact ⟨r,by rw [hother,hr],rfl⟩

instance (kind : IntentKind) (id : String) (state : IntentState) : Bystander (transitionIntent kind id state) := by
  have hwrite : Tx.Keeps IntentsKept (Tx.write fun s : BridgeStore => match (s.intents kind).get? id with
      | some row => s.setIntents kind ((s.intents kind).set id { row with state })
      | none => s : BridgeTx Unit) := by
    refine ⟨fun s => ?_⟩
    rw [Tx.post_write]
    cases hrow : (s.intents kind).get? id with
    | none => exact .of_eq fun _ => rfl
    | some row => exact intentsKept_set hrow rfl
  unfold transitionIntent
  infer_instance

/-! ### Programs -/

instance (kind : ProtocolKind) (id : String) (state : ProtocolState) (error : Option String) :
    Bystander (transitionProtocol kind id state error) := by
  unfold transitionProtocol
  infer_instance

instance (kind : ProtocolKind) (id key digest : String) (payload : Payload) :
    Bystander (recordProtocol kind id key digest payload) := by
  unfold recordProtocol
  refine .bind inferInstance fun row => ?_
  cases row with
  | some row => infer_instance
  | none =>
    refine .bind inferInstance fun taken => .bind inferInstance fun _ => .bind inferInstance fun now => ?_
    infer_instance

instance (kind : ProtocolKind) (id : String) (payload : Payload) : Bystander (sendAccepted kind id payload) := by
  unfold sendAccepted
  infer_instance

instance (kind : ProtocolKind) (id : String) (payload : Payload) : Bystander (forwardProtocolRecord kind id payload) := by
  unfold forwardProtocolRecord
  infer_instance

instance (host : Host) (kind : ProtocolKind) (id : String) (payload : Payload) (forward : Bool) :
    Bystander (persistProtocol host kind id payload forward) := by
  unfold persistProtocol
  infer_instance

instance (requestId resultId key digest : String) (payload : Payload) :
    Bystander (recordCoordinationParticipantTerminal requestId resultId key digest payload) := by
  unfold recordCoordinationParticipantTerminal
  infer_instance

instance (requestId : String) : Bystander (coordinationParticipantTerminal requestId) := by
  unfold coordinationParticipantTerminal
  refine .bind inferInstance fun terminal => ?_
  cases terminal <;> dsimp only <;> infer_instance

instance (request binding : Payload) (requestId : String) (review : CoordinationIntent) :
    Bystander (checkReview request binding requestId review) := by
  unfold checkReview
  infer_instance

theorem bystander_deliveredResults (requests : List (String × ProtocolRow)) (ids : List String) :
    Bystander (deliveredResults requests ids) := by
  induction ids with
  | nil => exact ⟨trivial,trivial⟩
  | cons id rest ih =>
    unfold deliveredResults
    split
    · exact ih
    · refine .bind inferInstance fun result => ?_
      cases result <;> dsimp only <;> infer_instance

instance (request : Payload) : Bystander (bindingForRequest request) := by
  unfold bindingForRequest
  infer_instance

section Bridge
variable (b : Bridge)

instance (requestId : String) (accepted : Bool) : Bystander (Bridge.reviewDelivered requestId accepted) := by
  unfold Bridge.reviewDelivered
  infer_instance

instance (requestId : String) (review : CoordinationIntent) (value : Payload) :
    Bystander (b.settleReview requestId review value) := by
  unfold Bridge.settleReview
  refine .bind inferInstance fun _ => .bind inferInstance fun _ => .bind inferInstance fun persisted => ?_
  dsimp only
  infer_instance

instance (request : Payload) : Bystander (b.collectProjectResult request) := by
  unfold Bridge.collectProjectResult
  refine .bind inferInstance fun dispatch => ?_
  cases dispatch with
  | none => infer_instance
  | some dispatch =>
    dsimp only
    split
    · infer_instance
    · refine .bind inferInstance fun answer => ?_
      refine .bind inferInstance fun result => ?_
      cases result <;> dsimp only <;> infer_instance

instance (resultId : String) (row : ProtocolRow) (inserted : Bool) :
    Bystander (Bridge.forwardedResult resultId row inserted) := by
  unfold Bridge.forwardedResult
  infer_instance

instance {α : Type} (requestId error : String) : Bystander (Bridge.dispatchPending requestId error : BridgeProg α) := by
  unfold Bridge.dispatchPending
  infer_instance

instance (value : Payload) : Bystander (b.prepareLead value) := by
  unfold Bridge.prepareLead
  infer_instance

instance (value : Payload) : Bystander (b.admitWorkRequest value) := by
  unfold Bridge.admitWorkRequest
  refine .bind inferInstance fun project => .bind inferInstance fun row => .bind inferInstance fun identity => ?_
  infer_instance

instance (row : ProtocolRow) : Bystander (b.retryDue row) := by
  unfold Bridge.retryDue
  split
  · infer_instance
  · split <;> infer_instance

instance (row : ProtocolRow) : Bystander (b.revalidateCanaryResult row) := by
  unfold Bridge.revalidateCanaryResult
  refine .bind inferInstance fun _ => .bind inferInstance fun value => .bind inferInstance fun _ => ?_
  refine .bind inferInstance fun authorization => ?_
  infer_instance

instance (row : ProtocolRow) : Bystander (b.revalidateCeilingAuthorization row) := by
  unfold Bridge.revalidateCeilingAuthorization
  infer_instance

instance (kind : ProtocolKind) (row : ProtocolRow) : Bystander (b.revalidateConcurrencyProtocolRecord kind row) := by
  unfold Bridge.revalidateConcurrencyProtocolRecord
  split
  · infer_instance
  · infer_instance
  · refine .bind inferInstance fun _ => .bind inferInstance fun _ => .bind inferInstance fun record => ?_
    infer_instance
  · infer_instance

instance (kind : ProtocolKind) (id : String) (row : ProtocolRow) : Bystander (b.forwardAdoptionRecord kind id row) := by
  unfold Bridge.forwardAdoptionRecord
  refine .bind inferInstance fun wire => .bind inferInstance fun _ => .bind inferInstance fun answer => ?_
  infer_instance

instance (reviewId : String) (row : ProtocolRow) : Bystander (Bridge.recoverReview reviewId row) := by
  unfold Bridge.recoverReview
  infer_instance

end Bridge
end Overseer.Psychlo
