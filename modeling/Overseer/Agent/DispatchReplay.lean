import Overseer.Agent.DispatchGuarantees
import Overseer.Library.Sequential

/-! # The same key twice

A dispatch under a key that was used before answers from the stored request. The answer is
the one given the first time unless the evidence of a provider's reply speaks in the place
of a field that the reply left out, or the reply was about something else.
-/
namespace Overseer.Agent
open Overseer.Library

/-! ### The evidence of a recorded result -/

section Evidence
variable (request : AgentDispatchRequest) (result : AgentDispatchResult)

theorem setText_get? (e : Evidence) (key key' : String) (value : Option String) :
    (setText e key value).get? key' = if key' = key then (value.map Json.str).or (e.get? key') else e.get? key' := by
  cases value with
  | none => simp [setText]
  | some text => simp [setText]

/-- The fields of a result as evidence. -/
def namedEvidence : Evidence :=
  let base := ((Dict.empty.set "result_id" (.str result.id)).set "provider_id" (.str result.providerId)).set
    "status" (.str result.state.value)
  let bound := match request.generation with
    | some g => if g.asInt?.isSome then base.set "operation_generation" g else base
    | none => base
  setText (setText (setText (setText (setText bound "provider_ref" result.providerReference)
    "external_session_id" result.externalSessionId) "reason" (result.errorCategory.map (·.value)))
    "acknowledged_at" result.acknowledgedAt) "completed_at" result.completedAt

theorem recordedEvidence_find (key : String) : (recordedEvidence request result).get? key =
    if ((namedEvidence request result).get? key).isNone ∧ key ≠ "status" ∧ key ≠ "reason" ∧ referenceKey key = true ∧
      (result.evidence.get? key).isSome then result.evidence.get? key else (namedEvidence request result).get? key := by
  have hmerge := Dict.get?_merge_filter (namedEvidence request result) result.evidence
    (fun key => ((namedEvidence request result).get? key).isNone && key ≠ "status" && key ≠ "reason" && referenceKey key) key
  simp only [Bool.and_eq_true,decide_eq_true_eq,and_assoc] at hmerge
  exact hmerge

theorem recordedEvidence_field {key : String} {value : Option String} (href : referenceKey key = true)
    (hkey : key ≠ "status" ∧ key ≠ "reason") (hvalue : (namedEvidence request result).get? key = value.map Json.str) :
    (recordedEvidence request result).get? key = (value.map Json.str).or (result.evidence.get? key) := by
  rw [recordedEvidence_find,hvalue]
  cases value with
  | some text => simp
  | none => cases result.evidence.get? key <;> simp [href,hkey]

theorem namedEvidence_get? : (namedEvidence request result).get? "provider_ref" = result.providerReference.map Json.str ∧
    (namedEvidence request result).get? "external_session_id" = result.externalSessionId.map Json.str ∧
    (namedEvidence request result).get? "acknowledged_at" = result.acknowledgedAt.map Json.str ∧
    (namedEvidence request result).get? "completed_at" = result.completedAt.map Json.str ∧
    (namedEvidence request result).get? "reason" = (result.errorCategory.map (·.value)).map Json.str := by
  unfold namedEvidence
  cases request.generation with
  | none => simp [setText_get?]
  | some g => by_cases hg : g.asInt?.isSome = true <;> simp [setText_get?,hg]

end Evidence

/-! ### What the reads find -/

section Reading
variable {s : AgentStore} {α : Type}

theorem settle_load {row : Option α} {e : AgentError} {find : AgentStore → Option α} (h : find s = row) :
    (do orRaise (← atomically (Tx.read find)) e : AgentProg α).settle s = some (row.elim (.error e) .ok,s) := by
  subst h
  rw [Prog.settle_read_bind]
  cases find s <;> rfl

theorem settle_unlessMissing {load : AgentProg α} {row : Option α} {text : String}
    (h : load.settle s = some (row.elim (.error (keyError text)) .ok,s)) : (unlessMissing load).settle s = some (.ok row,s) := by
  cases row with
  | none => exact (Prog.settle_rescue_error (Prog.settle_bind_error h)).trans rfl
  | some a => exact Prog.settle_rescue ((Prog.settle_bind h).trans rfl)

theorem settle_loadAgentRecord (T : Table α) (id : String) :
    (loadAgentRecord T id : AgentProg α).settle s = some (((T.rows s).get? id).elim (.error (keyError id)) .ok,s) := settle_load rfl

/-- The dispatch of the instance under the key. -/
def AgentStore.keyedDispatch (s : AgentStore) (instanceId idempotencyKey : String) : Option AgentDispatchRequest :=
  s.dispatches.values.find? fun d => d.instanceId = instanceId ∧ d.idempotencyKey = idempotencyKey

theorem settle_dispatchForIdempotencyKey (x key : String) :
    (dispatchForIdempotencyKey x key : AgentProg _).settle s = some (.ok (s.keyedDispatch x key),s) :=
  settle_unlessMissing (settle_load rfl)

theorem settle_blockingTransition (x : String) : (blockingTransition x : AgentProg _).settle s =
    some (.ok ((s.transitions.get? x).filter (·.state ∈ blockingTransitionStates)),s) :=
  (Prog.settle_bind (settle_unlessMissing (settle_load rfl))).trans rfl

theorem settle_loadAgentOperation (x : String) : (loadAgentOperation x : AgentProg _).settle s =
    some (((s.operations.get? x).map (·.payload)).elim (.error (keyError x)) .ok,s) := by
  have hrow : (do orRaise (← atomically (Tx.read fun s => s.operations.get? x)) (keyError x) : AgentProg OperationRow).settle s =
      some ((s.operations.get? x).elim (.error (keyError x)) .ok,s) := settle_load rfl
  unfold loadAgentOperation
  rw [Prog.settle_read_bind] at hrow ⊢
  cases h : s.operations.get? x <;> rw [h] at hrow
  · exact Prog.settle_bind_error hrow
  · exact Prog.settle_bind hrow

/-- No transition and no fence blocks the instance. -/
structure AgentStore.Clear (s : AgentStore) (x : String) : Prop where
  transition : (s.transitions.get? x).filter (·.state ∈ blockingTransitionStates) = none
  operation : ∀ row, s.operations.get? x = some row → row.payload.state ≠ .fenced

theorem settle_raiseTransitionRequired (x : String) (kind : ErrorKind) : ∃ o : Except AgentError Unit,
    (raiseTransitionRequired x (some kind) : AgentProg Unit).settle s = some (o,s) ∧ (o = .ok () ↔ s.Clear x) := by
  unfold raiseTransitionRequired
  rw [Prog.settle_bind (settle_blockingTransition x)]
  cases htransition : (s.transitions.get? x).filter (·.state ∈ blockingTransitionStates) with
  | some t =>
    refine ⟨_,Prog.settle_raise,nofun,fun h => ?_⟩
    rw [h.transition] at htransition
    cases htransition
  | none =>
    dsimp only
    rw [Prog.settle_bind (settle_unlessMissing (settle_loadAgentOperation x))]
    cases hrow : s.operations.get? x with
    | none => exact ⟨_,Prog.settle_pure,fun _ => ⟨htransition,fun row h => (by rw [hrow] at h; cases h)⟩,fun _ => rfl⟩
    | some row =>
      by_cases hstate : row.payload.state = .fenced
      · refine ⟨.error _,by simp only [Option.map_some,require,hstate]; rfl,nofun,fun h => absurd hstate (h.operation row hrow)⟩
      · refine ⟨.ok (),by simp only [Option.map_some,require]; rw [if_pos hstate]; rfl,fun _ => ⟨htransition,fun row' h => ?_⟩,fun _ => rfl⟩
        rw [hrow] at h
        cases h
        exact hstate

/-- The open epochs of the instance that no handoff has yet to promote. -/
def AgentStore.authoritative (s : AgentStore) (x : String) : List DriverEpoch :=
  ((epochTable.sorted s).filter fun e => e.instanceId = x ∧ e.closedAt = none).filter
    fun e => !unpromoted (transitionEpochIds (handoffTable.sorted s) x) e

theorem authoritative_congr {s s' : AgentStore} (hepochs : s'.epochs = s.epochs) (hhandoffs : s'.handoffs = s.handoffs) (x : String) :
    s'.authoritative x = s.authoritative x := by
  simp only [AgentStore.authoritative,Table.sorted,epochTable,handoffTable,hepochs,hhandoffs]

theorem settle_activeEpoch (x : String) : ∃ o : Except AgentError DriverEpoch, (activeEpoch x : AgentProg DriverEpoch).settle s = some (o,s) ∧
    ∀ epoch, o = .ok epoch ↔ s.authoritative x = [epoch] := by
  have hlist : (authoritativeEpochs x : AgentProg _).settle s = some (.ok (s.authoritative x),s) := rfl
  unfold activeEpoch
  rw [Prog.settle_bind hlist]
  match s.authoritative x with
  | [] => exact ⟨_,Prog.settle_raise,fun _ => ⟨nofun,nofun⟩⟩
  | [epoch] => exact ⟨_,Prog.settle_pure,fun e => by simp⟩
  | _ :: _ :: _ => exact ⟨_,Prog.settle_raise,fun _ => ⟨nofun,by simp⟩⟩

/-- What the manager makes of a stored dispatch. -/
def replayedResult (dispatch : AgentDispatchRequest) (epoch : DriverEpoch) (state : AgentOperationState) : AgentDispatchResult where
  id := ((dispatch.evidence.get? "result_id").map Json.text).getD s!"{dispatch.id}.queued"
  requestId := dispatch.id
  instanceId := dispatch.instanceId
  sessionId := dispatch.sessionId
  driverEpochId := dispatch.driverEpochId
  providerId := ((dispatch.evidence.get? "provider_id").map Json.text).getD epoch.providerId
  state
  errorCategory := ((dispatch.evidence.get? "reason").bind Json.asStr?).bind AgentErrorCategory.ofValue?
  providerReference := (dispatch.evidence.get? "provider_ref").map Json.text
  externalSessionId := (dispatch.evidence.get? "external_session_id").map Json.text
  acknowledgedAt := (dispatch.evidence.get? "acknowledged_at").map Json.text
  completedAt := (dispatch.evidence.get? "completed_at").map Json.text
  evidence := dispatch.evidence

theorem settle_loadDriverEpoch (id : String) :
    (loadDriverEpoch id : AgentProg _).settle s = some ((s.epochs.get? id).elim (.error (keyError id)) .ok,s) :=
  settle_loadAgentRecord epochTable id

/-- The state that a stored dispatch tells. -/
def AgentDispatchRequest.toldState (d : AgentDispatchRequest) : Option AgentOperationState :=
  let status := ((d.evidence.get? "status").map Json.text).getD AgentOperationState.queued.value
  if status ∈ ["accepted","executing"] then some .queued else AgentOperationState.ofValue? status

theorem settle_resultFromDispatch_of {dispatch : AgentDispatchRequest} {epoch : DriverEpoch}
    (hepoch : s.epochs.get? dispatch.driverEpochId = some epoch) {o : Option AgentOperationState} (ho : dispatch.toldState = o) :
    ∃ e, (resultFromDispatch dispatch : AgentProg _).settle s =
      some (o.elim (.error e) fun state => .ok (replayedResult dispatch epoch state),s) := by
  have hload := settle_loadDriverEpoch (s := s) dispatch.driverEpochId
  rw [hepoch] at hload
  unfold resultFromDispatch
  rw [Prog.settle_bind hload]
  unfold AgentDispatchRequest.toldState at ho
  dsimp only at ho ⊢
  rw [ho]
  cases o with
  | none => exact ⟨_,rfl⟩
  | some state => exact ⟨keyError "",rfl⟩

theorem settle_resultFromDispatch (dispatch : AgentDispatchRequest) : ∃ o : Except AgentError AgentDispatchResult,
    (resultFromDispatch dispatch : AgentProg _).settle s = some (o,s) ∧ ∀ r, o = .ok r → r.requestId = dispatch.id := by
  have hload := settle_loadDriverEpoch (s := s) dispatch.driverEpochId
  cases hepoch : s.epochs.get? dispatch.driverEpochId with
  | none =>
    rw [hepoch] at hload
    refine ⟨.error (keyError dispatch.driverEpochId),Prog.settle_bind_error hload,fun r hr => ?_⟩
    cases hr
  | some epoch =>
    obtain ⟨e,hsettled⟩ := settle_resultFromDispatch_of hepoch (o := dispatch.toldState) rfl
    refine ⟨_,hsettled,fun r hr => ?_⟩
    cases hstate : dispatch.toldState with
    | none =>
      rw [hstate] at hr
      cases hr
    | some state =>
      rw [hstate] at hr
      cases hr
      rfl

theorem settle_resultFromDispatch_state {dispatch : AgentDispatchRequest} {epoch : DriverEpoch} {state : AgentOperationState}
    (hepoch : s.epochs.get? dispatch.driverEpochId = some epoch) (hstatus : dispatch.status = some (.str state.value)) :
    (resultFromDispatch dispatch : AgentProg _).settle s = some (.ok (replayedResult dispatch epoch state),s) := by
  have htold : dispatch.toldState = some state := by
    unfold AgentDispatchRequest.toldState
    rw [show dispatch.evidence.get? "status" = some (.str state.value) from hstatus]
    cases state <;> decide
  obtain ⟨e,hsettled⟩ := settle_resultFromDispatch_of hepoch htold
  exact hsettled

end Reading

/-! ### The two answers -/

/-- The answers agree in what identifies them and in what they say. -/
structure SameAnswer (r again : AgentDispatchResult) : Prop where
  id : again.id = r.id
  requestId : again.requestId = r.requestId
  driverEpochId : again.driverEpochId = r.driverEpochId
  providerId : again.providerId = r.providerId
  state : again.state = r.state
  errorCategory : again.errorCategory = r.errorCategory
  providerReference : again.providerReference = r.providerReference
  externalSessionId : again.externalSessionId = r.externalSessionId
  acknowledgedAt : again.acknowledgedAt = r.acknowledgedAt
  completedAt : again.completedAt = r.completedAt

theorem SameAnswer.refl (r : AgentDispatchResult) : SameAnswer r r := ⟨rfl,rfl,rfl,rfl,rfl,rfl,rfl,rfl,rfl,rfl⟩

/-- The evidence of a reply has nothing under the key of a field that the reply left out. -/
def Undisturbed (reply : AgentDispatchResult) : Prop :=
  (reply.providerReference = none → reply.evidence.get? "provider_ref" = none) ∧
  (reply.externalSessionId = none → reply.evidence.get? "external_session_id" = none) ∧
  (reply.acknowledgedAt = none → reply.evidence.get? "acknowledged_at" = none) ∧
  (reply.completedAt = none → reply.evidence.get? "completed_at" = none)

/-- The reply leaves out the fields that a refused reply is not stored with. -/
def Unreferenced (reply : AgentDispatchResult) : Prop :=
  reply.providerReference = none ∧ reply.externalSessionId = none ∧ reply.acknowledgedAt = none ∧ reply.completedAt = none

/-- The reply is about the request it was given for: bound to its epoch it is recorded, and else
it is refused. -/
def Faithful (request : AgentDispatchRequest) (epoch : DriverEpoch) (reply : AgentDispatchResult) : Prop :=
  reply.requestId = request.id ∧
  if requestBindingValid request reply epoch = true then Undisturbed reply
  else reply.driverEpochId = request.driverEpochId ∧ Unreferenced reply

section Answers
variable {current d : AgentDispatchRequest} {epoch : DriverEpoch} {r : AgentDispatchResult}

theorem ofValue_value (c : AgentErrorCategory) : AgentErrorCategory.ofValue? c.value = some c := by
  cases c <;> decide

theorem completedEvidence_result : (completedEvidence current r).get? "result_id" = some (.str r.id) ∧
    (completedEvidence current r).get? "provider_id" = some (.str r.providerId) := by
  unfold completedEvidence
  cases r.errorCategory <;> simp

theorem completedEvidence_reason : (completedEvidence current r).get? "reason" =
    ((r.errorCategory.map (·.value)).map Json.str).or (current.evidence.get? "reason") := by
  unfold completedEvidence
  cases r.errorCategory <;> simp

theorem completedEvidence_field {key : String} (hkey : key ∉ ["result_id","provider_id","status","reason"]) :
    (completedEvidence current r).get? key = current.evidence.get? key := by
  simp only [List.mem_cons,List.not_mem_nil,or_false,not_or] at hkey
  unfold completedEvidence
  cases r.errorCategory <;> simp [hkey]

/-- The answer read back from a completed request, field by field. -/
theorem sameAnswer_completed (hd : d.evidence = completedEvidence current r)
    (hreason : r.errorCategory = none → current.evidence.get? "reason" = none) :
    SameAnswer r (replayedResult d epoch r.state) ↔ r.requestId = d.id ∧ r.driverEpochId = d.driverEpochId ∧
      (current.evidence.get? "provider_ref").map Json.text = r.providerReference ∧
      (current.evidence.get? "external_session_id").map Json.text = r.externalSessionId ∧
      (current.evidence.get? "acknowledged_at").map Json.text = r.acknowledgedAt ∧
      (current.evidence.get? "completed_at").map Json.text = r.completedAt := by
  have hfield : ∀ key ∉ ["result_id","provider_id","status","reason"], d.evidence.get? key = current.evidence.get? key := by
    intro key hkey
    rw [hd,completedEvidence_field hkey]
  have hcategory : (replayedResult d epoch r.state).errorCategory = r.errorCategory := by
    change ((d.evidence.get? "reason").bind Json.asStr?).bind AgentErrorCategory.ofValue? = _
    rw [hd,completedEvidence_reason]
    cases hc : r.errorCategory with
    | none =>
      rw [hreason hc]
      rfl
    | some c => exact ofValue_value c
  have hid : (replayedResult d epoch r.state).id = r.id := by
    change ((d.evidence.get? "result_id").map Json.text).getD _ = _
    rw [hd,completedEvidence_result.1]
    rfl
  have hprovider : (replayedResult d epoch r.state).providerId = r.providerId := by
    change ((d.evidence.get? "provider_id").map Json.text).getD _ = _
    rw [hd,completedEvidence_result.2]
    rfl
  have href : (replayedResult d epoch r.state).providerReference = (current.evidence.get? "provider_ref").map Json.text := by
    rw [← hfield _ (by decide)]
    rfl
  have hsession : (replayedResult d epoch r.state).externalSessionId = (current.evidence.get? "external_session_id").map Json.text := by
    rw [← hfield _ (by decide)]
    rfl
  have hacknowledged : (replayedResult d epoch r.state).acknowledgedAt = (current.evidence.get? "acknowledged_at").map Json.text := by
    rw [← hfield _ (by decide)]
    rfl
  have hcompleted : (replayedResult d epoch r.state).completedAt = (current.evidence.get? "completed_at").map Json.text := by
    rw [← hfield _ (by decide)]
    rfl
  rw [← href,← hsession,← hacknowledged,← hcompleted]
  exact ⟨fun h => ⟨h.requestId.symm,h.driverEpochId.symm,h.providerReference,h.externalSessionId,h.acknowledgedAt,h.completedAt⟩,
    fun ⟨h₁,h₂,h₃,h₄,h₅,h₆⟩ => ⟨hid,h₁.symm,h₂.symm,hprovider,rfl,hcategory,h₃,h₄,h₅,h₆⟩⟩

theorem text_field {value : Option String} {o : Option Json} :
    ((value.map Json.str).or o).map Json.text = value ↔ (value = none → o = none) := by
  cases value with
  | none => simp
  | some text => simp [Json.text]

theorem sameAnswer_recorded {request : AgentDispatchRequest} {reply : AgentDispatchResult}
    (hcurrent : current.evidence = recordedEvidence request reply)
    (hr : r = { reply with errorMessage := none, evidence := recordedEvidence request reply })
    (hd : d.evidence = completedEvidence current r) :
    SameAnswer r (replayedResult d epoch r.state) ↔ reply.requestId = d.id ∧ reply.driverEpochId = d.driverEpochId ∧ Undisturbed reply := by
  obtain ⟨href,hsession,hacknowledged,hcompleted,hreason⟩ := namedEvidence_get? request reply
  subst hr
  rw [sameAnswer_completed hd]
  · rw [hcurrent,recordedEvidence_field request reply (by decide) (by decide) href,
      recordedEvidence_field request reply (by decide) (by decide) hsession,
      recordedEvidence_field request reply (by decide) (by decide) hacknowledged,
      recordedEvidence_field request reply (by decide) (by decide) hcompleted]
    simp only [text_field]
    rfl
  · intro hnone
    have hcategory : reply.errorCategory = none := hnone
    rw [hcurrent,recordedEvidence_find,hreason,hcategory]
    simp

end Answers

/-! ### The row of a key -/

/-- The dispatch `d` is filed under its id, and no other one is of the instance and the key. -/
structure SoleRow (s : AgentStore) (id x key : String) (d : AgentDispatchRequest) : Prop where
  row : s.dispatches.get? id = some d
  filed : d.id = id
  instanceId : d.instanceId = x
  idempotencyKey : d.idempotencyKey = key
  sole : ∀ k e, s.dispatches.get? k = some e → e.instanceId = x → e.idempotencyKey = key → k = id

section Rows
variable {s s' : AgentStore} {id x key : String} {d r : AgentDispatchRequest} {log : List (Σ q, Answer q)}

theorem SoleRow.keyedDispatch (h : SoleRow s id x key d) : s.keyedDispatch x key = some d := by
  have hmem : d ∈ s.dispatches.values := Dict.mem_values_of_get? h.row
  have hfound : (s.keyedDispatch x key).isSome := by
    rw [AgentStore.keyedDispatch,List.find?_isSome]
    exact ⟨d,hmem,by simp [h.instanceId,h.idempotencyKey]⟩
  obtain ⟨e,he⟩ := Option.isSome_iff_exists.mp hfound
  obtain ⟨hx,hkey⟩ : e.instanceId = x ∧ e.idempotencyKey = key := by simpa using List.find?_some he
  obtain ⟨k,hk⟩ := (Dict.mem_values_iff _ _).mp (List.mem_of_find?_eq_some he)
  have hkid : k = id := h.sole k e hk hx hkey
  rw [he,← h.row,← hkid,hk]

theorem SoleRow.of_none (h : s.keyedDispatch x key = none) (hx : r.instanceId = x) (hkey : r.idempotencyKey = key) :
    SoleRow (dispatchTable.put s r) r.id x key (dispatchTable.stored r) where
  row := by simp [dispatchTable,Table.put]
  filed := rfl
  instanceId := hx
  idempotencyKey := hkey
  sole k e hk hex hekey := by
    by_contra hne
    have hold : s.dispatches.get? k = some e := by simpa [dispatchTable,Table.put,hne] using hk
    have hnone := List.find?_eq_none.mp h e (Dict.mem_values_of_get? hold)
    simp [hex,hekey] at hnone

theorem SoleRow.put (h : SoleRow s id x key d) (hid : r.id = id) (hx : r.instanceId = x) (hkey : r.idempotencyKey = key) :
    SoleRow (dispatchTable.put s r) id x key (dispatchTable.stored r) where
  row := by simp [dispatchTable,Table.put,hid]
  filed := hid
  instanceId := hx
  idempotencyKey := hkey
  sole k e hk hex hekey := by
    by_contra hne
    have hne' : k ≠ r.id := fun h => hne (h.trans hid)
    have hold : s.dispatches.get? k = some e := by simpa [dispatchTable,Table.put,hne'] using hk
    exact hne (h.sole k e hold hex hekey)

theorem SoleRow.results (h : SoleRow s id x key d) (r : AgentDispatchResult) : SoleRow (resultTable.put s r) id x key d :=
  ⟨h.row,h.filed,h.instanceId,h.idempotencyKey,h.sole⟩

theorem SoleRow.save (h : SoleRow s id x key d) (hsaves : dispatchTable.Saves s r) : ∃ d', SoleRow (dispatchTable.put s r) id x key d' := by
  by_cases hid : r.id = id
  · have hidentity := hsaves.identity d (by rw [← h.row,← hid]; rfl)
    simp only [dispatchTable,decide_eq_true_eq] at hidentity
    exact ⟨_,h.put hid (hidentity.2.1.symm.trans h.instanceId) (hidentity.2.2.2.2.1.symm.trans h.idempotencyKey)⟩
  · refine ⟨d,⟨?_,h.filed,h.instanceId,h.idempotencyKey,fun k e hk hex hekey => ?_⟩⟩
    · have hne : id ≠ r.id := fun h => hid h.symm
      simpa [dispatchTable,Table.put,hne] using h.row
    · by_cases hk' : k = r.id
      · have he : e = dispatchTable.stored r := by
          subst hk'
          simpa [dispatchTable,Table.put] using hk.symm
        have hfree := hsaves.free
        rw [Table.taken,List.any_eq_false] at hfree
        have hclash := hfree d (Dict.mem_values_of_get? h.row)
        have hrx : r.instanceId = x := by rw [← hex,he]; rfl
        have hrkey : r.idempotencyKey = key := by rw [← hekey,he]; rfl
        have hne : d.id ≠ r.id := fun heq => hid (heq.symm.trans h.filed)
        simp [dispatchTable,h.instanceId,h.idempotencyKey,hrx,hrkey,hne] at hclash
      · exact h.sole k e (by simpa [dispatchTable,Table.put,hk'] using hk) hex hekey

/-! ### Saves -/

theorem saveAgentRecord_solo {α : Type} {T : Table α} {record : α} {a : Unit}
    (h : (saveAgentRecord T record : AgentProg Unit).Solo s log (.ok a) s') : s' = T.put s record ∧ T.Saves s record := by
  obtain ⟨row,s₁,l₁,l₂,hread,hrest,-⟩ := h.bind_ok
  obtain ⟨hrow,rfl,-⟩ := hread.read_ok
  cases row with
  | some existing =>
    obtain ⟨_,s₂,l₃,l₄,hcheck,hwrite,-⟩ := hrest.bind_ok
    obtain ⟨hidentity,rfl,-⟩ := hcheck.require_ok
    rcases update_cases T hwrite.transaction_ok.1 with ⟨hnone,-⟩ | ⟨-,hfree,hput⟩
    · rw [hrow] at hnone
      cases hnone
    · refine ⟨hput,hfree,fun e he => ?_,fun hnone => ?_⟩
      · rw [hrow] at he
        cases he
        exact hidentity
      · rw [hrow] at hnone
        cases hnone
  | none =>
    obtain ⟨-,hfree,hfenced,hput⟩ := insert_cases T hrest.transaction_ok.1
    refine ⟨hput,hfree,fun e he => ?_,fun _ => hfenced⟩
    rw [hrow] at he
    cases he

theorem saveAgentDispatch_solo {a : Unit} (h : (saveAgentDispatch r : AgentProg Unit).Solo s log (.ok a) s') :
    s' = dispatchTable.put s r ∧ dispatchTable.Saves s r := by
  obtain ⟨_,s₁,l₁,l₂,hcheck,hsave,-⟩ := h.bind_ok
  have hsame : s₁ = s := by
    obtain ⟨row,s₂,l₃,l₄,hread,hrest,-⟩ := hcheck.bind_ok
    obtain ⟨-,rfl,-⟩ := hread.read_ok
    cases row with
    | some row => exact hrest.require_ok.2.1
    | none => exact hrest.pure_ok.2.1
  rw [hsame] at hsave
  exact saveAgentRecord_solo hsave

/-! ### Acceptance and the execution claim -/

theorem AgentStore.Clear.of_same (h : s.Clear x) (ht : s'.transitions = s.transitions) (ho : s'.operations = s.operations) : s'.Clear x where
  transition := by rw [ht]; exact h.transition
  operation := by rw [ho]; exact h.operation

theorem AgentStore.Clear.ensure (h : s.Clear x) (y : String) (at_ : Timestamp) : (s.ensureOperation y at_).Clear x := by
  unfold AgentStore.ensureOperation
  cases hrow : s.operations.get? y with
  | some row => exact h
  | none =>
    refine ⟨h.transition,fun row hfound => ?_⟩
    simp only [AgentStore.putOperation,Dict.get?_set] at hfound
    split at hfound
    · cases hfound
      exact fun hclosed => by cases hclosed
    · exact h.operation row hfound

theorem ensureOperation_same (s : AgentStore) (y : String) (at_ : Timestamp) : (s.ensureOperation y at_).epochs = s.epochs ∧
    (s.ensureOperation y at_).handoffs = s.handoffs ∧ (s.ensureOperation y at_).dispatches = s.dispatches := by
  unfold AgentStore.ensureOperation
  cases s.operations.get? y <;> exact ⟨rfl,rfl,rfl⟩

/-- The instance stays clear. -/
def ClearKept (x : String) (s s' : AgentStore) : Prop := s.Clear x → s'.Clear x

instance : IsPreorder AgentStore (ClearKept x) where
  refl _ h := h
  trans _ _ _ h h' := h' ∘ h

instance : Prog.Idle fun (s : AgentStore) (_ : Held) (s' : AgentStore) => ClearKept x s s' := ⟨fun _ _ h => h⟩

theorem steps_saveAgentDispatch_clear (d : AgentDispatchRequest) :
    (saveAgentDispatch d : AgentProg Unit).Steps fun s _ s' => ClearKept x s s' := by
  have hput : ∀ t : AgentTx Unit, (∀ s, t s = .ok ((),s) ∨ t s = .ok ((),dispatchTable.put s d) ∨ ∃ e, t s = .error e) →
      (atomically t : AgentProg Unit).Steps fun s _ s' => ClearKept x s s' := by
    refine fun t ht => Prog.steps_atomically fun s => ?_
    rcases ht s with h | h | ⟨e,h⟩ <;> simp only [Tx.next,h]
    · exact fun h => h
    · exact fun h => h.of_same rfl rfl
    · exact fun h => h
  refine Prog.steps_bind (Prog.steps_bind (Prog.steps_read _) fun row => ?_) fun _ => Prog.steps_bind (Prog.steps_read _) fun row => ?_
  · cases row <;> simp
  · cases row with
    | none =>
      refine hput _ fun s => ?_
      unfold Table.insert
      split
      · exact .inr (.inr ⟨_,rfl⟩)
      · exact .inr (.inl rfl)
    | some row =>
      refine Prog.steps_bind (Prog.steps_require _ _) fun _ => hput _ fun s => ?_
      unfold Table.update
      split
      · exact .inl rfl
      split
      · exact .inr (.inr ⟨_,rfl⟩)
      · exact .inr (.inl rfl)

theorem steps_acceptDispatch_clear (request : AgentDispatchRequest) (at_ : Timestamp) :
    (acceptDispatch request at_ : AgentProg _).Steps fun s _ s' => ClearKept x s s' := by
  refine Prog.steps_bind (Prog.steps_bind (Prog.steps_atomically fun s h => h.ensure _ _) fun _ => ?_) fun operation => ?_
  · exact Prog.steps_bind (Prog.steps_read _) fun _ => Prog.steps_bind (Prog.steps_orRaise _ _) fun _ => trivial
  · exact Prog.steps_bind (Prog.steps_require _ _) fun _ => Prog.steps_bind (steps_saveAgentDispatch_clear _) fun _ => trivial

/-- An accepted request is stored with the generation of an open fence. -/
theorem acceptDispatch_solo {request accepted : AgentDispatchRequest} {at_ : Timestamp}
    (h : (acceptDispatch request at_ : AgentProg _).Solo s log (.ok accepted) s') :
    ∃ row, (s.ensureOperation request.instanceId at_).operations.get? request.instanceId = some row ∧ row.payload.state = .opened ∧
      accepted = { request with evidence :=
        (request.evidence.set "operation_generation" (.int row.payload.generation)).set "status" (.str "accepted") } ∧
      s' = dispatchTable.put (s.ensureOperation request.instanceId at_) accepted := by
  obtain ⟨operation,s₁,l₁,l₂,hensure,h,-⟩ := h.bind_ok
  obtain ⟨_,s₂,l₃,l₄,hwrite,hread,-⟩ := hensure.bind_ok
  obtain ⟨hwritten,-⟩ := hwrite.transaction_ok
  cases hwritten
  obtain ⟨row?,s₃,l₅,l₆,hget,hread,-⟩ := hread.bind_ok
  obtain ⟨hrow,rfl,-⟩ := hget.read_ok
  obtain ⟨row,s₄,l₇,l₈,hfound,hpayload,-⟩ := hread.bind_ok
  obtain ⟨hsome,rfl,-⟩ := hfound.orRaise_ok
  obtain ⟨rfl,rfl,-⟩ := hpayload.pure_ok
  obtain ⟨_,s₅,l₉,l₁₀,hopen,h,-⟩ := h.bind_ok
  obtain ⟨hopened,rfl,-⟩ := hopen.require_ok
  obtain ⟨_,s₆,l₁₁,l₁₂,hsave,h,-⟩ := h.bind_ok
  obtain ⟨rfl,rfl,-⟩ := h.pure_ok
  exact ⟨row,hrow.trans hsome,hopened,rfl,(saveAgentDispatch_solo hsave).1⟩

/-- The claim of a request that was just accepted. -/
theorem claim_opened {request d : AgentDispatchRequest} {row : OperationRow} (hd : s.dispatches.get? request.id = some d)
    (hstatus : d.status = some (.str "accepted")) (hrow : s.operations.get? request.instanceId = some row)
    (hopened : row.payload.state = .opened) (hgeneration : d.boundGeneration = some (row.payload.generation : Int)) :
    Tx.Post (claimDispatchExecution request : AgentTx Bool) s fun claimed s' =>
      claimed = true ∧ s' = dispatchTable.put s (d.withStatus "executing") := by
  simp only [claimDispatchExecution,Tx.post_atomically,Tx.post_bind,loadAgentDispatch,post_loadAgentRecord,
    post_loadAgentOperation,Tx.post_ite,Tx.post_pure]
  intro current hcurrent row' hrow'
  rw [show dispatchTable.rows s = s.dispatches from rfl,hd] at hcurrent
  cases hcurrent
  rw [hrow] at hrow'
  cases hrow'
  refine ⟨fun hne => absurd hstatus hne,fun _ => ?_⟩
  have hmay : (row.payload.state = .opened ∧ d.generation.bind Json.asInt? = some (row.payload.generation : Int)) := ⟨hopened,hgeneration⟩
  refine (post_saveAgentDispatch _ s).mono fun _ s' hs' => ⟨decide_eq_true hmay,?_⟩
  rw [hs'.1,decide_eq_true hmay]
  rfl

/-! ### Recording and completion -/

theorem Reads.same {α : Type} {p : AgentProg α} [hp : Reads p] {o : Except AgentError α} (h : p.Solo s log o s') : s' = s :=
  hp.idles.solo h

theorem quarantineResult_solo {result recorded : AgentDispatchResult} {reason : String}
    (h : (quarantineResult result reason).Solo s log (.ok recorded) s') : ∃ id evidence,
      recorded = { result with id, state := .quarantined, errorCategory := some .quarantined, errorMessage := none, evidence } ∧
      s' = resultTable.put s recorded := by
  obtain ⟨id,s₁,l₁,l₂,hid,h₁,-⟩ := h.bind_ok
  obtain ⟨rfl,-⟩ := Prog.Solo.ask_ok hid
  obtain ⟨_,s₂,l₃,l₄,hsave,h₂,-⟩ := h₁.bind_ok
  obtain ⟨rfl,rfl,-⟩ := h₂.pure_ok
  exact ⟨_,_,rfl,(saveAgentRecord_solo hsave).1⟩

theorem recordDispatchResult_solo {result recorded : AgentDispatchResult}
    (h : (recordDispatchResult result).Solo s log (.ok recorded) s') : ∃ request,
      s.dispatches.get? result.requestId = some request ∧
      recorded = { result with errorMessage := none, evidence := recordedEvidence request result } ∧
      if statusIn request.status (terminalResultStates.map (·.value)) = true then s' = resultTable.put s recorded
      else s' = dispatchTable.put (resultTable.put s recorded) { request with evidence := recordedEvidence request result } ∧
        dispatchTable.Saves (resultTable.put s recorded) { request with evidence := recordedEvidence request result } := by
  obtain ⟨request,s₁,l₁,l₂,hload,h₁,-⟩ := h.bind_ok
  obtain ⟨hloaded,-⟩ := hload.settled (settle_loadAgentRecord dispatchTable result.requestId)
  cases hrow : s.dispatches.get? result.requestId with
  | none =>
    rw [show dispatchTable.rows s = s.dispatches from rfl,hrow] at hloaded
    cases hloaded
  | some stored =>
    rw [show dispatchTable.rows s = s.dispatches from rfl,hrow] at hloaded
    cases hloaded
    refine ⟨request,rfl,?_⟩
    obtain ⟨_,s₂,l₃,l₄,hsave,h₂,-⟩ := h₁.bind_ok
    obtain ⟨rfl,-⟩ := saveAgentRecord_solo hsave
    split at h₂
    · next hterminal =>
      obtain ⟨rfl,rfl,-⟩ := h₂.pure_ok
      exact ⟨rfl,by rw [if_pos hterminal]⟩
    · next hterminal =>
      obtain ⟨_,s₃,l₅,l₆,hwrite,h₃,-⟩ := h₂.bind_ok
      obtain ⟨rfl,rfl,-⟩ := h₃.pure_ok
      refine ⟨rfl,?_⟩
      rw [if_neg hterminal]
      exact saveAgentDispatch_solo hwrite.of_holding

theorem completeDispatch_solo {request completed : AgentDispatchRequest} {result : AgentDispatchResult}
    (h : (completeDispatch request result).Solo s log (.ok completed) s') : ∃ current, s.dispatches.get? request.id = some current ∧
      if statusIn current.status [AgentOperationState.cancelled.value,AgentOperationState.quarantined.value] = true ∧
        result.state ∉ [AgentOperationState.cancelled,.quarantined] then s' = s
      else s' = dispatchTable.put s { current with evidence := completedEvidence current result } ∧
        dispatchTable.Saves s { current with evidence := completedEvidence current result } := by
  obtain ⟨current,s₁,l₁,l₂,hload,h₁,-⟩ := h.bind_ok
  obtain ⟨hloaded,-⟩ := hload.settled (settle_loadAgentRecord dispatchTable request.id)
  cases hrow : s.dispatches.get? request.id with
  | none =>
    rw [show dispatchTable.rows s = s.dispatches from rfl,hrow] at hloaded
    cases hloaded
  | some stored =>
    rw [show dispatchTable.rows s = s.dispatches from rfl,hrow] at hloaded
    cases hloaded
    refine ⟨current,rfl,?_⟩
    obtain ⟨_,s₂,l₃,l₄,hbound,h₂,-⟩ := h₁.bind_ok
    obtain ⟨-,rfl,-⟩ := hbound.require_ok
    split at h₂
    · next hstopped =>
      obtain ⟨rfl,rfl,-⟩ := h₂.pure_ok
      rw [if_pos hstopped]
    · next hstopped =>
      obtain ⟨_,s₃,l₅,l₆,hwrite,h₃,-⟩ := h₂.bind_ok
      obtain ⟨rfl,rfl,-⟩ := h₃.pure_ok
      rw [if_neg hstopped]
      exact saveAgentDispatch_solo hwrite.of_holding

/-- What the recording of a result keeps, whatever it is about. -/
theorem recordProviderResult_keeps {epochId : String} {result recorded : AgentDispatchResult}
    (h : (recordProviderResult epochId result).Solo s log (.ok recorded) s') (hrow : SoleRow s id x key d) (hclear : s.Clear x) :
    recorded.requestId = result.requestId ∧ (∃ d', SoleRow s' id x key d') ∧ s'.Clear x := by
  have hquarantined : ∀ {reason l t}, (quarantineResult result reason).Solo s l (.ok recorded) t →
      recorded.requestId = result.requestId ∧ (∃ d', SoleRow t id x key d') ∧ t.Clear x := by
    intro reason l t hq
    obtain ⟨_,_,rfl,rfl⟩ := quarantineResult_solo hq
    exact ⟨rfl,⟨d,hrow.results _⟩,hclear.of_same rfl rfl⟩
  obtain ⟨_,s₁,l₁,m₁,hauthorized,h₁,-⟩ := h.bind_ok
  obtain rfl := Reads.same hauthorized
  obtain ⟨request?,s₂,l₂,m₂,hload,h₂,-⟩ := h₁.bind_ok
  obtain rfl := Reads.same hload
  cases request? with
  | none => exact hquarantined h₂
  | some request =>
    dsimp only at h₂
    split at h₂
    · exact hquarantined h₂
    · obtain ⟨found,s₃,l₃,m₃,hfound,h₃,-⟩ := h₂.bind_ok
      obtain rfl := Reads.same hfound
      rcases found with _ | ⟨epoch,active⟩
      · exact hquarantined h₃
      · dsimp only at h₃
        split at h₃
        · exact hquarantined h₃
        split at h₃
        · exact hquarantined h₃
        · obtain ⟨request,-,rfl,hstored⟩ := recordDispatchResult_solo h₃
          split at hstored
          · subst hstored
            exact ⟨rfl,⟨d,hrow.results _⟩,hclear.of_same rfl rfl⟩
          · obtain ⟨rfl,hsaves⟩ := hstored
            exact ⟨rfl,(hrow.results _).save hsaves,hclear.of_same rfl rfl⟩

theorem completeDispatch_keeps {request completed : AgentDispatchRequest} {result : AgentDispatchResult}
    (h : (completeDispatch request result).Solo s log (.ok completed) s') (hrow : SoleRow s id x key d) (hclear : s.Clear x) :
    (∃ d', SoleRow s' id x key d') ∧ s'.Clear x := by
  obtain ⟨current,-,hstored⟩ := completeDispatch_solo h
  split at hstored
  · subst hstored
    exact ⟨⟨d,hrow⟩,hclear⟩
  · obtain ⟨rfl,hsaves⟩ := hstored
    exact ⟨hrow.save hsaves,hclear.of_same rfl rfl⟩

/-- A result of a dispatch in execution is recorded where it is bound to the epoch, and else refused. -/
theorem recordProviderResult_executing {epoch : DriverEpoch} {result recorded : AgentDispatchResult}
    (h : (recordProviderResult epoch.id result).Solo s log (.ok recorded) s') (hd : s.dispatches.get? result.requestId = some d)
    (hstatus : d.status = some (.str "executing")) (hepoch : s.epochs.get? epoch.id = some epoch)
    (hactive : s.authoritative epoch.instanceId = [epoch]) (hopen : epoch.closedAt = none) :
    if requestBindingValid d result epoch = true then
      recorded = { result with errorMessage := none, evidence := recordedEvidence d result } ∧
      s' = dispatchTable.put (resultTable.put s recorded) { d with evidence := recordedEvidence d result }
    else ∃ id evidence,
      recorded = { result with id, state := .quarantined, errorCategory := some .quarantined, errorMessage := none, evidence } ∧
      s' = resultTable.put s recorded := by
  obtain ⟨_,s₁,l₁,m₁,hauthorized,h₁,-⟩ := h.bind_ok
  obtain rfl := Reads.same hauthorized
  obtain ⟨request?,s₂,l₂,m₂,hload,h₂,-⟩ := h₁.bind_ok
  obtain ⟨hloaded,-⟩ := hload.settled (settle_unlessMissing (settle_loadAgentRecord dispatchTable result.requestId))
  rw [show dispatchTable.rows s₁ = s₁.dispatches from rfl,hd] at hloaded
  cases hloaded
  have hlive : ¬ d.status = some (.str AgentOperationState.cancelled.value) := by
    rw [hstatus]
    decide
  dsimp only at h₂
  rw [if_neg hlive] at h₂
  obtain ⟨found,s₃,l₃,m₃,hfound,h₃,-⟩ := h₂.bind_ok
  have hepochs : (do
      let epoch ← loadDriverEpoch epoch.id
      let active ← activeEpoch epoch.instanceId
      return (epoch,active) : AgentProg (DriverEpoch × DriverEpoch)).settle s₁ = some (.ok (epoch,epoch),s₁) := by
    have hloadEpoch := settle_loadDriverEpoch (s := s₁) epoch.id
    rw [hepoch] at hloadEpoch
    obtain ⟨o,hsettled,hone⟩ := settle_activeEpoch (s := s₁) epoch.instanceId
    obtain rfl := (hone epoch).mpr hactive
    rw [Prog.settle_bind hloadEpoch,Prog.settle_bind hsettled]
    rfl
  obtain ⟨hboth,-⟩ := hfound.settled (Prog.settle_rescue (Prog.settle_bind hepochs))
  cases hboth
  dsimp only at h₃
  by_cases hbound : requestBindingValid d result epoch = true
  · have hstays : ¬ (epoch.closedAt ≠ none ∨ epoch.id ≠ epoch.id) := by simp [hopen]
    have hnot : ¬ requestBindingValid d result epoch = false := by simp [hbound]
    rw [if_neg hnot,if_neg hstays] at h₃
    obtain ⟨request,hrequest,rfl,hstored⟩ := recordDispatchResult_solo h₃
    rw [hd] at hrequest
    cases hrequest
    have hrunning : ¬ statusIn d.status (terminalResultStates.map (·.value)) = true := by
      rw [hstatus]
      decide
    rw [if_neg hrunning] at hstored
    rw [if_pos hbound]
    exact ⟨rfl,hstored.1⟩
  · rw [if_pos (by simpa using hbound)] at h₃
    rw [if_neg hbound]
    exact quarantineResult_solo h₃

end Rows

/-! ### The second dispatch -/

/-- From this store any manager answers a dispatch of the instance under the key as `r` did. -/
def Replays (s : AgentStore) (x key : String) (r : AgentDispatchResult) : Prop :=
  ∀ (cfg : Config) (prompt : String) (requestedBy : Option String) (answers : ∀ q, Answer q), ∃ again,
    (dispatch cfg x prompt key requestedBy).perform answers s = (.ok again,s) ∧ SameAnswer r again

section Second
variable {s s' : AgentStore} {x key : String} {d request : AgentDispatchRequest} {epoch : DriverEpoch} {r : AgentDispatchResult}
  {log : List (Σ q, Answer q)}

theorem dispatch_settled (cfg : Config) (prompt : String) (requestedBy : Option String) (hclear : s.Clear x)
    (hd : s.keyedDispatch x key = some d) :
    (dispatch cfg x prompt key requestedBy).settle s = (resultFromDispatch d : AgentProg _).settle s := by
  obtain ⟨o,hsettled,hok⟩ := settle_raiseTransitionRequired (s := s) x .paused
  obtain rfl := hok.mpr hclear
  have hfound := settle_dispatchForIdempotencyKey (s := s) x key
  rw [hd] at hfound
  unfold dispatch
  rw [Prog.settle_bind hsettled,Prog.settle_bind hfound]

theorem replays_row (hclear : s.Clear x) (hd : s.keyedDispatch x key = some d) (hepoch : s.epochs.get? d.driverEpochId = some epoch)
    {state : AgentOperationState} (hstatus : d.status = some (.str state.value)) :
    Replays s x key r ↔ SameAnswer r (replayedResult d epoch state) := by
  have hsettled : ∀ cfg prompt requestedBy, (dispatch cfg x prompt key requestedBy).settle s =
      some (.ok (replayedResult d epoch state),s) := fun cfg prompt requestedBy =>
    (dispatch_settled cfg prompt requestedBy hclear hd).trans (settle_resultFromDispatch_state hepoch hstatus)
  constructor
  · intro h
    obtain ⟨again,hrun,hsame⟩ := h dockConfig "" none (plainAnswers 0 "")
    rw [Prog.perform_settled (hsettled _ _ _)] at hrun
    cases hrun
    exact hsame
  · exact fun h cfg prompt requestedBy answers => ⟨_,Prog.perform_settled (hsettled _ _ _),h⟩

theorem not_replays_other (hclear : s.Clear x) (hd : s.keyedDispatch x key = some d) (hother : r.requestId ≠ d.id) : ¬ Replays s x key r := by
  intro h
  obtain ⟨again,hrun,hsame⟩ := h dockConfig "" none (plainAnswers 0 "")
  obtain ⟨o,hsettled,hid⟩ := settle_resultFromDispatch (s := s) d
  rw [Prog.perform_settled ((dispatch_settled _ _ _ hclear hd).trans hsettled)] at hrun
  cases hrun
  exact hother (hsame.requestId.symm.trans (hid again rfl))

/-- The stored row of a request in execution. -/
structure Executing (s : AgentStore) (request d : AgentDispatchRequest) (x key : String) (epoch : DriverEpoch) : Prop where
  row : SoleRow s request.id x key d
  same : SameDispatch d request
  status : d.status = some (.str "executing")
  plain : ∀ k ∉ ["status","operation_generation"], d.evidence.get? k = none
  clear : s.Clear x
  filed : s.epochs.get? epoch.id = some epoch
  mine : request.driverEpochId = epoch.id
  active : s.authoritative epoch.instanceId = [epoch]
  opened : epoch.closedAt = none

theorem binding_congr (hsame : SameDispatch d request) (result : AgentDispatchResult) (epoch : DriverEpoch) :
    requestBindingValid d result epoch = requestBindingValid request result epoch := by
  simp only [requestBindingValid,hsame.instanceId,hsame.sessionId,hsame.driverEpochId]

theorem Executing.replays_row {t : AgentStore} {d' : AgentDispatchRequest} {state : AgentOperationState}
    (h : Executing s request d x key epoch) (hrow : SoleRow t request.id x key d') (hdriver : d'.driverEpochId = epoch.id)
    (hstatus : d'.status = some (.str state.value)) (ht : t.transitions = s.transitions) (ho : t.operations = s.operations)
    (he : t.epochs = s.epochs) : Replays t x key r ↔ SameAnswer r (replayedResult d' epoch state) :=
  Overseer.Agent.replays_row (h.clear.of_same ht ho) hrow.keyedDispatch (by rw [he,hdriver]; exact h.filed) hstatus

theorem stopped_state (state : AgentOperationState) :
    ¬ (statusIn (some (.str state.value)) [AgentOperationState.cancelled.value,AgentOperationState.quarantined.value] = true ∧
      state ∉ [AgentOperationState.cancelled,.quarantined]) := by
  cases state <;> decide

/-- A result that was recorded for a request in execution and completed it is answered again where it is faithful. -/
theorem Executing.replays_iff {result : AgentDispatchResult} {completed : AgentDispatchRequest} {t : AgentStore} {l l' : List (Σ q, Answer q)}
    (h : Executing s request d x key epoch) (hrecord : (recordProviderResult epoch.id result).Solo s l (.ok r) t)
    (hcomplete : (completeDispatch request r).Solo t l' (.ok completed) s') : Replays s' x key r ↔ Faithful request epoch result := by
  by_cases hid : result.requestId = request.id
  · have hd : s.dispatches.get? result.requestId = some d := hid ▸ h.row.row
    have hrecorded := recordProviderResult_executing hrecord hd h.status h.filed h.active h.opened
    have hdriver : d.driverEpochId = epoch.id := h.same.driverEpochId.trans h.mine
    rw [binding_congr h.same] at hrecorded
    obtain ⟨current,hcurrent,hcompleted⟩ := completeDispatch_solo hcomplete
    rw [Faithful,and_iff_right hid]
    split
    · next hbound =>
      rw [if_pos hbound] at hrecorded
      obtain ⟨hr,rfl⟩ := hrecorded
      have hrow := (h.row.results r).put (r := { d with evidence := recordedEvidence d result }) h.row.filed h.row.instanceId
        h.row.idempotencyKey
      rw [hrow.row] at hcurrent
      cases hcurrent
      have hstatus : (dispatchTable.stored { d with evidence := recordedEvidence d result }).status = some (.str r.state.value) := by
        rw [hr]
        exact recordedEvidence_status d result
      rw [hstatus,if_neg (stopped_state r.state)] at hcompleted
      obtain ⟨rfl,-⟩ := hcompleted
      have hfinal := hrow.put (r := { dispatchTable.stored { d with evidence := recordedEvidence d result } with
        evidence := completedEvidence (dispatchTable.stored { d with evidence := recordedEvidence d result }) r })
        h.row.filed h.row.instanceId h.row.idempotencyKey
      have hevidence : (dispatchTable.stored { d with evidence := recordedEvidence d result }).evidence = recordedEvidence d result := rfl
      rw [h.replays_row hfinal hdriver (completedEvidence_status _ r) rfl rfl rfl,sameAnswer_recorded hevidence hr rfl]
      have hbinding : result.driverEpochId = d.driverEpochId := by
        simp only [requestBindingValid,Bool.and_eq_true,decide_eq_true_eq] at hbound
        rw [h.same.driverEpochId]
        exact hbound.1.1.2.symm
      exact ⟨fun hall => hall.2.2,fun hundisturbed => ⟨hid.trans h.row.filed.symm,hbinding,hundisturbed⟩⟩
    · next hbound =>
      rw [if_neg hbound] at hrecorded
      obtain ⟨qid,evidence,hr,rfl⟩ := hrecorded
      rw [(h.row.results r).row] at hcurrent
      cases hcurrent
      have hrunning : ¬ statusIn d.status [AgentOperationState.cancelled.value,AgentOperationState.quarantined.value] = true := by
        rw [h.status]
        decide
      rw [if_neg fun hstopped => hrunning hstopped.1] at hcompleted
      obtain ⟨rfl,-⟩ := hcompleted
      have hfinal := (h.row.results r).put (r := { d with evidence := completedEvidence d r }) h.row.filed h.row.instanceId
        h.row.idempotencyKey
      have hreason : r.errorCategory = none → d.evidence.get? "reason" = none := by
        rw [hr]
        exact nofun
      rw [h.replays_row hfinal hdriver (completedEvidence_status _ r) rfl rfl rfl,sameAnswer_completed rfl hreason,h.plain _ (by decide),h.plain _ (by decide),
        h.plain _ (by decide),h.plain _ (by decide),hr]
      have hrequest : result.requestId = d.id := hid.trans h.row.filed.symm
      have hsame : d.driverEpochId = request.driverEpochId := h.same.driverEpochId
      constructor
      · rintro ⟨-,hepoch,href,hsession,hacknowledged,hdone⟩
        exact ⟨hepoch.trans hsame,href.symm,hsession.symm,hacknowledged.symm,hdone.symm⟩
      · rintro ⟨hepoch,href,hsession,hacknowledged,hdone⟩
        exact ⟨hrequest,hepoch.trans hsame.symm,href.symm,hsession.symm,hacknowledged.symm,hdone.symm⟩
  · have hnot : ¬ Faithful request epoch result := fun hf => hid hf.1
    refine iff_of_false ?_ hnot
    obtain ⟨hrid,⟨d₁,hrow₁⟩,hclear₁⟩ := recordProviderResult_keeps hrecord h.row h.clear
    obtain ⟨⟨d₂,hrow₂⟩,hclear₂⟩ := completeDispatch_keeps hcomplete hrow₁ hclear₁
    refine not_replays_other hclear₂ hrow₂.keyedDispatch ?_
    rw [hrid,hrow₂.filed]
    exact hid

end Second

/-! ### The first dispatch -/

section First
variable {cfg : Config} {s s' : AgentStore} {x prompt key : String} {requestedBy : Option String} {d request : AgentDispatchRequest}
  {epoch : DriverEpoch} {r : AgentDispatchResult} {log : List (Σ q, Answer q)}

/-- The replies that a run was given are about the requests they were given for. -/
def FaithfulReplies (s : AgentStore) (log : List (Σ q, Answer q)) : Prop :=
  ∀ driver request reply, (⟨.dispatch driver request,some reply⟩ : Σ q, Answer q) ∈ log →
    ∀ epoch, s.epochs.get? request.driverEpochId = some epoch → Faithful request epoch reply

theorem Undispatching.replies {α : Type} {p : AgentProg α} [hp : Undispatching p] {o : Except AgentError α} (h : p.Solo s log o s')
    (t : AgentStore) : FaithfulReplies t log := by
  intro driver request reply hmem
  exact absurd rfl (hp.asks.solo h _ hmem)

theorem FaithfulReplies.append {log' : List (Σ q, Answer q)} :
    FaithfulReplies s (log ++ log') ↔ FaithfulReplies s log ∧ FaithfulReplies s log' := by
  constructor
  · intro h
    exact ⟨fun driver request reply hmem => h driver request reply (List.mem_append_left _ hmem),
      fun driver request reply hmem => h driver request reply (List.mem_append_right _ hmem)⟩
  · rintro ⟨h,h'⟩ driver request reply hmem
    rcases List.mem_append.mp hmem with hmem | hmem
    · exact h driver request reply hmem
    · exact h' driver request reply hmem

theorem FaithfulReplies.congr {t : AgentStore} (h : t.epochs = s.epochs) : FaithfulReplies t log ↔ FaithfulReplies s log := by
  unfold FaithfulReplies
  rw [h]

theorem faithfulReplies_single {driver : AgentProvider} {answer : Option AgentDispatchResult} (hmine : request.driverEpochId = epoch.id)
    (hfiled : s.epochs.get? epoch.id = some epoch) :
    FaithfulReplies s [⟨.dispatch driver request,answer⟩] ↔ ∀ reply, answer = some reply → Faithful request epoch reply := by
  constructor
  · rintro h reply rfl
    exact h driver request reply List.mem_cons_self epoch (hmine ▸ hfiled)
  · intro h driver' request' reply hmem epoch' hepoch'
    cases List.mem_singleton.mp hmem
    rw [hmine,hfiled] at hepoch'
    cases hepoch'
    exact h reply rfl

theorem dispatchAnswer_faithful (hx : request.instanceId = epoch.instanceId) (hsession : request.sessionId = epoch.sessionId)
    (hepoch : request.driverEpochId = epoch.id) (hrun : (dispatchAnswer request epoch.providerId none).Solo s log (.ok r) s') :
    Faithful request epoch r := by
  obtain ⟨id,s₁,l₁,l₂,hid,h₁,-⟩ := hrun.bind_ok
  obtain ⟨rfl,rfl,-⟩ := h₁.pure_ok
  refine ⟨rfl,?_⟩
  rw [if_pos (by simp [requestBindingValid,hx,hsession,hepoch])]
  exact ⟨fun _ => rfl,fun _ => rfl,fun _ => rfl,fun _ => rfl⟩

theorem dispatchAnswer_solo {answer : Option AgentDispatchResult} (hrun : (dispatchAnswer request epoch.providerId answer).Solo s log (.ok r) s') :
    s' = s ∧ ∀ reply, answer = some reply → r = reply := by
  cases answer with
  | some reply =>
    obtain ⟨rfl,rfl,-⟩ := hrun.pure_ok
    exact ⟨rfl,fun reply h => Option.some.inj h⟩
  | none =>
    obtain ⟨id,s₁,l₁,l₂,hid,h₁,-⟩ := hrun.bind_ok
    obtain ⟨-,rfl,-⟩ := h₁.pure_ok
    obtain ⟨rfl,-⟩ := Prog.Solo.ask_ok hid
    exact ⟨rfl,fun reply h => by cases h⟩

/-- The store and the request as an execution finds them. -/
structure Accepted (s : AgentStore) (request : AgentDispatchRequest) (x key : String) (epoch : DriverEpoch) : Prop where
  row : SoleRow s request.id x key (dispatchTable.stored request)
  operation : ∃ row, s.operations.get? request.instanceId = some row ∧ row.payload.state = .opened ∧
    request.evidence = (Dict.empty.set "operation_generation" (.int row.payload.generation)).set "status" (.str "accepted")
  clear : s.Clear x
  filed : s.epochs.get? epoch.id = some epoch
  mine : request.driverEpochId = epoch.id
  session : request.sessionId = epoch.sessionId
  instanceId : request.instanceId = epoch.instanceId
  active : s.authoritative epoch.instanceId = [epoch]
  opened : epoch.closedAt = none

/-- The claim that follows an acceptance succeeds. -/
theorem Accepted.claim (h : Accepted s request x key epoch) {claimed : Bool} {t : AgentStore}
    (hrun : (claimDispatchExecution request : AgentProg Bool).Solo s log (.ok claimed) t) :
    claimed = true ∧ Executing t request (dispatchTable.stored ((dispatchTable.stored request).withStatus "executing")) x key epoch ∧
      t.epochs = s.epochs := by
  obtain ⟨row,hrow,hopened,hevidence⟩ := h.operation
  have hpost := claim_opened h.row.row (by simp [AgentDispatchRequest.status,dispatchTable,hevidence]) hrow hopened
    (by simp [AgentDispatchRequest.boundGeneration,AgentDispatchRequest.generation,dispatchTable,hevidence,Json.asInt?])
  obtain ⟨rfl,rfl⟩ := hpost.of_ok hrun.transaction_ok.1
  refine ⟨rfl,⟨h.row.put h.row.filed h.row.instanceId h.row.idempotencyKey,⟨rfl,rfl,rfl,rfl,rfl,rfl,rfl⟩,?_,fun k hk => ?_,
    h.clear.of_same rfl rfl,h.filed,h.mine,(authoritative_congr rfl rfl _).trans h.active,h.opened⟩,rfl⟩
  · exact status_withStatus _ _
  · simp only [List.mem_cons,List.not_mem_nil,or_false,not_or] at hk
    simp [AgentDispatchRequest.withStatus,dispatchTable,hevidence,hk]

theorem Accepted.executeDispatch_iff (h : Accepted s request x key epoch)
    (hrun : (executeDispatch cfg epoch request).Solo s log (.ok r) s') : Replays s' x key r ↔ FaithfulReplies s log := by
  obtain ⟨driver,s₁,l₁,m₁,hdriver,h₁,rfl⟩ := hrun.bind_ok
  obtain rfl := Reads.same hdriver
  obtain ⟨claimed,s₂,l₂,m₂,hclaim,h₂,rfl⟩ := h₁.bind_ok
  obtain ⟨rfl,hexecuting,hepochs⟩ := h.claim hclaim
  have hclaimlog : l₂ = [] := hclaim.transaction_ok.2
  obtain ⟨answer,s₃,l₃,m₃,hask,h₃,rfl⟩ := (show Prog.Solo (_ >>= _) _ _ _ _ from h₂).bind_ok
  obtain ⟨rfl,rfl⟩ := Prog.Solo.ask_ok hask
  obtain ⟨result,s₄,l₄,m₄,hanswer,h₄,rfl⟩ := h₃.bind_ok
  obtain ⟨recorded,s₅,l₅,m₅,hrecord,h₅,rfl⟩ := h₄.bind_ok
  obtain ⟨completed,s₆,l₆,m₆,hcomplete,h₆,rfl⟩ := h₅.bind_ok
  obtain ⟨rfl,rfl,rfl⟩ := h₆.pure_ok
  obtain ⟨rfl,hreply⟩ := dispatchAnswer_solo hanswer
  have hmiddle : FaithfulReplies s₁ l₂ := hclaimlog ▸ fun _ _ _ hmem => (by cases hmem)
  have hnothing : FaithfulReplies s₁ ([] : List (Σ q, Answer q)) := fun _ _ _ hmem => (by cases hmem)
  rw [hexecuting.replays_iff hrecord hcomplete,FaithfulReplies.append,FaithfulReplies.append,FaithfulReplies.append,
    FaithfulReplies.append,FaithfulReplies.append,FaithfulReplies.append,faithfulReplies_single h.mine h.filed]
  have hothers : FaithfulReplies s₁ l₁ ∧ FaithfulReplies s₁ l₄ ∧ FaithfulReplies s₁ l₅ ∧ FaithfulReplies s₁ l₆ :=
    ⟨Undispatching.replies hdriver _,Undispatching.replies hanswer _,Undispatching.replies hrecord _,Undispatching.replies hcomplete _⟩
  obtain ⟨h₁,h₄,h₅,h₆⟩ := hothers
  constructor
  · intro hfaithful
    exact ⟨h₁,hmiddle,fun reply hsome => hreply reply hsome ▸ hfaithful,h₄,h₅,h₆,hnothing⟩
  · rintro ⟨-,-,hfaithful,-⟩
    cases answer with
    | some reply => exact hreply reply rfl ▸ hfaithful reply rfl
    | none => exact dispatchAnswer_faithful h.instanceId h.session h.mine hanswer

theorem acceptOrReplay_solo {request : AgentDispatchRequest} {o : AgentDispatchRequest ⊕ AgentDispatchResult}
    (h : (acceptOrReplay request).Solo s log (.ok o) s') (hclear : s.Clear request.instanceId) :
    (∃ accepted at_ l, o = .inl accepted ∧ (acceptDispatch request at_ : AgentProg _).Solo s l (.ok accepted) s') ∨
    ∃ winner again, o = .inr again ∧ s'.Clear request.instanceId ∧
      s'.keyedDispatch request.instanceId request.idempotencyKey = some winner ∧
      (resultFromDispatch winner : AgentProg _).settle s' = some (.ok again,s') := by
  rcases h.rescue_ok with h | ⟨e,s₁,l₁,l₂,hfailed,hhandled,-⟩
  · obtain ⟨at_,s₁,l₁,m₁,hclock,h₁,-⟩ := h.bind_ok
    obtain rfl := Reads.same hclock
    obtain ⟨accepted,s₂,l₂,m₂,haccept,h₂,-⟩ := h₁.bind_ok
    obtain ⟨rfl,rfl,-⟩ := h₂.pure_ok
    exact .inl ⟨accepted,at_,l₂,rfl,haccept⟩
  · have hsteps : (do
        let accepted ← acceptDispatch request (← clock)
        return .inl accepted : AgentProg (AgentDispatchRequest ⊕ AgentDispatchResult)).Steps
          fun s _ s' => ClearKept request.instanceId s s' :=
      Prog.steps_bind (Prog.steps_ask _) fun _ => Prog.steps_bind (steps_acceptDispatch_clear _ _) fun _ => trivial
    have hclear₁ : s₁.Clear request.instanceId := hsteps.solo_rel hfailed hclear
    split at hhandled
    · cases hhandled
    split at hhandled
    · obtain ⟨winner?,s₂,l₃,l₄,hfind,h₂,-⟩ := hhandled.bind_ok
      obtain ⟨hfound,-⟩ := hfind.settled (settle_dispatchForIdempotencyKey _ _)
      cases hfound
      cases hwinner : s₁.keyedDispatch request.instanceId request.idempotencyKey with
      | none =>
        rw [hwinner] at h₂
        obtain ⟨_,s₃,l₅,l₆,-,h₃,-⟩ := h₂.bind_ok
        cases h₃
      | some winner =>
        rw [hwinner] at h₂
        obtain ⟨again,s₃,l₅,l₆,hresult,h₃,-⟩ := h₂.bind_ok
        obtain ⟨rfl,rfl,-⟩ := h₃.pure_ok
        obtain ⟨o,hsettled,-⟩ := settle_resultFromDispatch (s := s₁) winner
        obtain ⟨rfl,-⟩ := hresult.settled hsettled |>.imp_left Prod.mk.inj |>.imp_left And.left
        obtain rfl := Reads.same hresult
        exact .inr ⟨winner,again,rfl,hclear₁,hwinner,hsettled⟩
    · cases hhandled

end First

theorem replays_found {s : AgentStore} {x key : String} {d : AgentDispatchRequest} {r : AgentDispatchResult} (hclear : s.Clear x)
    (hd : s.keyedDispatch x key = some d) (hr : (resultFromDispatch d : AgentProg _).settle s = some (.ok r,s)) : Replays s x key r :=
  fun cfg prompt requestedBy _ => ⟨r,Prog.perform_settled ((dispatch_settled cfg prompt requestedBy hclear hd).trans hr),.refl r⟩

theorem authoritative_epoch {s : AgentStore} {x : String} {epoch : DriverEpoch} (hfiled : s.epochs.Filed DriverEpoch.id)
    (h : s.authoritative x = [epoch]) : s.epochs.get? epoch.id = some epoch ∧ epoch.instanceId = x ∧ epoch.closedAt = none := by
  have hmem : epoch ∈ s.authoritative x := by rw [h]; exact List.mem_singleton_self epoch
  obtain ⟨hopen,-⟩ := List.mem_filter.mp hmem
  obtain ⟨hsorted,hboth⟩ := List.mem_filter.mp hopen
  obtain ⟨k,hk⟩ := (mem_sorted epochTable s epoch).mp hsorted
  have hid : epoch.id = k := hfiled k epoch hk
  exact ⟨hid ▸ hk,by simpa using hboth⟩

/-- A dispatch is answered again as it was, from the store that it left, exactly when the replies of
the driver were faithful: about the request, and without evidence that speaks for a field left out. -/
theorem dispatch_replays_iff {cfg : Config} {x prompt key : String} {requestedBy : Option String} {s s' : AgentStore}
    {log : List (Σ q, Answer q)} {r : AgentDispatchResult} (hfiled : s.epochs.Filed DriverEpoch.id)
    (hrun : (dispatch cfg x prompt key requestedBy).Solo s log (.ok r) s') : Replays s' x key r ↔ FaithfulReplies s log := by
  obtain ⟨_,s₁,l₁,m₁,hraise,h₁,rfl⟩ := hrun.bind_ok
  obtain ⟨o,hsettled,hok⟩ := settle_raiseTransitionRequired (s := s) x .paused
  obtain ⟨rfl,-⟩ := hraise.settled hsettled |>.imp_left Prod.mk.inj |>.imp_left And.left
  have hclear : s.Clear x := hok.mp rfl
  obtain rfl := Reads.same hraise
  obtain ⟨recorded?,s₂,l₂,m₂,hfind,h₂,rfl⟩ := h₁.bind_ok
  obtain ⟨hfound,-⟩ := hfind.settled (settle_dispatchForIdempotencyKey x key)
  have hrecorded : s₁.keyedDispatch x key = recorded? := Except.ok.inj (Prod.mk.inj hfound).1
  obtain rfl := Reads.same hfind
  rw [FaithfulReplies.append,FaithfulReplies.append,and_iff_right (Undispatching.replies hraise s₂),
    and_iff_right (Undispatching.replies hfind s₂)]
  cases recorded? with
  | some recorded =>
    obtain ⟨o,hresult,-⟩ := settle_resultFromDispatch (s := s₂) recorded
    obtain ⟨rfl,-⟩ := h₂.settled hresult |>.imp_left Prod.mk.inj |>.imp_left And.left
    have hsame := Reads.same (p := resultFromDispatch recorded) h₂
    subst hsame
    exact iff_of_true (replays_found hclear hrecorded hresult) (Undispatching.replies (p := resultFromDispatch recorded) h₂ _)
  | none =>
    obtain ⟨epoch,s₃,l₃,m₃,hactive,h₃,rfl⟩ := h₂.bind_ok
    obtain ⟨o,hsettled,hone⟩ := settle_activeEpoch (s := s₂) x
    obtain ⟨rfl,-⟩ := hactive.settled hsettled |>.imp_left Prod.mk.inj |>.imp_left And.left
    have hauthoritative : s₂.authoritative x = [epoch] := (hone epoch).mp rfl
    obtain ⟨hepoch,hx,hopen⟩ := authoritative_epoch hfiled hauthoritative
    obtain rfl := Reads.same hactive
    rw [FaithfulReplies.append,and_iff_right (Undispatching.replies hactive _)]
    obtain ⟨_,s₄,l₄,m₄,hstate,h₄,rfl⟩ := h₃.bind_ok
    obtain ⟨-,rfl,rfl⟩ := hstate.require_ok
    obtain ⟨_,s₅,l₅,m₅,hauthorized,h₅,rfl⟩ := h₄.bind_ok
    obtain rfl := Reads.same hauthorized
    rw [List.nil_append,FaithfulReplies.append,and_iff_right (Undispatching.replies hauthorized _)]
    obtain ⟨id,s₆,l₆,m₆,hid,h₆,rfl⟩ := h₅.bind_ok
    rw [FaithfulReplies.append,and_iff_right (Undispatching.replies hid _)]
    obtain ⟨rfl,-⟩ := Prog.Solo.ask_ok hid
    obtain ⟨requestedAt,s₇,l₇,m₇,hclock,h₇,rfl⟩ := h₆.bind_ok
    obtain rfl := Reads.same hclock
    rw [FaithfulReplies.append,and_iff_right (Undispatching.replies hclock _)]
    obtain ⟨_,s₈,l₈,m₈,hnames,h₈,rfl⟩ := h₇.bind_ok
    obtain rfl := Reads.same hnames
    rw [FaithfulReplies.append,and_iff_right (Undispatching.replies hnames _)]
    obtain ⟨_,s₉,l₉,m₉,hprompt,h₉,rfl⟩ := h₈.bind_ok
    obtain ⟨-,rfl,rfl⟩ := hprompt.require_ok
    obtain ⟨_,s₁₀,l₁₀,m₁₀,hby,h₁₀,rfl⟩ := h₉.bind_ok
    obtain rfl := Reads.same hby
    rw [List.nil_append,FaithfulReplies.append,and_iff_right (Undispatching.replies hby _)]
    obtain ⟨outcome,s₁₁,l₁₁,m₁₁,haccept,h₁₁,rfl⟩ := h₁₀.bind_ok
    rw [FaithfulReplies.append,and_iff_right (Undispatching.replies haccept _)]
    rcases acceptOrReplay_solo haccept hclear with ⟨accepted,at_,l,rfl,hstored⟩ | ⟨winner,again,rfl,hclear',hwinner,hagain⟩
    · obtain ⟨row,hrow,hopened,rfl,rfl⟩ := acceptDispatch_solo hstored
      obtain ⟨hepochs,hhandoffs,hdispatches⟩ := ensureOperation_same s₁₀ x at_
      dsimp only at h₁₁
      rw [← FaithfulReplies.congr (show (dispatchTable.put _ _).epochs = s₁₀.epochs from hepochs)]
      refine Accepted.executeDispatch_iff (x := x) ?_ h₁₁
      refine ⟨SoleRow.of_none ?_ rfl rfl,⟨row,hrow,hopened,rfl⟩,?_,?_,rfl,rfl,hx.symm,?_,hopen⟩
      · rw [AgentStore.keyedDispatch,hdispatches]
        exact hrecorded
      · exact (hclear.ensure x at_).of_same rfl rfl
      · exact (congrArg (Dict.get? · epoch.id) hepochs).trans hepoch
      · rw [hx]
        exact (authoritative_congr hepochs hhandoffs x).trans hauthoritative
    · obtain ⟨rfl,rfl,rfl⟩ := Prog.Solo.pure_ok h₁₁
      exact iff_of_true (replays_found hclear' hwinner hagain) fun _ _ _ hmem => by cases hmem

/-! ### A driver that succeeds -/

/-- The driver says that it succeeded, with this evidence and no reference. -/
def succeedingAnswers (evidence : Evidence) : (q : AgentQuery) → Answer q
  | .dispatch _ request => some {
      id := "result.1"
      requestId := request.id
      instanceId := request.instanceId
      sessionId := request.sessionId
      driverEpochId := request.driverEpochId
      providerId := "codex"
      state := .succeeded
      evidence }
  | q => plainAnswers 0 "1" q

/-- The dock is asked to run its tests. -/
def dockRun (evidence : Evidence) : Except AgentError AgentDispatchResult × AgentStore :=
  (dispatch dockConfig "dock" "run the tests" "key" none).perform (succeedingAnswers evidence) dockStore

theorem dockRun_ok (evidence : Evidence) (h : (dockRun evidence).1.toOption.isSome = true) : ∃ log r,
    (dispatch dockConfig "dock" "run the tests" "key" none).Solo dockStore log (.ok r) (dockRun evidence).2 ∧
      (dockRun evidence).1 = .ok r ∧ ∀ e ∈ log, e.2 = succeedingAnswers evidence e.1 := by
  obtain ⟨log,hrun,hlog⟩ := Prog.perform_solo (succeedingAnswers evidence) (dispatch dockConfig "dock" "run the tests" "key" none) dockStore
  cases hok : (dockRun evidence).1 with
  | error e =>
    rw [hok] at h
    cases h
  | ok r =>
    rw [show (Prog.perform (succeedingAnswers evidence) _ dockStore).1 = .ok r from hok] at hrun
    exact ⟨log,r,hrun,rfl,hlog⟩

theorem dockStore_epochs : dockStore.epochs.Filed DriverEpoch.id :=
  (Dict.Filed.empty DriverEpoch.id).set ⟨"epoch.1","dock","session.1","codex",1,.running,some 0,none,none,none⟩

/-- Without evidence the answer is repeated. -/
theorem dispatch_replays_dock : ∃ r, (dockRun .empty).1 = .ok r ∧ Replays (dockRun .empty).2 "dock" "key" r := by
  obtain ⟨log,r,hrun,hok,hlog⟩ := dockRun_ok .empty (by decide +kernel)
  refine ⟨r,hok,(dispatch_replays_iff dockStore_epochs hrun).mpr ?_⟩
  intro driver request reply hmem epoch _
  have hreply : some reply = succeedingAnswers .empty (.dispatch driver request) := hlog _ hmem
  cases hreply
  refine ⟨rfl,?_⟩
  split
  · exact ⟨fun _ => rfl,fun _ => rfl,fun _ => rfl,fun _ => rfl⟩
  · exact ⟨rfl,rfl,rfl,rfl,rfl⟩

/-- The evidence of a reply names a reference that the reply itself leaves out: the second answer
gives it as the provider's reference. -/
theorem dispatch_replays_stray : ∃ (s s' : AgentStore) (log : List (Σ q, Answer q)) (r : AgentDispatchResult),
    (dispatch dockConfig "dock" "run the tests" "key" none).Solo s log (.ok r) s' ∧ r.providerReference = none ∧
      ¬ Replays s' "dock" "key" r := by
  let evidence : Evidence := Dict.empty.set "provider_ref" (.str "ticket.7")
  obtain ⟨log,r,hrun,hok,-⟩ := dockRun_ok evidence (by decide +kernel)
  have hfirst : (dockRun evidence).1.toOption.map (·.providerReference) = some none := by decide +kernel
  rw [hok] at hfirst
  have hnone : r.providerReference = none := Option.some.inj hfirst
  refine ⟨dockStore,_,log,r,hrun,hnone,fun h => ?_⟩
  obtain ⟨again,hagain,hsame⟩ := h dockConfig "run the tests" none (succeedingAnswers evidence)
  have hsecond : (((dispatch dockConfig "dock" "run the tests" "key" none).perform (succeedingAnswers evidence) (dockRun evidence).2).1.toOption.map
      (·.providerReference)) = some (some "ticket.7") := by decide +kernel
  rw [hagain] at hsecond
  have hreference : again.providerReference = some "ticket.7" := Option.some.inj hsecond
  rw [hsame.providerReference,hnone] at hreference
  cases hreference

end Overseer.Agent
