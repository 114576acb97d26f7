import Overseer.Agent.Operations
import Overseer.Library.Text

/-! # Dispatch

The dispatch path of `AgentManager`: replay by idempotency key, acceptance,
the execution claim, the provider call and the recording of its result.
-/
namespace Overseer.Agent
open Overseer.Library

/-- `key.endswith(("_id", "_ref", "_at"))`. -/
def referenceKey (key : String) : Bool := hasSuffix key "_id" || hasSuffix key "_ref" || hasSuffix key "_at"

def safeResultEvidence (source : Evidence) : Evidence :=
  Dict.empty.merge (source.entries.filter fun (key,value) =>
    referenceKey key || key = "status" || key = "reason" || value.isNumber)

section Reads
variable {m : Type → Type} [MonadStore AgentStore AgentError m]

def blockingTransition (instanceId : String) : m (Option AgentInstanceTransition) := do
  let transition ← unlessMissing (loadAgentTransition instanceId)
  return transition.filter (·.state ∈ blockingTransitionStates)

/-- `_raise_transition_required`; without an error class the required operation is named. -/
def raiseTransitionRequired (instanceId : String) (errorType : Option ErrorKind) : m Unit := do
  match ← blockingTransition instanceId with
  | some transition => raise (match errorType with
    | none => ⟨.transitionRequired,
        s!"agent instance {instanceId} transition {transition.state.value} requires reconcile or rollback"⟩
    | some kind => ⟨kind,
        s!"agent instance {instanceId} transition {transition.state.value} blocks this operation"⟩)
  | none =>
    match ← unlessMissing (loadAgentOperation instanceId) with
    | none => pure ()
    | some operation =>
      require (operation.state ≠ .fenced) (match errorType with
        | none => ⟨.operationRequired,
            s!"agent instance {instanceId} operation generation {operation.generation} is fenced and requires reconciliation"⟩
        | some kind => ⟨kind,
            s!"agent instance {instanceId} operation generation {operation.generation} is fenced"⟩)

def openEpochs (instanceId : String) : m (List DriverEpoch) := do
  return (← listDriverEpochs).filter fun e => e.instanceId = instanceId ∧ e.closedAt = none

/-- The incoming epochs that the packages of an instance name. -/
def transitionEpochIds (packages : List AgentHandoffPackage) (instanceId : String) : List String :=
  (packages.filter (·.instanceId = instanceId)).filterMap fun p =>
    (p.evidence.get? "incoming_epoch_id").bind fun v => if v = .null then none else some v.text

/-- An incoming epoch of a handoff that has not been promoted. -/
def unpromoted (incoming : List String) (e : DriverEpoch) : Bool :=
  e.id ∈ incoming ∧ e.state ∈ [AgentOperationState.queued,.blocked,.quarantined]

def authoritativeEpochs (instanceId : String) : m (List DriverEpoch) := do
  let incoming := transitionEpochIds (← listAgentHandoffs) instanceId
  return (← openEpochs instanceId).filter fun e => !unpromoted incoming e

def activeEpoch (instanceId : String) : m DriverEpoch := do
  match ← authoritativeEpochs instanceId with
  | [] => raise (keyError s!"no active driver epoch for {instanceId}")
  | [epoch] => pure epoch
  | _ => raise (managerError s!"multiple open driver epochs for {instanceId}")

def sessionForEpoch (epoch : DriverEpoch) : m AgentSession := do
  orRaise (← unlessMissing (loadAgentSession epoch.sessionId))
    (managerError s!"driver epoch {epoch.id} references an unknown session")

def dispatchForIdempotencyKey (instanceId idempotencyKey : String) : m (Option AgentDispatchRequest) :=
  unlessMissing (loadAgentDispatchByIdempotency instanceId idempotencyKey)

def resultFromDispatch (dispatch : AgentDispatchRequest) : m AgentDispatchResult := do
  let evidence := dispatch.evidence
  let epoch ← loadDriverEpoch dispatch.driverEpochId
  let status := ((evidence.get? "status").map Json.text).getD AgentOperationState.queued.value
  let state ← orRaise (if status ∈ ["accepted","executing"] then some .queued
    else AgentOperationState.ofValue? status) (valueError ("'" ++ status ++ "' is not a valid AgentOperationState"))
  return {
    id := ((evidence.get? "result_id").map Json.text).getD s!"{dispatch.id}.queued"
    requestId := dispatch.id
    instanceId := dispatch.instanceId
    sessionId := dispatch.sessionId
    driverEpochId := dispatch.driverEpochId
    providerId := ((evidence.get? "provider_id").map Json.text).getD epoch.providerId
    state
    errorCategory := ((evidence.get? "reason").bind Json.asStr?).bind AgentErrorCategory.ofValue?
    providerReference := (evidence.get? "provider_ref").map Json.text
    externalSessionId := (evidence.get? "external_session_id").map Json.text
    acknowledgedAt := (evidence.get? "acknowledged_at").map Json.text
    completedAt := (evidence.get? "completed_at").map Json.text
    evidence }

end Reads

def quarantineResult (result : AgentDispatchResult) (reason : String) : AgentProg AgentDispatchResult := do
  let id ← newId "quarantine"
  let quarantined := { result with
    id
    state := .quarantined
    errorCategory := some .quarantined
    errorMessage := none
    evidence := ((safeResultEvidence result.evidence).set "source_result_id" (.str result.id)).set
      "reason" (.str reason) }
  saveAgentDispatchResult quarantined
  return quarantined

/-- Assign an optional text under a key. -/
def setText (evidence : Evidence) (key : String) (value : Option String) : Evidence :=
  match value with
  | some text => evidence.set key (.str text)
  | none => evidence

/-- The evidence `_record_dispatch_result` files for a result. -/
def recordedEvidence (request : AgentDispatchRequest) (result : AgentDispatchResult) : Evidence :=
  let base := ((Dict.empty.set "result_id" (.str result.id)).set "provider_id" (.str result.providerId)).set
    "status" (.str result.state.value)
  let bound := match request.generation with
    | some g => if g.asInt?.isSome then base.set "operation_generation" g else base
    | none => base
  let named := setText (setText (setText (setText (setText bound "provider_ref" result.providerReference)
    "external_session_id" result.externalSessionId) "reason" (result.errorCategory.map (·.value)))
    "acknowledged_at" result.acknowledgedAt) "completed_at" result.completedAt
  named.merge (result.evidence.entries.filter fun (key,_) =>
    (named.get? key).isNone && key ≠ "status" && key ≠ "reason" && referenceKey key)

def recordDispatchResult (result : AgentDispatchResult) : AgentProg AgentDispatchResult := do
  let request ← loadAgentDispatch result.requestId
  let evidence := recordedEvidence request result
  let recorded := { result with errorMessage := none, evidence }
  saveAgentDispatchResult recorded
  if statusIn request.status (terminalResultStates.map (·.value)) then return recorded
  else do
    writeBackDispatch request { request with evidence }
    return recorded

/-- The result names the dispatch, the epoch and the provider it was asked of. -/
def requestBindingValid (request : AgentDispatchRequest) (result : AgentDispatchResult)
    (epoch : DriverEpoch) : Bool :=
  request.instanceId = result.instanceId && result.instanceId = epoch.instanceId &&
  request.sessionId = result.sessionId && result.sessionId = epoch.sessionId &&
  request.driverEpochId = result.driverEpochId && result.driverEpochId = epoch.id &&
  result.providerId = epoch.providerId

def recordProviderResult (epochId : String) (result : AgentDispatchResult) :
    AgentProg AgentDispatchResult := do
  requireAuthorized "record_provider_result"
    [("driver_epoch_id",epochId),("result_id",result.id),("request_id",result.requestId)]
  match ← unlessMissing (loadAgentDispatch result.requestId) with
  | none => quarantineResult result "unknown_dispatch_request"
  | some request =>
    if request.status = some (.str AgentOperationState.cancelled.value) then
      quarantineResult result "cancelled_operation_generation"
    else do
      let found ← unlessMissing do
        let epoch ← loadDriverEpoch epochId
        let active ← activeEpoch epoch.instanceId
        return (epoch,active)
      match found with
      | none => quarantineResult result "unknown_driver_epoch"
      | some (epoch,active) =>
        if requestBindingValid request result epoch = false then
          quarantineResult result "dispatch_request_binding_mismatch"
        else if epoch.closedAt ≠ none ∨ active.id ≠ epoch.id then
          quarantineResult result "closed_or_inactive_driver_epoch"
        else recordDispatchResult result

/-- Accept a request, or replay the dispatch that won the idempotency key. -/
def acceptOrReplay (request : AgentDispatchRequest) :
    AgentProg (AgentDispatchRequest ⊕ AgentDispatchResult) :=
  rescue (do
    let accepted ← acceptDispatch request (← clock)
    return .inl accepted) fun e =>
    if e.kind = .operationBlocked then raise (pausedError e.message)
    else if e.kind = .integrity ∨ e.kind = .value then do
      match ← dispatchForIdempotencyKey request.instanceId request.idempotencyKey with
      | none => do
        raiseTransitionRequired request.instanceId (some .paused)
        raise e
      | some winner => do
        let result ← resultFromDispatch winner
        return .inr result
    else raise e

/-- The answer of a provider, or the failure recorded when its driver raised. -/
def dispatchAnswer (request : AgentDispatchRequest) (providerId : String) :
    Option AgentDispatchResult → AgentProg AgentDispatchResult
  | some result => pure result
  | none => do
    let id ← newId "result"
    return { id, requestId := request.id, instanceId := request.instanceId, sessionId := request.sessionId
             driverEpochId := request.driverEpochId, providerId, state := .failed
             errorCategory := some .providerUnavailable }

/-- Claim an accepted request, call the provider and record what it answers. -/
def executeDispatch (cfg : Config) (epoch : DriverEpoch) (request : AgentDispatchRequest) :
    AgentProg AgentDispatchResult := do
  let driver ← cfg.driverForProvider epoch.providerId request.instanceId
  let claimed ← claimDispatchExecution request
  if claimed then do
    let answer ← ask (.dispatch driver request)
    let result ← dispatchAnswer request epoch.providerId answer
    let recorded ← recordProviderResult epoch.id result
    let _ ← completeDispatch request recorded
    return recorded
  else do
    let resultId ← newId "result"
    let result := cancelledResult request epoch.providerId resultId
    let _ ← completeDispatch request result
    recordDispatchResult result

def dispatch (cfg : Config) (instanceId prompt idempotencyKey : String) (requestedBy : Option String) :
    AgentProg AgentDispatchResult := do
  raiseTransitionRequired instanceId (some .paused)
  match ← dispatchForIdempotencyKey instanceId idempotencyKey with
  | some recorded => resultFromDispatch recorded
  | none => do
    let epoch ← activeEpoch instanceId
    require (epoch.state ∈ dispatchableStates)
      (pausedError s!"agent instance {instanceId} is paused in epoch {epoch.id}")
    requireAuthorized "dispatch" [("instance_id",instanceId),("driver_epoch_id",epoch.id),
      ("provider_id",epoch.providerId),("idempotency_key",idempotencyKey),
      ("requested_by",(requestedBy.filter (· ≠ "")).getD "unspecified")]
    let id ← newId "dispatch"
    let requestedAt ← clock
    requireIdentifiers [(id,"dispatch id"),(instanceId,"instance id"),(epoch.sessionId,"session id"),
      (epoch.id,"driver epoch id"),(idempotencyKey,"idempotency key")]
    require (isBlank prompt = false) (valueError "prompt must be non-empty")
    requireIdentifiers (requestedBy.toList.map fun r => (r,"requested by"))
    let request : AgentDispatchRequest := {
      id, instanceId, sessionId := epoch.sessionId, driverEpochId := epoch.id, idempotencyKey, prompt
      requestedAt := some requestedAt, requestedBy }
    match ← acceptOrReplay request with
    | .inr replayed => return replayed
    | .inl accepted => executeDispatch cfg epoch accepted

end Overseer.Agent
