import Overseer.Agent.Driver

/-! # Generation-bound operation coordination

`AgentOperationCoordinator`: the operation fence of an instance, dispatches bound
to its generation, and the draining of what is in flight. Times are drawn before
the transaction that stores them.
-/
namespace Overseer.Agent
open Overseer.Library

def AgentDispatchRequest.status (d : AgentDispatchRequest) : Option Json := d.evidence.get? "status"
def AgentDispatchRequest.generation (d : AgentDispatchRequest) : Option Json :=
  d.evidence.get? "operation_generation"
def AgentDispatchRequest.withStatus (d : AgentDispatchRequest) (status : String) : AgentDispatchRequest :=
  { d with evidence := d.evidence.set "status" (.str status) }

/-- The status is one of the texts. -/
def statusIn (status : Option Json) (texts : List String) : Bool :=
  match status with
  | some (.str text) => text ∈ texts
  | _ => false

section Coordinator
variable {m : Type → Type} [MonadStore AgentStore AgentError m]

def reserve (instanceId ownerToken : String) (ensuredAt reservedAt : Timestamp) :
    m AgentOperationReservation := atomically do
  let current ← ensureAgentOperation instanceId ensuredAt
  require (current.state = .opened)
    (blockedError s!"agent instance {instanceId} operation is already fenced")
  let reserved := { current with state := .fenced, ownerToken := some ownerToken, updatedAt := reservedAt }
  saveAgentOperation reserved current.generation .opened none
  return reserved

def verifyOwned (reservation : AgentOperationReservation) : m Unit := do
  let current ← orRaise (← unlessMissing (loadAgentOperation reservation.instanceId))
    (blockedError s!"agent instance {reservation.instanceId} reservation was lost")
  require (current = reservation)
    (blockedError s!"agent instance {reservation.instanceId} reservation ownership changed")

def release (reservation : AgentOperationReservation) (releasedAt : Timestamp) :
    m AgentOperationReservation := do
  let released := { reservation with
    generation := reservation.generation + 1, state := .opened, ownerToken := none, updatedAt := releasedAt }
  saveAgentOperation released reservation.generation .fenced reservation.ownerToken
  return released

def releaseIfOwned (reservation : AgentOperationReservation) (releasedAt : Timestamp) : m Bool :=
  atomically do
    let owned ← rescue (do verifyOwned reservation; return true) fun e =>
      if e.kind = .operationBlocked then pure false else raise e
    if owned then
      let _ ← release reservation releasedAt
      return true
    else return false

def acceptDispatch (request : AgentDispatchRequest) (ensuredAt : Timestamp) : m AgentDispatchRequest := do
  let operation ← ensureAgentOperation request.instanceId ensuredAt
  require (operation.state = .opened)
    (blockedError s!"agent instance {request.instanceId} operation is fenced")
  let accepted := { request with
    evidence := (request.evidence.set "operation_generation" (.int operation.generation)).set
      "status" (.str "accepted") }
  saveAgentDispatch accepted
  return accepted

/-- Claim a dispatch for execution: an accepted one becomes executing while the
fence is open in its own generation, and cancelled otherwise. -/
def claimDispatchExecution (request : AgentDispatchRequest) : m Bool := atomically do
  let current ← loadAgentDispatch request.id
  let operation ← loadAgentOperation request.instanceId
  if current.status ≠ some (.str "accepted") then
    return decide (current.status = some (.str "executing"))
  else do
    let mayExecute := decide (operation.state = .opened ∧
      current.generation.bind Json.asInt? = some (operation.generation : Int))
    saveAgentDispatch (current.withStatus (if mayExecute then "executing" else "cancelled"))
    return mayExecute

/-- `_inflight`: dispatches of the fenced generation or before that are not terminal. -/
def isInflight (reservation : AgentOperationReservation) (d : AgentDispatchRequest) : Bool :=
  d.instanceId = reservation.instanceId &&
  (match d.generation.bind Json.asInt? with
    | some g => decide (g ≤ reservation.generation)
    | none => true) &&
  !statusIn d.status terminalDispatchStatuses

def inflight (reservation : AgentOperationReservation) : m (List AgentDispatchRequest) := do
  return (← listAgentDispatches).filter (isInflight reservation)

def verifyQuiescent (reservation : AgentOperationReservation) : m Unit := do
  let waiting ← inflight reservation
  require (waiting = []) (blockedError s!"agent instance {reservation.instanceId} is not quiescent")

/-- Write each of the dispatches back as cancelled. -/
def cancelEach : List AgentDispatchRequest → m Unit
  | [] => pure ()
  | d :: rest => do
    saveAgentDispatch (d.withStatus "cancelled")
    cancelEach rest

def cancelUnclaimed (reservation : AgentOperationReservation) : m Unit := atomically do
  let current ← loadAgentOperation reservation.instanceId
  require (current = reservation) (blockedError "operation reservation changed")
  let waiting ← inflight reservation
  cancelEach (waiting.filter (·.status = some (.str "accepted")))

def cancelInflight (reservation : AgentOperationReservation) : m Unit := atomically do
  let current ← loadAgentOperation reservation.instanceId
  require (current = reservation) (blockedError "operation reservation changed during cancellation")
  let waiting ← inflight reservation
  cancelEach waiting

end Coordinator

def requireOpen (instanceId : String) : AgentProg AgentOperationReservation := do
  let operation ← ensureAgentOperation instanceId (← clock)
  require (operation.state = .opened) (blockedError s!"agent instance {instanceId} operation is fenced")
  return operation

/-- The provider's answer to a cancellation is a verified end of the session. -/
def cancellationVerified (reservation : AgentOperationReservation) (session : AgentSession)
    (result : AgentDispatchResult) : Bool :=
  result.instanceId = reservation.instanceId && result.providerId = session.providerId &&
  result.externalSessionId = session.externalSessionId &&
  (result.state = .cancelled || result.state = .succeeded)

def cancelAndVerify (reservation : AgentOperationReservation) (driver : AgentProvider)
    (session : AgentSession) : AgentProg AgentDispatchResult := do
  require (∃ e ∈ session.externalSessionId, isBlank e = false)
    (blockedError "provider cancellation lacks durable external session identity")
  let answer ← ask (.cancel driver session)
  let result ← orRaise answer (blockedError "provider cancellation could not be verified")
  require (cancellationVerified reservation session result = true)
    (blockedError "provider cancellation did not reach a verified terminal state")
  cancelInflight reservation
  return result

/-- Wait for quiescence while the deadline is ahead. -/
def awaitQuiescence (reservation : AgentOperationReservation) : ℕ → AgentProg Unit
  | 0 => do
    let _ ← inflight reservation
    return ()
  | polls + 1 => do
    let waiting ← inflight reservation
    if waiting = [] then return () else awaitQuiescence reservation polls

def drain (reservation : AgentOperationReservation) (driver : AgentProvider) (session : AgentSession) :
    AgentProg Unit := do
  cancelUnclaimed reservation
  awaitQuiescence reservation (← ask .polls)
  let waiting ← inflight reservation
  if waiting ≠ [] then do
    let _ ← cancelAndVerify reservation driver session
    verifyQuiescent reservation
  else verifyQuiescent reservation

/-- Save a dispatch worked out from the copy `loaded`. -/
def writeBackDispatch (loaded updated : AgentDispatchRequest) : AgentProg Unit :=
  Prog.holding { dispatches := [loaded] } (saveAgentDispatch updated)

/-- The evidence `complete_dispatch` files. -/
def completedEvidence (current : AgentDispatchRequest) (result : AgentDispatchResult) : Evidence :=
  let base := ((current.evidence.set "result_id" (.str result.id)).set
    "provider_id" (.str result.providerId)).set "status" (.str result.state.value)
  match result.errorCategory with
  | some category => base.set "reason" (.str category.value)
  | none => base

def completeDispatch (request : AgentDispatchRequest) (result : AgentDispatchResult) :
    AgentProg AgentDispatchRequest := do
  let current ← loadAgentDispatch request.id
  require (current.generation = request.generation) (blockedError "dispatch generation binding changed")
  if statusIn current.status [AgentOperationState.cancelled.value,AgentOperationState.quarantined.value] ∧
      result.state ∉ [AgentOperationState.cancelled,.quarantined] then
    return current
  else do
    let completed := { current with evidence := completedEvidence current result }
    writeBackDispatch current completed
    return completed

def cancelledResult (request : AgentDispatchRequest) (providerId resultId : String) : AgentDispatchResult where
  id := resultId
  requestId := request.id
  instanceId := request.instanceId
  sessionId := request.sessionId
  driverEpochId := request.driverEpochId
  providerId
  state := .cancelled
  errorCategory := some .cancelled
  evidence := (Dict.empty.set "operation_generation" (request.generation.getD .null)).set
    "reason" (.str "operation_fenced_before_provider_execution")

end Overseer.Agent
