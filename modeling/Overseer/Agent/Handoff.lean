import Overseer.Agent.Lifecycle

/-! # Handoffs

The handoff service of `agent_handoff.py` and the handoff workflow of
`AgentManager`: begin, import, acknowledge, promote, reconcile, roll back. Each
store transaction is a definition of its own.
-/
namespace Overseer.Agent
open Overseer.Library

def maxHandoffDepth : ℕ := 8
def maxHandoffItems : ℕ := 256
def maxHandoffStringLength : ℕ := 4096

mutual
/-- `_validate_handoff_bounds`: the text of the error, if any. -/
def boundsFault (depth : ℕ) : Json → Option String
  | .str text => if maxHandoffStringLength < text.length then some "handoff string size exceeds limit" else none
  | .obj members =>
    if maxHandoffDepth < depth then some "handoff nesting depth exceeds limit"
    else if maxHandoffItems < members.length then some "handoff item count exceeds limit"
    else boundsFaultMembers depth members
  | .arr items =>
    if maxHandoffDepth < depth then some "handoff nesting depth exceeds limit"
    else if maxHandoffItems < items.length then some "handoff item count exceeds limit"
    else boundsFaultItems depth items
  | _ => none
def boundsFaultMembers (depth : ℕ) : List (String × Json) → Option String
  | [] => none
  | (key,value) :: rest =>
    (if maxHandoffStringLength < key.length then some "handoff string size exceeds limit" else none) <|>
      (boundsFault (depth + 1) value <|> boundsFaultMembers depth rest)
def boundsFaultItems (depth : ℕ) : List Json → Option String
  | [] => none
  | value :: rest => boundsFault (depth + 1) value <|> boundsFaultItems depth rest
end

mutual
/-- `_reject_sensitive_material` rejects a value under a key. -/
def sensitive (cfg : Config) (key : Option String) : Json → Bool
  | .str text => key.any cfg.sensitiveKey || cfg.sensitiveValue text
  | .obj members => key.any cfg.sensitiveKey || sensitiveMembers cfg members
  | .arr items => key.any cfg.sensitiveKey || sensitiveItems cfg key items
  | _ => key.any cfg.sensitiveKey
def sensitiveMembers (cfg : Config) : List (String × Json) → Bool
  | [] => false
  | (key,value) :: rest => sensitive cfg (some key) value || sensitiveMembers cfg rest
def sensitiveItems (cfg : Config) (key : Option String) : List Json → Bool
  | [] => false
  | value :: rest => sensitive cfg key value || sensitiveItems cfg key rest
end

section Service
variable {m : Type → Type} [MonadStore AgentStore AgentError m]

/-- Raise the error a check found. -/
def refuse : Option String → m Unit
  | some message => raise (valueError message)
  | none => pure ()

/-- The bounds and the secrecy of an objective and its evidence. -/
def checkHandoffMaterial (cfg : Config) (objective : String) (evidence : Evidence) : m Unit := do
  refuse (boundsFault 0 (.str objective))
  refuse (boundsFault 0 (.obj evidence.entries))
  require (sensitive cfg (some "objective") (.str objective) = false)
    (valueError "handoff contains sensitive material")
  require (sensitive cfg none (.obj evidence.entries) = false) (valueError "handoff contains sensitive material")

/-- `AgentHandoffService.build_from_store`, with the id and the time of the package. -/
def buildFromStore (cfg : Config) (instanceId : String) (outgoing : DriverEpoch) (checkpoint : AgentCheckpoint)
    (incomingProviderId objective : String) (requiredCapabilities : AgentCapabilities) (id : String)
    (createdAt : Timestamp) : m AgentHandoffPackage := do
  require (checkpoint.instanceId = instanceId ∧ checkpoint.driverEpochId = outgoing.id ∧
      checkpoint.sessionId = outgoing.sessionId ∧ outgoing.instanceId = instanceId)
    (valueError "checkpoint does not belong to the outgoing driver epoch")
  let persisted ← orRaise (← unlessMissing (loadAgentCheckpoint checkpoint.id))
    (valueError "checkpoint must be persisted before handoff")
  require (persisted = checkpoint) (valueError "checkpoint does not match the persisted record")
  let evidence : Evidence := ((Dict.empty.set "checkpoint_id" (.str checkpoint.id)).set
    "outgoing_epoch_id" (.str outgoing.id)).set "status" (.str "ready")
  checkHandoffMaterial cfg objective evidence
  signAndSaveAgentHandoff cfg.hmac {
    id, instanceId, outgoingEpochId := outgoing.id, incomingProviderId, objective
    checkpointId := some checkpoint.id, requiredCapabilities, evidence, createdAt := some createdAt }

/-- `AgentHandoffService.validate`. -/
def validateHandoff (cfg : Config) (package : AgentHandoffPackage) (capabilities : AgentCapabilities) :
    m Unit := do
  checkHandoffMaterial cfg package.objective package.evidence
  let attested ← verifyAgentHandoffAttestation cfg.hmac package
  require (attested = true) (valueError "handoff attestation is missing or invalid")
  require (capabilities.handoffImport = true) (valueError "incoming provider lacks handoff_import capability")
  require (capabilities.supports package.requiredCapabilities = true)
    (valueError "incoming provider lacks required capabilities")

/-- `mapping.get(key)`, where a null counts as missing. -/
def evidenceValue (evidence : Evidence) (key : String) : Option Json := (evidence.get? key).filter (· ≠ .null)

def evidenceText (evidence : Evidence) (key : String) : Option String := (evidence.get? key).bind Json.asStr?

def operationForPackage (package : AgentHandoffPackage) : m AgentOperationReservation := do
  let operation ← loadAgentOperation package.instanceId
  require (operation.state = .fenced ∧
      evidenceValue package.evidence "operation_generation" = some (.int operation.generation) ∧
      evidenceValue package.evidence "operation_owner_ref" = operation.ownerToken.map .str)
    (handoffError "handoff operation reservation binding mismatch")
  return operation

/-- The import result is the acknowledgement of the package for the incoming epoch. -/
def acknowledges (package : AgentHandoffPackage) (incoming : DriverEpoch) (externalSessionId : String)
    (result : AgentDispatchResult) : Bool :=
  result.requestId = s!"handoff.{package.id}" && result.sessionId = incoming.sessionId &&
  result.driverEpochId = incoming.id && result.externalSessionId = some externalSessionId &&
  result.state ∈ acknowledgedStates

def durableIncomingSession (package : AgentHandoffPackage) (incoming : DriverEpoch) : m AgentSession := do
  let session ← sessionForEpoch incoming
  let external ← orRaise ((evidenceText package.evidence "incoming_external_session_id").filter
      fun e => !isBlank e && session.externalSessionId = some e)
    (handoffError "rollback lacks durable incoming external session identity")
  let resultId ← orRaise (evidenceText package.evidence "import_result_id")
    (handoffError "rollback lacks durable incoming external session identity")
  let result ← orRaise (← unlessMissing (loadAgentDispatchResult resultId))
    (handoffError "rollback durable import acknowledgement result is missing")
  require (acknowledges package incoming external result = true ∧ result.providerId = incoming.providerId ∧
      result.instanceId = incoming.instanceId)
    (handoffError "rollback durable import acknowledgement is contradictory")
  return session

end Service

def validatePersistedHandoff (cfg : Config) (package : AgentHandoffPackage) : AgentProg Unit := do
  let driver ← cfg.driverForProvider package.incomingProviderId package.instanceId
  validateHandoff cfg package driver.capabilities

/-- `_validate_checkpoint_for_handoff`, at the time the clock gives. -/
def validateCheckpointForHandoff (checkpoint : AgentCheckpoint) (maxAgeSeconds : ℕ) : AgentProg Unit := do
  let now ← clock
  let malformed := handoffError "checkpoint timestamp is malformed"
  let createdAt ← match checkpoint.createdAt with
    | some (.instant t) => pure t
    | _ => raise malformed
  let expiresAt ← match checkpoint.expiresAt with
    | none => pure none
    | some (.instant t) => pure (some t)
    | some (.malformed _) => raise malformed
  require (0 ≤ now - createdAt ∧ now - createdAt ≤ maxAgeSeconds * 1000000) (handoffError "checkpoint is stale")
  require (∀ e ∈ expiresAt, now < e) (handoffError "checkpoint is expired")
  require (statusIn (checkpoint.evidence.get? "status") ["ready","completed","checkpointed"] = true)
    (handoffError "checkpoint state is not transferable")

def maxCheckpointAgeSeconds : ℕ := 300

/-! ### The transactions -/

structure HandoffDraws where
  handoffId : String
  createdAt : Timestamp
  epoch : EpochDraws
  updatedAt : Timestamp

def drawHandoff : AgentProg HandoffDraws := do
  let handoffId ← newId "handoff"
  let createdAt ← clock
  let epoch ← drawEpoch
  let updatedAt ← clock
  return { handoffId, createdAt, epoch, updatedAt }

/-- The evidence that binds a package to its incoming epoch and its fence. -/
def importingEvidence (evidence : Evidence) (incoming : DriverEpoch) (operation : AgentOperationReservation) :
    Evidence :=
  ((((evidence.set "incoming_epoch_id" (.str incoming.id)).set "incoming_session_id" (.str incoming.sessionId)).set
    "operation_generation" (.int operation.generation)).set
    "operation_owner_ref" ((operation.ownerToken.map Json.str).getD .null)).set "status" (.str "importing")

def handoffObjective : String := "continue approved work from recorded checkpoint"

/-- The package, the transition and the incoming epoch of a handoff begin together. -/
def beginHandoffTx (cfg : Config) (instanceId : String) (outgoing : DriverEpoch) (checkpoint : AgentCheckpoint)
    (incomingProvider : AgentProvider) (incomingProviderId reason initiatedBy : String)
    (operation : AgentOperationReservation) (draws : HandoffDraws) :
    AgentTx (AgentHandoffPackage × DriverEpoch) := do
  saveAgentCheckpoint checkpoint
  let profile ← cfg.profile instanceId
  let built ← buildFromStore cfg instanceId outgoing checkpoint incomingProviderId handoffObjective
    profile.requiredCapabilities draws.handoffId draws.createdAt
  validateHandoff cfg built incomingProvider.capabilities
  let incoming ← openEpoch cfg instanceId incomingProviderId none none reason initiatedBy .queued false draws.epoch
  let began ← beginAgentTransition {
    instanceId, handoffId := built.id, outgoingEpochId := outgoing.id, incomingEpochId := incoming.id
    state := .importing, updatedAt := draws.updatedAt }
  require (began = true) (handoffError s!"agent instance {instanceId} transition is already active")
  let package ← signAndSaveAgentHandoff cfg.hmac
    { built with evidence := importingEvidence built.evidence incoming operation }
  saveDriverEpoch incoming
  return (package,incoming)

/-- The failure a completion finds in an import result. -/
def handoffFailure (package : AgentHandoffPackage) (incoming : DriverEpoch) (result : AgentDispatchResult) :
    Option AgentErrorCategory :=
  if result.state ∈ acknowledgedStates then
    if result.requestId = s!"handoff.{package.id}" ∧ result.instanceId = package.instanceId ∧
        result.providerId = package.incomingProviderId ∧ result.sessionId = incoming.sessionId ∧
        result.driverEpochId = incoming.id ∧ ∃ e ∈ result.externalSessionId, isBlank e = false then none
    else some .handoffIncompatible
  else some (result.errorCategory.getD .handoffIncompatible)

/-- A result as it is made durable. -/
def durableResult (result : AgentDispatchResult) : AgentDispatchResult :=
  { result with errorMessage := none, evidence := safeResultEvidence result.evidence }

/-- The states a failed completion leaves the incoming epoch in. -/
inductive InvalidState where
  | blocked | quarantined
  deriving DecidableEq

def InvalidState.value : InvalidState → String
  | blocked => "blocked"
  | quarantined => "quarantined"

def failedEpoch (incoming : DriverEpoch) (failure : AgentErrorCategory) (closedAt : Timestamp) :
    InvalidState → DriverEpoch
  | .blocked => { incoming with
      state := .blocked, closedAt := none, reason := some s!"handoff_failed:{failure.value}" }
  | .quarantined => { incoming with
      state := .quarantined, closedAt := some closedAt, reason := some s!"handoff_failed:{failure.value}" }

def failHandoffTx (cfg : Config) (package : AgentHandoffPackage) (incoming : DriverEpoch)
    (result : AgentDispatchResult) (failure : AgentErrorCategory) (invalidState : InvalidState)
    (closedAt updatedAt : Timestamp) : AgentTx DriverEpoch := do
  saveAgentDispatchResult (durableResult result)
  let failed := failedEpoch incoming failure closedAt invalidState
  saveDriverEpoch failed
  let _ ← signAndSaveAgentHandoff cfg.hmac { package with
    evidence := (package.evidence.set "status" (.str invalidState.value)).set "reason" (.str failure.value) }
  let transition ← loadAgentTransition package.instanceId
  saveAgentTransition { transition with state := .failed, updatedAt, reason := some failure.value }
  return failed

/-- `_persist_import_acknowledgement`, for the external session the result names. -/
def persistAcknowledgementTx (cfg : Config) (package : AgentHandoffPackage) (incoming : DriverEpoch)
    (result : AgentDispatchResult) (external : String) (observedAt updatedAt : Timestamp) :
    AgentTx AgentHandoffPackage := do
  saveAgentDispatchResult (durableResult result)
  let session ← loadAgentSession incoming.sessionId
  saveAgentSession { session with externalSessionId := some external, lastObservedAt := some (.instant observedAt) }
  let signed ← signAndSaveAgentHandoff cfg.hmac { package with
    evidence := ((package.evidence.set "status" (.str "import_acknowledged")).set
      "import_result_id" (.str result.id)).set "incoming_external_session_id" (.str external) }
  let transition ← loadAgentTransition signed.instanceId
  saveAgentTransition { transition with state := .importAcknowledged, updatedAt, reason := none }
  return signed

def promoteTx (cfg : Config) (package : AgentHandoffPackage) (transition : AgentInstanceTransition)
    (outgoing incoming : DriverEpoch) (closedAt updatedAt releasedAt : Timestamp) : AgentTx DriverEpoch := do
  let running := { incoming with state := .running }
  let _ ← signAndSaveAgentHandoff cfg.hmac
    { package with evidence := package.evidence.set "status" (.str "acknowledged") }
  let _ ← closeEpoch outgoing running.id closedAt
  saveDriverEpoch running
  saveAgentTransition { transition with state := .completed, updatedAt, reason := none }
  let operation ← operationForPackage package
  let _ ← release operation releasedAt
  return running

def reconcileTx (cfg : Config) (package : AgentHandoffPackage) (transition : AgentInstanceTransition)
    (updatedAt : Timestamp) : AgentTx AgentHandoffPackage := do
  saveAgentTransition { transition with state := .reconciling, updatedAt, reason := none }
  signAndSaveAgentHandoff cfg.hmac { package with evidence := package.evidence.set "status" (.str "reconciling") }

def blockRollbackTx (cfg : Config) (package : AgentHandoffPackage) (transition : AgentInstanceTransition)
    (incoming : DriverEpoch) (updatedAt : Timestamp) : AgentTx DriverEpoch := do
  let blocked := { incoming with state := .blocked, reason := some "rollback_cancel_unverified" }
  saveDriverEpoch blocked
  let _ ← signAndSaveAgentHandoff cfg.hmac { package with
    evidence := (package.evidence.set "status" (.str "rollback_blocked")).set
      "reason" (.str "incoming_cancel_unverified") }
  if transition.state ≠ .failed then
    saveAgentTransition { transition with
      state := .failed, updatedAt, reason := some "incoming_cancel_unverified" }
    return blocked
  else return blocked

def rollbackTx (cfg : Config) (package : AgentHandoffPackage) (transition : AgentInstanceTransition)
    (outgoing incoming : DriverEpoch) (operation : AgentOperationReservation)
    (closedAt updatedAt releasedAt : Timestamp) : AgentTx DriverEpoch := do
  if incoming.closedAt = none then
    saveDriverEpoch { incoming with
      state := .cancelled, closedAt := some closedAt, reason := some "handoff_rolled_back" }
  else pure ()
  let resumed := { outgoing with state := .running, reason := some "handoff_rolled_back" }
  saveDriverEpoch resumed
  let _ ← signAndSaveAgentHandoff cfg.hmac
    { package with evidence := package.evidence.set "status" (.str "rolled_back") }
  saveAgentTransition { transition with state := .rolledBack, updatedAt, reason := some "operator_rollback" }
  let _ ← release operation releasedAt
  return resumed

/-! ### The workflow -/

def promoteAcknowledgedHandoff (cfg : Config) (packageId : String) : AgentProg DriverEpoch := do
  let package ← loadAgentHandoff packageId
  validatePersistedHandoff cfg package
  let transition ← loadAgentTransition package.instanceId
  require (transition.state = .importAcknowledged) (handoffError "handoff import is not durably acknowledged")
  let incoming ← loadDriverEpoch transition.incomingEpochId
  let outgoing ← loadDriverEpoch transition.outgoingEpochId
  let session ← loadAgentSession incoming.sessionId
  let mismatch := handoffError "durable import acknowledgement binding mismatch"
  let external ← orRaise ((evidenceText package.evidence "incoming_external_session_id").filter
    fun e => !isBlank e && session.externalSessionId = some e) mismatch
  let resultId ← orRaise (evidenceText package.evidence "import_result_id") mismatch
  let result ← orRaise (← unlessMissing (loadAgentDispatchResult resultId))
    (handoffError "durable import acknowledgement result is missing")
  require (acknowledges package incoming external result = true ∧ result.id = resultId ∧
      result.instanceId = package.instanceId ∧ result.providerId = package.incomingProviderId)
    (handoffError "durable import result binding mismatch")
  let closedAt ← clock
  let updatedAt ← clock
  let releasedAt ← clock
  Prog.transaction { epochs := [incoming], otherEpochs := [outgoing] }
    (promoteTx cfg package transition outgoing incoming closedAt updatedAt releasedAt)

/-- `_complete_handoff`; a failure is raised by both callers under its category. -/
def completeHandoff (cfg : Config) (package : AgentHandoffPackage) (outgoing incoming : DriverEpoch)
    (result : AgentDispatchResult) (invalidState : InvalidState) : AgentProg DriverEpoch := do
  match handoffFailure package incoming result with
  | some failure => do
    let closedAt ← clock
    let updatedAt ← clock
    let held : Held := match invalidState with
      | .blocked => { epochs := [incoming], otherEpochs := [outgoing] }
      | .quarantined => { otherEpochs := [incoming,outgoing] }
    let _ ← Prog.transaction held
      (failHandoffTx cfg package incoming result failure invalidState closedAt updatedAt)
    raise (handoffError failure.value)
  | none => do
    let external ← orRaise (result.externalSessionId.filter fun e => !isBlank e)
      (handoffError "import acknowledgement lacks external session identity")
    let observedAt ← clock
    let updatedAt ← clock
    let acknowledged ← Prog.transaction { otherEpochs := [incoming] }
      (persistAcknowledgementTx cfg package incoming result external observedAt updatedAt)
    promoteAcknowledgedHandoff cfg acknowledged.id

/-- What `execute_failover` hands to the handoff it performs. -/
structure FailoverContext where
  reservation : AgentOperationReservation
  checkpoint : AgentCheckpoint
  maxAgeSeconds : ℕ
  execution : FailoverExecution

/-- Move the execution of a failover, where there is one. -/
def moveExecution (failover : Option FailoverContext) (expected state : FailoverExecutionState)
    (reason : Option String := none) : AgentProg Unit :=
  match failover with
  | none => pure ()
  | some context => do
    let updatedAt ← clock
    let _ ← transitionFailoverExecution context.execution.id expected state updatedAt reason
    return ()

/-- The checkpoint a handoff transfers: a new one, or the one the decision named. -/
def checkpointForHandoff (cfg : Config) (instanceId : String) (outgoing : DriverEpoch)
    (failover : Option FailoverContext) : AgentProg AgentCheckpoint := do
  let checkpoint ← match failover with
    | none => collectCheckpoint cfg instanceId outgoing
    | some context => do
      let stored ← loadAgentCheckpoint context.checkpoint.id
      require (stored = context.checkpoint) (handoffError "failover checkpoint record changed")
      require (stored.instanceId = instanceId ∧ stored.driverEpochId = outgoing.id ∧
        stored.sessionId = outgoing.sessionId) (handoffError "failover checkpoint binding changed")
      return stored
  validateCheckpointForHandoff checkpoint ((failover.map (·.maxAgeSeconds)).getD maxCheckpointAgeSeconds)
  return checkpoint

/-- The import result, or the failure recorded when the driver raised. -/
def importAnswer (package : AgentHandoffPackage) (incoming : DriverEpoch) (incomingProviderId : String) :
    Option AgentDispatchResult → AgentProg AgentDispatchResult
  | some result => pure result
  | none => do
    let id ← newId "result"
    return { id, requestId := s!"handoff.{package.id}", instanceId := package.instanceId
             sessionId := incoming.sessionId, driverEpochId := incoming.id, providerId := incomingProviderId
             state := .failed, errorCategory := some .providerUnavailable }

/-- The part of `_perform_handoff` behind the fence. -/
def handoffBehindFence (cfg : Config) (instanceId incomingProviderId initiatedBy reason : String)
    (outgoing : DriverEpoch) (operation : AgentOperationReservation) (failover : Option FailoverContext) :
    AgentProg DriverEpoch := do
  let outgoingDriver ← cfg.driverForProvider outgoing.providerId instanceId
  moveExecution failover .reserved .draining
  reraise .operationBlocked handoffError do
    let session ← sessionForEpoch outgoing
    drain operation outgoingDriver session
    verifyQuiescent operation
  let checkpoint ← rescue (checkpointForHandoff cfg instanceId outgoing failover) fun e =>
    if e.kind = .handoff then do
      moveExecution failover .draining .blockedPreimport (some "checkpoint_invalid")
      raise e
    else raise e
  let incomingDriver ← cfg.driverForProvider incomingProviderId instanceId
  let incomingProfile ← cfg.profileForProvider instanceId incomingProviderId
  moveExecution failover .draining .transitionStarted
  let draws ← drawHandoff
  let (package,incoming) ← Prog.transaction { otherEpochs := [outgoing], fresh := [draws.handoffId,draws.epoch.id] }
    (beginHandoffTx cfg instanceId outgoing checkpoint incomingDriver incomingProviderId reason initiatedBy
      operation draws)
  validateHandoff cfg package incomingDriver.capabilities
  let answer ← ask (.importHandoff incomingDriver incomingProfile package)
  let result ← importAnswer package incoming incomingProviderId answer
  completeHandoff cfg package outgoing incoming result .blocked

/-- `_perform_handoff`; a failover comes authorized and with its fence reserved. -/
def performHandoff (cfg : Config) (instanceId incomingProviderId initiatedBy approvalId : String)
    (authorizationOperation reason : String) (failover : Option FailoverContext) : AgentProg DriverEpoch := do
  match failover with
  | none => raiseTransitionRequired instanceId (some .handoff)
  | some _ => do
    let blocking ← blockingTransition instanceId
    require (blocking = none) (handoffError s!"agent instance {instanceId} transition blocks failover")
  let outgoing ← activeEpoch instanceId
  require (outgoing.state ∈ dispatchableStates)
    (pausedError s!"agent instance {instanceId} is paused in epoch {outgoing.id}")
  require (isBlank approvalId = false) (valueError "approval_id is required")
  let operation ← match failover with
    | none => do
      requireAuthorized authorizationOperation [("approval_id",approvalId),("instance_id",instanceId),
        ("incoming_provider_id",incomingProviderId),("outgoing_epoch_id",outgoing.id),("initiated_by",initiatedBy)]
      let token ← newId "operation"
      let ensuredAt ← clock
      let reservedAt ← clock
      reraise .operationBlocked handoffError (reserve instanceId token ensuredAt reservedAt)
    | some context => do
      verifyOwned context.reservation
      pure context.reservation
  handoffBehindFence cfg instanceId incomingProviderId initiatedBy reason outgoing operation failover

def manualHandoff (cfg : Config) (instanceId incomingProviderId initiatedBy approvalId : String) :
    AgentProg DriverEpoch :=
  performHandoff cfg instanceId incomingProviderId initiatedBy approvalId "manual_handoff" "manual_handoff" none

/-- The fields in which a reconciliation must repeat the durable acknowledgement. -/
def sameImport (a b : AgentDispatchResult) : Bool :=
  a.id = b.id && a.requestId = b.requestId && a.instanceId = b.instanceId && a.providerId = b.providerId &&
  a.externalSessionId = b.externalSessionId && a.sessionId = b.sessionId &&
  a.driverEpochId = b.driverEpochId && a.state = b.state

def reconcileHandoff (cfg : Config) (handoffId : String) (result : Option AgentDispatchResult)
    (initiatedBy : String) : AgentProg DriverEpoch := do
  requireAuthorized "reconcile_handoff" [("handoff_id",handoffId),("initiated_by",initiatedBy),
    ("result_id",(result.map (·.id)).getD "durable_acknowledgement")]
  let package ← loadAgentHandoff handoffId
  validatePersistedHandoff cfg package
  let transition ← loadAgentTransition package.instanceId
  require (transition.handoffId = package.id ∧ transition.state ∈ blockingTransitionStates)
    (handoffError "handoff is not awaiting reconciliation")
  let incomingId ← orRaise (package.evidence.get? "incoming_epoch_id") (keyError "incoming_epoch_id")
  let incoming ← loadDriverEpoch incomingId.text
  let outgoing ← loadDriverEpoch package.outgoingEpochId
  require (incoming.closedAt = none) (handoffError "closed incoming transition requires rollback")
  if transition.state = .importAcknowledged then do
    match result with
    | none => pure ()
    | some result => do
      let durableId := ((evidenceValue package.evidence "import_result_id").map Json.text).getD "None"
      let durable ← orRaise (← unlessMissing (loadAgentDispatchResult durableId))
        (handoffError "durable import acknowledgement result is missing")
      require (sameImport result durable = true)
        (handoffError "reconciliation contradicts durable import acknowledgement")
    promoteAcknowledgedHandoff cfg package.id
  else do
    let result ← orRaise result (handoffError "handoff reconciliation requires a provider result")
    let updatedAt ← clock
    let package ← Prog.transaction { otherEpochs := [incoming,outgoing] } (reconcileTx cfg package transition updatedAt)
    completeHandoff cfg package outgoing incoming result .quarantined

def rollbackHandoff (cfg : Config) (handoffId initiatedBy : String) : AgentProg DriverEpoch := do
  requireAuthorized "rollback_handoff" [("handoff_id",handoffId),("initiated_by",initiatedBy)]
  let package ← loadAgentHandoff handoffId
  validatePersistedHandoff cfg package
  let transition ← loadAgentTransition package.instanceId
  require (transition.handoffId = handoffId ∧ transition.state ∈ blockingTransitionStates)
    (handoffError "handoff transition cannot be rolled back")
  let outgoing ← loadDriverEpoch transition.outgoingEpochId
  let incoming ← loadDriverEpoch transition.incomingEpochId
  require (outgoing.closedAt = none) (handoffError "closed outgoing epoch cannot be resumed")
  let operation ← operationForPackage package
  let incomingDriver ← cfg.driverForProvider incoming.providerId incoming.instanceId
  let cancelled ← rescue (do
      let session ← durableIncomingSession package incoming
      let _ ← cancelAndVerify operation incomingDriver session
      return true) fun e =>
    if e.kind = .operationBlocked ∨ e.kind = .handoff then pure false else raise e
  if cancelled = false then do
    let updatedAt ← clock
    Prog.transaction { epochs := [incoming], otherEpochs := [outgoing] }
      (blockRollbackTx cfg package transition incoming updatedAt)
  else do
    let closedAt ← clock
    let updatedAt ← clock
    let releasedAt ← clock
    let held : Held := if incoming.closedAt = none then { epochs := [outgoing], otherEpochs := [incoming] }
      else { epochs := [outgoing,incoming] }
    Prog.transaction held (rollbackTx cfg package transition outgoing incoming operation closedAt updatedAt releasedAt)

end Overseer.Agent
