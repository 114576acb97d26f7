import Overseer.Agent.Contracts
import Overseer.Library.Program
import Mathlib.Data.List.Sort
import Mathlib.Data.List.Lex
import Mathlib.Data.Char

/-! # The agent tables of the store

The agent tables of `store.py`, one method per source method. A payload is the
record it encodes; a column that repeats a payload field is kept apart only where
a statement writes it on its own (the operation reservations). Methods are
written over `MonadStore`: outside a transaction their statements commit one by
one. Redaction of a payload is kept for the dispatch prompt alone: the sanitiser
changes no other text a modelled function reads back, and a record it refuses
ends the call at that statement, as a crash there does.
-/
namespace Overseer.Agent
open Overseer.Library

/-- A row of `agent_operation_reservations`. -/
structure OperationRow where
  generation : ℕ
  state : AgentOperationFenceState
  ownerToken : Option String
  payload : AgentOperationReservation
  deriving DecidableEq

inductive ActivationState where
  | starting | active | blocked
  deriving DecidableEq

structure AgentActivationReservation where
  instanceId : String
  reservationId : String
  ownerId : String
  generation : ℕ
  state : ActivationState
  startedAt : Timestamp
  leaseExpiresAt : Timestamp
  epochId : Option String
  reason : Option String
  deriving DecidableEq

structure AgentStore where
  sessions : Dict AgentSession := .empty
  epochs : Dict DriverEpoch := .empty
  dispatches : Dict AgentDispatchRequest := .empty
  results : Dict AgentDispatchResult := .empty
  checkpoints : Dict AgentCheckpoint := .empty
  handoffs : Dict AgentHandoffPackage := .empty
  activations : Dict AgentActivationReservation := .empty
  transitions : Dict AgentInstanceTransition := .empty
  operations : Dict OperationRow := .empty
  policies : Dict FailoverPolicy := .empty
  healthObservations : Dict ProviderHealthObservation := .empty
  risks : Dict ActiveAgentRisk := .empty
  decisions : Dict FailoverDecision := .empty
  executions : Dict FailoverExecution := .empty
  attempts : Dict AgentRecoveryAttempt := .empty
  outcomes : Dict AgentRecoveryOutcome := .empty
  deriving DecidableEq

namespace AgentStore

/-- Write a reservation: its columns repeat its payload. -/
def putOperation (s : AgentStore) (o : AgentOperationReservation) : AgentStore :=
  { s with operations := s.operations.set o.instanceId ⟨o.generation,o.state,o.ownerToken,o⟩ }

/-- `INSERT OR IGNORE` of the open first generation. -/
def ensureOperation (s : AgentStore) (instanceId : String) (updatedAt : Timestamp) : AgentStore :=
  match s.operations.get? instanceId with
  | some _ => s
  | none => s.putOperation ⟨instanceId,1,.opened,none,updatedAt⟩

def putTransition (s : AgentStore) (t : AgentInstanceTransition) : AgentStore :=
  { s with transitions := s.transitions.set t.instanceId t }

def putActivation (s : AgentStore) (a : AgentActivationReservation) : AgentStore :=
  { s with activations := s.activations.set a.instanceId a }

end AgentStore

abbrev AgentTx := Tx AgentStore AgentError

/-- A table whose rows are records filed under their id. -/
structure Table (α : Type) where
  name : String
  rows : AgentStore → Dict α
  setRows : AgentStore → Dict α → AgentStore
  id : α → String
  /-- The immutable fields of two records agree. -/
  identity : α → α → Bool
  /-- What the payload keeps of a record. -/
  stored : α → α := fun r => r
  /-- Two records share the key of a `UNIQUE` constraint. -/
  clash : α → α → Bool := fun _ _ => false
  /-- A trigger aborts the insertion. -/
  fenced : AgentStore → α → Bool := fun _ _ => false

def textLe (a b : String) : Prop := a.toList ≤ b.toList
instance : DecidableRel textLe := fun a b => inferInstanceAs (Decidable (a.toList ≤ b.toList))

namespace Table
variable {α : Type} (T : Table α)

/-- Another row holds the unique key of `r`. -/
def taken (s : AgentStore) (r : α) : Bool := (T.rows s).values.any fun row => T.clash row r && T.id row != T.id r

def put (s : AgentStore) (r : α) : AgentStore := T.setRows s ((T.rows s).set (T.id r) (T.stored r))

/-- `INSERT INTO`. -/
def insert (r : α) : AgentTx Unit := fun s =>
  if ((T.rows s).get? (T.id r)).isSome || T.taken s r || T.fenced s r then
    .error ⟨.integrity,s!"constraint failed on {T.name}"⟩
  else .ok ((),T.put s r)

/-- `UPDATE ... WHERE id = ?`. -/
def update (r : α) : AgentTx Unit := fun s =>
  if ((T.rows s).get? (T.id r)).isNone then .ok ((),s)
  else if T.taken s r then .error ⟨.integrity,s!"constraint failed on {T.name}"⟩
  else .ok ((),T.put s r)

/-- The rows in the order of their ids. -/
def sorted (s : AgentStore) : List α :=
  ((T.rows s).entries.insertionSort fun a b => textLe a.1 b.1).map Prod.snd

end Table

section Methods
variable {m : Type → Type} [MonadStore AgentStore AgentError m] {α : Type}

def saveAgentRecord (T : Table α) (record : α) : m Unit := do
  match ← atomically (Tx.read fun s => (T.rows s).get? (T.id record)) with
  | some existing => do
    require (T.identity existing (T.stored record) = true)
      (valueError s!"{T.name} immutable identity cannot change")
    atomically (T.update record)
  | none => atomically (T.insert record)

def rejectAgentSecondaryCollision (T : Table α) (record : α) (label : String) : m Unit := do
  match ← atomically (Tx.read fun s => (T.rows s).values.find? fun row => T.clash row record) with
  | some row => require (T.id row = T.id record) (valueError s!"{label} already belongs to {T.id row}")
  | none => pure ()

/-- `_get_payload`, decoded. -/
def loadAgentRecord (T : Table α) (id : String) : m α := do
  orRaise (← atomically (Tx.read fun s => (T.rows s).get? id)) (keyError id)

/-- `_list_payloads`, decoded. -/
def listAgentRecords (T : Table α) : m (List α) := atomically (Tx.read T.sorted)

/-- The result of a load, or nothing where it raises `KeyError`. -/
def unlessMissing (load : m α) : m (Option α) :=
  rescue (do return some (← load)) fun e => if e.kind = .key then pure none else raise e

end Methods

def sessionTable : Table AgentSession where
  name := "agent_sessions"
  rows := AgentStore.sessions
  setRows s d := { s with sessions := d }
  id := AgentSession.id
  identity a b := a.id = b.id ∧ a.providerId = b.providerId ∧ a.workspace = b.workspace ∧
    a.transport = b.transport ∧ a.instanceId = b.instanceId ∧ a.modelProfileId = b.modelProfileId ∧
    a.discoveredAt = b.discoveredAt

def epochTable : Table DriverEpoch where
  name := "agent_driver_epochs"
  rows := AgentStore.epochs
  setRows s d := { s with epochs := d }
  id := DriverEpoch.id
  identity a b := a.id = b.id ∧ a.instanceId = b.instanceId ∧ a.sessionId = b.sessionId ∧
    a.providerId = b.providerId ∧ a.ordinal = b.ordinal ∧ a.openedAt = b.openedAt
  clash a b := a.instanceId = b.instanceId ∧ a.ordinal = b.ordinal

/-- The trigger `agent_dispatch_transition_fence`. A payload without the generation
gives SQL's null, which makes only the comparison of the column false. -/
def dispatchFenced (s : AgentStore) (d : AgentDispatchRequest) : Bool :=
  (match s.transitions.get? d.instanceId with
    | some t => t.state ∈ blockingTransitionStates
    | none => false) ||
  match s.operations.get? d.instanceId with
    | some row => decide (row.state ≠ .opened) || (match d.evidence.get? "operation_generation" with
      | some (.int g) => decide ((row.generation : Int) ≠ g)
      | some _ => true
      | none => false)
    | none => false

def redactedDispatchPrompt : String := "[redacted dispatch prompt]"

def dispatchTable : Table AgentDispatchRequest where
  name := "agent_dispatches"
  rows := AgentStore.dispatches
  setRows s d := { s with dispatches := d }
  id := AgentDispatchRequest.id
  identity a b := a.id = b.id ∧ a.instanceId = b.instanceId ∧ a.sessionId = b.sessionId ∧
    a.driverEpochId = b.driverEpochId ∧ a.idempotencyKey = b.idempotencyKey ∧
    a.requestedAt = b.requestedAt ∧ a.requestedBy = b.requestedBy
  stored d := { d with prompt := redactedDispatchPrompt }
  clash a b := a.instanceId = b.instanceId ∧ a.idempotencyKey = b.idempotencyKey
  fenced := dispatchFenced

def resultTable : Table AgentDispatchResult where
  name := "agent_dispatch_results"
  rows := AgentStore.results
  setRows s d := { s with results := d }
  id := AgentDispatchResult.id
  identity a b := a = b

def checkpointTable : Table AgentCheckpoint where
  name := "agent_checkpoints"
  rows := AgentStore.checkpoints
  setRows s d := { s with checkpoints := d }
  id := AgentCheckpoint.id
  identity a b := a.id = b.id ∧ a.instanceId = b.instanceId ∧ a.sessionId = b.sessionId ∧
    a.driverEpochId = b.driverEpochId ∧ a.createdAt = b.createdAt ∧ a.expiresAt = b.expiresAt

def handoffTable : Table AgentHandoffPackage where
  name := "agent_handoffs"
  rows := AgentStore.handoffs
  setRows s d := { s with handoffs := d }
  id := AgentHandoffPackage.id
  identity a b := a.id = b.id ∧ a.instanceId = b.instanceId ∧ a.outgoingEpochId = b.outgoingEpochId ∧
    a.incomingProviderId = b.incomingProviderId ∧ a.objective = b.objective ∧
    a.checkpointId = b.checkpointId ∧ a.requiredCapabilities = b.requiredCapabilities ∧
    a.createdAt = b.createdAt

def policyTable : Table FailoverPolicy where
  name := "agent_failover_policies"
  rows := AgentStore.policies
  setRows s d := { s with policies := d }
  id := FailoverPolicy.id
  identity a b := a = b

def healthTable : Table ProviderHealthObservation where
  name := "agent_provider_health_observations"
  rows := AgentStore.healthObservations
  setRows s d := { s with healthObservations := d }
  id := ProviderHealthObservation.id
  identity a b := a = b

def riskTable : Table ActiveAgentRisk where
  name := "agent_active_risks"
  rows := AgentStore.risks
  setRows s d := { s with risks := d }
  id := ActiveAgentRisk.id
  identity a b := a = b

def decisionTable : Table FailoverDecision where
  name := "agent_failover_decisions"
  rows := AgentStore.decisions
  setRows s d := { s with decisions := d }
  id := FailoverDecision.id
  identity a b := a = b

def executionTable : Table FailoverExecution where
  name := "agent_failover_executions"
  rows := AgentStore.executions
  setRows s d := { s with executions := d }
  id := FailoverExecution.id
  identity a b := a.id = b.id ∧ a.decisionId = b.decisionId ∧ a.instanceId = b.instanceId ∧
    a.outgoingEpochId = b.outgoingEpochId ∧ a.outgoingSessionId = b.outgoingSessionId ∧
    a.outgoingProviderId = b.outgoingProviderId ∧ a.checkpointId = b.checkpointId ∧
    a.operationGeneration = b.operationGeneration ∧ a.operationOwnerRef = b.operationOwnerRef ∧
    a.createdAt = b.createdAt

def attemptTable : Table AgentRecoveryAttempt where
  name := "agent_recovery_attempts"
  rows := AgentStore.attempts
  setRows s d := { s with attempts := d }
  id := AgentRecoveryAttempt.id
  identity a b := a.id = b.id ∧ a.idempotencyKey = b.idempotencyKey ∧ a.executionId = b.executionId ∧
    a.decisionId = b.decisionId ∧ a.instanceId = b.instanceId ∧ a.outgoingEpochId = b.outgoingEpochId ∧
    a.providerId = b.providerId ∧ a.internalSessionId = b.internalSessionId ∧
    a.externalSessionId = b.externalSessionId ∧ a.operationGeneration = b.operationGeneration ∧
    a.operationOwnerRef = b.operationOwnerRef ∧ a.createdAt = b.createdAt

def outcomeTable : Table AgentRecoveryOutcome where
  name := "agent_recovery_outcomes"
  rows := AgentStore.outcomes
  setRows s d := { s with outcomes := d }
  id := AgentRecoveryOutcome.id
  identity a b := a = b

section Methods
variable {m : Type → Type} [MonadStore AgentStore AgentError m]

def loadAgentSession : String → m AgentSession := loadAgentRecord sessionTable

def saveAgentSession (session : AgentSession) : m Unit := do
  let existing ← unlessMissing (loadAgentSession session.id)
  require (∀ e ∈ existing, e.externalSessionId ≠ none → session.externalSessionId = e.externalSessionId)
    (valueError "agent_sessions immutable identity field external_session_id cannot change")
  saveAgentRecord sessionTable session

def saveDriverEpoch (epoch : DriverEpoch) : m Unit := do
  rejectAgentSecondaryCollision epochTable epoch "driver epoch instance_id and ordinal"
  saveAgentRecord epochTable epoch

def loadDriverEpoch : String → m DriverEpoch := loadAgentRecord epochTable
def listDriverEpochs : m (List DriverEpoch) := listAgentRecords epochTable

def saveAgentDispatch (dispatch : AgentDispatchRequest) : m Unit := do
  rejectAgentSecondaryCollision dispatchTable dispatch "dispatch idempotency key"
  saveAgentRecord dispatchTable dispatch

def loadAgentDispatch : String → m AgentDispatchRequest := loadAgentRecord dispatchTable
def listAgentDispatches : m (List AgentDispatchRequest) := listAgentRecords dispatchTable

def loadAgentDispatchByIdempotency (instanceId idempotencyKey : String) : m AgentDispatchRequest := do
  orRaise (← atomically (Tx.read fun s => s.dispatches.values.find? fun d =>
    d.instanceId = instanceId ∧ d.idempotencyKey = idempotencyKey)) (keyError s!"{instanceId} {idempotencyKey}")

def saveAgentDispatchResult (result : AgentDispatchResult) : m Unit := saveAgentRecord resultTable result
def loadAgentDispatchResult : String → m AgentDispatchResult := loadAgentRecord resultTable
def saveAgentCheckpoint (checkpoint : AgentCheckpoint) : m Unit := saveAgentRecord checkpointTable checkpoint
def loadAgentCheckpoint : String → m AgentCheckpoint := loadAgentRecord checkpointTable
def listAgentCheckpoints : m (List AgentCheckpoint) := listAgentRecords checkpointTable
def saveAgentHandoff (handoff : AgentHandoffPackage) : m Unit := saveAgentRecord handoffTable handoff
def loadAgentHandoff : String → m AgentHandoffPackage := loadAgentRecord handoffTable
def listAgentHandoffs : m (List AgentHandoffPackage) := listAgentRecords handoffTable

def attestationVersion : String := "hmac-sha256-v1"

/-- `hmac` is the keyed digest of the canonical bytes of a package. -/
def signAndSaveAgentHandoff (hmac : AgentHandoffPackage → String) (handoff : AgentHandoffPackage) :
    m AgentHandoffPackage :=
  let versioned := { handoff with attestationVersion := some attestationVersion, signature := none }
  let signed := { versioned with signature := some (hmac versioned) }
  atomically do
    saveAgentHandoff signed
    return signed

def verifyAgentHandoffAttestation (hmac : AgentHandoffPackage → String) (handoff : AgentHandoffPackage) :
    m Bool := do
  if handoff.attestationVersion = some attestationVersion ∧ handoff.signature ≠ none then
    let persisted ← unlessMissing (loadAgentHandoff handoff.id)
    return decide (persisted = some handoff ∧
      handoff.signature = some (hmac { handoff with signature := none }))
  else return false

def ensureAgentOperation (instanceId : String) (updatedAt : Timestamp) : m AgentOperationReservation := do
  atomically (Tx.write fun s => s.ensureOperation instanceId updatedAt)
  let row ← orRaise (← atomically (Tx.read fun s => s.operations.get? instanceId)) (keyError instanceId)
  return row.payload

def loadAgentOperation (instanceId : String) : m AgentOperationReservation := do
  let row ← orRaise (← atomically (Tx.read fun s => s.operations.get? instanceId)) (keyError instanceId)
  return row.payload

/-- The conditional `UPDATE` of a reservation: one row changes when its columns are as expected. -/
def updateAgentOperation (operation : AgentOperationReservation) (expectedGeneration : ℕ)
    (expectedState : AgentOperationFenceState) (expectedOwnerToken : Option String) : AgentTx Unit := fun s =>
  match s.operations.get? operation.instanceId with
  | some row =>
    if row.generation = expectedGeneration ∧ row.state = expectedState ∧ row.ownerToken = expectedOwnerToken then
      .ok ((),s.putOperation operation)
    else .error (valueError "agent operation reservation changed concurrently")
  | none => .error (valueError "agent operation reservation changed concurrently")

def saveAgentOperation (operation : AgentOperationReservation) (expectedGeneration : ℕ)
    (expectedState : AgentOperationFenceState) (expectedOwnerToken : Option String) : m Unit :=
  atomically (updateAgentOperation operation expectedGeneration expectedState expectedOwnerToken)

/-- `INSERT ... ON CONFLICT DO UPDATE WHERE state IN ('completed', 'rolled_back')`. -/
def upsertAgentTransition (transition : AgentInstanceTransition) : AgentTx Bool := fun s =>
  match s.transitions.get? transition.instanceId with
  | some current =>
    if current.state = .completed ∨ current.state = .rolledBack then
      .ok (true,s.putTransition transition)
    else .ok (false,s)
  | none => .ok (true,s.putTransition transition)

def beginAgentTransition (transition : AgentInstanceTransition) : m Bool := do
  require (transition.state = .importing) (valueError "new agent transition must begin in importing state")
  atomically (upsertAgentTransition transition)

def loadAgentTransition (instanceId : String) : m AgentInstanceTransition := do
  orRaise (← atomically (Tx.read fun s => s.transitions.get? instanceId)) (keyError instanceId)

/-- `UPDATE ... WHERE instance_id = ? AND handoff_id = ? AND state = ?`. -/
def updateAgentTransition (transition : AgentInstanceTransition) (expectedState : AgentTransitionState) :
    AgentTx Unit := fun s =>
  match s.transitions.get? transition.instanceId with
  | some current =>
    if current.handoffId = transition.handoffId ∧ current.state = expectedState then
      .ok ((),s.putTransition transition)
    else .error (valueError "agent transition state changed concurrently")
  | none => .error (valueError "agent transition state changed concurrently")

def saveAgentTransition (transition : AgentInstanceTransition) : m Unit := do
  let current ← loadAgentTransition transition.instanceId
  require (current.handoffId = transition.handoffId ∧ current.outgoingEpochId = transition.outgoingEpochId ∧
      current.incomingEpochId = transition.incomingEpochId)
    (valueError "agent transition identity cannot change")
  require (transition.state ∈ current.state.successors)
    (valueError s!"invalid agent transition {current.state.value} to {transition.state.value}")
  atomically (updateAgentTransition transition current.state)

/-- The `INSERT ... ON CONFLICT DO UPDATE` of an activation: a fresh reservation, a
retry of a blocked one, or a takeover once the lease has run out. -/
def upsertAgentActivation (instanceId reservationId ownerId : String) (startedAt leaseExpiresAt : Timestamp)
    (allowBlockedRetry : Bool) (observedAt : Timestamp) : AgentTx Bool := fun s =>
  let starting (generation : ℕ) : AgentStore := s.putActivation
    ⟨instanceId,reservationId,ownerId,generation,.starting,startedAt,leaseExpiresAt,none,none⟩
  match s.activations.get? instanceId with
  | none => .ok (true,starting 1)
  | some current =>
    if (current.state = .blocked ∧ allowBlockedRetry = true) ∨
        (current.state = .starting ∧ current.leaseExpiresAt ≤ observedAt) then
      .ok (true,starting (current.generation + 1))
    else .ok (false,s)

def reserveAgentActivation (instanceId reservationId ownerId : String) (startedAt leaseExpiresAt : Timestamp)
    (allowBlockedRetry : Bool) (observedAt : Timestamp) : m Bool :=
  atomically (upsertAgentActivation instanceId reservationId ownerId startedAt leaseExpiresAt allowBlockedRetry
    observedAt)

def loadAgentActivation (instanceId : String) : m AgentActivationReservation := do
  orRaise (← atomically (Tx.read fun s => s.activations.get? instanceId)) (keyError instanceId)

/-- The conditional `UPDATE` of an activation that is starting. -/
def updateAgentActivation (instanceId reservationId ownerId : String) (generation : ℕ)
    (state : ActivationState) (epochId reason : Option String) : AgentTx Unit := fun s =>
  match s.activations.get? instanceId with
  | some current =>
    if current.reservationId = reservationId ∧ current.ownerId = ownerId ∧
        current.generation = generation ∧ current.state = .starting then
      .ok ((),s.putActivation { current with state, epochId, reason })
    else .error (valueError "activation reservation ownership changed")
  | none => .error (valueError "activation reservation ownership changed")

def finishAgentActivation (instanceId reservationId ownerId : String) (generation : ℕ)
    (state : ActivationState) (epochId reason : Option String) : m Unit :=
  atomically (updateAgentActivation instanceId reservationId ownerId generation state epochId reason)

def loadFailoverPolicy : String → m FailoverPolicy := loadAgentRecord policyTable

def listProviderHealthObservations (instanceId : String) : m (List ProviderHealthObservation) := do
  return (← listAgentRecords healthTable).filter (·.instanceId = instanceId)

def listActiveAgentRisks (instanceId : String) : m (List ActiveAgentRisk) := do
  return (← listAgentRecords riskTable).filter (·.instanceId = instanceId)

def saveFailoverDecision (decision : FailoverDecision) : m Unit := saveAgentRecord decisionTable decision
def loadFailoverDecision : String → m FailoverDecision := loadAgentRecord decisionTable

/-- `UPDATE ... WHERE id = ? AND consumed_at IS NULL`. -/
def updateFailoverDecision (decisionId : String) (updated : FailoverDecision) : AgentTx Unit := fun s =>
  match s.decisions.get? decisionId with
  | some row => if row.consumedAt = none then
      .ok ((),{ s with decisions := s.decisions.set decisionId updated })
    else .error (valueError "failover decision is already consumed")
  | none => .error (valueError "failover decision is already consumed")

def consumeFailoverDecision (decisionId : String) (expectedGeneration : ℕ) (consumedAt : Timestamp) :
    m FailoverDecision := do
  let current ← loadFailoverDecision decisionId
  require (current.consumedAt = none) (valueError "failover decision is already consumed")
  require (current.operationGeneration = expectedGeneration) (valueError "failover decision generation changed")
  let updated := { current with consumedAt := some consumedAt }
  atomically (updateFailoverDecision decisionId updated)
  return updated

def saveFailoverExecution (execution : FailoverExecution) : m Unit := saveAgentRecord executionTable execution
def loadFailoverExecution : String → m FailoverExecution := loadAgentRecord executionTable

def FailoverExecutionState.allowed : FailoverExecutionState → List FailoverExecutionState
  | reserved => [.draining,.recovered]
  | draining => [.blockedPreimport,.transitionStarted,.recovered]
  | blockedPreimport => [.recovering]
  | recovering => [.blockedPreimport,.recovered]
  | recovered => []
  | transitionStarted => []

/-- `UPDATE ... WHERE id = ? AND state = ?`. -/
def updateFailoverExecution (executionId : String) (expectedState : FailoverExecutionState)
    (updated : FailoverExecution) : AgentTx Unit := fun s =>
  match s.executions.get? executionId with
  | some row => if row.state = expectedState then
      .ok ((),{ s with executions := s.executions.set executionId updated })
    else .error (valueError "failover execution state changed")
  | none => .error (valueError "failover execution state changed")

def transitionFailoverExecution (executionId : String) (expectedState state : FailoverExecutionState)
    (updatedAt : Timestamp) (reason resumeResultRef : Option String := none) : m FailoverExecution := do
  let current ← loadFailoverExecution executionId
  require (current.state = expectedState) (valueError "failover execution state changed")
  require (state ∈ expectedState.allowed) (valueError "invalid failover execution transition")
  let updated := { current with state, updatedAt, reason, resumeResultRef }
  atomically (updateFailoverExecution executionId expectedState updated)
  return updated

def saveAgentRecoveryAttempt (attempt : AgentRecoveryAttempt) : m Unit := saveAgentRecord attemptTable attempt

def recoveryAttemptForExecution (executionId : String) : m (Option AgentRecoveryAttempt) := do
  let found := (← listAgentRecords attemptTable).filter (·.executionId = executionId)
  require (found.length ≤ 1) (valueError "multiple recovery attempts for one execution")
  return found.head?

def claimFailoverRecovery (executionId : String) (attempt : AgentRecoveryAttempt) (updatedAt : Timestamp) :
    m FailoverExecution := atomically do
  let found ← recoveryAttemptForExecution executionId
  require (found = none) (valueError "recovery attempt already exists")
  let execution ← transitionFailoverExecution executionId .blockedPreimport .recovering updatedAt
  saveAgentRecoveryAttempt attempt
  return execution

def loadAgentRecoveryAttempt : String → m AgentRecoveryAttempt := loadAgentRecord attemptTable

/-- `UPDATE ... WHERE id = ? AND state = ?`. -/
def updateAgentRecoveryAttempt (attemptId : String) (expectedState : AgentRecoveryAttemptState)
    (updated : AgentRecoveryAttempt) : AgentTx Unit := fun s =>
  match s.attempts.get? attemptId with
  | some row => if row.state = expectedState then
      .ok ((),{ s with attempts := s.attempts.set attemptId updated })
    else .error (valueError "recovery attempt state changed")
  | none => .error (valueError "recovery attempt state changed")

def transitionAgentRecoveryAttempt (attemptId : String) (expectedState state : AgentRecoveryAttemptState)
    (updatedAt : Timestamp) : m AgentRecoveryAttempt := do
  let current ← loadAgentRecoveryAttempt attemptId
  require (current.state = expectedState) (valueError "recovery attempt state changed")
  let updated := { current with state, updatedAt }
  atomically (updateAgentRecoveryAttempt attemptId expectedState updated)
  return updated

def recoveryOutcomeForAttempt (attemptId : String) : m (Option AgentRecoveryOutcome) := do
  let found := (← listAgentRecords outcomeTable).filter (·.attemptId = attemptId)
  require (found.length ≤ 1) (valueError "multiple recovery outcomes for one attempt")
  return found.head?

def saveAgentRecoveryOutcome (outcome : AgentRecoveryOutcome) : m Unit := do
  let existing ← atomically (Tx.read fun s => s.outcomes.get? outcome.id)
  require (∀ e ∈ existing, e = outcome) (valueError "recovery outcome is immutable")
  saveAgentRecord outcomeTable outcome

def recordAgentRecoveryResultBundle (result : AgentDispatchResult) (outcome : AgentRecoveryOutcome)
    (attemptId : String) (updatedAt : Timestamp) : m Unit := atomically do
  let existing ← unlessMissing (loadAgentDispatchResult result.id)
  require (existing = none) (valueError (if existing = some result then
    "recovery result already exists without owned outcome" else "forged preexisting recovery result"))
  let recorded ← recoveryOutcomeForAttempt attemptId
  require (recorded = none) (valueError "recovery outcome already exists")
  saveAgentDispatchResult result
  saveAgentRecoveryOutcome outcome
  let _ ← transitionAgentRecoveryAttempt attemptId .externalStarted .resultRecorded updatedAt
  return ()

end Methods
end Overseer.Agent
