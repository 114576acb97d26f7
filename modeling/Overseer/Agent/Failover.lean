import Overseer.Agent.Handoff

/-! # Controlled failover

The evaluation of failover evidence, the execution of an allowed decision and the
recovery of an execution that stopped before its transition began. Where the
provider's executables resolve is drawn from the outside once per evaluation.
-/
namespace Overseer.Agent
open Overseer.Library

/-! ### The evidence -/

/-- What `evaluate_failover_evidence` is given beside the identity of the decision. -/
structure FailoverEvidence where
  policy : Option FailoverPolicy
  health : List ProviderHealthObservation
  checkpoint : Option AgentCheckpoint
  risks : List ActiveAgentRisk
  candidateCapabilities : List (String × AgentCapabilities)
  healthyCandidates : List String
  candidateReadiness : List (String × String)
  requiredCapabilities : AgentCapabilities
  transitionChanged : Bool

def byObservation (health : List ProviderHealthObservation) : List ProviderHealthObservation :=
  health.insertionSort fun a b => a.observedAt ≤ b.observedAt

/-- The failures the outgoing provider's latest observations end with. -/
def trailingFailures (outgoingHealth : List ProviderHealthObservation) : List ProviderHealthObservation :=
  ((byObservation outgoingHealth).reverse.takeWhile fun h => h.state ∈ [.transportFailure,.failed]).reverse

/-- The checkpoint is bound to the epoch, young enough and not expired. -/
def checkpointUsable (instanceId : String) (epoch : DriverEpoch) (now : Timestamp) (maxAgeSeconds : ℕ)
    (checkpoint : AgentCheckpoint) : Bool :=
  match checkpoint.createdAt,checkpoint.expiresAt with
  | some (.instant created),expires =>
    checkpoint.instanceId = instanceId && checkpoint.driverEpochId = epoch.id &&
    checkpoint.sessionId = epoch.sessionId &&
    decide (0 ≤ now - created ∧ now - created ≤ maxAgeSeconds * 1000000) &&
    (match expires with
      | none => true
      | some (.instant t) => decide (now < t)
      | some (.malformed text) => text = "")
  | _,_ => false

/-- The most seconds that a `timedelta` holds. -/
def timedeltaMax : ℕ := 86399999999999

def timedeltaError (seconds : ℕ) : AgentError := ⟨.overflow,s!"days={seconds / 86400}; must have magnitude <= 999999999"⟩

/-- The last local time of a `datetime`, in microseconds from 1970. -/
def lastLocalTime : Int := 253402300799999999

/-- The age of the checkpoint is compared with the greatest one allowed. -/
def ageCompared (now : Timestamp) (checkpoint : AgentCheckpoint) : Bool :=
  match checkpoint.createdAt,checkpoint.expiresAt with
  | some (.instant created),none | some (.instant created),some (.instant _) => created ≤ now
  | some (.instant created),some (.malformed text) => text = "" && decide (created ≤ now)
  | _,_ => false

mutual
/-- A frozen value that a set can look up: a mapping cannot be hashed, nor a tuple with one in it. -/
def frozenHashable : Json → Bool
  | .obj _ => false
  | .arr items => allHashable items
  | .null | .bool _ | .int _ | .float _ | .str _ => true
def allHashable : List Json → Bool
  | [] => true
  | item :: rest => frozenHashable item && allHashable rest
end

/-- The approved fallbacks that are healthy, configured and ready, in the order of the policy. -/
def FailoverEvidence.candidates (e : FailoverEvidence) : List String :=
  match e.policy with
  | none => []
  | some policy => policy.approvedFallbackProviderIds.filter fun p =>
    p ∈ e.healthyCandidates ∧ p ∈ e.candidateCapabilities.map Prod.fst ∧ p ∈ e.candidateReadiness.map Prod.fst

/-- The first candidate that can import a handoff and supports what is required. -/
def FailoverEvidence.selected (e : FailoverEvidence) : Option String :=
  e.candidates.find? fun p => (e.candidateCapabilities.lookup p).any fun c =>
    c.handoffImport && c.supports e.requiredCapabilities

/-- The blockers, in the order of `FAILOVER_BLOCKER_VOCABULARY`. -/
def FailoverEvidence.blockers (e : FailoverEvidence) (instanceId : String) (epoch : DriverEpoch)
    (now : Timestamp) : List String :=
  let outgoing := e.health.filter fun h => h.instanceId = instanceId ∧ h.providerId = epoch.providerId
  let failures := trailingFailures outgoing
  let approvedAt := e.policy.bind (·.approvedAt)
  let unresolved := e.risks.filter fun r => r.instanceId = instanceId ∧ r.resolved = false
  let maxAge := (e.policy.map (·.checkpointMaxAgeSeconds)).getD 0
  [(e.policy.all fun p => !p.approved,"failover policy missing or not approved"),
    (failures ≠ [] && approvedAt.all fun a => failures.any fun f => f.observedAt ≤ a,
      "policy approval does not predate failure sequence"),
    (outgoing ≠ [] && outgoing.all fun h => h.state = .slow,"slow response is not a failover trigger"),
    (failures.length < (e.policy.map (·.failureThreshold)).getD 1,"failure threshold not reached"),
    (e.checkpoint.all fun c => !checkpointUsable instanceId epoch now maxAge c,
      "checkpoint missing, stale, expired, or incorrectly bound"),
    (unresolved.any fun r => r.riskLevel = .high,"unresolved high-risk action"),
    ((e.checkpoint.any fun c => !statusIn (c.evidence.get? "status") ["ready","completed","checkpointed"]) ||
      unresolved.any fun r => !r.transferable,"non-transferable active operation or checkpoint state"),
    (e.candidates = [],"no healthy approved fallback"),
    (e.candidates ≠ [] && e.selected = none,"fallback capability mismatch or missing handoff_import"),
    (e.transitionChanged,"transition, reservation, or epoch already changed")].filterMap
    fun (blocks,text) => if blocks then some text else none

section Evaluation
variable {m : Type → Type} [MonadStore AgentStore AgentError m]

/-- The values are distinct identifiers. -/
def requireUnique (values : List String) (label : String) : m Unit := do
  requireIdentifiers (values.map fun v => (v,label))
  require values.Nodup (valueError s!"{label} values must be unique")

/-- The time parses. -/
def Stamp.parses : Stamp → Bool
  | .instant _ => true
  | .malformed _ => false

/-- The checks of `FailoverDecision` that an evaluated decision can fail. -/
def checkDecision (cfg : Config) (d : FailoverDecision) : m Unit := do
  requireSafeIdentifiers cfg [(d.id,"failover decision id"),(d.instanceId,"instance id"),
    (d.outgoingEpochId,"outgoing epoch id"),(d.outgoingProviderId,"outgoing provider id")]
  requireIdentifiers (d.policyId.toList.map fun v => (v,"failover policy id"))
  requireIdentifiers (d.incomingProviderId.toList.map fun v => (v,"incoming provider id"))
  requireIdentifiers (d.checkpointId.toList.map fun v => (v,"checkpoint id"))
  require (0 < d.operationGeneration) (valueError "operation generation must be positive")
  requireUnique d.healthEvidenceIds "health evidence id"
  requireUnique d.riskEvidenceIds "risk evidence id"
  require (∀ t ∈ d.evidenceTimestamps, t.parses = true)
    (valueError "failover evidence timestamp must be an ISO-8601 timestamp")
  requireUnique d.readinessEvidenceRefs "readiness evidence reference"
  requireSafeIdentifiers cfg ((d.healthEvidenceIds ++ d.riskEvidenceIds ++ d.readinessEvidenceRefs).map
    fun v => (v,"failover evidence reference"))
  require (d.evaluatedAt < d.expiresAt) (valueError "decision expiry must follow evaluation")
  require (d.allowed = true → d.policyId ≠ none ∧ d.incomingProviderId ≠ none ∧ d.checkpointId ≠ none)
    (valueError "allowed decision requires policy, checkpoint, and fallback")

def FailoverEvidence.approved (e : FailoverEvidence) : List String := (e.policy.map (·.approvedFallbackProviderIds)).getD []

/-- How old the checkpoint may be, in seconds. -/
def FailoverEvidence.maxAge (e : FailoverEvidence) : ℕ := (e.policy.map (·.checkpointMaxAgeSeconds)).getD 0

/-- How long the decision holds, in seconds. -/
def FailoverEvidence.lifetime (e : FailoverEvidence) : ℕ := (e.policy.map (·.decisionLifetimeSeconds)).getD 1

/-- The decision on the evidence, before its constructor checks it. -/
def FailoverEvidence.decision (e : FailoverEvidence) (decisionId instanceId : String) (epoch : DriverEpoch) (operationGeneration : ℕ)
    (evaluatedAt : Timestamp) : FailoverDecision :=
  let blockers := e.blockers instanceId epoch evaluatedAt
  { id := decisionId, instanceId, outgoingEpochId := epoch.id, outgoingProviderId := epoch.providerId
    operationGeneration, policyId := e.policy.map (·.id)
    incomingProviderId := if blockers = [] then e.selected else none
    allowed := blockers = [], blockers
    healthEvidenceIds := e.health.map (·.id), riskEvidenceIds := e.risks.map (·.id)
    evidenceTimestamps := ((e.policy.bind (·.approvedAt)).toList ++ e.health.map (·.observedAt)).map .instant ++
      (e.checkpoint.bind (·.createdAt)).toList ++ (e.checkpoint.bind (·.expiresAt)).toList
    readinessEvidenceRefs := e.approved.filterMap fun p => e.candidateReadiness.lookup p
    checkpointId := e.checkpoint.map (·.id), evaluatedAt
    expiresAt := evaluatedAt + e.lifetime * 1000000 }

/-- The time of the evaluation is given with its offset from UTC. -/
def evaluateFailoverEvidence (cfg : Config) (decisionId instanceId : String) (epoch : DriverEpoch)
    (operationGeneration : ℕ) (e : FailoverEvidence) (evaluatedAt : Timestamp) (utcOffset : Int) : m FailoverDecision := do
  require (∀ p ∈ e.policy, p.instanceId = instanceId) (valueError "failover policy belongs to another instance")
  require (∀ h ∈ e.health, h.instanceId = instanceId ∧ h.providerId ∈ epoch.providerId :: e.approved)
    (valueError "foreign health evidence is not allowed")
  require (∀ r ∈ e.risks, r.instanceId = instanceId) (valueError "foreign risk evidence is not allowed")
  require (∀ c ∈ e.checkpoint, c.instanceId = instanceId ∧ c.driverEpochId = epoch.id ∧
    c.sessionId = epoch.sessionId) (valueError "foreign checkpoint evidence is not allowed")
  require (∀ c ∈ e.checkpoint, ageCompared evaluatedAt c = true → e.maxAge ≤ timedeltaMax) (timedeltaError e.maxAge)
  require (∀ c ∈ e.checkpoint, ∀ status ∈ c.evidence.get? "status", frozenHashable status = true) ⟨.type,"unhashable type"⟩
  require (e.lifetime ≤ timedeltaMax) (timedeltaError e.lifetime)
  require (evaluatedAt + utcOffset + e.lifetime * 1000000 ≤ lastLocalTime) ⟨.overflow,"date value out of range"⟩
  let decision := e.decision decisionId instanceId epoch operationGeneration evaluatedAt
  checkDecision cfg decision
  return decision

/-- `max` by creation time; a time that does not parse raises. -/
def newestCheckpoint : List AgentCheckpoint → m (Option (AgentCheckpoint × Timestamp))
  | [] => pure none
  | c :: rest => do
    let created ← orRaise (c.createdAt.bind fun
      | .instant t => some t
      | .malformed _ => none) (valueError "timestamp is required")
    match ← newestCheckpoint rest with
    | some (best,t) => return if t ≤ created then some (c,created) else some (best,t)
    | none => return some (c,created)

/-- `_provider_readiness_reference`; `resolve` finds an executable. -/
def providerReadinessReference (cfg : Config) (resolve : String → Option String) (providerId : String)
    (provider : AgentProvider) : Option String :=
  if provider.adapterId ∉ cfg.adapterFactories ∨ provider.id ∈ ["qwen-code","mistral-vibe","antigravity"] then none
  else (provider.executableAllowlist.head?.bind resolve).map fun path =>
    s!"readiness.{providerId}.{String.ofList ((cfg.sha256 path).toList.take 16)}"

def hasActiveTransition (instanceId : String) : m Bool := do
  return (← blockingTransition instanceId).isSome

/-- The provider's latest observation is a healthy one. -/
def latestHealthy (health : List ProviderHealthObservation) (providerId : String) : Bool :=
  ((byObservation health).filter (·.providerId = providerId)).getLast?.any (·.state = .healthy)

/-- `_evaluate_failover`, with the id, the time and the executables it draws. -/
def evaluateFailoverAt (cfg : Config) (instanceId : String) (policyId : Option String) (decisionId : String)
    (evaluatedAt : Timestamp) (resolve : String → Option String) : m FailoverDecision := do
  let profile ← cfg.profile instanceId
  let policy ← match (policyId.filter (· ≠ "")).orElse fun _ => profile.controlledFailoverPolicyRef with
    | some id => if id = "" then pure none else unlessMissing (loadFailoverPolicy id)
    | none => pure none
  let epoch ← activeEpoch instanceId
  let operation ← unlessMissing (loadAgentOperation instanceId)
  let approved := (policy.map (·.approvedFallbackProviderIds)).getD []
  let health := (← listProviderHealthObservations instanceId).filter (·.providerId ∈ epoch.providerId :: approved)
  let risks ← listActiveAgentRisks instanceId
  let checkpoints := (← listAgentCheckpoints).filter fun c => c.instanceId = instanceId ∧ c.driverEpochId = epoch.id
  let newest ← newestCheckpoint checkpoints
  let candidates := (approved.filter (· ∈ profile.approvedFallbackProviderIds)).filterMap fun id =>
    (cfg.providers.get? id).map fun provider => (id,provider)
  let active ← hasActiveTransition instanceId
  evaluateFailoverEvidence cfg decisionId instanceId epoch ((operation.map (·.generation)).getD 1) {
    policy, health, checkpoint := newest.map Prod.fst, risks
    candidateCapabilities := candidates.map fun (id,provider) => (id,provider.capabilities)
    healthyCandidates := (health.map (·.providerId)).filter (latestHealthy health)
    candidateReadiness := candidates.filterMap fun (id,provider) =>
      (providerReadinessReference cfg resolve id provider).map fun ref => (id,ref)
    requiredCapabilities := profile.requiredCapabilities
    transitionChanged := (operation.any fun o => o.state ≠ .opened || o.ownerToken ≠ none) || active } evaluatedAt 0

end Evaluation

def evaluateFailover (cfg : Config) (instanceId : String) (policyId : Option String) :
    AgentProg FailoverDecision := do
  let id ← newId "failover-decision"
  let evaluatedAt ← clock
  let decision ← evaluateFailoverAt cfg instanceId policyId id evaluatedAt (← ask .readiness)
  if decision.allowed then do
    saveFailoverDecision decision
    return decision
  else return decision

/-! ### The execution -/

/-- The decision is the same but for its times. -/
def sameDecision (a b : FailoverDecision) : Bool :=
  { a with evaluatedAt := b.evaluatedAt, expiresAt := b.expiresAt, consumedAt := b.consumedAt } = b

structure FailoverDraws where
  evaluatedAt : Timestamp
  resolve : String → Option String
  ownerToken : String
  ensuredAt : Timestamp
  reservedAt : Timestamp
  checkedAt : Timestamp
  executionId : String
  createdAt : Timestamp
  updatedAt : Timestamp
  consumedAt : Timestamp

def drawFailover : AgentProg FailoverDraws := do
  let evaluatedAt ← clock
  let resolve ← ask .readiness
  let ownerToken ← newId "operation.failover"
  let ensuredAt ← clock
  let reservedAt ← clock
  let checkedAt ← clock
  let executionId ← newId "failover-execution"
  let createdAt ← clock
  let updatedAt ← clock
  let consumedAt ← clock
  return { evaluatedAt, resolve, ownerToken, ensuredAt, reservedAt, checkedAt, executionId, createdAt
           updatedAt, consumedAt }

/-- Evaluate again, take the fence, record the execution and consume the decision. -/
def reserveFailoverTx (cfg : Config) (instanceId : String) (original : FailoverDecision) (draws : FailoverDraws) :
    AgentTx (AgentOperationReservation × FailoverExecution) := do
  let current ← loadFailoverDecision original.id
  require (current = original) (handoffError "failover decision record changed")
  let reevaluated ← evaluateFailoverAt cfg instanceId current.policyId current.id draws.evaluatedAt draws.resolve
  require (sameDecision current reevaluated = true) (handoffError "failover evidence or generation changed")
  let reserved ← rescue (reserve instanceId draws.ownerToken draws.ensuredAt draws.reservedAt) fun e =>
    if e.kind = .operationBlocked then raise (handoffError e.message) else raise e
  require (draws.checkedAt < current.expiresAt) (handoffError "failover decision is expired")
  let epoch ← activeEpoch instanceId
  let execution : FailoverExecution := {
    id := draws.executionId, decisionId := current.id, instanceId, outgoingEpochId := current.outgoingEpochId
    outgoingSessionId := epoch.sessionId, outgoingProviderId := current.outgoingProviderId
    checkpointId := current.checkpointId.getD "None", operationGeneration := reserved.generation
    operationOwnerRef := draws.ownerToken, state := .reserved, createdAt := draws.createdAt
    updatedAt := draws.updatedAt }
  requireSafeIdentifiers cfg [(execution.id,"failover execution id"),(execution.decisionId,"failover decision id"),
    (execution.instanceId,"instance id"),(execution.outgoingEpochId,"outgoing epoch id"),
    (execution.outgoingSessionId,"outgoing session id"),(execution.outgoingProviderId,"outgoing provider id"),
    (execution.checkpointId,"checkpoint id"),(execution.operationOwnerRef,"operation owner reference")]
  saveFailoverExecution execution
  let _ ← consumeFailoverDecision original.id current.operationGeneration draws.consumedAt
  return (reserved,execution)

def executeFailover (cfg : Config) (instanceId decisionId initiatedBy approvalId : String) :
    AgentProg DriverEpoch := do
  require (isBlank approvalId = false) (valueError "approval_id is required")
  let original ← loadFailoverDecision decisionId
  require (original.instanceId = instanceId) (handoffError "failover decision belongs to another instance")
  require (original.allowed = true ∧ original.consumedAt = none)
    (handoffError "failover decision is blocked or already used")
  let now ← clock
  require (now < original.expiresAt) (handoffError "failover decision is expired")
  requireAuthorized "controlled_failover" [("approval_id",approvalId),("decision_id",decisionId),
    ("instance_id",instanceId),("incoming_provider_id",original.incomingProviderId.getD "None"),
    ("initiated_by",initiatedBy)]
  let draws ← drawFailover
  let (reservation,execution) ← Prog.transaction { fresh := [draws.executionId] }
    (reserveFailoverTx cfg instanceId original draws)
  let incomingProviderId ← orRaise original.incomingProviderId ⟨.assertion,""⟩
  let checkpointId ← orRaise original.checkpointId ⟨.assertion,""⟩
  let policyId ← orRaise original.policyId ⟨.assertion,""⟩
  let policy ← loadFailoverPolicy policyId
  let checkpoint ← loadAgentCheckpoint checkpointId
  performHandoff cfg instanceId incomingProviderId initiatedBy approvalId "controlled_failover"
    "controlled_failover"
    (some { reservation, checkpoint, maxAgeSeconds := policy.checkpointMaxAgeSeconds, execution })

/-! ### The recovery of an execution -/

def recoverableExecutionStates : List FailoverExecutionState := [.reserved,.draining,.blockedPreimport,.recovering]

/-- `_validate_recovery_result`. -/
def recoveryResultBound (adapterId : String) (execution : FailoverExecution) (session : AgentSession)
    (attemptId : Option String) (result : AgentDispatchResult) : Bool :=
  result.state ∈ acknowledgedStates && result.instanceId = execution.instanceId &&
  result.providerId = execution.outgoingProviderId && result.driverEpochId = execution.outgoingEpochId &&
  (result.sessionId = session.id || some result.sessionId = session.externalSessionId) &&
  (result.externalSessionId = none || result.externalSessionId = session.externalSessionId) &&
  !isBlank result.id && !isBlank result.requestId &&
  (match attemptId with
    | none => true
    | some id => result.requestId = s!"recovery-request.{id}" &&
        result.evidence.get? "recovery_request_id" = some (.str s!"recovery-request.{id}") &&
        result.evidence.get? "adapter_id" = some (.str adapterId)) &&
  result.providerReference.all fun r => !isBlank r

def validateRecoveryResult (cfg : Config) (execution : FailoverExecution) (session : AgentSession)
    (attemptId : Option String) (result : AgentDispatchResult) : AgentProg Unit := do
  let provider ← cfg.provider execution.outgoingProviderId
  require (recoveryResultBound provider.adapterId execution session attemptId result = true)
    (handoffError "outgoing provider result binding mismatch")

/-- Finish the attempt, release the fence and close the execution. -/
def finalizeRecoveryTx (execution : FailoverExecution) (operation : AgentOperationReservation)
    (resumeResultRef : Option String) (attemptAt releasedAt updatedAt : Timestamp) : AgentTx FailoverExecution := do
  verifyOwned operation
  let attempt ← recoveryAttemptForExecution execution.id
  match attempt.filter fun a => a.state = .externalStarted ∨ a.state = .resultRecorded with
  | some attempt => do
    let _ ← transitionAgentRecoveryAttempt attempt.id attempt.state .finalized attemptAt
    pure ()
  | none => pure ()
  let _ ← release operation releasedAt
  transitionFailoverExecution execution.id execution.state .recovered updatedAt none resumeResultRef

def finalizeFailoverRecovery (execution : FailoverExecution) (operation : AgentOperationReservation)
    (resumeResultRef : Option String) : AgentProg FailoverExecution := do
  let attemptAt ← clock
  let releasedAt ← clock
  let updatedAt ← clock
  atomically (finalizeRecoveryTx execution operation resumeResultRef attemptAt releasedAt updatedAt)

/-- The answer of an inspection that is one. -/
def inspected (driver : AgentProvider) (session : AgentSession) : AgentProg AgentDispatchResult := do
  let result ← orRaise (← ask (.inspect driver session)) (handoffError "inspection_unavailable")
  require (result.errorCategory ≠ some .unsupportedCapability) (handoffError "inspection_unavailable")
  return result

/-- The provenance of an outcome: the digest of the adapter and the result. -/
def provenanceRef (cfg : Config) (adapterId : String) (result : AgentDispatchResult) : String :=
  let digest := cfg.sha256 s!"{adapterId}|{result.requestId}|{result.id}|{result.requestId}"
  s!"provenance.{digest}"

def attemptIdentifiers (a : AgentRecoveryAttempt) : List (String × String) :=
  [(a.id,"recovery attempt id"),(a.idempotencyKey,"recovery idempotency key"),
    (a.executionId,"failover execution id"),(a.decisionId,"failover decision id"),(a.instanceId,"instance id"),
    (a.outgoingEpochId,"outgoing epoch id"),(a.providerId,"provider id"),
    (a.internalSessionId,"internal session id"),(a.operationOwnerRef,"operation owner reference")]

/-- Claim the recovery of an execution blocked before the import, with a new attempt. -/
def claimRecovery (cfg : Config) (execution : FailoverExecution) (session : AgentSession) :
    AgentProg (FailoverExecution × AgentRecoveryAttempt) := do
  let id ← newId "recovery-attempt"
  let createdAt ← clock
  let updatedAt ← clock
  let attempt : AgentRecoveryAttempt := {
    id, idempotencyKey := s!"recover.{execution.id}", executionId := execution.id
    decisionId := execution.decisionId, instanceId := execution.instanceId
    outgoingEpochId := execution.outgoingEpochId, providerId := execution.outgoingProviderId
    internalSessionId := session.id, externalSessionId := session.externalSessionId
    operationGeneration := execution.operationGeneration, operationOwnerRef := execution.operationOwnerRef
    state := .pending, createdAt, updatedAt }
  requireSafeIdentifiers cfg (attemptIdentifiers attempt)
  requireIdentifiers (attempt.externalSessionId.toList.map fun v => (v,"external session id"))
  let claimedAt ← clock
  let claimed ← reraise .value (fun _ => handoffError "failover recovery claim requires repair")
    (claimFailoverRecovery execution.id attempt claimedAt)
  return (claimed,attempt)

def requestIdentifiers (r : AgentRecoveryRequest) : List (String × String) :=
  [(r.id,"recovery request id"),(r.idempotencyKey,"recovery idempotency key"),
    (r.attemptId,"recovery attempt id"),(r.executionId,"failover execution id"),(r.instanceId,"instance id"),
    (r.driverEpochId,"driver epoch id"),(r.providerId,"provider id"),(r.internalSessionId,"internal session id")]

/-- The provider's answer to a recovery, asked once, or to an inspection afterwards. -/
def recoveryAnswer (cfg : Config) (driver : AgentProvider) (execution : FailoverExecution) (session : AgentSession)
    (attempt : AgentRecoveryAttempt) : AgentProg (AgentDispatchResult × Option String) := do
  if attempt.state = .pending then do
    let startedAt ← clock
    let attempt ← transitionAgentRecoveryAttempt attempt.id .pending .externalStarted startedAt
    let requestedAt ← clock
    let request : AgentRecoveryRequest := {
      id := s!"recovery-request.{attempt.id}", idempotencyKey := attempt.idempotencyKey, attemptId := attempt.id
      executionId := execution.id, instanceId := execution.instanceId
      driverEpochId := execution.outgoingEpochId, providerId := execution.outgoingProviderId
      internalSessionId := session.id, externalSessionId := session.externalSessionId, requestedAt }
    requireSafeIdentifiers cfg (requestIdentifiers request)
    requireIdentifiers (request.externalSessionId.toList.map fun v => (v,"external session id"))
    let result ← orRaise (← ask (.recover driver request session))
      (handoffError "outgoing provider recovery is uncertain")
    return (result,some attempt.id)
  else do
    let result ← inspected driver session
    return (result,none)

/-- A recorded outcome is taken up again: its result and its provenance must agree. -/
def resumeOutcome (cfg : Config) (execution : FailoverExecution) (session : AgentSession)
    (operation : AgentOperationReservation) (attempt : AgentRecoveryAttempt) (outcome : AgentRecoveryOutcome) :
    AgentProg FailoverExecution := do
  let raw ← loadAgentDispatchResult outcome.rawResultId
  validateRecoveryResult cfg execution session
    (if evidenceValue raw.evidence "recovery_request_id" ≠ none then some attempt.id else none) raw
  let provider ← cfg.provider execution.outgoingProviderId
  require (outcome.requestId = raw.requestId ∧ outcome.state = raw.state ∧
    outcome.provenanceRef = provenanceRef cfg provider.adapterId raw)
    (handoffError "recovery outcome provenance mismatch")
  finalizeFailoverRecovery execution operation (some outcome.rawResultId)

/-- Ask the provider, record the outcome of the attempt and finalize. -/
def recordRecovery (cfg : Config) (driver : AgentProvider) (execution : FailoverExecution) (session : AgentSession)
    (operation : AgentOperationReservation) (attempt : AgentRecoveryAttempt) : AgentProg FailoverExecution := do
  let (result,expected) ← recoveryAnswer cfg driver execution session attempt
  validateRecoveryResult cfg execution session expected result
  let provider ← cfg.provider execution.outgoingProviderId
  let id ← newId "recovery-outcome"
  let recordedAt ← clock
  let outcome : AgentRecoveryOutcome := {
    id, attemptId := attempt.id, rawResultId := result.id, requestId := result.requestId
    provenanceRef := provenanceRef cfg provider.adapterId result, state := result.state, recordedAt }
  requireSafeIdentifiers cfg [(outcome.id,"recovery outcome id"),(outcome.attemptId,"recovery attempt id"),
    (outcome.rawResultId,"raw result id"),(outcome.requestId,"request id"),
    (outcome.provenanceRef,"result provenance reference")]
  let bundledAt ← clock
  reraise .value handoffError (recordAgentRecoveryResultBundle result outcome attempt.id bundledAt)
  finalizeFailoverRecovery execution operation (some result.id)

/-- The recovery of an execution past the reservation, with its outgoing driver. -/
def recoverWithDriver (cfg : Config) (driver : AgentProvider) (execution : FailoverExecution)
    (session : AgentSession) (operation : AgentOperationReservation) : AgentProg FailoverExecution := do
  if execution.state = .draining then do
    let result ← inspected driver session
    validateRecoveryResult cfg execution session none result
    saveAgentDispatchResult result
    finalizeFailoverRecovery execution operation (some result.id)
  else do
    let found ← recoveryAttemptForExecution execution.id
    let (execution,attempt) ← if execution.state = .blockedPreimport then do
        require (found = none) (handoffError "recovery attempt already exists")
        claimRecovery cfg execution session
      else do
        let attempt ← orRaise found ⟨.assertion,""⟩
        pure (execution,attempt)
    match ← recoveryOutcomeForAttempt attempt.id with
    | some outcome => resumeOutcome cfg execution session operation attempt outcome
    | none => recordRecovery cfg driver execution session operation attempt

def recoverFailoverExecution (cfg : Config) (executionId initiatedBy approvalId : String) :
    AgentProg FailoverExecution := do
  require (isBlank approvalId = false) (valueError "approval_id is required")
  let execution ← loadFailoverExecution executionId
  require (execution.state ∈ recoverableExecutionStates) (handoffError "failover execution is not recoverable")
  requireAuthorized "recover_failover_execution" [("execution_id",execution.id),
    ("instance_id",execution.instanceId),("approval_id",approvalId),("initiated_by",initiatedBy)]
  let operation ← loadAgentOperation execution.instanceId
  require (operation.generation = execution.operationGeneration ∧
      operation.ownerToken = some execution.operationOwnerRef ∧ operation.state = .fenced)
    (handoffError "failover recovery fence binding changed")
  let active ← hasActiveTransition execution.instanceId
  require (active = false) (handoffError "active transition blocks failover recovery")
  let outgoing ← loadDriverEpoch execution.outgoingEpochId
  let opened ← openEpochs execution.instanceId
  require (outgoing.instanceId = execution.instanceId ∧ outgoing.sessionId = execution.outgoingSessionId ∧
      outgoing.providerId = execution.outgoingProviderId ∧ ∀ e ∈ opened, e.ordinal ≤ outgoing.ordinal)
    (handoffError "outgoing failover epoch binding changed")
  if execution.state = .reserved then finalizeFailoverRecovery execution operation none
  else do
    let stored ← loadAgentSession execution.outgoingSessionId
    let session := { stored with
      legacyReferences := stored.legacyReferences.set "driver_epoch_id" (.str execution.outgoingEpochId) }
    let driver ← cfg.driverForProvider execution.outgoingProviderId execution.instanceId
    recoverWithDriver cfg driver execution session operation

end Overseer.Agent
