import Overseer.Library.Json
import Overseer.Library.Text

/-! # Records of the primary AI driver

The provider-neutral records of `agent_contracts.py`. Instants the manager's
clock produces are integers; a time that a provider supplies is a `Stamp`, which
may not parse. Constructor checks that can fail are functions of their own.
-/
namespace Overseer.Agent
open Overseer.Library

/-- An aware instant, in microseconds. -/
abbrev Timestamp := Int

/-- A time text a provider supplied, by what parsing it gives. -/
inductive Stamp where
  | instant (t : Timestamp)
  | malformed (text : String)
  deriving DecidableEq

inductive AgentTransport where
  | interactiveCli | noninteractiveCli | api | gateway
  deriving DecidableEq

inductive AgentOperationState where
  | queued | acknowledged | running | succeeded | failed | blocked | cancelled | quarantined
  deriving DecidableEq

def AgentOperationState.value : AgentOperationState → String
  | queued => "queued"
  | acknowledged => "acknowledged"
  | running => "running"
  | succeeded => "succeeded"
  | failed => "failed"
  | blocked => "blocked"
  | cancelled => "cancelled"
  | quarantined => "quarantined"

/-- `AgentOperationState(text)`. -/
def AgentOperationState.ofValue? (text : String) : Option AgentOperationState :=
  [queued,acknowledged,running,succeeded,failed,blocked,cancelled,quarantined].find? (·.value = text)

inductive AgentTransitionState where
  | importing | importAcknowledged | reconciling | failed | completed | rolledBack
  deriving DecidableEq

def AgentTransitionState.value : AgentTransitionState → String
  | importing => "importing"
  | importAcknowledged => "import_acknowledged"
  | reconciling => "reconciling"
  | failed => "failed"
  | completed => "completed"
  | rolledBack => "rolled_back"

inductive AgentOperationFenceState where
  | opened | fenced
  deriving DecidableEq

inductive ProviderHealthState where
  | healthy | transportFailure | failed | slow
  deriving DecidableEq

inductive ActiveAgentRiskLevel where
  | low | medium | high
  deriving DecidableEq

inductive FailoverExecutionState where
  | reserved | draining | blockedPreimport | recovering | recovered | transitionStarted
  deriving DecidableEq

inductive AgentRecoveryAttemptState where
  | pending | externalStarted | resultRecorded | finalized | blocked
  deriving DecidableEq

inductive AgentErrorCategory where
  | unsupportedCapability | configurationError | providerUnavailable | sessionNotFound
  | authenticationRequired | dispatchRejected | dispatchTimeout | providerProtocolError
  | policyBlocked | handoffIncompatible | checkpointStale | cancelled | quarantined
  deriving DecidableEq

def AgentErrorCategory.value : AgentErrorCategory → String
  | unsupportedCapability => "unsupported_capability"
  | configurationError => "configuration_error"
  | providerUnavailable => "provider_unavailable"
  | sessionNotFound => "session_not_found"
  | authenticationRequired => "authentication_required"
  | dispatchRejected => "dispatch_rejected"
  | dispatchTimeout => "dispatch_timeout"
  | providerProtocolError => "provider_protocol_error"
  | policyBlocked => "policy_blocked"
  | handoffIncompatible => "handoff_incompatible"
  | checkpointStale => "checkpoint_stale"
  | cancelled => "cancelled"
  | quarantined => "quarantined"

/-- `AgentErrorCategory(text)`. -/
def AgentErrorCategory.ofValue? (text : String) : Option AgentErrorCategory :=
  [unsupportedCapability,configurationError,providerUnavailable,sessionNotFound,authenticationRequired,
    dispatchRejected,dispatchTimeout,providerProtocolError,policyBlocked,handoffIncompatible,
    checkpointStale,cancelled,quarantined].find? (·.value = text)

structure AgentCapabilities where
  sessionDiscovery : Bool := false
  sessionResume : Bool := false
  interactiveDispatch : Bool := false
  noninteractiveDispatch : Bool := false
  structuredEvents : Bool := false
  checkpoints : Bool := false
  cancellation : Bool := false
  delegatedWorkers : Bool := false
  usageObservation : Bool := false
  handoffImport : Bool := false
  deriving DecidableEq

namespace AgentCapabilities

def values (c : AgentCapabilities) : List Bool :=
  [c.sessionDiscovery,c.sessionResume,c.interactiveDispatch,c.noninteractiveDispatch,c.structuredEvents,
    c.checkpoints,c.cancellation,c.delegatedWorkers,c.usageObservation,c.handoffImport]

def supports (c required : AgentCapabilities) : Bool :=
  (c.values.zip required.values).all fun (available,needed) => !needed || available

end AgentCapabilities

structure AgentProvider where
  id : String
  adapterId : String
  capabilities : AgentCapabilities := {}
  transports : List AgentTransport := []
  executableAllowlist : List String := []
  deriving DecidableEq

structure AgentInstanceProfile where
  id : String
  primaryProviderId : String
  transport : AgentTransport
  workspace : String
  primaryAdapterId : Option String := none
  modelProfileId : Option String := none
  externalSessionId : Option String := none
  declaredCapabilities : AgentCapabilities := {}
  requiredCapabilities : AgentCapabilities := {}
  approvedFallbackProviderIds : List String := []
  controlledFailoverPolicyRef : Option String := none
  deriving DecidableEq

structure AgentSession where
  id : String
  providerId : String
  externalSessionId : Option String
  workspace : String
  transport : AgentTransport
  capabilities : AgentCapabilities
  instanceId : Option String := none
  modelProfileId : Option String := none
  legacyReferences : Evidence := .empty
  discoveredAt : Option Stamp := none
  lastObservedAt : Option Stamp := none
  deriving DecidableEq

structure DriverEpoch where
  id : String
  instanceId : String
  sessionId : String
  providerId : String
  ordinal : ℕ
  state : AgentOperationState
  openedAt : Option Timestamp := none
  closedAt : Option Timestamp := none
  reason : Option String := none
  replacementEpochId : Option String := none
  deriving DecidableEq

structure AgentInstanceTransition where
  instanceId : String
  handoffId : String
  outgoingEpochId : String
  incomingEpochId : String
  state : AgentTransitionState
  updatedAt : Timestamp
  reason : Option String := none
  deriving DecidableEq

structure AgentOperationReservation where
  instanceId : String
  generation : ℕ
  state : AgentOperationFenceState
  ownerToken : Option String
  updatedAt : Timestamp
  deriving DecidableEq

structure AgentDispatchRequest where
  id : String
  instanceId : String
  sessionId : String
  driverEpochId : String
  idempotencyKey : String
  prompt : String
  requestedAt : Option Timestamp := none
  requestedBy : Option String := none
  evidence : Evidence := .empty
  deriving DecidableEq

structure AgentDispatchResult where
  id : String
  requestId : String
  instanceId : String
  sessionId : String
  driverEpochId : String
  providerId : String
  state : AgentOperationState
  errorCategory : Option AgentErrorCategory := none
  errorMessage : Option String := none
  providerReference : Option String := none
  externalSessionId : Option String := none
  acknowledgedAt : Option String := none
  completedAt : Option String := none
  evidence : Evidence := .empty
  deriving DecidableEq

structure AgentCheckpoint where
  id : String
  instanceId : String
  sessionId : String
  driverEpochId : String
  evidence : Evidence := .empty
  createdAt : Option Stamp := none
  expiresAt : Option Stamp := none
  deriving DecidableEq

structure FailoverPolicy where
  id : String
  instanceId : String
  approved : Bool
  approvalRef : Option String
  approvedAt : Option Timestamp
  failureThreshold : ℕ
  checkpointMaxAgeSeconds : ℕ
  approvedFallbackProviderIds : List String
  decisionLifetimeSeconds : ℕ
  deriving DecidableEq

structure ProviderHealthObservation where
  id : String
  instanceId : String
  providerId : String
  state : ProviderHealthState
  observedAt : Timestamp
  reasonCategory : String
  deriving DecidableEq

structure ActiveAgentRisk where
  id : String
  instanceId : String
  riskLevel : ActiveAgentRiskLevel
  resolved : Bool
  transferable : Bool
  evidenceRef : String
  deriving DecidableEq

structure FailoverDecision where
  id : String
  instanceId : String
  outgoingEpochId : String
  outgoingProviderId : String
  operationGeneration : ℕ
  policyId : Option String
  incomingProviderId : Option String
  allowed : Bool
  blockers : List String
  healthEvidenceIds : List String
  riskEvidenceIds : List String
  evidenceTimestamps : List Stamp
  readinessEvidenceRefs : List String
  checkpointId : Option String
  evaluatedAt : Timestamp
  expiresAt : Timestamp
  consumedAt : Option Timestamp := none
  deriving DecidableEq

structure FailoverExecution where
  id : String
  decisionId : String
  instanceId : String
  outgoingEpochId : String
  outgoingSessionId : String
  outgoingProviderId : String
  checkpointId : String
  operationGeneration : ℕ
  operationOwnerRef : String
  state : FailoverExecutionState
  createdAt : Timestamp
  updatedAt : Timestamp
  reason : Option String := none
  resumeResultRef : Option String := none
  deriving DecidableEq

structure AgentRecoveryAttempt where
  id : String
  idempotencyKey : String
  executionId : String
  decisionId : String
  instanceId : String
  outgoingEpochId : String
  providerId : String
  internalSessionId : String
  externalSessionId : Option String
  operationGeneration : ℕ
  operationOwnerRef : String
  state : AgentRecoveryAttemptState
  createdAt : Timestamp
  updatedAt : Timestamp
  deriving DecidableEq

structure AgentRecoveryOutcome where
  id : String
  attemptId : String
  rawResultId : String
  requestId : String
  provenanceRef : String
  state : AgentOperationState
  recordedAt : Timestamp
  deriving DecidableEq

structure AgentRecoveryRequest where
  id : String
  idempotencyKey : String
  attemptId : String
  executionId : String
  instanceId : String
  driverEpochId : String
  providerId : String
  internalSessionId : String
  externalSessionId : Option String
  requestedAt : Timestamp
  deriving DecidableEq

structure AgentHandoffPackage where
  id : String
  instanceId : String
  outgoingEpochId : String
  incomingProviderId : String
  objective : String
  checkpointId : Option String := none
  requiredCapabilities : AgentCapabilities := {}
  evidence : Evidence := .empty
  createdAt : Option Timestamp := none
  attestationVersion : Option String := none
  signature : Option String := none
  deriving DecidableEq

/-- The states a provider acknowledges work in; an epoch in one of them takes dispatches. -/
def acknowledgedStates : List AgentOperationState := [.acknowledged,.running,.succeeded]
def dispatchableStates : List AgentOperationState := [.acknowledged,.running,.succeeded]
def terminalResultStates : List AgentOperationState := [.succeeded,.cancelled,.quarantined]
def terminalDispatchStatuses : List String :=
  [AgentOperationState.succeeded.value,AgentOperationState.failed.value,AgentOperationState.blocked.value,
    AgentOperationState.cancelled.value,AgentOperationState.quarantined.value]
def blockingTransitionStates : List AgentTransitionState :=
  [.importing,.importAcknowledged,.reconciling,.failed]

/-- `_AGENT_TRANSITION_SUCCESSORS`. -/
def AgentTransitionState.successors : AgentTransitionState → List AgentTransitionState
  | importing => [.importAcknowledged,.reconciling,.failed,.rolledBack]
  | importAcknowledged => [.completed,.failed,.rolledBack]
  | reconciling => [.importAcknowledged,.reconciling,.failed,.rolledBack]
  | failed => [.reconciling,.rolledBack]
  | completed => []
  | rolledBack => []

/-- The exceptions the modelled functions raise, by class and text. -/
inductive ErrorKind where
  | key | index | value | type | overflow | integrity | assertion | adapterUnavailable | provider
  | operationBlocked | manager | authorization | paused | handoff | transitionRequired | operationRequired
  deriving DecidableEq

structure AgentError where
  kind : ErrorKind
  message : String
  deriving DecidableEq

def keyError (key : String) : AgentError := ⟨.key,key⟩
def valueError (message : String) : AgentError := ⟨.value,message⟩
def blockedError (message : String) : AgentError := ⟨.operationBlocked,message⟩
def managerError (message : String) : AgentError := ⟨.manager,message⟩
def pausedError (message : String) : AgentError := ⟨.paused,message⟩
def handoffError (message : String) : AgentError := ⟨.handoff,message⟩

end Overseer.Agent
