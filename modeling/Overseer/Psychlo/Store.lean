import Overseer.Psychlo.Contracts
import Overseer.Library.Program

/-! # The store of the Psychlo bridge

The tables of `psychlo_store.py` behind rounds, human gates and peer records. A table is
a dictionary in the order of its rows; every method is one transaction.
-/
namespace Overseer.Psychlo
open Overseer.Library Overseer.Agent

inductive DispatchState where
  | pending | started | dispatched
  deriving DecidableEq

structure RoundRow where
  request : Payload
  receipt : Payload
  capabilityHash : String
  capabilityToken : String
  dispatchState : DispatchState := .pending
  result : Option Payload := none
  resultForwarded : Bool := false
  canaryAuthorizationId : Option String := none
  startedAt : Option String := none
  completedAt : Option Json := none
  deriving DecidableEq

inductive DecisionStatus where
  | staged | approved | rejected | expired
  deriving DecidableEq

namespace DecisionStatus

def value : DecisionStatus → String
  | staged => "staged"
  | approved => "approved"
  | rejected => "rejected"
  | expired => "expired"

def ofValue? (text : String) : Option DecisionStatus := [staged,approved,rejected,expired].find? fun st => st.value = text

end DecisionStatus

structure DecisionRow where
  request : Payload
  receipt : Payload
  status : DecisionStatus := .staged
  decidedBy : Option String := none
  decidedAt : Option String := none
  reason : Option String := none

inductive ProtocolKind where
  | registryCandidate | adoptionEvidence | externalRoundBinding | ingressConflictReconciliation
  | crossProjectTeamBinding | crossProjectCommand | coordinationWorkRequest | crossProjectParticipantResult
  | crossProjectSupervisorReview | canaryAuthorization | canaryResult | ceilingAuthorization | ceilingChange
  deriving DecidableEq

def ProtocolKind.value : ProtocolKind → String
  | registryCandidate => "registry-candidate"
  | adoptionEvidence => "adoption-evidence"
  | externalRoundBinding => "external-round-binding"
  | ingressConflictReconciliation => "ingress-conflict-reconciliation"
  | crossProjectTeamBinding => "cross-project-team-binding"
  | crossProjectCommand => "cross-project-command"
  | coordinationWorkRequest => "coordination-work-request"
  | crossProjectParticipantResult => "cross-project-participant-result"
  | crossProjectSupervisorReview => "cross-project-supervisor-review"
  | canaryAuthorization => "concurrency-canary-authorization"
  | canaryResult => "concurrency-canary-result"
  | ceilingAuthorization => "concurrency-ceiling-authorization"
  | ceilingChange => "concurrency-ceiling-change"

inductive ProtocolState where
  | queued | forwardPending | delivered | settled | rejected
  deriving DecidableEq

structure ProtocolRow where
  idempotencyKey : String
  digest : String
  payload : Payload
  state : ProtocolState := .queued
  attempts : ℕ := 0
  lastError : Option String := none
  updatedAt : String := ""
  receipt : Option Payload := none

/-- An external execution. Its status is what the bridge or the peer last said. -/
structure ExternalRow where
  payload : Payload
  digest : String
  receipt : Payload
  status : String := "reconciled"
  forwarded : Bool := false
  gateDecisionId : Option String := none
  gateWorkflowId : Option String := none

/-- The outcome of a gate that is on its way to the peer. -/
structure DecisionIntent where
  request : Payload
  outcome : Payload
  settled : Bool := false
  decidedBy : String
  decidedAt : String
  reason : String
  updatedAt : String := ""

inductive IntentState where
  | uncertain | pending | delivered | rejected
  deriving DecidableEq

/-- The durable intent to dispatch a work request or its review. -/
structure CoordinationIntent where
  externalId : String
  payload : Payload
  state : IntentState := .uncertain
  ownerId : String
  idempotencyKey : String

/-- The one result of a work request. -/
structure TerminalRow where
  resultId : String
  digest : String
  payload : Payload

/-- A registered project: the registration and how it is scheduled. -/
structure ProjectRow where
  registration : Payload
  scheduling : Payload

/-- A token sample of a round. -/
structure TelemetryRow where
  roundId : String
  payload : Payload
  digest : String

/-- Where an observation is delivered. -/
inductive Destination where
  | skiller | memory
  deriving DecidableEq

namespace Destination

def value : Destination → String
  | skiller => "skiller"
  | memory => "private-memory"

def other : Destination → Destination
  | skiller => memory
  | memory => skiller

def ofJson? (v : Json) : Option Destination := [skiller,memory].find? fun d => v = .str d.value

end Destination

/-- How far one delivery is, and the observation as a whole. -/
inductive Delivery where
  | queued | pending | delivered | failed | corrupt
  deriving DecidableEq

def Delivery.value : Delivery → String
  | queued => "queued"
  | pending => "pending"
  | delivered => "delivered"
  | failed => "failed"
  | corrupt => "corrupt"

/-- The column pair of the two destinations. -/
structure PerDestination (α : Type) where
  skiller : α
  memory : α

namespace PerDestination
variable {α : Type}

def at_ (c : PerDestination α) : Destination → α
  | .skiller => c.skiller
  | .memory => c.memory

def put (c : PerDestination α) (d : Destination) (a : α) : PerDestination α :=
  match d with
  | .skiller => { c with skiller := a }
  | .memory => { c with memory := a }

end PerDestination

structure LearningRow where
  payload : Payload
  digest : String
  state : Delivery := .queued
  attempts : PerDestination ℕ := ⟨0,0⟩
  lastError : PerDestination (Option String) := ⟨none,none⟩
  delivery : PerDestination Delivery := ⟨.pending,.pending⟩

/-- What the schema of the peer records demands of their digests: the constraint of an older
table, and the index by its text. -/
structure DigestSchema where
  tableUnique : Bool := false
  index : Option String := none

/-- The authority that an approval was used with. -/
structure SnapshotRow where
  digest : String
  payload : Payload

/-- A registry candidate or the evidence of an adoption, as it was accepted. -/
structure FiledRow where
  payload : Payload
  digest : String

/-- The two tables of such rows. -/
inductive FiledKind where
  | candidate | evidence
  deriving DecidableEq

structure BridgeStore where
  rounds : Dict RoundRow := .empty
  decisions : Dict DecisionRow := .empty
  decisionIntents : Dict DecisionIntent := .empty
  external : Dict ExternalRow := .empty
  protocol : ProtocolKind → Dict ProtocolRow := fun _ => .empty
  dispatches : Dict CoordinationIntent := .empty
  reviews : Dict CoordinationIntent := .empty
  terminals : Dict TerminalRow := .empty
  projects : Dict ProjectRow := .empty
  telemetry : Dict TelemetryRow := .empty
  learning : Dict LearningRow := .empty
  schema : DigestSchema := {}
  snapshots : Dict SnapshotRow := .empty
  filed : FiledKind → Dict FiledRow := fun _ => .empty

abbrev BridgeTx := Tx BridgeStore AgentError

def liftCheck {α : Type} (c : Check α) : BridgeTx α := fun s =>
  match c with
  | .ok a => .ok (a,s)
  | .error e => .error e

/-- The check, its contract, type and value errors told as one message. -/
def told {α : Type} (message : String) (c : Check α) : Check α :=
  match c with
  | .ok a => .ok a
  | .error e => .error (if e.kind = .key then e else valueError message)

/-- The check, its contract errors told as one message. -/
def toldContract {α : Type} (message : String) (c : Check α) : Check α :=
  match c with
  | .ok a => .ok a
  | .error e => .error (if e.kind = .value then valueError message else e)

/-! ### Gates -/

def finalStatuses : List String := ["approved","rejected","expired"]

/-- The row holds its project back until a human decides. -/
def ExternalRow.pendsFor (projectId : String) (row : ExternalRow) : Check Bool :=
  if row.status ∈ finalStatuses then .ok false
  else if (row.payload.get "projectId").alike (.str projectId) ∧ (row.payload.get "explicitGate").truthy then do
    return !(← memberOf (row.receipt.get "decisionStatus") finalStatuses)
  else .ok false

/-- The row holds its project back for ever. -/
def ExternalRow.blocksFor (projectId : String) (row : ExternalRow) : Check Bool :=
  if row.status ∉ ["rejected","expired"] then .ok false
  else if (row.payload.get "projectId").alike (.str projectId) ∧ (row.payload.get "explicitGate").truthy then
    memberOf (row.receipt.get "decisionStatus") ["rejected","expired"]
  else .ok false

def externalGatePending (s : BridgeStore) (projectId : String) : Check Bool := s.external.values.anyM (·.pendsFor projectId)
def externalGateBlocked (s : BridgeStore) (projectId : String) : Check Bool := s.external.values.anyM (·.blocksFor projectId)

def listStagedDecisions (s : BridgeStore) : List DecisionRow := s.decisions.values.filter (·.status = .staged)

/-! ### Peer records -/

/-- The rows of a kind in the order of their last change, at most `limit` of them. -/
def listProtocol (kind : ProtocolKind) (limit : ℕ) (s : BridgeStore) : List (String × ProtocolRow) :=
  ((s.protocol kind).entries.insertionSort fun a b =>
    a.2.updatedAt ≠ b.2.updatedAt ∧ textLe a.2.updatedAt b.2.updatedAt ∨ a.2.updatedAt = b.2.updatedAt ∧ textLe a.1 b.1).take
    (max 1 (min 1000 limit))

/-! ### Rounds -/

/-- The requests of the unfinished rounds, in the order of their rows. -/
def activeRounds (s : BridgeStore) : List Payload := (s.rounds.values.filter (·.result = none)).map (·.request)

/-- `INSERT INTO rounds`. -/
def insertRound (host : Host) (request receipt : Payload) (capability : String) (canary : Option String) :
    BridgeTx Unit := do
  let roundId ← liftCheck (found (request.str? "roundId") (keyError "roundId"))
  let rounds ← Tx.read (·.rounds)
  require (rounds.get? roundId = none) ⟨.integrity,"UNIQUE constraint failed: rounds.round_id"⟩
  require (∀ row ∈ rounds.values, row.capabilityHash ≠ host.sha256 capability)
    ⟨.integrity,"UNIQUE constraint failed: rounds.capability_hash"⟩
  let row : RoundRow := { request, receipt, capabilityHash := host.sha256 capability, capabilityToken := capability, canaryAuthorizationId := canary }
  Tx.write fun s => { s with rounds := s.rounds.set roundId row }

/-- Who works on what: the identity an authorization binds. -/
def identityFields : List (String × String) :=
  [("projectId","projectId"),("planId","planId"),("planVersion","planVersion"),("projectLeadId","leadId")]

/-- The request is for the project, plan and lead that `bound` names. -/
def boundTo (request bound : Payload) : Bool := identityFields.all fun f => (request.get f.1).alike (bound.get f.2)

/-- The two projects of an authorization. -/
def boundProjects (authorization : Payload) : Check (List Payload) :=
  match authorization.get "projects" with
  | .arr [p,q] => .ok ([p,q].filterMap Payload.ofJson?)
  | _ => .error (valueError "concurrency canary authorization project binding is invalid")

/-- What `record_canary_round` reads and checks under its lock. -/
def verifyCanary (host : Host) (s : BridgeStore) (request : Payload) (authorizationId : String) (expectedRevision : Json)
    (now : String) : Check Unit := do
  let row ← found ((s.protocol .canaryAuthorization).get? authorizationId)
    (valueError "concurrency canary authorization is unavailable")
  check (row.state = .delivered) (valueError "concurrency canary authorization is unavailable")
  let authorization ← told "concurrency canary authorization is invalid" (host.parseCanaryAuthorization row.payload)
  check (authorization.get "digest" = .str row.digest) (valueError "concurrency canary authorization digest conflict")
  check ((authorization.get "expectedRevision").alike expectedRevision)
    (valueError "concurrency canary authorization revision conflict")
  let deadline ← found (host.fromisoformat (authorization.get "deadline").text)
    (valueError "concurrency canary authorization timestamp is invalid")
  let observed ← found (host.fromisoformat now) (valueError "concurrency canary authorization timestamp is invalid")
  check ((← Host.before observed deadline) = true) (valueError "concurrency canary authorization expired")
  let decision := s.decisions.get? (authorization.get "decisionId").text
  check (decision.map (·.status) = some .approved) (valueError "concurrency canary authorization is not approved")
  let projects ← boundProjects authorization
  let bound := projects.find? fun p => (p.get "projectId").alike (request.get "projectId")
  check (bound.any (boundTo request) = true) (valueError "concurrency canary round identity is not authorized")
  let active := activeRounds s
  check (active.length < 2) (valueError "single_stream_busy")
  check (∀ other ∈ active, projects.any (boundTo other) = true ∧
    (other.get "projectId").alike (request.get "projectId") = false) (valueError "single_stream_busy")

/-- Atomically reserve one of the two authorized canary streams. -/
def recordCanaryRound (host : Host) (request receipt : Payload) (capability authorizationId : String)
    (expectedRevision : Json) (now : String) : BridgeTx Unit := do
  let s ← Tx.read id
  liftCheck (verifyCanary host s request authorizationId expectedRevision now)
  insertRound host request receipt capability (some authorizationId)

def resultFields : List String := ["roundId","projectId","projectLeadId","planId","planVersion","threadId","model",
  "featureClass","correlationId","idempotencyKey","snapshotId","policyVersion","expectedUsageCost","scope",
  "selectionReason","priorityRationale","sourceId","provenanceId","status","actualUsageCost","deliveredScope",
  "remainingEstimate","blockers","questions","reachedExplicitGates","occurredAt"]

def roundResultDigest (host : Host) (result : Payload) : String :=
  host.sha256 (Json.dumps false (.obj (result.select resultFields)))

/-- The two halves of each execution of a canary result. -/
def executionsOf (canary : Payload) : List (Payload × Payload) :=
  match canary.get "executions" with
  | .arr items => items.filterMap fun v => do
    let execution ← Payload.ofJson? v
    return (← Payload.ofJson? (execution.get "started"),← Payload.ofJson? (execution.get "completed"))
  | _ => []

/-- One execution against the round it names: its local interval. -/
def verifyExecution (host : Host) (s : BridgeStore) (canary : Payload) (execution : Payload × Payload) :
    Check (Moment × Moment) := do
  let (started,completed) := execution
  let row ← found (s.rounds.get? (started.get "roundId").text) (valueError "canary result round is unavailable")
  let conflict := valueError "canary result timing or authorization conflict"
  check (row.canaryAuthorizationId.map Json.str = some (canary.get "authorizationId") ∧ row.startedAt.any (· ≠ "") ∧
    row.completedAt.any Json.truthy) conflict
  let localStarted ← found (host.fromisoformat (row.startedAt.getD "")) conflict
  let localCompleted ← found (host.fromisoformat (row.completedAt.getD .null).text) conflict
  check (localStarted.aware ∧ localCompleted.aware ∧ localStarted.micros ≤ localCompleted.micros) conflict
  check ((row.request.get "roundId").alike (started.get "roundId") ∧ boundTo row.request started)
    (valueError "canary result round identity conflict")
  let result ← found row.result (valueError "canary result round is not completed")
  check ((result.get "status").alike (.str "completed")) (valueError "canary result round is not completed")
  let resultDigest := roundResultDigest host result
  let evidenceDigest := host.canonicalDigest
    (.ofList [("provenanceId",result.get "provenanceId"),("resultDigest",.str resultDigest)])
  check ((completed.get "evidenceId").alike (result.get "provenanceId") ∧ completed.get "resultDigest" = .str resultDigest ∧
    completed.get "evidenceDigest" = .str evidenceDigest)
    (valueError "canary result evidence does not bind to stored round result")
  return (localStarted,localCompleted)

def verifyCanaryExecutionRounds (host : Host) (s : BridgeStore) (canary : Payload) : Check Unit := do
  match ← (executionsOf canary).mapM (verifyExecution host s canary) with
  | [first,second] =>
    check (first.1.micros < second.2.micros ∧ second.1.micros < first.2.micros)
      (valueError "canary result timing does not show trusted overlap")
  | _ => .error (valueError "canary result timing does not show trusted overlap")

/-- The change that was delivered or settled last. -/
def latestChange (s : BridgeStore) : Option ProtocolRow :=
  ((s.protocol .ceilingChange).values.filter fun r => r.state = .delivered ∨ r.state = .settled).foldl
    (fun best r => match best with
      | some b => if textLe b.updatedAt r.updatedAt then some r else some b
      | none => some r) none

def changeKeys : List String := ["authorizationId","correlationId","idempotencyKey","occurredAt"]

/-- The project a canary execution was for. -/
def observedProject (started : Payload) : Payload :=
  .ofList (["projectId","planId","planVersion","leadId"].map fun k => (k,started.get k))

def byProject (projects : List Payload) : List Payload :=
  projects.insertionSort fun p q => textLe (p.get "projectId").text (q.get "projectId").text

/-- The two lists hold equal mappings in the same order. -/
def sameProjects : List Payload → List Payload → Bool
  | [], [] => true
  | p :: ps, q :: qs => p.alike q && sameProjects ps qs
  | _, _ => false

/-- The canary evidence of a ceiling authorization, read again. -/
def verifyCanaryEvidence (host : Host) (s : BridgeStore) (authorization : Payload) : Check Unit := do
  let row ← found ((s.protocol .canaryResult).get? (authorization.get "canaryResultId").text)
    (valueError "successful delivered canary evidence is required")
  check (row.state = .delivered) (valueError "successful delivered canary evidence is required")
  let canary ← told "successful canary evidence is invalid" (host.parseConcurrencyCanaryResult row.payload)
  check (canary.get "digest" = .str row.digest) (valueError "concurrency canary result digest conflict")
  let unbound := valueError "successful canary evidence does not bind to ceiling authorization"
  let canaryRow ← found ((s.protocol .canaryAuthorization).get? (canary.get "authorizationId").text) unbound
  let canaryAuthorization ← told "canary authorization is invalid" (host.parseCanaryAuthorization canaryRow.payload)
  check (canaryAuthorization.get "digest" = .str canaryRow.digest) (valueError "canary authorization digest conflict")
  let expected := match canaryAuthorization.get "projects" with
    | .arr items => items.filterMap Payload.ofJson?
    | _ => []
  let observed := (executionsOf canary).map fun e => observedProject e.1
  check ((canaryRow.state = .delivered ∨ canaryRow.state = .settled) ∧
    (canary.get "resultId").alike (authorization.get "canaryResultId") ∧
    (canary.get "targetCeiling").alike (authorization.get "ceiling") ∧
    (canary.get "expectedRevision").alike (authorization.get "expectedRevision") ∧
    canary.get "concurrencyObserved" = .bool true ∧ observed.length = 2 ∧
    sameProjects (byProject observed) (byProject expected) = true) unbound
  verifyCanaryExecutionRounds host s canary

/-- The human decision a ceiling authorization is bound to. -/
def verifyCeilingDecision (s : BridgeStore) (authorization : Payload) : Check Unit := do
  let decision ← found (s.decisions.get? (authorization.get "decisionId").text)
    (valueError "concurrency ceiling authorization is not approved")
  check (decision.status = .approved) (valueError "concurrency ceiling authorization is not approved")
  check ((["decisionId","projectId","planId","workflowId","decisionVersion","question"].all fun k =>
      (decision.request.get k).alike (authorization.get k)) ∧
    (decision.request.get "resultProvenanceId").alike (authorization.get "digest"))
    (valueError "concurrency ceiling decision binding is invalid")

/-- What `record_durable_ceiling_round` reads and checks before it counts the rounds. -/
def verifyCeiling (host : Host) (s : BridgeStore) : Check Unit := do
  let change ← found (latestChange s) (valueError "concurrency ceiling is unavailable")
  check (host.canonicalDigest change.payload = change.digest) (valueError "concurrency ceiling change digest conflict")
  let authorizationId ← found (change.payload.str? "authorizationId") (valueError "concurrency ceiling change binding is invalid")
  check (change.payload.hasKeys changeKeys ∧ isBlank authorizationId = false)
    (valueError "concurrency ceiling change binding is invalid")
  let row ← found ((s.protocol .ceilingAuthorization).get? authorizationId)
    (valueError "concurrency ceiling authorization is unavailable")
  check (row.state = .delivered ∨ row.state = .settled) (valueError "concurrency ceiling authorization is unavailable")
  let authorization ← told "concurrency ceiling authorization is invalid"
    (host.parseConcurrencyCeilingAuthorization row.payload)
  check (authorization.get "digest" = .str row.digest) (valueError "concurrency ceiling authorization digest conflict")
  check ((authorization.get "ceiling").alike (.int 2) ∧ (authorization.get "revision").asInt? =
    some ((authorization.get "expectedRevision").asInt?.getD (-1) + 1)) (valueError "concurrency ceiling is invalid")
  verifyCanaryEvidence host s authorization
  verifyCeilingDecision s authorization

/-- Reserve an eligible round under the persisted global ceiling. -/
def recordDurableCeilingRound (host : Host) (request receipt : Payload) (capability : String) : BridgeTx Unit := do
  let s ← Tx.read id
  liftCheck (verifyCeiling host s)
  let active := activeRounds s
  require (active.length < 2 ∧ ∀ other ∈ active, (other.get "projectId").alike (request.get "projectId") = false)
    (valueError "single_stream_busy")
  insertRound host request receipt capability none

/-- Atomically preserve the default global ceiling of one. -/
def recordSingleStreamRound (host : Host) (request receipt : Payload) (capability : String) : BridgeTx Unit := do
  let s ← Tx.read id
  require (activeRounds s = []) (valueError "single_stream_busy")
  insertRound host request receipt capability none

/-- Change the row of a round, if there is one. -/
def updateRound (roundId : String) (f : RoundRow → RoundRow) : BridgeTx Unit :=
  Tx.write fun s => match s.rounds.get? roundId with
    | some row => { s with rounds := s.rounds.set roundId (f row) }
    | none => s

def markDispatchStarted (roundId startedAt : String) : BridgeTx Unit := updateRound roundId fun row =>
  if row.dispatchState = .pending then
    { row with dispatchState := .started, startedAt := row.startedAt.or (some startedAt) }
  else row

def markDispatched (roundId : String) (receipt : Payload) : BridgeTx Unit :=
  updateRound roundId fun row => { row with dispatchState := .dispatched, receipt }

def roundForCapability (host : Host) (capability : String) (s : BridgeStore) : Option RoundRow :=
  s.rounds.values.find? fun row => row.capabilityHash = host.sha256 capability

/-- Store the result of a round that has none. -/
def recordResult (roundId : String) (result : Payload) (completedAt : String) : BridgeTx Unit :=
  updateRound roundId fun row =>
    if row.result = none then
      { row with
        result := some result
        completedAt := row.completedAt.or (if completedAt = "" then result.get? "occurredAt" else some (.str completedAt)) }
    else row

def markForwarded (roundId : String) : BridgeTx Unit := updateRound roundId fun row => { row with resultForwarded := true }

end Overseer.Psychlo
