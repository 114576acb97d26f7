import Overseer.Psychlo.Coordination

/-! # The passes over work requests

Who drives a work request: `receive_coordination_work_request` when the peer sends it, `tick`
when the polling comes by, `recover_protocol_records` when a bridge starts.
-/
namespace Overseer.Psychlo
open Overseer.Library Overseer.Agent
namespace Bridge
variable (b : Bridge)

/-! ### Receipt -/

/-- The binding of the request is approved and names its supervisor. -/
def bindingApproved (value : Payload) (row : ProtocolRow) : Bool :=
  row.state = .delivered && (row.payload.get "bindingId").alike (value.get "coordinationBindingId") &&
    (row.payload.get "coordinationTeamId").truthy && (row.payload.get "supervisorMemberId").truthy &&
    (row.payload.get "supervisorLeadId").alike (value.get "supervisorLeadId")

/-- The stored requests of a link. -/
def coordinationRequestsForLink (value : Payload) (s : BridgeStore) : List Payload :=
  ((s.protocol .coordinationWorkRequest).values.map (·.payload)).filter fun p =>
    (p.get "linkId").alike (value.get "linkId") && (p.get "version").alike (value.get "version")

/-- What the request must agree with in the store. -/
def admitWorkRequest (value : Payload) : BridgeProg Unit := do
  let unregistered := valueError "coordination work lead is not registered"
  let project ← orRaise (← atomically (Tx.read (·.projects.get? (value.get "projectId").text))) unregistered
  let (projectId,leadId) ← liftProg (b.registrationIdentity project.registration project.scheduling)
  require (projectId = (value.get "projectId").text ∧ leadId = (value.get "leadId").text) unregistered
  let binding ← atomically (protocolRecord .crossProjectTeamBinding (value.get "coordinationBindingId").text)
  require (binding.any (bindingApproved value) = true) (valueError "approved coordination team binding is required")
  let others ← atomically (Tx.read (coordinationRequestsForLink value))
  require (∀ p ∈ others, ∀ k ∈ ["coordinationBindingId","requiredRequestIds","supervisorLeadId"],
    (p.get k).alike (value.get k)) (valueError "coordination request set conflict")

def receiveCoordinationWorkRequest (value : Payload) : BridgeProg Payload := do
  let _requestIds ← liftProg (b.host.requireWorkRequest value)
  b.admitWorkRequest value
  let requestId := (value.get "id").text
  let _row ← persistProtocol b.host .coordinationWorkRequest requestId value false
  rescue (ignoring (b.driveCoordinationRequest requestId)) fun e =>
    if e = valueError "dispatch-pending" then pure () else raise e
  return .ofList [("accepted",.bool true),("receipt",.obj [("requestId",.str requestId),("projectId",value.get "projectId"),
    ("leadId",value.get "leadId"),("status",.str "accepted"),("provenanceId",.str ("overseer:" ++ requestId))])]

/-! ### Polling -/

/-- The pause before a request is tried again. -/
def retryDue (row : ProtocolRow) : BridgeProg Bool :=
  if row.attempts = 0 then pure true
  else match b.host.fromisoformat row.updatedAt with
    | none => pure false
    | some updated => do
      let clock ← ask .clock
      return (b.host.fromisoformat clock).any fun now =>
        now.aware = updated.aware && Decidable.decide (min 60 (2 ^ min row.attempts 6) * 1000000 ≤ now.micros - updated.micros)

/-- How many records a pass got through and how many failed. -/
structure PassReport where
  busy : Bool := false
  processed : ℕ := 0
  failed : ℕ := 0

/-- One record of a pass: a failure is noted in its row. -/
def attempt (kind : ProtocolKind) (id error : String) (report : PassReport) (work : BridgeProg Unit) : BridgeProg PassReport :=
  rescue (do
    work
    return { report with processed := report.processed + 1 }) fun _ => do
      let _row ← transitionProtocol kind id .forwardPending (some error)
      return { report with failed := report.failed + 1 }

def pollAll (report : PassReport) : List (String × ProtocolRow) → BridgeProg PassReport
  | [] => pure report
  | (id,row) :: rest => do
    if ← b.retryDue row then do
      let report ← attempt .coordinationWorkRequest id "poll-failed" report (ignoring (b.driveCoordinationRequest id))
      pollAll report rest
    else pollAll report rest

/-- Run one bounded, non-overlapping coordination polling pass. -/
def tick (limit : ℕ) : BridgeProg PassReport := do
  if ← ask .tickLock then do
    let records ← atomically (Tx.read (pendingProtocol .coordinationWorkRequest (max 1 (min 32 limit))))
    b.pollAll {} records
  else return { busy := true }

/-! ### Recovery -/

/-- The projects of a canary authorization are those its executions were for. -/
def sameIdentities (authorization canary : Payload) : Bool :=
  let identities := match authorization.get "projects" with
    | .arr items => items.filterMap Payload.ofJson?
    | _ => []
  let observed := (executionsOf canary).map fun e => observedProject e.1
  (identities.all fun p => observed.any p.alike) && observed.all fun p => identities.any p.alike

def revalidateCanaryResult (row : ProtocolRow) : BridgeProg Payload := do
  require (row.state = .delivered) (valueError "successful delivered canary evidence is required")
  let value ← liftProg (toldContract "successful delivered canary evidence is invalid"
    (b.host.parseConcurrencyCanaryResult row.payload))
  require (value.get "digest" = .str row.digest) (valueError "concurrency canary result digest conflict")
  let unavailable := valueError "canary authorization is unavailable"
  let authorization ← orRaise (← atomically (protocolRecord .canaryAuthorization (value.get "authorizationId").text)) unavailable
  require (authorization.state = .delivered ∨ authorization.state = .settled) unavailable
  let auth ← liftProg (toldContract "canary authorization is invalid" (b.host.parseCanaryAuthorization authorization.payload))
  require (auth.get "digest" = .str authorization.digest) (valueError "canary authorization digest conflict")
  require ((value.get "targetCeiling").alike (auth.get "targetTemporaryCeiling") ∧
    (value.get "expectedRevision").alike (auth.get "expectedRevision") ∧ sameIdentities auth value = true)
    (valueError "successful canary evidence does not bind to authorization")
  liftProg (← atomically (Tx.read fun s => verifyCanaryExecutionRounds b.host s value))
  return value

def revalidateCeilingAuthorization (row : ProtocolRow) : BridgeProg Payload := do
  let value ← liftProg (toldContract "concurrency-ceiling-authorization payload is invalid"
    (b.host.parseConcurrencyCeilingAuthorization row.payload))
  require (value.get "digest" = .str row.digest) (valueError "concurrency ceiling authorization digest conflict")
  let record ← orRaise (← atomically (protocolRecord .canaryResult (value.get "canaryResultId").text))
    (valueError "successful delivered canary evidence is required")
  let canary ← b.revalidateCanaryResult record
  require ((canary.get "resultId").alike (value.get "canaryResultId") ∧ (canary.get "targetCeiling").alike (value.get "ceiling") ∧
    (canary.get "expectedRevision").alike (value.get "expectedRevision")) (valueError "successful canary evidence does not bind to ceiling")
  return value

/-- Fail closed on stale or corrupt concurrency records before forwarding. -/
def revalidateConcurrencyProtocolRecord (kind : ProtocolKind) (row : ProtocolRow) : BridgeProg Unit :=
  match kind with
  | .canaryAuthorization => do
    let value ← liftProg (toldContract "concurrency-canary-authorization payload is invalid"
      (b.host.parseCanaryAuthorization row.payload))
    require (value.get "digest" = .str row.digest) (valueError "concurrency canary authorization digest conflict")
  | .ceilingAuthorization => ignoring (b.revalidateCeilingAuthorization row)
  | .ceilingChange => do
    require (row.payload.hasKeys changeKeys ∧ ∀ k ∈ changeKeys, (row.payload.str? k).any (fun s => !isBlank s) = true)
      (valueError "concurrency ceiling change is invalid")
    require (b.host.canonicalDigest row.payload = row.digest) (valueError "concurrency ceiling change digest conflict")
    let unavailable := valueError "concurrency ceiling authorization is unavailable"
    let record ← orRaise (← atomically (protocolRecord .ceilingAuthorization (row.payload.get "authorizationId").text)) unavailable
    require (record.state = .delivered ∨ record.state = .settled) unavailable
    let ceiling ← b.revalidateCeilingAuthorization record
    liftProg (← atomically (Tx.read fun s => verifyCeilingDecision s ceiling))
  | _ => pure ()

def forwardAdoptionRecord (kind : ProtocolKind) (id : String) (row : ProtocolRow) : BridgeProg Unit := do
  let wire ← liftProg (b.adoptionWire kind id row.payload)
  require (b.host.canonicalDigest wire = row.digest) (valueError "adoption protocol digest conflict")
  let response ← orRaise (← ask (.sender (.protocol kind) id wire)) outsideError
  liftProg (b.adoptionAnswer kind wire response)
  let now ← ask .storeClock
  atomically (updateProtocol kind id fun row =>
    { row with state := .delivered, attempts := row.attempts + 1, lastError := none, updatedAt := now, receipt := some response })
  let _row ← orRaise (← atomically (protocolRecord kind id)) (valueError "protocol record is missing")

/-- Forward a stored review and settle what it is about. -/
def recoverReview (reviewId : String) (row : ProtocolRow) : BridgeProg Unit := do
  forwardProtocolRecord .crossProjectSupervisorReview reviewId row.payload
  let requestId ← orRaise (← atomically (Tx.read fun s => (s.reviews.entries.find? (·.2.externalId = reviewId)).map (·.1)))
    (valueError "coordination review is missing")
  reviewDelivered requestId (row.payload.get "accepted" = .bool true)

/-- What recovery does with a record that is pending. -/
def recoverRecord (kind : ProtocolKind) (id : String) (row : ProtocolRow) : BridgeProg Unit :=
  match kind with
  | .coordinationWorkRequest => ignoring (b.driveCoordinationRequest id)
  | .crossProjectSupervisorReview => recoverReview id row
  | .registryCandidate | .adoptionEvidence => b.forwardAdoptionRecord kind id row
  | _ => do
    b.revalidateConcurrencyProtocolRecord kind row
    sendAccepted kind id row.payload
    let _row ← transitionProtocol kind id .delivered none

/-- A record that was tried three times is passed over. -/
def recoverAll (kind : ProtocolKind) (report : PassReport) : List (String × ProtocolRow) → BridgeProg PassReport
  | [] => pure report
  | (id,row) :: rest =>
    if 3 ≤ row.attempts then recoverAll kind report rest
    else do
      let report ← attempt kind id "forward-failed" report (b.recoverRecord kind id row)
      recoverAll kind report rest

def recoveredKinds : List ProtocolKind := [.registryCandidate,.adoptionEvidence,.externalRoundBinding,
  .ingressConflictReconciliation,.crossProjectTeamBinding,.crossProjectCommand,.coordinationWorkRequest,
  .crossProjectParticipantResult,.crossProjectSupervisorReview,.canaryAuthorization,.ceilingAuthorization,.ceilingChange]

def recoverKinds (report : PassReport) : List ProtocolKind → BridgeProg PassReport
  | [] => pure report
  | kind :: rest => do
    let records ← atomically (Tx.read (pendingProtocol kind 100))
    let report ← b.recoverAll kind report records
    recoverKinds report rest

def recoverProtocolRecords : BridgeProg PassReport := b.recoverKinds {} recoveredKinds

end Bridge
end Overseer.Psychlo
