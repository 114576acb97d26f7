import Overseer.Psychlo.Bridge

/-! # External rounds and their gates

A round that ran outside is reconciled by `receive_external_round`, which forwards it to the
peer. When it stopped at an explicit gate, a human decision is staged, decided and settled
in the row of the execution.
-/
namespace Overseer.Psychlo
open Overseer.Library Overseer.Agent

/-! ### The store -/

/-- The decision of a reconciliation. -/
def gateId (reconciliationId : String) : String := "roadex:external:" ++ reconciliationId

def isGateId (decisionId : String) : Bool := "roadex:external:".toList.isPrefixOf decisionId.toList

/-- The reconciliation of a decision. -/
def reconciliationOf (decisionId : String) : String :=
  if isGateId decisionId then String.ofList (decisionId.toList.drop 16) else decisionId

def updateExternal (reconciliationId : String) (f : ExternalRow → ExternalRow) : BridgeTx Unit :=
  Tx.write fun s => match s.external.get? reconciliationId with
    | some row => { s with external := s.external.set reconciliationId (f row) }
    | none => s

def externalExecution (reconciliationId : String) : BridgeTx (Option ExternalRow) := Tx.read (·.external.get? reconciliationId)

def decisionOf (decisionId : String) : BridgeTx (Option DecisionRow) := Tx.read (·.decisions.get? decisionId)

/-- `INSERT INTO external_executions`. -/
def insertExternal (reconciliationId : String) (row : ExternalRow) : BridgeTx Unit := do
  let rows ← Tx.read (·.external)
  require (rows.get? reconciliationId = none ∧ ∀ other ∈ rows.values,
    (other.payload.get "externalExecutionId").alike (row.payload.get "externalExecutionId") = false ∧
    (other.payload.get "idempotencyKey").alike (row.payload.get "idempotencyKey") = false ∧ other.digest ≠ row.digest)
    ⟨.integrity,"UNIQUE constraint failed: external_executions"⟩
  Tx.write fun s => { s with external := s.external.set reconciliationId row }

def recordExternal (reconciliationId : String) (row : ExternalRow) : BridgeProg Unit := do
  let _now ← ask .storeClock
  rescue (atomically (insertExternal reconciliationId row)) fun _ => do
    let existing ← atomically (externalExecution reconciliationId)
    require (existing.any (fun r => r.digest = row.digest && r.payload.alike row.payload) = true) (valueError "external round conflict")

def linkExternalGate (reconciliationId decisionId workflowId : String) : BridgeProg Unit := do
  let record ← orRaise (← atomically (externalExecution reconciliationId)) (valueError "external decision identity conflict")
  require (record.gateDecisionId = some decisionId) (valueError "external decision identity conflict")
  require (isBlank workflowId = false) (valueError "external decision workflow is invalid")
  require (record.gateWorkflowId = none ∨ record.gateWorkflowId = some workflowId) (valueError "external decision workflow conflict")
  atomically (updateExternal reconciliationId fun row => { row with gateWorkflowId := some workflowId })

/-- The receipt that a forward writes. -/
def Forwarding.receipt (f : Forwarding) : Payload := f.copy.merge f.brought.entries

/-- The status that a forward writes. -/
def Forwarding.status (f : Forwarding) : String := ((f.receipt.get? "status").map Json.text).getD "reconciled"

/-- The row after a forward. -/
def ExternalRow.forward (row : ExternalRow) (f : Forwarding) (forwarded : Bool) : ExternalRow :=
  { row with receipt := f.receipt, status := f.status, forwarded := row.forwarded || forwarded }

/-- Write what a forward brings. -/
def writeForward (f : Forwarding) (forwarded : Bool) : BridgeProg Unit :=
  Prog.transaction { forwarding := some f } (updateExternal f.reconciliationId (·.forward f forwarded))

def markExternalForwarded (reconciliationId : String) : BridgeProg Unit := do
  let record ← orRaise (← atomically (externalExecution reconciliationId)) ⟨.type,"external execution is missing"⟩
  writeForward ⟨reconciliationId,record.receipt,.ofList [("status",.str "reconciled")]⟩ true

/-- The fields of an envelope that its decision repeats. -/
def decisionFields (envelope : Payload) : List (String × Json) :=
  [("projectId",envelope.get "projectId"),("planId",envelope.get "planId"),("decisionVersion",envelope.get "planVersion"),
   ("correlationId",envelope.get "correlationId"),("idempotencyKey",.str (gateId (envelope.get "idempotencyKey").text)),
   ("question",envelope.get "explicitGate"),("resultProvenanceId",envelope.get "digest")]

/-- Insert the staged decision of a gate, or find it there: the receipt. -/
def stageExternalDecision (request receipt : Payload) : BridgeTx Payload := do
  let conflict := valueError "external decision identity conflict"
  let decisionId := ((request.get? "decisionId").map Json.text).getD ""
  let reconciliationId := reconciliationOf decisionId
  let workflowId := (request.get "workflowId").text
  require ((request.str? "workflowId").any (fun s => !isBlank s) = true ∧
    ∀ k ∈ ["projectId","planId","decisionVersion","correlationId","idempotencyKey","question","resultProvenanceId"],
      (request.str? k).any (· ≠ "") = true) conflict
  let external ← orRaise (← externalExecution reconciliationId) conflict
  require (external.gateDecisionId = some decisionId) conflict
  let expected := ("decisionId",.str decisionId) :: decisionFields external.payload
  require (request.hasKeys ("workflowId" :: expected.map (·.1)) ∧ ∀ e ∈ expected, (request.get e.1).alike e.2) conflict
  require (external.gateWorkflowId = none ∨ external.gateWorkflowId = some workflowId) (valueError "external decision workflow conflict")
  match ← decisionOf decisionId with
  | some existing => do
    require (existing.request.alike request) conflict
    updateExternal reconciliationId fun row => { row with gateWorkflowId := some workflowId }
    return existing.receipt
  | none => do
    Tx.write fun s => { s with decisions := s.decisions.set decisionId { request, receipt } }
    updateExternal reconciliationId fun row => { row with gateWorkflowId := some workflowId }
    return receipt

/-- `INSERT OR IGNORE INTO decisions`. -/
def recordDecision (decisionId : String) (request receipt : Payload) : BridgeTx Unit :=
  Tx.write fun s => match s.decisions.get? decisionId with
    | some _ => s
    | none => { s with decisions := s.decisions.set decisionId { request, receipt } }

/-- Who decided what and why. -/
structure Verdict where
  status : DecisionStatus
  decidedBy : String
  decidedAt : String
  reason : String

/-- The row of a decision that is settled. -/
def DecisionRow.settle (row : DecisionRow) (v : Verdict) : DecisionRow :=
  { row with status := v.status, decidedBy := some v.decidedBy, decidedAt := some v.decidedAt, reason := some v.reason }

/-- `decide` of the store. -/
def decideStaged (decisionId : String) (v : Verdict) : BridgeTx Unit := do
  let missing := valueError "an exact staged Psychlo decision is required"
  let row ← orRaise (← decisionOf decisionId) missing
  require (row.status = .staged) missing
  Tx.write fun s => { s with decisions := s.decisions.set decisionId (row.settle v) }

def decisionIntent (decisionId : String) : BridgeTx (Option DecisionIntent) := Tx.read (·.decisionIntents.get? decisionId)

def insertDecisionIntent (decisionId : String) (intent : DecisionIntent) : BridgeTx Unit := do
  let rows ← Tx.read (·.decisionIntents)
  require (rows.get? decisionId = none) ⟨.integrity,"UNIQUE constraint failed: decision_intents.decision_id"⟩
  Tx.write fun s => { s with decisionIntents := s.decisionIntents.set decisionId intent }

def recordDecisionIntent (decisionId : String) (request outcome : Payload) (v : Verdict) : BridgeProg Unit := do
  match ← atomically (decisionIntent decisionId) with
  | some existing =>
    require (existing.request.alike request ∧ existing.outcome.alike outcome ∧ existing.decidedBy = v.decidedBy ∧
      existing.reason = v.reason) (valueError "external decision conflict")
  | none => do
    let now ← ask .storeClock
    atomically (insertDecisionIntent decisionId
      { request, outcome, decidedBy := v.decidedBy, decidedAt := v.decidedAt, reason := v.reason, updatedAt := now })

/-- The receipt of an execution whose decision is settled. -/
def settledReceipt (receipt : Payload) (decisionId : String) (status : DecisionStatus) : Payload :=
  ((receipt.set "decisionId" (.str decisionId)).set "decisionStatus" (.str status.value)).set "status" (.str status.value)

/-- `settle_external_decision`: one transaction over the decision, the execution and the intent. -/
def settleExternalDecision (decisionId reconciliationId : String) (v : Verdict) (now : String) : BridgeTx Unit := do
  let conflict := valueError "external decision conflict"
  let decision ← orRaise (← decisionOf decisionId) (valueError "an exact staged Psychlo decision is required")
  require (decision.status = .staged ∨ decision.status = v.status) conflict
  let external ← orRaise (← externalExecution reconciliationId) (valueError "external decision identity conflict")
  require (external.gateDecisionId = some decisionId) (valueError "external decision identity conflict")
  let workflowId ← orRaise external.gateWorkflowId (valueError "external decision workflow conflict")
  require ((decision.request.get "workflowId").alike (.str workflowId)) (valueError "external decision workflow conflict")
  let prior := external.receipt.get "decisionStatus"
  let known ← liftCheck (memberOf prior ["pending","stage-pending",v.status.value])
  require (prior = .null ∨ known = true) conflict
  Tx.write fun s => { s with
    decisions := if decision.status = .staged then s.decisions.set decisionId (decision.settle v) else s.decisions
    external := s.external.set reconciliationId
      { external with receipt := settledReceipt external.receipt decisionId v.status, status := v.status.value }
    decisionIntents := match s.decisionIntents.get? decisionId with
      | some intent => s.decisionIntents.set decisionId { intent with settled := true, updatedAt := now }
      | none => s.decisionIntents }

/-! ### The bridge -/

def externalDecisionRequest (envelope : Payload) (workflowId : String) : Payload :=
  .ofList (("decisionId",.str (gateId (envelope.get "reconciliationId").text)) :: ("workflowId",.str workflowId) :: decisionFields envelope)

/-- The receipt that a forward finds. -/
def foundReceipt (record : Option ExternalRow) : Payload :=
  match record with
  | some row => row.receipt
  | none => .empty

/-- Forward the execution; a peer that fails leaves it pending. -/
def forwardExternal (reconciliationId : String) (envelope : Payload) : BridgeProg Unit := do
  match ← ask (.sender .externalRound reconciliationId envelope) with
  | some response =>
    if accepts response then do
      let record ← atomically (externalExecution reconciliationId)
      match Payload.ofJson? (response.get "receipt") with
      | some receipt => do
        let stored := foundReceipt record
        let expected := stored.get "decisionId"
        require (expected.truthy → receipt.get "decisionId" = .null ∨ (receipt.get "decisionId").alike expected)
          (valueError "external decision identity conflict")
        writeForward ⟨reconciliationId,stored,receipt⟩ false
        markExternalForwarded reconciliationId
      | none => markExternalForwarded reconciliationId
    else forwardFailed reconciliationId
  | none => forwardFailed reconciliationId
where
  /-- The forward waits for a replay. -/
  forwardFailed (reconciliationId : String) : BridgeProg Unit := do
    let record ← atomically (externalExecution reconciliationId)
    writeForward ⟨reconciliationId,foundReceipt record,.ofList [("status",.str "forward-pending")]⟩ false

def ensureExternalDecision (envelope : Payload) (decisionId : String) : BridgeProg Unit := do
  let reconciliationId := (envelope.get "reconciliationId").text
  require (gateId reconciliationId = decisionId) (valueError "external decision identity conflict")
  match ← atomically (decisionOf decisionId) with
  | none => return ()
  | some existing => do
    require ((existing.request.str? "workflowId").any (fun s => !isBlank s) = true) (valueError "external decision workflow conflict")
    let workflowId := (existing.request.get "workflowId").text
    require (existing.request.alike (externalDecisionRequest envelope workflowId)) (valueError "external decision identity conflict")
    linkExternalGate reconciliationId decisionId workflowId

/-- What an authorization of the peer binds an external round to. -/
def bindingFields : List String := ["externalExecutionId","projectId","aTeamId","planId","planVersion","projectLeadId","threadId",
  "repository","startingCheckpoint","terminalCheckpoint"]

namespace Bridge
variable (b : Bridge)

/-- The execution of a new envelope. -/
def externalRow (envelope : Payload) (now : String) : ExternalRow :=
  let id := (envelope.get "reconciliationId").text
  let gate := if (envelope.get "explicitGate").truthy then some (gateId id) else none
  let base := Payload.ofList [("receiptId",.str ("external-receipt:" ++ id)),("reconciliationId",.str id),
    ("idempotencyKey",envelope.get "idempotencyKey"),("envelopeDigest",envelope.get "digest"),("receivedAt",.str now),
    ("status",.str "reconciled")]
  { payload := envelope
    digest := (envelope.get "digest").text
    receipt := match gate with
      | some decisionId => base.merge [("decisionId",.str decisionId),("decisionStatus",.str "pending")]
      | none => base
    gateDecisionId := gate }

/-- An authorization that binds the reconciliation, where there is one. -/
def checkBinding (reconciliationId : String) (envelope : Payload) : BridgeProg Unit := do
  match ← atomically (Tx.read fun s => (s.protocol .externalRoundBinding).get? reconciliationId) with
  | none => require (b.requireExternalBinding = false) (valueError "external round binding authorization is required")
  | some binding =>
    require (∀ k ∈ bindingFields, (binding.payload.get k).alike (envelope.get k)) (valueError "external round binding conflict")

def receiveExternalRound (payload : Payload) : BridgeProg Payload := do
  let envelope ← liftProg (b.host.parseExternalRound payload)
  let id := (envelope.get "reconciliationId").text
  let missing : AgentError := ⟨.type,"external execution is missing"⟩
  b.checkBinding id envelope
  match ← atomically (externalExecution id) with
  | some existing => do
    require (existing.digest = (envelope.get "digest").text ∧ existing.payload.alike envelope) (valueError "external round identity conflict")
    if existing.forwarded = false then forwardExternal id envelope else pure ()
    ensureGate envelope existing.gateDecisionId
    let row ← orRaise (← atomically (externalExecution id)) missing
    return row.receipt
  | none => do
    let now ← ask .clock
    let row := externalRow envelope now
    recordExternal id row
    forwardExternal id envelope
    ensureGate envelope row.gateDecisionId
    let row ← orRaise (← atomically (externalExecution id)) missing
    return row.receipt
where
  /-- The decision of the gate, when there is one. -/
  ensureGate (envelope : Payload) (gate : Option String) : BridgeProg Unit :=
    match gate with
    | some decisionId => ensureExternalDecision envelope decisionId
    | none => pure ()

/-- The receipt of a decision that is staged. -/
def stagedReceipt (request : Payload) (decisionId : String) : Payload :=
  request.merge [("sourceId",.str "overseer"),("provenanceId",.str ("roadex:" ++ decisionId)),("status",.str "staged")]

def stageDecision (request : Payload) : BridgeProg Payload := do
  let decisionId ← liftProg (requiredString request "decisionId")
  let receipt := stagedReceipt request decisionId
  if isGateId decisionId then atomically (stageExternalDecision request receipt)
  else match ← atomically (decisionOf decisionId) with
    | some existing => do
      require (existing.request.alike request) (valueError "decision identity conflict")
      return existing.receipt
    | none => do
      atomically (recordDecision decisionId request receipt)
      return receipt

/-- The outcome that goes to the peer. -/
def outcomeOf (request : Payload) (decisionId : String) (status : DecisionStatus) : Payload :=
  request.merge [("sourceId",.str "overseer"),("provenanceId",.str ("roadex-outcome:" ++ decisionId ++ ":" ++ status.value)),
    ("status",.str status.value)]

/-- Send the outcome of an intent and settle it. -/
def deliverDecisionIntent (decisionId : String) : BridgeProg Unit := do
  match ← atomically (decisionIntent decisionId) with
  | none => return ()
  | some intent =>
    if intent.settled then return ()
    else do
      let response ← orRaise (← ask (.sender .decisionOutcome decisionId intent.outcome)) outsideError
      require (accepts response) (valueError "Psychlo rejected decision outcome")
      -- an outcome is only recorded with one of the statuses
      let status ← orRaise (DecisionStatus.ofValue? (intent.outcome.get "status").text) (valueError "external decision conflict")
      let now ← ask .storeClock
      atomically (settleExternalDecision decisionId (reconciliationOf decisionId)
        ⟨status,intent.decidedBy,intent.decidedAt,intent.reason⟩ now)

def decideExternal (request : Payload) (v : Verdict) : BridgeProg Unit := do
  let conflict := valueError "external decision conflict"
  let identity := valueError "external decision identity conflict"
  let decisionId := (request.get "decisionId").text
  let external ← orRaise (← atomically (externalExecution (reconciliationOf decisionId))) identity
  require (external.gateDecisionId = some decisionId) identity
  let workflowId ← orRaise external.gateWorkflowId (valueError "external decision workflow conflict")
  require (isBlank workflowId = false) (valueError "external decision workflow conflict")
  require (request.alike (externalDecisionRequest external.payload workflowId)) identity
  let prior ← atomically (decisionOf decisionId)
  let priorExternal := external.receipt.get "decisionStatus"
  if prior.any (·.status = v.status) ∧ priorExternal = .str v.status.value then return ()
  else do
    require (prior.all (·.status = .staged)) conflict
    let final ← liftProg (memberOf priorExternal finalStatuses)
    require (final = false ∨ priorExternal = .str v.status.value) conflict
    recordDecisionIntent decisionId request (outcomeOf request decisionId v.status) v
    deliverDecisionIntent decisionId

/-- The human decisions. -/
inductive Choice where
  | approve | deny | requestRevision

def Choice.status : Choice → DecisionStatus
  | approve => .approved
  | deny | requestRevision => .rejected

def decide (decisionId : String) (choice : Choice) (decidedBy reason : String) : BridgeProg Unit := do
  let missing := valueError "an exact staged Psychlo decision is required"
  require (isBlank decidedBy = false) (valueError "exact human decision is required")
  let record ← atomically (decisionOf decisionId)
  let now ← ask .clock
  let v : Verdict := ⟨choice.status,decidedBy,now,reason⟩
  let record ← orRaise record missing
  if isGateId decisionId then do
    require (record.status = .staged ∨ record.status = v.status) (valueError "external decision conflict")
    decideExternal record.request v
  else do
    require (record.status = .staged) missing
    let response ← orRaise (← ask (.sender .decisionOutcome (record.request.get "decisionId").text
      (outcomeOf record.request decisionId v.status))) outsideError
    require (accepts response) (valueError "Psychlo rejected decision outcome")
    atomically (decideStaged decisionId v)

/-- The final status of an outcome the peer reports. -/
def reportedStatus (payload : Payload) : Check DecisionStatus := do
  let invalid := valueError "external decision outcome is invalid"
  check ((payload.str? "decisionId").any isGateId = true) invalid
  check ((← memberOf (payload.get "status") finalStatuses) = true) invalid
  found (DecisionStatus.ofValue? (payload.get "status").text) invalid

def receiveExternalDecisionOutcome (payload : Payload) : BridgeProg Payload := do
  let identity := valueError "external decision outcome identity conflict"
  let workflow := valueError "external decision workflow conflict"
  let status ← liftProg (reportedStatus payload)
  let decisionId := (payload.get "decisionId").text
  let id := reconciliationOf decisionId
  let record ← orRaise (← atomically (externalExecution id)) identity
  require (record.gateDecisionId = some decisionId) identity
  let decision ← orRaise (← atomically (decisionOf decisionId)) (valueError "an exact staged Psychlo decision is required")
  let workflowId := (decision.request.get "workflowId").text
  require ((decision.request.str? "workflowId").any (fun s => !isBlank s) = true ∧ record.gateWorkflowId = some workflowId) workflow
  let expected := ("workflowId",.str workflowId) :: decisionFields record.payload
  require ((∀ k ∈ payload.keys, k ∈ ["decisionId","status","sourceId","provenanceId"] ++ expected.map (·.1)) ∧
    ∀ e ∈ expected, (payload.get? e.1).all (·.alike e.2) = true) identity
  require ((payload.get? "sourceId").all (· = .str "overseer") = true) identity
  require ((payload.get? "provenanceId").all (fun v => v.asStr?.any fun s => !isBlank s) = true) (valueError "external decision outcome is invalid")
  let priorStatus := record.receipt.get "decisionStatus"
  let final ← liftProg (memberOf priorStatus finalStatuses)
  require (final = false ∨ priorStatus = .str status.value) (valueError "external decision outcome conflict")
  ensureExternalDecision record.payload decisionId
  let decision ← orRaise (← atomically (decisionOf decisionId)) ⟨.type,"decision is missing"⟩
  let now ← ask .clock
  decideExternal decision.request ⟨status,((payload.get? "sourceId").map Json.text).getD "psychlo",now,"external decision outcome"⟩
  let row ← orRaise (← atomically (externalExecution id)) ⟨.type,"external execution is missing"⟩
  return row.receipt

/-- The intents that are on their way. -/
def pendingDecisionIntents (s : BridgeStore) : List String :=
  (((s.decisionIntents.entries.filter fun e => e.2.settled = false).insertionSort fun a b =>
    a.2.updatedAt ≠ b.2.updatedAt ∧ textLe a.2.updatedAt b.2.updatedAt ∨ a.2.updatedAt = b.2.updatedAt ∧ textLe a.1 b.1)).map (·.1)

def deliverAll : List String → BridgeProg Unit
  | [] => pure ()
  | decisionId :: rest => do
    rescue (deliverDecisionIntent decisionId) fun _ => pure ()
    deliverAll rest

/-- `_recover_decision_intents`, when a bridge starts. -/
def recoverDecisionIntents : BridgeProg Unit := do
  let pending ← atomically (Tx.read pendingDecisionIntents)
  deliverAll pending

end Bridge
end Overseer.Psychlo
