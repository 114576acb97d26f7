import Overseer.Core.StorageControl
import Overseer.Library.Runs

/-! # Backup provisioning plans

`backup_provisioning.py`: a staged plan is decided by a human, and an approved one is executed
step by step on the host. Each operation reads the row of the plan, and writes the whole row back
later without looking at it again.
-/
namespace Overseer.Provisioning
open Overseer.Library Overseer.Core

def planKind : String := "donuthole_encrypted_backup_provisioning_v1"

inductive ProvisioningStatus where
  | staged | approved | denied | revisionRequested | executed | failed | rolledBack
  deriving DecidableEq

structure ProvisioningStep where
  operation : String
  arguments : Json
  deriving DecidableEq

/-- `contract` holds the fields that nothing but the check of the plan reads. -/
structure BackupProvisioningPlan where
  planId : String
  contract : Json
  evidenceIds : Dict String
  steps : List ProvisioningStep
  rollbackSteps : List ProvisioningStep
  status : ProvisioningStatus := .staged
  approvedBy : Option String := none
  approvedAt : Option String := none
  executedAt : Option String := none
  evidenceDigest : Option String := none
  failedOperation : Option String := none
  errorCode : Option String := none
  decisionSource : String := "Roadex"
  decisionReason : Option String := none
  decidedBy : Option String := none
  decidedAt : Option String := none
  deriving DecidableEq

/-- A crew message, as far as it is evidence. -/
structure EvidenceMessage where
  ownerDomain : OwnerDomain
  relatedPlanId : Option String
  status : CrewMessageStatus
  reviewStatus : CrewReviewStatus
  decidedBy : Option String
  decidedAt : Option String
  requestedBy : String

structure PlanStore where
  plans : Dict BackupProvisioningPlan := .empty
  crewMessages : Dict EvidenceMessage := .empty

inductive ProvisioningError where
  | value (message : String)
  | key (k : String)
  | adapter (code : Option String)
  | factory
  | stopIteration

/-- The digest, whether a text is a time and has an offset, and what `_validate_plan` has against a plan. -/
structure PlanHost where
  sha256 : String → String
  fromisoformat : String → Option Bool
  planFault : BackupProvisioningPlan → Option String

/-- What the adapter replies to a step: a result that says it is ok or not, or an exception with its code. -/
inductive StepReply where
  | replied (ok : Bool)
  | raised (code : Option String)

def StepReply.ok : StepReply → Bool
  | .replied ok => ok
  | .raised _ => false

inductive PlanQuery where
  | clock
  | adapterFactory (plan : BackupProvisioningPlan)
  | forward (step : ProvisioningStep)
  | rollback (step : ProvisioningStep)

abbrev PlanAnswer : PlanQuery → Type
  | .clock => String
  | .adapterFactory _ => Bool
  | .forward _ => StepReply
  | .rollback _ => StepReply

/-- The plan as a write loaded it, and whether an execution that has read its plan makes the step. -/
structure Held where
  copy : Option BackupProvisioningPlan := none
  executing : Bool := false

instance : Inhabited Held := ⟨{}⟩

abbrev PlanProg := Prog PlanStore Held PlanAnswer ProvisioningError

def refuse : Option String → PlanProg Unit
  | none => pure ()
  | some message => raise (.value message)

section Host
variable (host : PlanHost)

/-- `_time`. -/
def timeFault (value : String) : Option String :=
  match host.fromisoformat (value.replace "Z" "+00:00") with
  | none => some "Invalid isoformat string"
  | some false => some "timezone is required"
  | some true => none

/-- A time that is given, or the clock. -/
def timeOrNow (given : Option String) : PlanProg String :=
  match given with
  | none => Prog.ask PlanQuery.clock
  | some t => if t = "" then Prog.ask PlanQuery.clock else pure t

/-! ### Rows -/

def stored (planId : String) : PlanProg BackupProvisioningPlan := do
  let row ← Prog.transaction {} (Tx.read (·.plans.get? planId))
  orRaise row (.key planId)

def PlanStore.update (s : PlanStore) (planId : String) (plan : BackupProvisioningPlan) : PlanStore :=
  if (s.plans.get? planId).isSome then { s with plans := s.plans.set planId plan } else s

def updatePlan (held : Held) (planId : String) (plan : BackupProvisioningPlan) : PlanProg Unit :=
  Prog.transaction held (Tx.write (·.update planId plan))

def loadCrewMessage (executing : Bool) (id : String) : PlanProg EvidenceMessage := do
  let row ← Prog.transaction { executing := executing } (Tx.read (·.crewMessages.get? id))
  orRaise row (.key id)

/-- The plans in the order of their ids. -/
def PlanStore.listPlans (s : PlanStore) : List BackupProvisioningPlan :=
  (s.plans.entries.insertionSort fun a b => a.1.toList ≤ b.1.toList).map Prod.snd

/-! ### Evidence -/

def requiredEvidence : List (String × OwnerDomain) := [("kira",.kira),("obrien",.obrien),("security",.odoIds),("sisko",.sisko)]

def evidenceActors : List String := requiredEvidence.map (·.1) ++ requiredEvidence.map (·.2.value)

def EvidenceMessage.Terminal (message : EvidenceMessage) (plan : BackupProvisioningPlan) (domain : OwnerDomain) : Prop :=
  message.ownerDomain = domain ∧ message.relatedPlanId = some plan.planId ∧ message.status = .acknowledged ∧
    message.reviewStatus = .approved ∧ message.decidedBy = some domain.value ∧ message.decidedAt.any (· ≠ "") = true

instance (message : EvidenceMessage) (plan : BackupProvisioningPlan) (domain : OwnerDomain) :
    Decidable (message.Terminal plan domain) := inferInstanceAs (Decidable (_ ∧ _))

/-- `_require_terminal_evidence`, from a list of roles on. -/
def requireTerminalEvidence (executing : Bool) (plan : BackupProvisioningPlan) : List (String × OwnerDomain) → PlanProg Unit
  | [] => pure ()
  | (role,domain) :: rest => do
    let id ← orRaise (plan.evidenceIds.get? role) (.key role)
    let message ← loadCrewMessage executing id
    require (message.Terminal plan domain) (.value ("terminal approved " ++ role ++ " evidence is required"))
    requireTerminalEvidence executing plan rest

def evidenceRequesters : List String → PlanProg (List String)
  | [] => pure []
  | id :: rest => do
    let message ← loadCrewMessage false id
    let requesters ← evidenceRequesters rest
    pure (message.requestedBy :: requesters)

/-! ### Approval -/

def approvePlan (planId approvedBy : String) (approvedAt : Option String) : PlanProg BackupProvisioningPlan := do
  let now ← timeOrNow approvedAt
  refuse (timeFault host now)
  let plan ← stored planId
  requireTerminalEvidence false plan requiredEvidence
  let requesters ← evidenceRequesters plan.evidenceIds.values
  require (plan.status = .staged ∧ isBlank approvedBy = false ∧ approvedBy ∉ evidenceActors ∧ approvedBy ∉ requesters)
    (.value "independent human approval is required")
  let approved := { plan with status := .approved, approvedBy := some approvedBy, approvedAt := some now }
  updatePlan { copy := some plan } planId approved
  pure approved

/-! ### Execution -/

structure StepEvidence where
  operation : String
  ok : Bool

def evidenceJson (evidence : List StepEvidence) : Json :=
  .arr (evidence.map fun e => .obj [("operation",.str e.operation),("ok",.bool e.ok)])

/-- The digest of `json.dumps(value, sort_keys=True, separators=(",", ":"))`. -/
def objectDigest (value : Json) : String := "sha256:" ++ host.sha256 (Json.dumps true (Json.sortKeys value))

/-- `[A-Z][A-Z0-9_]{0,63}`, or the code of any other exception. -/
def redactedErrorCode (code : Option String) : String :=
  match code with
  | none => "OPERATION_FAILED"
  | some code =>
    match code.toList with
    | [] => "OPERATION_FAILED"
    | c :: rest => if c.isUpper ∧ (rest.all fun d => d.isUpper || d.isDigit || d = '_') = true ∧ rest.length ≤ 63 then code
      else "OPERATION_FAILED"

inductive Forward where
  | completed (evidence : List StepEvidence)
  | broken (evidence : List StepEvidence) (failedOperation errorCode : String) (e : ProvisioningError)

/-- The forward steps, up to the first that fails. -/
def runForward : List ProvisioningStep → List StepEvidence → PlanProg Forward
  | [], evidence => pure (.completed evidence)
  | expected :: rest, evidence => do
    let reply ← Prog.ask (PlanQuery.forward expected)
    match (reply : StepReply) with
    | .replied true => runForward rest (evidence ++ [⟨expected.operation,true⟩])
    | .replied false => pure (.broken (evidence ++ [⟨expected.operation,false⟩]) expected.operation "OPERATION_REPORTED_FAILURE"
        (.value "provisioning step failed"))
    | .raised code => pure (.broken evidence expected.operation (redactedErrorCode code) (.adapter code))

/-- Every rollback step, whatever the others reply. -/
def runRollback : List ProvisioningStep → PlanProg (List StepEvidence)
  | [] => pure []
  | rollback :: rest => do
    let reply ← Prog.ask (PlanQuery.rollback rollback)
    let after ← runRollback rest
    pure (⟨rollback.operation,StepReply.ok reply⟩ :: after)

def completed (plan : BackupProvisioningPlan) (now : String) (evidence : List StepEvidence) : BackupProvisioningPlan :=
  { plan with status := .executed, executedAt := some now, evidenceDigest := some (objectDigest host (evidenceJson evidence)) }

def undone (plan : BackupProvisioningPlan) (now : String) (evidence rollbackEvidence : List StepEvidence)
    (failedOperation errorCode : String) : BackupProvisioningPlan :=
  { plan with
    status := if rollbackEvidence.all (·.ok) then .rolledBack else .failed
    executedAt := some now
    evidenceDigest := some (objectDigest host (.obj [("execute",evidenceJson evidence),("rollback",evidenceJson rollbackEvidence)]))
    failedOperation := some failedOperation
    errorCode := some errorCode }

/-- What is written once the forward steps have ended. -/
def settle (planId : String) (plan : BackupProvisioningPlan) (now : String) : Forward → PlanProg BackupProvisioningPlan
  | .completed evidence => do
    updatePlan { copy := some plan, executing := true } planId (completed host plan now evidence)
    pure (completed host plan now evidence)
  | .broken evidence failedOperation errorCode e => do
    let rollbackEvidence ← runRollback plan.rollbackSteps
    updatePlan { copy := some plan, executing := true } planId
      (undone host plan now evidence rollbackEvidence failedOperation errorCode)
    raise e

def BackupProvisioningPlan.Executable (plan : BackupProvisioningPlan) : Prop :=
  plan.status = .approved ∧ plan.approvedBy.any (· ≠ "") = true ∧ plan.approvedAt.any (· ≠ "") = true

instance (plan : BackupProvisioningPlan) : Decidable plan.Executable := inferInstanceAs (Decidable (_ ∧ _))

def executePlan (planId : String) (adapter : Bool) (executedAt : Option String) : PlanProg BackupProvisioningPlan := do
  require (adapter = true) (.value "an explicit dedicated provisioning adapter is required")
  let now ← timeOrNow executedAt
  refuse (timeFault host now)
  let plan ← stored planId
  refuse (host.planFault plan)
  requireTerminalEvidence true plan requiredEvidence
  require plan.Executable (.value "the exact provisioning plan requires independent human approval")
  let forward ← runForward plan.steps []
  settle host planId plan now forward

/-! ### Human decisions -/

structure HumanDecision where
  ok : Bool
  decision : String
  actionStatus : ProvisioningStatus
  plan : BackupProvisioningPlan
  approval : Option BackupProvisioningPlan := none
  error : Option ProvisioningError := none

def decided (plan : BackupProvisioningPlan) (decision decidedBy reason now : String) : BackupProvisioningPlan :=
  { plan with
    status := if decision = "deny" then .denied else .revisionRequested
    decisionReason := some (strip reason)
    decidedBy := some (strip decidedBy)
    decidedAt := some now }

/-- The plan approved and executed; an execution that raises is reported with the plan as it is then. -/
def approveAndExecute (planId decidedBy : String) (plan : BackupProvisioningPlan) : PlanProg HumanDecision := do
  let made ← Prog.ask (PlanQuery.adapterFactory plan)
  require ((made : Bool) = true) .factory
  let approved ← approvePlan host planId (strip decidedBy) none
  rescue
    (do
      let executed ← executePlan host planId true none
      pure { ok := true, decision := "approve", actionStatus := executed.status, plan := executed, approval := some approved })
    (fun e => do
      let plans ← Prog.transaction {} (Tx.read (·.listPlans))
      let current ← orRaise (plans.find? (·.planId = planId)) .stopIteration
      pure { ok := false, decision := "approve", actionStatus := current.status, plan := current, error := some e })

def decideRoadexHumanPlan (planId decision decidedBy reason : String) (adapterFactory : Bool) : PlanProg HumanDecision := do
  require (decision ∈ ["approve","deny","request_revision"]) (.value "decision must be approve, deny, or request_revision")
  require (isBlank decidedBy = false) (.value "independent human identity is required")
  require (decision = "approve" ∨ isBlank reason = false) (.value "a reason is required for denial or revision")
  let plan ← stored planId
  require (plan.decisionSource = "Roadex" ∧ plan.status = .staged) (.value "an exact staged Roadex human decision is required")
  requireTerminalEvidence false plan requiredEvidence
  if decision = "approve" then do
    require (adapterFactory = true) (.value "privileged host adapter is not configured")
    approveAndExecute host planId decidedBy plan
  else do
    let now ← Prog.ask PlanQuery.clock
    updatePlan { copy := some plan } planId (decided plan decision decidedBy reason now)
    pure { ok := true, decision := decision, actionStatus := (decided plan decision decidedBy reason now).status,
           plan := decided plan decision decidedBy reason now }

/-! ### Requests -/

/-- The operations on one plan, and a crew message that is saved beside them. -/
inductive PlanCall where
  | decide (decision decidedBy reason : String) (adapterFactory : Bool)
  | approve (approvedBy : String) (approvedAt : Option String)
  | execute (adapter : Bool) (executedAt : Option String)
  | crew (id : String) (message : EvidenceMessage)

def saveCrewMessage (id : String) (message : EvidenceMessage) : PlanProg Unit :=
  Prog.transaction {} (Tx.write fun s => { s with crewMessages := s.crewMessages.set id message })

def PlanCall.program (planId : String) : PlanCall → PlanProg Unit
  | .decide decision decidedBy reason adapterFactory => do
    let _ ← decideRoadexHumanPlan host planId decision decidedBy reason adapterFactory
    pure ()
  | .approve approvedBy approvedAt => do
    let _ ← approvePlan host planId approvedBy approvedAt
    pure ()
  | .execute adapter executedAt => do
    let _ ← executePlan host planId adapter executedAt
    pure ()
  | .crew id message => saveCrewMessage id message

/-- Requests on one plan, whose adapter replies what it likes. -/
def planSystem (planId : String) (guard : PlanStore → Held → PlanStore → Prop) : System PlanStore Held PlanAnswer ProvisioningError Unit where
  start p := ∃ call : PlanCall, p = call.program host planId
  valid _ _ _ := True
  guard := guard

end Host
end Overseer.Provisioning
