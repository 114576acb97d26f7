import Overseer.Roadex.AdminPlans
import Overseer.Core.StorageControl
import Overseer.Provisioning.Plans
import Overseer.Library.Canonical

/-! # The sources of an approval

An approval is about an admin change plan, a provisioning plan that waits for a human, or a
fixture that does nothing. A source of each kind is read strictly, has a state in which it is
new, and has a digest of what no decision changes.
-/
namespace Overseer.Roadex
open Overseer.Library Overseer.Core Overseer.Provisioning

/-- What `datetime.fromisoformat` makes of a text: a time without an offset, or one with an
offset and its instant, when the calendar has that instant in UTC. -/
inductive ParsedTime (Instant : Type) where
  | naive
  | aware (utc : Option Instant)
  deriving DecidableEq

/-- `text.replace("Z", "+00:00")`. -/
def replaceZ (text : String) : String :=
  String.ofList (text.toList.flatMap fun c => if c = 'Z' then "+00:00".toList else [c])

/-- The digest and the calendar of the host, and the digest that `build_plan` makes of a plan's id and
contract when it does not refuse them. The printed form of an instant is read back. -/
structure RoadexHost where
  sha256 : String → String
  rebuiltDigest : String → List (String × Json) → Option String
  Instant : Type
  order : LinearOrder Instant
  fromisoformat : String → Option (ParsedTime Instant)
  isoformat : Instant → String
  read_isoformat : ∀ t, isBlank (isoformat t) = false ∧ fromisoformat (replaceZ (isoformat t)) = some (.aware (some t))

instance (host : RoadexHost) : LinearOrder host.Instant := host.order

/-! ### Checks -/

def requireTruthyStr (value : Option String) (field : String) : Check String :=
  match value with
  | none => .error (.value (field ++ " must be a non-empty string"))
  | some text => if isBlank text then .error (.value (field ++ " must be a non-empty string")) else .ok text

def RoadexHost.requireIso8601 (host : RoadexHost) (value : Option String) (field : String) : Check String := do
  let text ← requireTruthyStr value field
  match host.fromisoformat (replaceZ text) with
  | none => .error (.value (field ++ " must be an ISO 8601 timestamp"))
  | some .naive => .error (.value (field ++ " must include timezone information"))
  | some (.aware _) => .ok text

def RoadexHost.requireOptionalIso8601 (host : RoadexHost) (value : Option String) (field : String) : Check Unit :=
  match value with
  | none => .ok ()
  | some text => do
    let _ ← host.requireIso8601 (some text) field
    return ()

/-- The values of an enumeration are given in order. -/
def requireEnum (value : Option String) (values : List String) (field : String) : Check String := do
  let text ← requireTruthyStr value field
  check (text ∈ values) (field ++ " must be one of: " ++ ",".intercalate values)
  return text

def validateOpaqueRef (ref : String) : Check Unit :=
  check (StorageControl.isIdentifier ref = true) "approval_ref must be an opaque identifier"

def checkExactFields (data : Json) (expected : List String) (label : String) : Check Unit := do
  let missing := expected.filter (· ∉ data.keys)
  let extra := data.keys.filter (· ∉ expected)
  check (missing = [] ∨ extra = []) (label ++ " payload has missing and extra fields")
  check (missing = []) (label ++ " payload is missing fields")
  check (extra = []) (label ++ " payload has extra fields")

def RoadexHost.digest (host : RoadexHost) (members : List (String × Json)) : String :=
  "sha256:" ++ host.sha256 (Json.dumps true (Json.obj members).sortKeys)

/-- The host's instant that a text is read as. -/
def RoadexHost.instant? (host : RoadexHost) (text : String) : Option host.Instant :=
  match host.fromisoformat (replaceZ text) with
  | some (.aware utc) => utc
  | _ => none

/-! ### Admin plans -/

/-- `_decode_dataclass_payload(payload, AdminChangePlan, "admin source")`. -/
def decodeAdminPlanPayload (payload : Json) : Check AdminPlanRecord := do
  check (payload.isCanonical = true) "admin source payload is not canonical JSON"
  checkExactFields payload AdminPlanRecord.fieldNames "admin source"
  match AdminPlanRecord.ofJsonable payload with
  | none => .error (.value "admin source payload is invalid")
  | some decoded => do
    check (decoded.dump = payload) "admin source payload is malformed after reserialization"
    return decoded

/-- `source_digest_from_admin_plan`. -/
def RoadexHost.sourceDigest (host : RoadexHost) (plan : AdminPlanRecord) : String :=
  host.digest (plan.members.filter fun e => e.1 ∉ AdminPlanRecord.mutableFields)

def requireAdminPendingPlanEvidence (plan : AdminPlanRecord) : Check Unit :=
  check (plan.approvedBy = none ∧ plan.approvedAt = none ∧ plan.canceledBy = none ∧ plan.canceledAt = none ∧
    plan.cancellationReason = none) "admin source mutable fields are malformed"

def RoadexHost.requireAdminApprovedPlanEvidence (host : RoadexHost) (plan : AdminPlanRecord) : Check Unit := do
  let _ ← requireTruthyStr plan.approvedBy "approved_by"
  host.requireOptionalIso8601 plan.approvedAt "approved_at"

def RoadexHost.requireAdminCanceledPlanEvidence (host : RoadexHost) (plan : AdminPlanRecord) : Check Unit := do
  let _ ← requireTruthyStr plan.canceledBy "canceled_by"
  host.requireOptionalIso8601 plan.canceledAt "canceled_at"
  let _ ← requireTruthyStr plan.cancellationReason "cancellation_reason"
  return ()

def RoadexHost.requireAdminArchiveState (host : RoadexHost) (plan : AdminPlanRecord) : Check Unit :=
  if plan.archived = false then
    check (plan.archivedBy = none ∧ plan.archivedAt = none ∧ plan.archiveRecordId = none)
      "admin source archive metadata is malformed"
  else do
    let _ ← requireTruthyStr plan.archivedBy "archived_by"
    let _ ← host.requireIso8601 plan.archivedAt "archived_at"
    let _ ← requireTruthyStr plan.archiveRecordId "archive_record_id"
    return ()

/-- `_require_initial_source_state` for an admin plan. -/
def RoadexHost.requireInitialAdminPlan (host : RoadexHost) (plan : AdminPlanRecord) : Check Unit := do
  check (plan.approved = false) "admin binding source must be unapproved for initial projection binding"
  check (plan.canceled = false) "admin binding source must not be canceled for initial projection binding"
  requireAdminPendingPlanEvidence plan
  host.requireAdminArchiveState plan

/-! ### Provisioning plans -/

/-- A `DonutHoleBackupProvisioningPlan`: `contract` holds the other fields under its digest. -/
structure HumanDecisionPlan where
  planId : String
  kind : String := Provisioning.planKind
  contract : List (String × Json)
  planDigest : String
  status : ProvisioningStatus := .staged
  approvedBy : Option String := none
  approvedAt : Option String := none
  executedAt : Option String := none
  evidenceDigest : Option String := none
  failedOperation : Option String := none
  errorCode : Option String := none
  decisionSource : String := "Roadex"
  decisionReason : Option String := none
  decidedBy : Option String := none
  decidedAt : Option String := none

def RoadexHost.planDigest (host : RoadexHost) (plan : HumanDecisionPlan) : String :=
  host.digest ([("plan_id",.str plan.planId),("kind",.str plan.kind)] ++ plan.contract)

def RoadexHost.validatePlan (host : RoadexHost) (plan : HumanDecisionPlan) : Check Unit :=
  match host.rebuiltDigest plan.planId plan.contract with
  | none => .error (.value "provisioning plan contract is invalid")
  | some rebuilt =>
    check (plan.kind = Provisioning.planKind ∧ plan.planDigest = rebuilt ∧ host.planDigest plan = plan.planDigest)
      "provisioning plan contract or digest does not match"

def RoadexHost.requireRoadexPlan (host : RoadexHost) (plan : HumanDecisionPlan) : Check Unit := do
  check (plan.decisionSource = "Roadex") "Roadex decision source must be preserved"
  check (plan.kind = Provisioning.planKind) "exact kind must be preserved"
  host.validatePlan plan

def requireRoadexStagedPlanEvidence (plan : HumanDecisionPlan) : Check Unit :=
  check (plan.approvedBy = none ∧ plan.approvedAt = none ∧ plan.decidedBy = none ∧ plan.decidedAt = none ∧
    plan.decisionReason = none ∧ plan.evidenceDigest = none ∧ plan.executedAt = none ∧ plan.failedOperation = none ∧
    plan.errorCode = none) "roadex source staged evidence is malformed"

/-! ### Fixtures -/

inductive FixtureStatus where
  | pending | approved
  deriving DecidableEq

structure RoadexApprovalFixture where
  id : String
  status : FixtureStatus
  createdAt : String
  approvedAt : Option String := none
  approvedBy : Option String := none

/-- The fixture as it is new. -/
def RoadexApprovalFixture.isNew (fixture : RoadexApprovalFixture) : Bool :=
  fixture.status = .pending && fixture.approvedAt.isNone && fixture.approvedBy.isNone

/-- `fixture_source_evidence_digest_payload`. -/
def RoadexApprovalFixture.evidence (fixture : RoadexApprovalFixture) : List (String × Json) :=
  [("id",.str fixture.id),("createdAt",.str fixture.createdAt),("sourceKind",.str "roadex-approval-fixture")]

/-! ### Sources -/

inductive Source where
  | admin (plan : AdminPlanRecord)
  | human (plan : HumanDecisionPlan)
  | fixture (fixture : RoadexApprovalFixture)

namespace Source

/-- The kind that a draft names. -/
def kind : Source → String
  | admin _ => "admin-plan"
  | human _ => "roadex-human-decision"
  | fixture _ => "roadex-approval-fixture"

def id : Source → String
  | admin plan => plan.id
  | human plan => plan.planId
  | fixture f => f.id

end Source

def RoadexHost.exactSourceEvidenceDigest (host : RoadexHost) : Source → String
  | .admin plan => host.sourceDigest plan
  | .human plan => plan.planDigest
  | .fixture fixture => host.digest fixture.evidence

def RoadexHost.requireInitialSourceState (host : RoadexHost) : Source → Check Unit
  | .admin plan => host.requireInitialAdminPlan plan
  | .human plan => do
    host.requireRoadexPlan plan
    check (plan.status = .staged) "roadex binding source must be staged for initial projection binding"
    requireRoadexStagedPlanEvidence plan
  | .fixture fixture => do
    let _ ← host.requireIso8601 (some fixture.createdAt) "created_at"
    check (fixture.isNew = true) "fixture binding source must be pending"
    let _ ← host.requireIso8601 (some fixture.createdAt) "created_at"
    return ()

/-! ### The store -/

structure BindingRow where
  sourceKind : String
  sourceId : String
  payload : Json

/-- A missing table reads like an empty one. The rows of provisioning plans and fixtures are kept as
they are read back. -/
structure ApprovalStore where
  adminChangePlans : Dict Json := .empty
  backupProvisioningPlans : Dict HumanDecisionPlan := .empty
  roadexApprovalFixtures : Dict RoadexApprovalFixture := .empty
  roadexApprovalBindings : Dict BindingRow := .empty

namespace ApprovalStore

def saveAdminChangePlan (s : ApprovalStore) (plan : AdminPlanRecord) : ApprovalStore :=
  { s with adminChangePlans := s.adminChangePlans.set plan.id plan.dump }

def saveProvisioningPlan (s : ApprovalStore) (plan : HumanDecisionPlan) : ApprovalStore :=
  { s with backupProvisioningPlans := s.backupProvisioningPlans.set plan.planId plan }

/-- `INSERT INTO roadex_approval_fixtures`. -/
def saveRoadexApprovalFixture (s : ApprovalStore) (fixture : RoadexApprovalFixture) : Check ApprovalStore := do
  check (fixture.isNew = true) "new Roadex approval fixture must be pending"
  if s.roadexApprovalFixtures.get? fixture.id = none then
    return { s with roadexApprovalFixtures := s.roadexApprovalFixtures.set fixture.id fixture }
  else .error (.integrity "roadex_approval_fixtures.id")

/-- What a callback saves through the store. -/
def saveSource (s : ApprovalStore) : Source → Check ApprovalStore
  | .admin plan => .ok (s.saveAdminChangePlan plan)
  | .human plan => .ok (s.saveProvisioningPlan plan)
  | .fixture fixture => s.saveRoadexApprovalFixture fixture

def saveSources (s : ApprovalStore) : List Source → Check ApprovalStore
  | [] => .ok s
  | source :: rest => do
    let s ← s.saveSource source
    saveSources s rest

/-- `load_admin_change_plan`, which checks nothing but the types. -/
def loadAdminChangePlan (s : ApprovalStore) (planId : String) : Check AdminPlanRecord :=
  match s.adminChangePlans.get? planId with
  | none => .error (.key planId)
  | some payload =>
    match AdminPlanRecord.ofJsonable payload with
    | none => .error (.type "admin change plan")
    | some plan => .ok plan

def loadAdminChangePayload (s : ApprovalStore) (sourceId : String) : Check AdminPlanRecord :=
  match s.adminChangePlans.get? sourceId with
  | none => .error (.key sourceId)
  | some payload => decodeAdminPlanPayload payload

def loadRoadexHumanPlan (host : RoadexHost) (s : ApprovalStore) (sourceId : String) : Check HumanDecisionPlan :=
  match s.backupProvisioningPlans.get? sourceId with
  | none => .error (.key sourceId)
  | some plan => do
    check (plan.planId = sourceId) "source id must match approval source"
    check (plan.kind = Provisioning.planKind) "exact kind must be preserved"
    check (plan.decisionSource = "Roadex") "Roadex decision source must be preserved"
    match host.validatePlan plan with
    | .ok _ => return plan
    | .error _ => .error (.value "plan digest")

/-- `_load_roadex_approval_fixture_payload`. -/
def loadRoadexApprovalFixture (s : ApprovalStore) (sourceId : String) : Check RoadexApprovalFixture :=
  match s.roadexApprovalFixtures.get? sourceId with
  | none => .error (.key sourceId)
  | some fixture => do
    check (fixture.id = sourceId) "fixture source id must match source payload"
    return fixture

/-- `load_source_from_draft`. -/
def loadSource (host : RoadexHost) (s : ApprovalStore) (sourceKind sourceId : String) : Check Source :=
  if sourceKind = "admin-plan" then Source.admin <$> s.loadAdminChangePayload sourceId
  else if sourceKind = "roadex-human-decision" then Source.human <$> s.loadRoadexHumanPlan host sourceId
  else if sourceKind = "roadex-approval-fixture" then Source.fixture <$> s.loadRoadexApprovalFixture sourceId
  else .error (.value "unsupported source_kind")

/-- `_source_exists_for_draft`. -/
def sourceExists (s : ApprovalStore) (sourceKind sourceId : String) : Bool :=
  if sourceKind = "admin-plan" then (s.adminChangePlans.get? sourceId).isSome
  else if sourceKind = "roadex-human-decision" then (s.backupProvisioningPlans.get? sourceId).isSome
  else (s.roadexApprovalFixtures.get? sourceId).isSome

end ApprovalStore
end Overseer.Roadex
