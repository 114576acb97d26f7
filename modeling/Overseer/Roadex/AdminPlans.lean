import Overseer.Core.Admin
import Overseer.Core.Codec

/-! # The lifecycle of an admin change plan

An admin change plan with the evidence of its approval, its cancellation and its archiving, and
the four functions of `admin.py` that change this evidence. A plan is stored as the mapping of
its fields.
-/
namespace Overseer.Roadex
open Overseer.Library Overseer.Core

instance : Stored Bool where
  toJsonable := .bool
  coerceValue v := match v with
    | .bool b => some b
    | _ => none
  coerce_toJsonable _ := rfl

instance : Stored AdminChangeKind := .ofEnum [.userServiceRestart,.aptInstall,.aptUpdate,.aptUpgrade,.firmwareUpdate,
  .flatpakInstall,.npmGlobalInstall,.dockerComposeUpdate,.storageMountTest,.firewallAllowTcp,.firewallDenyTcp,.blockIp]
  AdminChangeKind.value fun k => by cases k <;> decide

/-! ### The steps of a plan -/

def stepMembers (step : AdminCommandStep) : List (String × Json) :=
  [("title",toJsonable step.title),("command",toJsonable step.command),("reason",toJsonable step.reason)]

def stepOfJsonable (v : Json) : Option AdminCommandStep := do
  return {
    title := ← readField v "title" none
    command := ← readField v "command" none
    reason := ← readField v "reason" none }

theorem stepMembers_nodup (step : AdminCommandStep) : ((stepMembers step).map Prod.fst).Nodup := by
  change ["title","command","reason"].Nodup
  decide

theorem stepOfJsonable_members (step : AdminCommandStep) : stepOfJsonable (Json.obj (stepMembers step)).sortKeys = some step := by
  unfold stepOfJsonable
  rw [readField_sortKeys (stepMembers_nodup step) (a := step.title) rfl,
    readField_sortKeys (stepMembers_nodup step) (a := step.command) rfl,
    readField_sortKeys (stepMembers_nodup step) (a := step.reason) rfl]
  rfl

instance : Stored AdminCommandStep where
  toJsonable step := .obj (stepMembers step)
  coerceValue := stepOfJsonable
  coerce_toJsonable := stepOfJsonable_members

/-! ### The plan -/

/-- An `AdminChangePlan` with all its fields. -/
structure AdminPlanRecord extends AdminChangePlan where
  residualScanFindings : List String := []
  approvedBy : Option String := none
  approvedAt : Option String := none
  canceledBy : Option String := none
  canceledAt : Option String := none
  cancellationReason : Option String := none
  archivedBy : Option String := none
  archivedAt : Option String := none
  archiveRecordId : Option String := none

namespace AdminPlanRecord

/-- The names of the fields that approval, cancellation and archiving change. -/
def mutableFields : List String := ["approved","approved_by","approved_at","canceled","canceled_by","canceled_at",
  "cancellation_reason","archived","archived_by","archived_at","archive_record_id"]

def fixedMembers (p : AdminPlanRecord) : List (String × Json) :=
  [("id",toJsonable p.id),("kind",toJsonable p.kind),("owner_domain",toJsonable p.ownerDomain),
    ("risk_level",toJsonable p.riskLevel),("approval_level",toJsonable p.approvalLevel),("target",toJsonable p.target),
    ("reason",toJsonable p.reason),("current_state",toJsonable p.currentState),("proposed_state",toJsonable p.proposedState),
    ("steps",toJsonable p.steps),("rollback_steps",toJsonable p.rollbackSteps),("risks",toJsonable p.risks),
    ("verification_steps",toJsonable p.verificationSteps),("residual_scan_findings",toJsonable p.residualScanFindings)]

def mutableMembers (p : AdminPlanRecord) : List (String × Json) :=
  [("approved",toJsonable p.approved),("approved_by",toJsonable p.approvedBy),("approved_at",toJsonable p.approvedAt),
    ("canceled",toJsonable p.canceled),("canceled_by",toJsonable p.canceledBy),("canceled_at",toJsonable p.canceledAt),
    ("cancellation_reason",toJsonable p.cancellationReason),("archived",toJsonable p.archived),
    ("archived_by",toJsonable p.archivedBy),("archived_at",toJsonable p.archivedAt),
    ("archive_record_id",toJsonable p.archiveRecordId)]

/-- `to_jsonable(plan)`. -/
def members (p : AdminPlanRecord) : List (String × Json) := p.fixedMembers ++ p.mutableMembers

/-- `dataclass_from_jsonable(AdminChangePlan, data)`. -/
def ofJsonable (v : Json) : Option AdminPlanRecord := do
  return {
    id := ← readField v "id" none
    kind := ← readField v "kind" none
    ownerDomain := ← readField v "owner_domain" none
    riskLevel := ← readField v "risk_level" none
    approvalLevel := ← readField v "approval_level" none
    target := ← readField v "target" none
    reason := ← readField v "reason" none
    currentState := ← readField v "current_state" none
    proposedState := ← readField v "proposed_state" none
    steps := ← readField v "steps" none
    rollbackSteps := ← readField v "rollback_steps" none
    risks := ← readField v "risks" none
    verificationSteps := ← readField v "verification_steps" none
    residualScanFindings := ← readField v "residual_scan_findings" (some [])
    approved := ← readField v "approved" (some false)
    approvedBy := ← readField v "approved_by" (some none)
    approvedAt := ← readField v "approved_at" (some none)
    canceled := ← readField v "canceled" (some false)
    canceledBy := ← readField v "canceled_by" (some none)
    canceledAt := ← readField v "canceled_at" (some none)
    cancellationReason := ← readField v "cancellation_reason" (some none)
    archived := ← readField v "archived" (some false)
    archivedBy := ← readField v "archived_by" (some none)
    archivedAt := ← readField v "archived_at" (some none)
    archiveRecordId := ← readField v "archive_record_id" (some none) }

/-- The names of the fields. -/
def fieldNames : List String := ["id","kind","owner_domain","risk_level","approval_level","target","reason","current_state",
  "proposed_state","steps","rollback_steps","risks","verification_steps","residual_scan_findings"] ++ mutableFields

theorem members_keys (p : AdminPlanRecord) : p.members.map Prod.fst = fieldNames := rfl

theorem members_nodup (p : AdminPlanRecord) : (p.members.map Prod.fst).Nodup := by
  rw [members_keys]
  decide

theorem ofJsonable_members (p : AdminPlanRecord) : ofJsonable (Json.obj p.members).sortKeys = some p := by
  have hread : ∀ {α : Type} [Stored α] {name : String} (a : α) (default_ : Option α), Dict.find name p.members = some (toJsonable a) →
      readField (Json.obj p.members).sortKeys name default_ = some a := fun a default_ h => readField_sortKeys p.members_nodup h default_
  unfold ofJsonable
  rw [hread p.id _ rfl,hread p.kind _ rfl,hread p.ownerDomain _ rfl,hread p.riskLevel _ rfl,hread p.approvalLevel _ rfl,
    hread p.target _ rfl,hread p.reason _ rfl,hread p.currentState _ rfl,hread p.proposedState _ rfl,hread p.steps _ rfl,
    hread p.rollbackSteps _ rfl,hread p.risks _ rfl,hread p.verificationSteps _ rfl,hread p.residualScanFindings _ rfl,
    hread p.approved _ rfl,hread p.approvedBy _ rfl,hread p.approvedAt _ rfl,hread p.canceled _ rfl,hread p.canceledBy _ rfl,
    hread p.canceledAt _ rfl,hread p.cancellationReason _ rfl,hread p.archived _ rfl,hread p.archivedBy _ rfl,
    hread p.archivedAt _ rfl,hread p.archiveRecordId _ rfl]
  rfl

/-- The row of a plan. -/
def dump (p : AdminPlanRecord) : Json := (Json.obj p.members).sortKeys

end AdminPlanRecord

inductive RoadexError where
  | value (message : String)
  | type (message : String)
  | key (name : String)
  | missing (approvalRef : String)
  | projection (message : String)
  | overflow (message : String)
  | integrity (message : String)

abbrev Check := Except RoadexError

def check (c : Prop) [Decidable c] (message : String) : Check Unit := if c then .ok () else .error (.value message)

/-! ### Approval, cancellation and archiving -/

namespace AdminPlanRecord

def approveAdminChangePlan (p : AdminPlanRecord) (approvedBy : String) (approvedAt : Option String) : Check AdminPlanRecord := do
  check (p.canceled = false) "cannot approve canceled admin change plan"
  check (Admin.missingAdminChangeFields p.toAdminChangePlan = []) "cannot approve incomplete admin change plan"
  check (isBlank approvedBy = false) "approved_by is required"
  return { p with
    approved := true
    approvedBy := some approvedBy
    approvedAt := approvedAt }

def cancelAdminChangePlan (p : AdminPlanRecord) (canceledBy cancellationReason : String) (canceledAt : Option String) :
    Check AdminPlanRecord := do
  check (isBlank canceledBy = false) "canceled_by is required"
  check (isBlank cancellationReason = false) "cancellation_reason is required"
  return { p with
    canceled := true
    canceledBy := some canceledBy
    canceledAt := canceledAt
    cancellationReason := some cancellationReason
    approved := false
    approvedBy := none
    approvedAt := none }

def archiveAdminChangePlan (p : AdminPlanRecord) (archiveRecordId archivedBy archivedAt : String) : Check AdminPlanRecord := do
  check (isBlank archivedBy = false) "archived_by is required"
  check (p.archived = false) "admin change plan is already archived"
  return { p with
    archived := true
    archivedBy := some archivedBy
    archivedAt := some archivedAt
    archiveRecordId := some archiveRecordId }

def unarchiveAdminChangePlan (p : AdminPlanRecord) (restoredBy : String) : Check AdminPlanRecord := do
  check (isBlank restoredBy = false) "restored_by is required"
  check (p.archived = true) "admin change plan is not archived"
  return { p with
    archived := false
    archivedBy := none
    archivedAt := none
    archiveRecordId := none }

end AdminPlanRecord

/-- A call of one of the four functions, with its arguments after the plan. -/
inductive LifecycleStep where
  | approve (approvedBy : String) (approvedAt : Option String)
  | cancel (canceledBy cancellationReason : String) (canceledAt : Option String)
  | archive (archiveRecordId archivedBy archivedAt : String)
  | unarchive (restoredBy : String)

namespace LifecycleStep

def apply (p : AdminPlanRecord) : LifecycleStep → Check AdminPlanRecord
  | approve approvedBy approvedAt => p.approveAdminChangePlan approvedBy approvedAt
  | cancel canceledBy cancellationReason canceledAt => p.cancelAdminChangePlan canceledBy cancellationReason canceledAt
  | archive archiveRecordId archivedBy archivedAt => p.archiveAdminChangePlan archiveRecordId archivedBy archivedAt
  | unarchive restoredBy => p.unarchiveAdminChangePlan restoredBy

def isApprove : LifecycleStep → Bool
  | approve .. => true
  | _ => false

def isCancel : LifecycleStep → Bool
  | cancel .. => true
  | _ => false

end LifecycleStep
end Overseer.Roadex
