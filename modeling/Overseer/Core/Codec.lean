import Overseer.Core.Coordinator
import Overseer.Library.Stored
import Mathlib.Data.String.Basic

/-! # Stored resources, claims and decisions

`to_jsonable` and `dataclass_from_jsonable` of `serialization.py` for the records of the
command model. Text that was dumped is parsed back to the same value, so a row is the value
with the keys of its mappings in order.
-/
namespace Overseer.Core
open Overseer.Library

/-! ### Enumerations -/

def OwnerDomain.value : OwnerDomain → String
  | .sisko => "sisko"
  | .kira => "kira"
  | .obrien => "obrien"
  | .odo => "odo"
  | .odoIds => "odo_ids"
  | .odoFirewall => "odo_firewall"
  | .quark => "quark"
  | .dax => "dax"
  | .julian => "julian"
  | .ezri => "ezri"

def ApprovalStatus.value : ApprovalStatus → String
  | .pending => "pending"
  | .approved => "approved"
  | .rejected => "rejected"
  | .expired => "expired"
  | .superseded => "superseded"

def ResourceType.value : ResourceType → String
  | .physicalAsset => "physical_asset"
  | .virtualAsset => "virtual_asset"
  | .service => "service"
  | .usageLimitedService => "usage_limited_service"
  | .maintenanceTarget => "maintenance_target"
  | .securitySurface => "security_surface"
  | .composite => "composite"

def RiskLevel.value : RiskLevel → String
  | .low => "low"
  | .medium => "medium"
  | .high => "high"
  | .critical => "critical"

def ResourceState.value : ResourceState → String
  | .available => "available"
  | .checkedOut => "checked_out"
  | .locked => "locked"
  | .maintenance => "maintenance"
  | .degraded => "degraded"
  | .incident => "incident"
  | .quarantined => "quarantined"
  | .retired => "retired"

def ClaimType.value : ClaimType → String
  | .checkout => "checkout"
  | .lock => "lock"
  | .lease => "lease"
  | .hold => "hold"
  | .quarantine => "quarantine"
  | .observation => "observation"

def ClaimStatus.value : ClaimStatus → String
  | .requested => "requested"
  | .approved => "approved"
  | .active => "active"
  | .blocked => "blocked"
  | .queued => "queued"
  | .releasing => "releasing"
  | .released => "released"
  | .expired => "expired"
  | .revoked => "revoked"

instance : Stored OwnerDomain := .ofEnum [.sisko,.kira,.obrien,.odo,.odoIds,.odoFirewall,.quark,.dax,.julian,.ezri] OwnerDomain.value
  fun d => by cases d <;> decide
instance : Stored ResourceType := .ofEnum [.physicalAsset,.virtualAsset,.service,.usageLimitedService,.maintenanceTarget,
  .securitySurface,.composite] ResourceType.value fun t => by cases t <;> decide
instance : Stored RiskLevel := .ofEnum [.low,.medium,.high,.critical] RiskLevel.value fun r => by cases r <;> decide
instance : Stored ResourceState := .ofEnum [.available,.checkedOut,.locked,.maintenance,.degraded,.incident,.quarantined,.retired]
  ResourceState.value fun s => by cases s <;> decide
instance : Stored ClaimType := .ofEnum [.checkout,.lock,.lease,.hold,.quarantine,.observation] ClaimType.value
  fun t => by cases t <;> decide
instance : Stored ClaimStatus := .ofEnum [.requested,.approved,.active,.blocked,.queued,.releasing,.released,.expired,.revoked]
  ClaimStatus.value fun s => by cases s <;> decide
instance : Stored ApprovalLevel := .ofEnum [.none,.role,.sisko,.human] ApprovalLevel.value fun l => by cases l <;> decide
instance : Stored ConflictOutcome := .ofEnum [.allow,.queue,.block,.escalate,.quarantine] ConflictOutcome.value
  fun o => by cases o <;> decide

/-! ### Decisions -/

namespace ConflictDecision

def members (d : ConflictDecision) : List (String × Json) :=
  [("outcome",toJsonable d.outcome),("reason",toJsonable d.reason),("approval_level",toJsonable d.approvalLevel),
    ("blocking_claim_ids",toJsonable d.blockingClaimIds)]

def ofJsonable (v : Json) : Option ConflictDecision := do
  return {
    outcome := ← readField v "outcome" none
    reason := ← readField v "reason" none
    approvalLevel := ← readField v "approval_level" (some .none)
    blockingClaimIds := ← readField v "blocking_claim_ids" (some []) }

theorem members_nodup (d : ConflictDecision) : (d.members.map Prod.fst).Nodup := by
  change ["outcome","reason","approval_level","blocking_claim_ids"].Nodup
  decide

theorem ofJsonable_members (d : ConflictDecision) : ofJsonable (Json.obj d.members).sortKeys = some d := by
  unfold ofJsonable
  rw [readField_sortKeys d.members_nodup (a := d.outcome) rfl,readField_sortKeys d.members_nodup (a := d.reason) rfl,
    readField_sortKeys d.members_nodup (a := d.approvalLevel) rfl,readField_sortKeys d.members_nodup (a := d.blockingClaimIds) rfl]
  rfl

end ConflictDecision

/-! ### Claims -/

namespace Claim

def members (c : Claim) : List (String × Json) :=
  [("id",toJsonable c.id),("resource_id",toJsonable c.resourceId),("claim_type",toJsonable c.claimType),
    ("owner_thread",toJsonable c.ownerThread),("owner_role",toJsonable c.ownerRole),("intent",toJsonable c.intent),
    ("requested_action",toJsonable c.requestedAction),("risk_level",toJsonable c.riskLevel),("status",toJsonable c.status),
    ("created_at",toJsonable c.createdAt),("starts_at",toJsonable c.startsAt),("expires_at",toJsonable c.expiresAt),
    ("release_condition",toJsonable c.releaseCondition),("approval_id",toJsonable c.approvalId),
    ("evidence_ids",toJsonable c.evidenceIds),("port_reservations",toJsonable c.portReservations),
    ("dependency_ids",toJsonable c.dependencyIds),("exclusive_groups",toJsonable c.exclusiveGroups),
    ("state_mutation",toJsonable c.stateMutation)]

def ofJsonable (v : Json) : Option Claim := do
  return {
    id := ← readField v "id" none
    resourceId := ← readField v "resource_id" none
    claimType := ← readField v "claim_type" none
    ownerThread := ← readField v "owner_thread" none
    ownerRole := ← readField v "owner_role" none
    intent := ← readField v "intent" none
    requestedAction := ← readField v "requested_action" none
    riskLevel := ← readField v "risk_level" none
    status := ← readField v "status" (some .requested)
    createdAt := ← readField v "created_at" (some none)
    startsAt := ← readField v "starts_at" (some none)
    expiresAt := ← readField v "expires_at" (some none)
    releaseCondition := ← readField v "release_condition" (some none)
    approvalId := ← readField v "approval_id" (some none)
    evidenceIds := ← readField v "evidence_ids" (some [])
    portReservations := ← readField v "port_reservations" (some ∅)
    dependencyIds := ← readField v "dependency_ids" (some ∅)
    exclusiveGroups := ← readField v "exclusive_groups" (some ∅)
    stateMutation := ← readField v "state_mutation" (some "none") }

theorem members_nodup (c : Claim) : (c.members.map Prod.fst).Nodup := by
  change ["id","resource_id","claim_type","owner_thread","owner_role","intent","requested_action","risk_level","status",
    "created_at","starts_at","expires_at","release_condition","approval_id","evidence_ids","port_reservations",
    "dependency_ids","exclusive_groups","state_mutation"].Nodup
  decide

theorem ofJsonable_members (c : Claim) : ofJsonable (Json.obj c.members).sortKeys = some c := by
  have hread : ∀ {α : Type} [Stored α] {name : String} (a : α) (default_ : Option α), Dict.find name c.members = some (toJsonable a) →
      readField (Json.obj c.members).sortKeys name default_ = some a := fun a default_ h => readField_sortKeys c.members_nodup h default_
  unfold ofJsonable
  rw [hread c.id _ rfl,hread c.resourceId _ rfl,hread c.claimType _ rfl,hread c.ownerThread _ rfl,hread c.ownerRole _ rfl,
    hread c.intent _ rfl,hread c.requestedAction _ rfl,hread c.riskLevel _ rfl,hread c.status _ rfl,hread c.createdAt _ rfl,
    hread c.startsAt _ rfl,hread c.expiresAt _ rfl,hread c.releaseCondition _ rfl,hread c.approvalId _ rfl,
    hread c.evidenceIds _ rfl,hread c.portReservations _ rfl,hread c.dependencyIds _ rfl,hread c.exclusiveGroups _ rfl,
    hread c.stateMutation _ rfl]
  rfl

end Claim

/-! ### Resources -/

namespace Resource

def members (r : Resource) : List (String × Json) :=
  [("id",toJsonable r.id),("name",toJsonable r.name),("type",toJsonable r.type),("owner_domain",toJsonable r.ownerDomain),
    ("risk_level",toJsonable r.riskLevel),("state",toJsonable r.state),("identifiers",.obj r.identifiers.entries),
    ("dependencies",toJsonable r.dependencies),("exclusive_groups",toJsonable r.exclusiveGroups),
    ("current_claim_id",toJsonable r.currentClaimId),("last_verified_at",toJsonable r.lastVerifiedAt),
    ("notes",toJsonable r.notes)]

/-- The identifiers of a stored resource. -/
def readIdentifiers (v : Json) : Option (Dict Json) :=
  match v.member? "identifiers" with
  | none => some .empty
  | some member => Payload.ofJson? member

def ofJsonable (v : Json) : Option Resource := do
  return {
    id := ← readField v "id" none
    name := ← readField v "name" none
    type := ← readField v "type" none
    ownerDomain := ← readField v "owner_domain" none
    riskLevel := ← readField v "risk_level" none
    state := ← readField v "state" (some .available)
    identifiers := ← readIdentifiers v
    dependencies := ← readField v "dependencies" (some ∅)
    exclusiveGroups := ← readField v "exclusive_groups" (some ∅)
    currentClaimId := ← readField v "current_claim_id" (some none)
    lastVerifiedAt := ← readField v "last_verified_at" (some none)
    notes := ← readField v "notes" (some "") }

/-- The resource as it is read back: its identifiers come in the order of their keys. -/
def restored (r : Resource) : Resource := { r with identifiers := Payload.ofList (Json.sortedMembers r.identifiers.entries) }

theorem members_nodup (r : Resource) : (r.members.map Prod.fst).Nodup := by
  change ["id","name","type","owner_domain","risk_level","state","identifiers","dependencies","exclusive_groups",
    "current_claim_id","last_verified_at","notes"].Nodup
  decide

theorem readIdentifiers_members (r : Resource) : readIdentifiers (Json.obj r.members).sortKeys = some r.restored.identifiers := by
  have hfind : Dict.find "identifiers" r.members = some (.obj r.identifiers.entries) := rfl
  unfold readIdentifiers
  rw [Json.member?_sortKeys r.members_nodup,hfind]
  rfl

theorem ofJsonable_members (r : Resource) : ofJsonable (Json.obj r.members).sortKeys = some r.restored := by
  have hread : ∀ {α : Type} [Stored α] {name : String} (a : α) (default_ : Option α), Dict.find name r.members = some (toJsonable a) →
      readField (Json.obj r.members).sortKeys name default_ = some a := fun a default_ h => readField_sortKeys r.members_nodup h default_
  unfold ofJsonable
  rw [hread r.id _ rfl,hread r.name _ rfl,hread r.type _ rfl,hread r.ownerDomain _ rfl,hread r.riskLevel _ rfl,
    hread r.state _ rfl,readIdentifiers_members r,hread r.dependencies _ rfl,hread r.exclusiveGroups _ rfl,
    hread r.currentClaimId _ rfl,hread r.lastVerifiedAt _ rfl,hread r.notes _ rfl]
  rfl

end Resource

end Overseer.Core
