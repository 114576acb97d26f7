import Overseer.Library.Json
import Mathlib.Data.Finset.Basic
import Mathlib.Data.Finset.Lattice.Lemmas

/-! # Resources, claims and the conflict decision

The command model of `core.py`: a claim on a resource is decided against the
claims that are active at the moment of the request.
-/
namespace Overseer.Core
open Overseer.Library

inductive OwnerDomain where
  | sisko | kira | obrien | odo | odoIds | odoFirewall | quark | dax | julian | ezri
  deriving DecidableEq

inductive ResourceType where
  | physicalAsset | virtualAsset | service | usageLimitedService | maintenanceTarget
  | securitySurface | composite
  deriving DecidableEq

inductive RiskLevel where
  | low | medium | high | critical
  deriving DecidableEq

inductive ResourceState where
  | available | checkedOut | locked | maintenance | degraded | incident | quarantined | retired
  deriving DecidableEq

inductive ClaimType where
  | checkout | lock | lease | hold | quarantine | observation
  deriving DecidableEq

inductive ClaimStatus where
  | requested | approved | active | blocked | queued | releasing | released | expired | revoked
  deriving DecidableEq

inductive ApprovalLevel where
  | none | role | sisko | human
  deriving DecidableEq

def ApprovalLevel.value : ApprovalLevel → String
  | none => "none"
  | role => "role"
  | sisko => "sisko"
  | human => "human"

inductive ConflictOutcome where
  | allow | queue | block | escalate | quarantine
  deriving DecidableEq

structure Resource where
  id : String
  name : String
  type : ResourceType
  ownerDomain : OwnerDomain
  riskLevel : RiskLevel
  state : ResourceState := .available
  identifiers : Dict Json := .empty
  dependencies : Finset String := ∅
  exclusiveGroups : Finset String := ∅
  currentClaimId : Option String := none
  lastVerifiedAt : Option String := none
  notes : String := ""

structure Claim where
  id : String
  resourceId : String
  claimType : ClaimType
  ownerThread : String
  ownerRole : OwnerDomain
  intent : String
  requestedAction : String
  riskLevel : RiskLevel
  status : ClaimStatus := .requested
  createdAt : Option String := none
  startsAt : Option String := none
  expiresAt : Option String := none
  releaseCondition : Option String := none
  approvalId : Option String := none
  evidenceIds : List String := []
  portReservations : Finset ℤ := ∅
  dependencyIds : Finset String := ∅
  exclusiveGroups : Finset String := ∅
  stateMutation : String := "none"

structure ConflictDecision where
  outcome : ConflictOutcome
  reason : String
  approvalLevel : ApprovalLevel := .none
  blockingClaimIds : List String := []

def exclusiveClaimTypes : List ClaimType := [.checkout,.lock,.lease,.hold,.quarantine]
def highRiskResourceTypes : List ResourceType := [.securitySurface,.maintenanceTarget]

def Claim.isExclusive (c : Claim) : Bool := decide (c.claimType ∈ exclusiveClaimTypes)

def Claim.isActiveLike (c : Claim) : Bool :=
  decide (c.status ∈ [ClaimStatus.approved,.active,.releasing])

def requiredApproval (resource : Resource) (claim : Claim) : ApprovalLevel :=
  if claim.claimType = .observation ∧ claim.riskLevel = .low then .none
  else if resource.type ∈ highRiskResourceTypes then .human
  else if resource.riskLevel = .critical ∨ claim.riskLevel = .critical then .human
  else if resource.riskLevel = .high ∨ claim.riskLevel = .high then .sisko
  else if claim.claimType ∈ [ClaimType.checkout,.lock,.lease,.hold] then .role
  else .none

def claimsOverlap (left right : Claim) : Bool := left.resourceId == right.resourceId

def hasExclusiveConflict (requested : Claim) (activeClaims : List Claim) : Bool :=
  (activeClaims.filter Claim.isActiveLike).any fun active =>
    claimsOverlap requested active && active.isExclusive

/-- Whether one active claim stands in the way of the requested one. -/
def blocks (resource : Resource) (requested : Claim) (resourcesById : Dict Resource)
    (active : Claim) : Bool :=
  if !active.isActiveLike then false
  else if claimsOverlap requested active then true
  else if requested.resourceId ∈ active.dependencyIds ∨ active.resourceId ∈ requested.dependencyIds then true
  else if (requested.portReservations ∩ active.portReservations).Nonempty then true
  else if (requested.exclusiveGroups ∩ active.exclusiveGroups).Nonempty then true
  else match resourcesById.get? active.resourceId with
    | some other => decide (resource.dependencies ∩ ({other.id} ∪ other.dependencies)).Nonempty
    | none => false

def blockingClaims (resource : Resource) (requested : Claim) (activeClaims : List Claim)
    (resourcesById : Dict Resource) : List Claim :=
  activeClaims.filter (blocks resource requested resourcesById)

def decideClaim (resource : Resource) (requested : Claim) (activeClaims : List Claim)
    (resourcesById : Dict Resource) : ConflictDecision :=
  if resource.state = .retired then { outcome := .block, reason := "resource is retired" }
  else if resource.state = .quarantined then
    { outcome := .quarantine, reason := "resource is under security quarantine", approvalLevel := .human }
  else if requested.resourceId ≠ resource.id then
    { outcome := .block, reason := "claim resource_id does not match resource" }
  else if requested.claimType = .observation ∧ hasExclusiveConflict requested activeClaims = false then
    { outcome := .allow, reason := "read-only observation is compatible" }
  else
    let blockers := blockingClaims resource requested activeClaims resourcesById
    if blockers ≠ [] then
      { outcome := .queue
        reason := "resource, dependency, port, or exclusive group is already claimed"
        blockingClaimIds := blockers.map Claim.id }
    else
      let approval := requiredApproval resource requested
      if approval ≠ .none then
        { outcome := .escalate
          reason := approval.value ++ " approval required before claim can activate"
          approvalLevel := approval }
      else { outcome := .allow, reason := "claim can activate" }

theorem isExclusive_iff (c : Claim) : c.isExclusive = true ↔ c.claimType ≠ .observation := by
  unfold Claim.isExclusive exclusiveClaimTypes
  cases c.claimType <;> decide

/-- Two claims can be active side by side: on one resource only as observations,
and as exclusive claims only with disjoint ports and groups and no dependency of
one on the other's resource. -/
def Compatible (a b : Claim) : Prop :=
  (a.resourceId = b.resourceId → a.claimType = .observation ∧ b.claimType = .observation) ∧
  (a.isExclusive → b.isExclusive →
    Disjoint a.portReservations b.portReservations ∧
    Disjoint a.exclusiveGroups b.exclusiveGroups ∧
    a.resourceId ∉ b.dependencyIds ∧ b.resourceId ∉ a.dependencyIds)

theorem Compatible.symm {a b : Claim} (h : Compatible a b) : Compatible b a := by
  refine ⟨fun he => (h.1 he.symm).symm,fun hb ha => ?_⟩
  obtain ⟨hp,hg,hab,hba⟩ := h.2 ha hb
  exact ⟨hp.symm,hg.symm,hba,hab⟩

theorem Compatible.congr_left {a a' b : Claim} (h : Compatible a b)
    (hr : a'.resourceId = a.resourceId) (ht : a'.claimType = a.claimType)
    (hp : a'.portReservations = a.portReservations) (hd : a'.dependencyIds = a.dependencyIds)
    (hg : a'.exclusiveGroups = a.exclusiveGroups) : Compatible a' b := by
  simpa [Compatible,Claim.isExclusive,hr,ht,hp,hd,hg] using h

theorem compatible_of_not_blocks {resource : Resource} {requested active : Claim}
    {resourcesById : Dict Resource} (ha : active.isActiveLike = true)
    (hb : blocks resource requested resourcesById active = false) : Compatible requested active := by
  simp only [blocks,ha,Bool.not_true,Bool.false_eq_true,↓reduceIte] at hb
  split at hb
  · cases hb
  · next hover =>
    split at hb
    · cases hb
    · next hdep =>
      split at hb
      · cases hb
      · next hport =>
        split at hb
        · cases hb
        · next hgroup =>
          refine ⟨fun h => absurd (by simpa [claimsOverlap] using h) hover,fun _ _ => ?_⟩
          rw [Finset.not_nonempty_iff_eq_empty,← Finset.disjoint_iff_inter_eq_empty] at hport hgroup
          exact ⟨hport,hgroup,fun h => hdep (.inl h),fun h => hdep (.inr h)⟩

/-- The outcomes under which the registry makes a claim active. -/
def Admits (d : ConflictDecision) : Prop := d.outcome = .allow ∨ d.outcome = .escalate

theorem decideClaim_compatible {resource : Resource} {requested : Claim} {activeClaims : List Claim}
    {resourcesById : Dict Resource}
    (h : Admits (decideClaim resource requested activeClaims resourcesById)) {active : Claim}
    (hm : active ∈ activeClaims) (ha : active.isActiveLike = true) : Compatible requested active := by
  unfold decideClaim at h
  split at h
  · rcases h with h | h <;> cases h
  split at h
  · rcases h with h | h <;> cases h
  split at h
  · rcases h with h | h <;> cases h
  split at h
  · next hobs =>
    have hnot : requested.isExclusive = false := by
      simpa using mt (isExclusive_iff requested).mp (by simp [hobs.1])
    refine ⟨fun hres => ⟨hobs.1,?_⟩,fun hr => by simp [hnot] at hr⟩
    by_contra hne
    have hex := (isExclusive_iff active).mpr hne
    have hany : hasExclusiveConflict requested activeClaims = true := by
      simp only [hasExclusiveConflict,List.any_eq_true,List.mem_filter]
      exact ⟨active,⟨hm,ha⟩,by simp [claimsOverlap,hres,hex]⟩
    rw [hobs.2] at hany
    cases hany
  · dsimp only at h
    split at h
    · rcases h with h | h <;> cases h
    · next hblockers =>
      have hnil := not_not.mp hblockers
      have hb : blocks resource requested resourcesById active = false := by
        by_contra hne
        have hin : active ∈ blockingClaims resource requested activeClaims resourcesById :=
          List.mem_filter.mpr ⟨hm,by simpa using hne⟩
        rw [hnil] at hin
        cases hin
      exact compatible_of_not_blocks ha hb

end Overseer.Core
