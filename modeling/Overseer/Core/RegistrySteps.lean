import Overseer.Core.Registry

/-! # What one operation does to the registry

A request and an activation do the same with a claim: they decide it and file it again, and
point its resource at it when an exclusive claim was admitted.
-/
namespace Overseer.Core.ResourceRegistry
open Overseer.Library

/-- The claim was decided against the active ones and filed. -/
structure Decides (reg reg' : ResourceRegistry) (resource : Resource) (claim : Claim) (actives : List Claim) (admitted : Prop) :
    Prop where
  registered : reg.resources.get? claim.resourceId = some resource
  filed : ∃ status approval, reg'.claims = reg.claims.set claim.id { claim with status := status, approvalId := approval } ∧
    (status = .active ↔ admitted) ∧ (status = .queued ↔ (decideClaim resource claim actives reg.resources).outcome = .queue) ∧
    status ∈ [ClaimStatus.active,.queued,.blocked,.requested]
  pointed : admitted ∧ claim.isExclusive = true →
    reg'.resources = reg.resources.set resource.id { resource with currentClaimId := some claim.id }
  unpointed : ¬ (admitted ∧ claim.isExclusive = true) → reg'.resources = reg.resources

/-- The active claims other than the one under `claimId`. -/
def otherActives (reg : ResourceRegistry) (claimId : String) : List Claim :=
  reg.activeClaims.filter fun active => active.id != claimId

/-- A request admits the claim. -/
def RequestAdmits (reg : ResourceRegistry) (claim : Claim) (resource : Resource) : Prop :=
  (decideClaim resource claim reg.activeClaims reg.resources).outcome = .allow

/-- An activation admits the claim. -/
def ActivationAdmits (reg : ResourceRegistry) (claimId : String) (claim : Claim) (resource : Resource) : Prop :=
  Admits (decideClaim resource claim (reg.otherActives claimId) reg.resources)

theorem requestClaim_decides {reg : ResourceRegistry} {claim : Claim} {resource : Resource}
    (hr : reg.resources.get? claim.resourceId = some resource) :
    Decides reg (reg.apply (.requestClaim claim)) resource claim reg.activeClaims (reg.RequestAdmits claim resource) := by
  have happly : reg.apply (.requestClaim claim) = (let decision := decideClaim resource claim reg.activeClaims reg.resources
      let stored := claimWithStatus claim decision
      ⟨if stored.status = .active ∧ stored.isExclusive then
        reg.resources.set resource.id { resource with currentClaimId := some stored.id } else reg.resources,
        reg.claims.set stored.id stored,reg.decisions.set stored.id decision⟩) := by
    simp only [apply,requestClaim,getResource,hr]
    rfl
  have hstatus : ∃ status, claimWithStatus claim (decideClaim resource claim reg.activeClaims reg.resources) =
      { claim with status := status } ∧ (status = .active ↔ reg.RequestAdmits claim resource) ∧
      (status = .queued ↔ (decideClaim resource claim reg.activeClaims reg.resources).outcome = .queue) ∧
      status ∈ [ClaimStatus.active,.queued,.blocked,.requested] := by
    unfold claimWithStatus RequestAdmits
    cases (decideClaim resource claim reg.activeClaims reg.resources).outcome <;>
      exact ⟨_,rfl,by simp,by simp,by simp⟩
  obtain ⟨status,hstored,hiff,hqueued,hmem⟩ := hstatus
  rw [happly]
  simp only [hstored]
  have hexcl : Claim.isExclusive { claim with status := status } = claim.isExclusive := rfl
  refine ⟨hr,⟨status,claim.approvalId,rfl,hiff,hqueued,hmem⟩,fun h => ?_,fun h => ?_⟩
  · rw [if_pos ⟨hiff.mpr h.1,hexcl ▸ h.2⟩]
  · rw [if_neg fun h' => h ⟨hiff.mp h'.1,hexcl ▸ h'.2⟩]

theorem activateClaim_decides {reg : ResourceRegistry} {claimId : String} {approvalId : Option String} {claim : Claim}
    {resource : Resource} (hc : reg.claims.get? claimId = some claim) (hid : claim.id = claimId)
    (hr : reg.resources.get? claim.resourceId = some resource) :
    Decides reg (reg.apply (.activateClaim claimId approvalId)) resource claim (reg.otherActives claimId)
      (reg.ActivationAdmits claimId claim resource) := by
  subst hid
  have stored : ∀ {o}, (decideClaim resource claim (reg.otherActives claim.id) reg.resources).outcome = o →
      o = .block ∨ o = .quarantine → reg.apply (.activateClaim claim.id approvalId) = { reg with
        claims := reg.claims.set claim.id { claim with status := .blocked, approvalId := orApproval approvalId claim.approvalId }
        decisions := reg.decisions.set claim.id (decideClaim resource claim (reg.otherActives claim.id) reg.resources) } := by
    rintro o hd (rfl | rfl) <;> unfold otherActives at hd <;>
      simp only [apply,activateClaim,getClaim,getResource,hc,hr,bind,Except.bind,otherActives,hd] <;> rfl
  have granted : ∀ {o}, (decideClaim resource claim (reg.otherActives claim.id) reg.resources).outcome = o →
      o = .allow ∨ o = .escalate → reg.apply (.activateClaim claim.id approvalId) = { reg with
        resources := if claim.isExclusive then
          reg.resources.set resource.id { resource with currentClaimId := some claim.id } else reg.resources
        claims := reg.claims.set claim.id { claim with status := .active, approvalId := orApproval approvalId claim.approvalId } } := by
    rintro o hd (rfl | rfl) <;> unfold otherActives at hd <;>
      simp only [apply,activateClaim,getClaim,getResource,hc,hr,bind,Except.bind,otherActives,hd] <;> rfl
  unfold ActivationAdmits Admits
  cases hd : (decideClaim resource claim (reg.otherActives claim.id) reg.resources).outcome with
  | queue =>
    have happly : reg.apply (.activateClaim claim.id approvalId) = { reg with
        claims := reg.claims.set claim.id { claim with status := .queued, approvalId := orApproval approvalId claim.approvalId }
        decisions := reg.decisions.set claim.id (decideClaim resource claim (reg.otherActives claim.id) reg.resources) } := by
      have hd' := hd
      unfold otherActives at hd'
      simp only [apply,activateClaim,getClaim,getResource,hc,hr,bind,Except.bind,otherActives,hd']
      rfl
    rw [happly]
    exact ⟨hr,⟨.queued,_,rfl,by simp,by simp [hd],by simp⟩,fun h => by simp at h,fun _ => rfl⟩
  | block =>
    rw [stored hd (.inl rfl)]
    exact ⟨hr,⟨.blocked,_,rfl,by simp,by simp [hd],by simp⟩,fun h => by simp at h,fun _ => rfl⟩
  | quarantine =>
    rw [stored hd (.inr rfl)]
    exact ⟨hr,⟨.blocked,_,rfl,by simp,by simp [hd],by simp⟩,fun h => by simp at h,fun _ => rfl⟩
  | allow =>
    rw [granted hd (.inl rfl)]
    exact ⟨hr,⟨.active,_,rfl,by simp,by simp [hd],by simp⟩,fun h => if_pos h.2,fun h => if_neg fun h' => h ⟨.inl rfl,h'⟩⟩
  | escalate =>
    rw [granted hd (.inr rfl)]
    exact ⟨hr,⟨.active,_,rfl,by simp,by simp [hd],by simp⟩,fun h => if_pos h.2,fun h => if_neg fun h' => h ⟨.inr rfl,h'⟩⟩

/-- A release files the claim as released and takes the pointer of its resource back. -/
structure Releases (reg reg' : ResourceRegistry) (claimId : String) (claim : Claim) : Prop where
  claims : reg'.claims = reg.claims.set claimId { claim with status := .released }
  pointed : ∀ resource, reg.resources.get? claim.resourceId = some resource → resource.currentClaimId = some claimId →
    reg'.resources = reg.resources.set resource.id { resource with currentClaimId := none }
  unpointed : (∀ resource, reg.resources.get? claim.resourceId = some resource → resource.currentClaimId ≠ some claimId) →
    reg'.resources = reg.resources

theorem releaseClaim_releases {reg : ResourceRegistry} {claimId : String} {claim : Claim}
    (hc : reg.claims.get? claimId = some claim) : Releases reg (reg.apply (.releaseClaim claimId)) claimId claim := by
  cases hr : reg.resources.get? claim.resourceId with
  | none =>
    have happly : reg.apply (.releaseClaim claimId) = { reg with
        claims := reg.claims.set claimId { claim with status := .released } } := by
      simp only [apply,releaseClaim,getClaim,hc,hr,bind,Except.bind,pure,Except.pure]
    rw [happly]
    exact ⟨rfl,fun resource h => (by rw [hr] at h; cases h),fun _ => rfl⟩
  | some resource =>
    have happly : reg.apply (.releaseClaim claimId) = { reg with
        resources := if resource.currentClaimId = some claimId then
          reg.resources.set resource.id { resource with currentClaimId := none } else reg.resources
        claims := reg.claims.set claimId { claim with status := .released } } := by
      simp only [apply,releaseClaim,getClaim,hc,hr,bind,Except.bind,pure,Except.pure]
    rw [happly]
    refine ⟨rfl,fun other ho hp => ?_,fun h => if_neg (h resource hr)⟩
    rw [hr] at ho
    cases ho
    exact if_pos hp

/-! ### The four operations -/

/-- The operations that change the registry, by what they do. -/
inductive Effect (reg : ResourceRegistry) : RegistryOp → ResourceRegistry → Prop where
  | idle {op : RegistryOp} : Effect reg op reg
  | register {resource : Resource} (hnew : reg.resources.get? resource.id = none) :
      Effect reg (.registerResource resource) { reg with resources := reg.resources.set resource.id resource }
  | request {claim : Claim} {resource : Resource} {reg' : ResourceRegistry}
      (h : Decides reg reg' resource claim reg.activeClaims (reg.RequestAdmits claim resource)) : Effect reg (.requestClaim claim) reg'
  | activate {claimId : String} {approvalId : Option String} {claim : Claim} {resource : Resource} {reg' : ResourceRegistry}
      (hc : reg.claims.get? claimId = some claim) (hid : claim.id = claimId)
      (h : Decides reg reg' resource claim (reg.otherActives claimId) (reg.ActivationAdmits claimId claim resource)) :
      Effect reg (.activateClaim claimId approvalId) reg'
  | release {claimId : String} {claim : Claim} {reg' : ResourceRegistry} (hc : reg.claims.get? claimId = some claim)
      (hid : claim.id = claimId) (h : Releases reg reg' claimId claim) : Effect reg (.releaseClaim claimId) reg'

theorem apply_effect {reg : ResourceRegistry} (hfiled : reg.claims.Filed Claim.id) (op : RegistryOp) :
    Effect reg op (reg.apply op) := by
  cases op with
  | registerResource resource =>
    cases hr : reg.resources.get? resource.id with
    | some _ =>
      have happly : reg.apply (.registerResource resource) = reg := by simp only [apply,registerResource,hr]
      rw [happly]
      exact .idle
    | none =>
      have happly : reg.apply (.registerResource resource) = { reg with resources := reg.resources.set resource.id resource } := by
        simp only [apply,registerResource,hr]
      rw [happly]
      exact .register hr
  | requestClaim claim =>
    cases hr : reg.resources.get? claim.resourceId with
    | some resource => exact .request (requestClaim_decides hr)
    | none =>
      have happly : reg.apply (.requestClaim claim) = reg := by
        simp only [apply,requestClaim,getResource,hr]
        rfl
      rw [happly]
      exact .idle
  | activateClaim claimId approvalId =>
    cases hc : reg.claims.get? claimId with
    | none =>
      have happly : reg.apply (.activateClaim claimId approvalId) = reg := by
        simp only [apply,activateClaim,getClaim,hc]
        rfl
      rw [happly]
      exact .idle
    | some claim =>
      cases hr : reg.resources.get? claim.resourceId with
      | some resource => exact .activate hc (hfiled _ _ hc) (activateClaim_decides hc (hfiled _ _ hc) hr)
      | none =>
        have happly : reg.apply (.activateClaim claimId approvalId) = reg := by
          simp only [apply,activateClaim,getClaim,getResource,hc,hr,bind,Except.bind]
        rw [happly]
        exact .idle
  | releaseClaim claimId =>
    cases hc : reg.claims.get? claimId with
    | some claim => exact .release hc (hfiled _ _ hc) (releaseClaim_releases hc)
    | none =>
      have happly : reg.apply (.releaseClaim claimId) = reg := by
        simp only [apply,releaseClaim,getClaim,hc]
        rfl
      rw [happly]
      exact .idle

end Overseer.Core.ResourceRegistry
