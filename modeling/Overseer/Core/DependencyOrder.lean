import Overseer.Core.HolderPointer

/-! # Dependencies between claimed resources

The conflict test asks whether the resource of the requested claim depends on that of an
active one. It does not ask the other way round, so what depends on what decides which of
two claims must come first.
-/
namespace Overseer.Core.ResourceRegistry
open Overseer.Library

/-- The claim an operation decides, its resource and the active claims it is decided against. -/
def considered (reg : ResourceRegistry) : RegistryOp → Option (Claim × Resource × List Claim)
  | .requestClaim claim => (reg.resources.get? claim.resourceId).map fun resource => (claim,resource,reg.activeClaims)
  | .activateClaim claimId _ => (reg.claims.get? claimId).bind fun claim =>
      (reg.resources.get? claim.resourceId).map fun resource => (claim,resource,reg.otherActives claimId)
  | _ => none

/-- Another exclusive claim is active, on the resource `r`. -/
def HeldElsewhere (reg : ResourceRegistry) (claim : Claim) (r : Resource) : Prop :=
  ∃ k c, k ≠ claim.id ∧ reg.claims.get? k = some c ∧ c.status = .active ∧ c.isExclusive = true ∧
    reg.resources.get? c.resourceId = some r

/-- Of two active exclusive claims neither is on a resource that the other's depends on. -/
def DependencyOrdered (reg : ResourceRegistry) : Prop :=
  ∀ j k a b r, reg.claims.get? j = some a → reg.claims.get? k = some b → j ≠ k → a.status = .active → b.status = .active →
    a.isExclusive = true → b.isExclusive = true → reg.resources.get? a.resourceId = some r → b.resourceId ∉ r.dependencies

/-- An exclusive claim for a resource that takes claims is queued while a related resource
is held. -/
def QueuesRelated (reg : ResourceRegistry) (op : RegistryOp) : Prop :=
  ∀ claim resource actives, reg.considered op = some (claim,resource,actives) → claim.isExclusive = true →
    resource.state ≠ .retired → resource.state ≠ .quarantined → ∀ r, reg.HeldElsewhere claim r →
    resource.id ∈ r.dependencies ∨ r.id ∈ resource.dependencies →
    ∃ c, (reg.apply op).claims.get? claim.id = some c ∧ c.status = .queued

/-- An exclusive claim on what a held resource depends on is blocked for some other reason. -/
def HeedsDependents (reg : ResourceRegistry) (op : RegistryOp) : Prop :=
  ∀ claim resource actives, reg.considered op = some (claim,resource,actives) → claim.isExclusive = true →
    resource.state ≠ .retired → resource.state ≠ .quarantined → ∀ r, reg.HeldElsewhere claim r →
    resource.id ∈ r.dependencies → blockingClaims resource claim actives reg.resources ≠ []

section Step
variable {reg : ResourceRegistry} {op : RegistryOp} {claim : Claim} {resource : Resource} {actives : List Claim}

theorem considered_decides (hfiled : reg.claims.Filed Claim.id) (h : reg.considered op = some (claim,resource,actives)) :
    ∃ admitted, Decides reg (reg.apply op) resource claim actives admitted ∧
      (admitted → Admits (decideClaim resource claim actives reg.resources)) := by
  cases op with
  | registerResource resource => simp [considered] at h
  | releaseClaim claimId => simp [considered] at h
  | requestClaim claim =>
    simp only [considered,Option.map_eq_some_iff,Prod.mk.injEq] at h
    obtain ⟨resource,hr,rfl,rfl,rfl⟩ := h
    exact ⟨_,requestClaim_decides hr,fun ha => .inl ha⟩
  | activateClaim claimId approvalId =>
    simp only [considered,Option.bind_eq_some_iff,Option.map_eq_some_iff,Prod.mk.injEq] at h
    obtain ⟨claim,hc,resource,hr,rfl,rfl,rfl⟩ := h
    exact ⟨_,activateClaim_decides hc (hfiled _ _ hc) hr,id⟩

theorem considered_resource (h : reg.considered op = some (claim,resource,actives)) :
    reg.resources.get? claim.resourceId = some resource := by
  cases op with
  | registerResource resource => simp [considered] at h
  | releaseClaim claimId => simp [considered] at h
  | requestClaim claim =>
    simp only [considered,Option.map_eq_some_iff,Prod.mk.injEq] at h
    obtain ⟨resource,hr,rfl,rfl,rfl⟩ := h
    exact hr
  | activateClaim claimId approvalId =>
    simp only [considered,Option.bind_eq_some_iff,Option.map_eq_some_iff,Prod.mk.injEq] at h
    obtain ⟨claim,hc,resource,hr,rfl,rfl,rfl⟩ := h
    exact hr

theorem mem_considered (hfiled : reg.claims.Filed Claim.id) (h : reg.considered op = some (claim,resource,actives))
    {k : String} {c : Claim} (hk : k ≠ claim.id) (hc : reg.claims.get? k = some c) (ha : c.isActiveLike = true) :
    c ∈ actives := by
  cases op with
  | registerResource resource => simp [considered] at h
  | releaseClaim claimId => simp [considered] at h
  | requestClaim claim =>
    simp only [considered,Option.map_eq_some_iff,Prod.mk.injEq] at h
    obtain ⟨resource,-,rfl,rfl,rfl⟩ := h
    exact mem_activeClaims hc ha
  | activateClaim claimId approvalId =>
    simp only [considered,Option.bind_eq_some_iff,Option.map_eq_some_iff,Prod.mk.injEq] at h
    obtain ⟨claim,hc',resource,-,rfl,rfl,rfl⟩ := h
    refine List.mem_filter.mpr ⟨mem_activeClaims hc ha,?_⟩
    rw [hfiled k c hc,← hfiled _ _ hc']
    simpa using hk

/-- A claim is queued exactly when one of the active claims blocks it. -/
theorem outcome_queue_iff (hretired : resource.state ≠ .retired) (hquarantined : resource.state ≠ .quarantined)
    (hid : claim.resourceId = resource.id) (hexcl : claim.isExclusive = true) :
    (decideClaim resource claim actives reg.resources).outcome = .queue ↔
      blockingClaims resource claim actives reg.resources ≠ [] := by
  have hobs : claim.claimType ≠ .observation := (isExclusive_iff claim).mp hexcl
  unfold decideClaim
  rw [if_neg hretired,if_neg hquarantined,if_neg (not_not.mpr hid),if_neg fun h => hobs h.1]
  dsimp only
  split
  · next hne => simp [hne]
  · next hnil =>
    rw [not_not] at hnil
    split <;> simp [hnil]

theorem blocks_of_dependency {active : Claim} {r : Resource} (ha : active.isActiveLike = true)
    (hr : reg.resources.get? active.resourceId = some r) (hdep : r.id ∈ resource.dependencies) :
    blocks resource claim reg.resources active = true := by
  have hshared : (resource.dependencies ∩ ({r.id} ∪ r.dependencies)).Nonempty :=
    ⟨r.id,by simp [hdep]⟩
  unfold blocks
  rw [ha]
  simp only [Bool.not_true,Bool.false_eq_true,↓reduceIte,hr,hshared,decide_true]
  split
  · rfl
  · split
    · rfl
    · split
      · rfl
      · split <;> rfl

theorem queuesRelated_iff (hreg : Coherent reg) (op : RegistryOp) : QueuesRelated reg op ↔ HeedsDependents reg op := by
  have hqueued : ∀ {claim : Claim} {resource : Resource} {actives : List Claim},
      reg.considered op = some (claim,resource,actives) → claim.isExclusive = true → resource.state ≠ .retired →
      resource.state ≠ .quarantined → ((∃ c, (reg.apply op).claims.get? claim.id = some c ∧ c.status = .queued) ↔
        blockingClaims resource claim actives reg.resources ≠ []) := by
    intro claim resource actives hcons hexcl hretired hquarantined
    obtain ⟨admitted,hdecides,-⟩ := considered_decides hreg.excludes.filed hcons
    obtain ⟨status,approval,hclaims,-,hstatus,-⟩ := hdecides.filed
    have hid := hreg.resources _ _ (considered_resource hcons)
    rw [← outcome_queue_iff hretired hquarantined hid.symm hexcl,← hstatus,hclaims,Dict.get?_set,if_pos rfl]
    simp
  constructor
  · intro hq claim resource actives hcons hexcl hretired hquarantined r hheld hdep
    exact (hqueued hcons hexcl hretired hquarantined).mp
      (hq claim resource actives hcons hexcl hretired hquarantined r hheld (.inl hdep))
  · intro hh claim resource actives hcons hexcl hretired hquarantined r hheld hdep
    refine (hqueued hcons hexcl hretired hquarantined).mpr ?_
    rcases hdep with hdep | hdep
    · exact hh claim resource actives hcons hexcl hretired hquarantined r hheld hdep
    · obtain ⟨k,c,hk,hc,hactive,-,hr⟩ := hheld
      have hlike := isActiveLike_of_active hactive
      have hmem : c ∈ blockingClaims resource claim actives reg.resources :=
        List.mem_filter.mpr ⟨mem_considered hreg.excludes.filed hcons hk hc hlike,blocks_of_dependency hlike hr hdep⟩
      exact List.ne_nil_of_mem hmem

/-- An admitted claim stands in no declared dependency with the active ones. -/
theorem unrelated_of_admits (hreg : Coherent reg) (hheeds : HeedsDependents reg op)
    (hcons : reg.considered op = some (claim,resource,actives)) (hexcl : claim.isExclusive = true)
    (hadmits : Admits (decideClaim resource claim actives reg.resources)) {r : Resource} (hheld : reg.HeldElsewhere claim r) :
    resource.id ∉ r.dependencies ∧ r.id ∉ resource.dependencies := by
  obtain ⟨hretired,hquarantined,hid⟩ := admits_resource hadmits
  have hnil := (admits_exclusive_iff hretired hquarantined hid hexcl).mp hadmits
  constructor
  · intro hdep
    exact hheeds claim resource actives hcons hexcl hretired hquarantined r hheld hdep hnil
  · intro hdep
    obtain ⟨k,c,hk,hc,hactive,-,hr⟩ := hheld
    have hlike := isActiveLike_of_active hactive
    have hmem : c ∈ blockingClaims resource claim actives reg.resources :=
      List.mem_filter.mpr ⟨mem_considered hreg.excludes.filed hcons hk hc hlike,blocks_of_dependency hlike hr hdep⟩
    rw [hnil] at hmem
    cases hmem

theorem DependencyOrdered.of_considered (hreg : Coherent reg) (h : DependencyOrdered reg) (hheeds : HeedsDependents reg op)
    (hcons : reg.considered op = some (claim,resource,actives)) : DependencyOrdered (reg.apply op) := by
  obtain ⟨admitted,hdecides,hadmits⟩ := considered_decides hreg.excludes.filed hcons
  have heffect := apply_effect hreg.excludes.filed op
  have hown := considered_resource hcons
  obtain ⟨self,hself,hres,hexclself,hiff,-⟩ := hdecides.get_self
  have hdeps : ∀ {k : String} {r r' : Resource}, reg.resources.get? k = some r → (reg.apply op).resources.get? k = some r' →
      r'.dependencies = r.dependencies := by
    intro k r r' hr hr'
    obtain ⟨p,hp⟩ := heffect.repointed hreg.resources hr
    rw [hp] at hr'
    cases hr'
    rfl
  intro j k a b r' hj hk hjk haa hba hea heb hr'
  by_cases hja : j = claim.id
  · subst hja
    rw [hself] at hj
    cases hj
    rw [hdecides.get_of_ne (fun e => hjk e.symm)] at hk
    obtain ⟨r,hr,-⟩ := hreg.registered _ b hk (isActiveLike_of_active hba)
    have hheld : reg.HeldElsewhere claim r := ⟨k,b,fun e => hjk e.symm,hk,hba,heb,hr⟩
    have hun := (unrelated_of_admits hreg hheeds hcons (hexclself ▸ hea) (hadmits (hiff.mp haa)) hheld).2
    rw [hdeps hown (hres ▸ hr'),← hreg.resources _ _ hr]
    exact hun
  · rw [hdecides.get_of_ne hja] at hj
    obtain ⟨r,hr,-⟩ := hreg.registered _ a hj (isActiveLike_of_active haa)
    rw [hdeps hr hr']
    by_cases hkb : k = claim.id
    · subst hkb
      rw [hself] at hk
      cases hk
      have hheld : reg.HeldElsewhere claim r := ⟨j,a,hja,hj,haa,hea,hr⟩
      have hun := (unrelated_of_admits hreg hheeds hcons (hexclself ▸ heb) (hadmits (hiff.mp hba)) hheld).1
      rw [hres,← hreg.resources _ _ hown]
      exact hun
    · rw [hdecides.get_of_ne hkb] at hk
      exact h j k a b r hj hk hjk haa hba hea heb hr

/-- An operation that decides no claim activates none. -/
theorem DependencyOrdered.of_not_considered (hreg : Coherent reg) (h : DependencyOrdered reg) (hnone : reg.considered op = none) :
    DependencyOrdered (reg.apply op) := by
  have heffect := apply_effect hreg.excludes.filed op
  have hactive : ∀ {k : String} {c : Claim}, (reg.apply op).claims.get? k = some c → c.status = .active →
      reg.claims.get? k = some c := by
    intro k c hc hactive
    generalize reg.apply op = reg' at heffect hc
    cases heffect with
    | idle => exact hc
    | register hnew => exact hc
    | request h => simp [considered,h.registered] at hnone
    | activate hc' hid h => simp [considered,hc',h.registered] at hnone
    | @release claimId claim _ hc' hid h =>
      by_cases hk : k = claimId
      · rw [hk,h.get_self] at hc
        cases hc
        cases hactive
      · rwa [h.get_of_ne hk] at hc
  intro j k a b r' hj hk hjk haa hba hea heb hr'
  have hj' := hactive hj haa
  obtain ⟨r,hr,-⟩ := hreg.registered _ a hj' (isActiveLike_of_active haa)
  obtain ⟨p,hp⟩ := heffect.repointed hreg.resources hr
  rw [hp] at hr'
  cases hr'
  exact h j k a b r hj' (hactive hk hba) hjk haa hba hea heb hr

theorem DependencyOrdered.apply (hreg : Coherent reg) (h : DependencyOrdered reg) (hheeds : HeedsDependents reg op) :
    DependencyOrdered (reg.apply op) := by
  cases hcons : reg.considered op with
  | none => exact h.of_not_considered hreg hcons
  | some p => exact h.of_considered hreg hheeds hcons

end Step

/-- A run keeps declared dependencies apart in either order of arrival precisely when every
exclusive claim on what a held resource depends on is blocked for another reason. -/
theorem dependency_conflicts_ordered (ops : List RegistryOp) :
    (∀ pre op, pre ++ [op] <+: ops → HeedsDependents (run pre) op) ↔
      (∀ pre, pre <+: ops → DependencyOrdered (run pre)) ∧ ∀ pre op, pre ++ [op] <+: ops → QueuesRelated (run pre) op := by
  refine foldl_law_iff (fun pre _ => Coherent.run pre) (fun j k a b r hj => by simp [empty] at hj) ?_
  intro reg op _ hreg hordered
  constructor
  · rintro ⟨-,hqueues⟩
    exact (queuesRelated_iff hreg op).mp hqueues
  · intro hheeds
    exact ⟨hordered.apply hreg hheeds,(queuesRelated_iff hreg op).mpr hheeds⟩

/-- A dock that depends on a bay, and quarantines of both. -/
def dockThenBay : List RegistryOp := [.registerResource { serviceNamed "dock" with dependencies := {"bay"} },
  .registerResource (serviceNamed "bay"),.requestClaim (quarantineOf "claim.dock" "dock" 8080),
  .requestClaim (quarantineOf "claim.bay" "bay" 9090)]

theorem dependency_held_twice : ¬ ∀ ops : List RegistryOp, ∀ pre, pre <+: ops → DependencyOrdered (run pre) := by
  intro hall
  have hordered := hall dockThenBay dockThenBay (List.prefix_refl _)
  have hdock : (run dockThenBay).claims.get? "claim.dock" =
    some { quarantineOf "claim.dock" "dock" 8080 with status := .active } := rfl
  have hbay : (run dockThenBay).claims.get? "claim.bay" =
    some { quarantineOf "claim.bay" "bay" 9090 with status := .active } := rfl
  have hresource : (run dockThenBay).resources.get? "dock" =
    some { serviceNamed "dock" with dependencies := {"bay"}, currentClaimId := some "claim.dock" } := rfl
  exact hordered _ _ _ _ _ hdock hbay (by decide) rfl rfl rfl rfl hresource (by decide)

end Overseer.Core.ResourceRegistry
