import Overseer.Core.RegistrySteps
import Overseer.Library.Folds

/-! # The holder of a resource

`current_claim_id` repeats what the claims say. Only a release takes it back, so it goes
stale when a claim that holds a resource is requested again or is queued by an activation.
-/
namespace Overseer.Core.ResourceRegistry
open Overseer.Library

/-! ### Coherent registries -/

structure Coherent (reg : ResourceRegistry) : Prop where
  resources : reg.resources.Filed Resource.id
  excludes : Excludes reg
  registered : ∀ k c, reg.claims.get? k = some c → c.isActiveLike = true →
    ∃ r, reg.resources.get? c.resourceId = some r ∧ r.state ≠ .retired ∧ r.state ≠ .quarantined
  active : ∀ k c, reg.claims.get? k = some c → c.isActiveLike = true → c.status = .active

theorem isActiveLike_of_active {c : Claim} (h : c.status = .active) : c.isActiveLike = true := by
  simp [Claim.isActiveLike,h]

theorem admits_resource {resource : Resource} {claim : Claim} {actives : List Claim} {resourcesById : Dict Resource}
    (h : Admits (decideClaim resource claim actives resourcesById)) :
    resource.state ≠ .retired ∧ resource.state ≠ .quarantined ∧ claim.resourceId = resource.id := by
  unfold decideClaim at h
  split at h
  · rcases h with h | h <;> cases h
  next hretired =>
  split at h
  · rcases h with h | h <;> cases h
  next hquarantined =>
  split at h
  · rcases h with h | h <;> cases h
  next hid => exact ⟨hretired,hquarantined,not_not.mp hid⟩

/-- The decision on an exclusive claim for a resource that takes claims. -/
theorem admits_exclusive_iff {resource : Resource} {claim : Claim} {actives : List Claim} {resourcesById : Dict Resource}
    (hretired : resource.state ≠ .retired) (hquarantined : resource.state ≠ .quarantined)
    (hid : claim.resourceId = resource.id) (hexcl : claim.isExclusive = true) :
    Admits (decideClaim resource claim actives resourcesById) ↔ blockingClaims resource claim actives resourcesById = [] := by
  have hobs : claim.claimType ≠ .observation := (isExclusive_iff claim).mp hexcl
  unfold decideClaim
  rw [if_neg hretired,if_neg hquarantined,if_neg (not_not.mpr hid),if_neg fun h => hobs h.1]
  dsimp only
  split
  · next hne => simp [Admits,hne]
  · next hnil =>
    rw [not_not] at hnil
    split <;> simp [Admits,hnil]

section Step
variable {reg reg' : ResourceRegistry} {resource : Resource} {claim : Claim} {actives : List Claim} {admitted : Prop}

theorem Decides.get_of_ne (h : Decides reg reg' resource claim actives admitted) {k : String} (hk : k ≠ claim.id) :
    reg'.claims.get? k = reg.claims.get? k := by
  obtain ⟨status,approval,hclaims,-⟩ := h.filed
  rw [hclaims,Dict.get?_set,if_neg hk]

theorem Decides.get_self (h : Decides reg reg' resource claim actives admitted) :
    ∃ c, reg'.claims.get? claim.id = some c ∧ c.resourceId = claim.resourceId ∧ c.isExclusive = claim.isExclusive ∧
      (c.status = .active ↔ admitted) ∧ (c.isActiveLike = true → admitted) := by
  obtain ⟨status,approval,hclaims,hiff,-,hmem⟩ := h.filed
  refine ⟨{ claim with status := status, approvalId := approval },by rw [hclaims,Dict.get?_set,if_pos rfl],rfl,rfl,hiff,
    fun hlike => hiff.mp ?_⟩
  simp only [Claim.isActiveLike,decide_eq_true_eq] at hlike
  simp only [List.mem_cons,List.not_mem_nil,or_false] at hlike hmem
  rcases hmem with h | h | h | h <;> simp_all

/-- No operation changes more of a resource than its pointer. -/
theorem Effect.repointed {op : RegistryOp} (h : Effect reg op reg') (hres : reg.resources.Filed Resource.id) {k : String}
    {r : Resource} (hr : reg.resources.get? k = some r) : ∃ p, reg'.resources.get? k = some { r with currentClaimId := p } := by
  have hset : ∀ (r₀ : Resource) p, reg.resources.get? r₀.id = some r₀ → reg'.resources =
      reg.resources.set r₀.id { r₀ with currentClaimId := p } →
      ∃ p, reg'.resources.get? k = some { r with currentClaimId := p } := by
    intro r₀ p hr₀ hres'
    rw [hres',Dict.get?_set]
    by_cases hk : k = r₀.id
    · rw [hk,hr₀] at hr
      cases hr
      exact ⟨p,if_pos hk⟩
    · exact ⟨r.currentClaimId,by rw [if_neg hk,hr]⟩
  have hsame : reg'.resources = reg.resources → ∃ p, reg'.resources.get? k = some { r with currentClaimId := p } :=
    fun he => ⟨r.currentClaimId,by rw [he,hr]⟩
  have hown : ∀ {k₀ : String} {r₀ : Resource}, reg.resources.get? k₀ = some r₀ → reg.resources.get? r₀.id = some r₀ := by
    intro k₀ r₀ h₀
    rw [hres _ _ h₀]
    exact h₀
  cases h with
  | idle => exact hsame rfl
  | @register resource hnew =>
    refine ⟨r.currentClaimId,?_⟩
    have hk : k ≠ resource.id := fun hk => by rw [hk,hnew] at hr; cases hr
    change (reg.resources.set resource.id resource).get? k = _
    rw [Dict.get?_set,if_neg hk,hr]
  | @request claim resource _ h =>
    by_cases ha : reg.RequestAdmits claim resource ∧ claim.isExclusive = true
    · exact hset resource _ (hown h.registered) (h.pointed ha)
    · exact hsame (h.unpointed ha)
  | @activate claimId _ claim resource _ _ _ h =>
    by_cases ha : reg.ActivationAdmits claimId claim resource ∧ claim.isExclusive = true
    · exact hset resource _ (hown h.registered) (h.pointed ha)
    · exact hsame (h.unpointed ha)
  | @release claimId claim _ hc hid h =>
    by_cases hp : ∃ r₀, reg.resources.get? claim.resourceId = some r₀ ∧ r₀.currentClaimId = some claimId
    · obtain ⟨r₀,hr₀,hp⟩ := hp
      exact hset r₀ none (hown hr₀) (h.pointed r₀ hr₀ hp)
    · exact hsame (h.unpointed fun r₀ hr₀ hp' => hp ⟨r₀,hr₀,hp'⟩)

/-- A resource that is there afterwards was there before, but for a new registration. -/
theorem Effect.resource_before {op : RegistryOp} (h : Effect reg op reg') (hres : reg.resources.Filed Resource.id) {k : String}
    {r' : Resource} (hr : reg'.resources.get? k = some r') :
    (∃ r p, reg.resources.get? k = some r ∧ r' = { r with currentClaimId := p }) ∨
      op = .registerResource r' ∧ reg.resources.get? k = none := by
  cases hold : reg.resources.get? k with
  | some r =>
    obtain ⟨p,hp⟩ := h.repointed hres hold
    rw [hp] at hr
    exact .inl ⟨r,p,rfl,(Option.some.inj hr).symm⟩
  | none =>
    have hset : ∀ (k₀ : String) (r₀ : Resource), reg.resources.get? k₀ = some r₀ →
        ∀ p, (reg.resources.set r₀.id { r₀ with currentClaimId := p }).get? k = none := by
      intro k₀ r₀ hr₀ p
      have hk : k ≠ r₀.id := fun hk => by rw [hk,hres _ _ hr₀,hr₀] at hold; cases hold
      rw [Dict.get?_set,if_neg hk,hold]
    right
    cases h with
    | idle => rw [hold] at hr; cases hr
    | @register resource hnew =>
      change (reg.resources.set resource.id resource).get? k = _ at hr
      rw [Dict.get?_set] at hr
      split at hr
      · cases hr
        exact ⟨rfl,rfl⟩
      · rw [hold] at hr; cases hr
    | @request claim resource _ h =>
      by_cases ha : reg.RequestAdmits claim resource ∧ claim.isExclusive = true
      · rw [h.pointed ha,hset _ _ h.registered] at hr; cases hr
      · rw [h.unpointed ha,hold] at hr; cases hr
    | @activate claimId _ claim resource _ _ _ h =>
      by_cases ha : reg.ActivationAdmits claimId claim resource ∧ claim.isExclusive = true
      · rw [h.pointed ha,hset _ _ h.registered] at hr; cases hr
      · rw [h.unpointed ha,hold] at hr; cases hr
    | @release claimId claim _ hc hid h =>
      by_cases hp : ∃ r₀, reg.resources.get? claim.resourceId = some r₀ ∧ r₀.currentClaimId = some claimId
      · obtain ⟨r₀,hr₀,hp⟩ := hp
        rw [h.pointed r₀ hr₀ hp,hset _ _ hr₀] at hr; cases hr
      · rw [h.unpointed fun r₀ hr₀ hp' => hp ⟨r₀,hr₀,hp'⟩,hold] at hr; cases hr

theorem Releases.get_of_ne {claimId : String} (h : Releases reg reg' claimId claim) {k : String} (hk : k ≠ claimId) :
    reg'.claims.get? k = reg.claims.get? k := by rw [h.claims,Dict.get?_set,if_neg hk]

theorem Releases.get_self {claimId : String} (h : Releases reg reg' claimId claim) :
    reg'.claims.get? claimId = some { claim with status := .released } := by rw [h.claims,Dict.get?_set,if_pos rfl]

/-- An active claim was active before, or was admitted by the operation. -/
theorem Effect.active_before {op : RegistryOp} (h : Effect reg op reg') {k : String} {c : Claim}
    (hc : reg'.claims.get? k = some c) (ha : c.isActiveLike = true) :
    reg.claims.get? k = some c ∨ c.status = .active ∧ ∃ resource actives claim, claim.resourceId = c.resourceId ∧
      reg.resources.get? claim.resourceId = some resource ∧ Admits (decideClaim resource claim actives reg.resources) := by
  cases h with
  | idle => exact .inl hc
  | register hnew => exact .inl hc
  | @request claim resource _ h =>
    by_cases hk : k = claim.id
    · subst hk
      obtain ⟨c',hc',hres,-,hiff,hlike⟩ := h.get_self
      rw [hc'] at hc
      cases hc
      exact .inr ⟨hiff.mpr (hlike ha),resource,_,claim,hres.symm,h.registered,.inl (hlike ha)⟩
    · rw [h.get_of_ne hk] at hc
      exact .inl hc
  | @activate claimId _ claim resource _ hold hid h =>
    by_cases hk : k = claim.id
    · subst hk
      obtain ⟨c',hc',hres,-,hiff,hlike⟩ := h.get_self
      rw [hc'] at hc
      cases hc
      exact .inr ⟨hiff.mpr (hlike ha),resource,_,claim,hres.symm,h.registered,hlike ha⟩
    · rw [h.get_of_ne hk] at hc
      exact .inl hc
  | @release claimId claim _ hold hid h =>
    by_cases hk : k = claimId
    · rw [hk,h.get_self] at hc
      cases hc
      simp [Claim.isActiveLike] at ha
    · rw [h.get_of_ne hk] at hc
      exact .inl hc

theorem Coherent.apply (h : Coherent reg) (op : RegistryOp) : Coherent (reg.apply op) := by
  have heffect := apply_effect h.excludes.filed op
  have hexcludes := apply_excludes h.excludes op
  generalize reg.apply op = reg' at heffect hexcludes
  constructor
  · intro k r' hr
    rcases heffect.resource_before h.resources hr with ⟨r,p,hr₀,rfl⟩ | ⟨rfl,hnone⟩
    · exact h.resources k r hr₀
    · cases heffect with
      | idle => rw [hnone] at hr; cases hr
      | register hnew =>
        change (reg.resources.set r'.id r').get? k = _ at hr
        rw [Dict.get?_set] at hr
        split at hr
        · next hk => exact hk.symm
        · rw [hnone] at hr; cases hr
  · exact hexcludes
  · intro k c hc ha
    have hbefore : ∃ r, reg.resources.get? c.resourceId = some r ∧ r.state ≠ .retired ∧ r.state ≠ .quarantined := by
      rcases heffect.active_before hc ha with hc' | ⟨-,resource,actives,claim,hres,hr,hadmits⟩
      · exact h.registered k c hc' ha
      · obtain ⟨hretired,hquarantined,-⟩ := admits_resource hadmits
        exact ⟨resource,hres ▸ hr,hretired,hquarantined⟩
    obtain ⟨r,hr,hretired,hquarantined⟩ := hbefore
    obtain ⟨p,hp⟩ := heffect.repointed h.resources hr
    exact ⟨_,hp,hretired,hquarantined⟩
  · intro k c hc ha
    rcases heffect.active_before hc ha with hc' | ⟨hactive,-⟩
    · exact h.active k c hc' ha
    · exact hactive

end Step

theorem Coherent.empty : Coherent ResourceRegistry.empty where
  resources := Dict.Filed.empty _
  excludes := empty_excludes
  registered k c hc := by simp [ResourceRegistry.empty] at hc
  active k c hc := by simp [ResourceRegistry.empty] at hc

theorem Coherent.run (ops : List RegistryOp) : Coherent (run ops) := foldl_invariant Coherent.empty (fun _ op h => h.apply op) ops

/-! ### The pointer -/

/-- The claim under the id is active and exclusive on the resource. -/
def Holds (reg : ResourceRegistry) (claimId resourceId : String) : Prop :=
  ∃ c, reg.claims.get? claimId = some c ∧ c.status = .active ∧ c.isExclusive = true ∧ c.resourceId = resourceId

/-- The pointer of every resource names its holder, if there is one. -/
def HolderExact (reg : ResourceRegistry) : Prop :=
  ∀ k r, reg.resources.get? k = some r → ∀ claimId, r.currentClaimId = some claimId ↔ reg.Holds claimId k

/-- The operation does not take a resource from its holder other than by a release. -/
def KeepsHolder (reg : ResourceRegistry) : RegistryOp → Prop
  | .requestClaim claim => reg.resources.get? claim.resourceId ≠ none → ∀ k, ¬ reg.Holds claim.id k
  | .activateClaim claimId _ => ∀ claim resource, reg.claims.get? claimId = some claim →
      reg.resources.get? claim.resourceId = some resource → reg.Holds claimId claim.resourceId →
      blockingClaims resource claim (reg.otherActives claimId) reg.resources = []
  | _ => True

section Pointer
variable {reg reg' : ResourceRegistry} {resource : Resource} {claim : Claim} {actives : List Claim} {admitted : Prop}

theorem Decides.holds_of_ne (h : Decides reg reg' resource claim actives admitted) {claimId k : String} (hne : claimId ≠ claim.id) :
    reg'.Holds claimId k ↔ reg.Holds claimId k := by
  unfold Holds
  rw [h.get_of_ne hne]

theorem Decides.holds_self (h : Decides reg reg' resource claim actives admitted) (k : String) :
    reg'.Holds claim.id k ↔ admitted ∧ claim.isExclusive = true ∧ claim.resourceId = k := by
  obtain ⟨c,hc,hres,hexcl,hiff,-⟩ := h.get_self
  constructor
  · rintro ⟨c',hc',hactive,hexcl',hres'⟩
    rw [hc] at hc'
    cases hc'
    exact ⟨hiff.mp hactive,hexcl ▸ hexcl',hres ▸ hres'⟩
  · rintro ⟨ha,hexcl',hres'⟩
    exact ⟨c,hc,hiff.mpr ha,hexcl.trans hexcl',hres.trans hres'⟩

/-- The pointer stays exact exactly when the claim, if it held a resource, holds it still. -/
theorem Decides.holderExact_iff (h : Decides reg reg' resource claim actives admitted) (hreg : Coherent reg) (hexact : HolderExact reg)
    (hid : admitted → claim.resourceId = resource.id)
    (hcompatible : admitted → ∀ k c, reg.claims.get? k = some c → k ≠ claim.id → c.isActiveLike = true → Compatible claim c) :
    HolderExact reg' ↔ ∀ k, reg.Holds claim.id k → reg'.Holds claim.id k := by
  constructor
  · intro hexact' k hholds
    obtain ⟨c,hc,hactive,hexcl,rfl⟩ := hholds
    obtain ⟨r,hr,-⟩ := hreg.registered _ c hc (isActiveLike_of_active hactive)
    have hpointer : r.currentClaimId = some claim.id := (hexact _ r hr _).mpr ⟨c,hc,hactive,hexcl,rfl⟩
    by_cases ha : admitted ∧ claim.isExclusive = true
    · by_cases hk : c.resourceId = resource.id
      · exact (h.holds_self _).mpr ⟨ha.1,ha.2,by rw [hk,hid ha.1]⟩
      · refine (hexact' c.resourceId r ?_ _).mp hpointer
        rw [h.pointed ha,Dict.get?_set,if_neg hk,hr]
    · exact (hexact' c.resourceId r (by rw [h.unpointed ha,hr]) _).mp hpointer
  · intro hkeeps k r' hr' claimId
    by_cases ha : admitted ∧ claim.isExclusive = true
    · have hown := hid ha.1
      rw [h.pointed ha,Dict.get?_set] at hr'
      split at hr'
      · next hk =>
        cases hr'
        rw [hk,← hown]
        by_cases hne : claimId = claim.id
        · subst hne
          simp [(h.holds_self claim.resourceId).mpr ⟨ha.1,ha.2,rfl⟩]
        · have hno : ¬ reg'.Holds claimId claim.resourceId := by
            rw [h.holds_of_ne hne]
            rintro ⟨c,hc,hactive,hexcl,hres⟩
            have hcomp := hcompatible ha.1 _ c hc hne (isActiveLike_of_active hactive)
            exact (isExclusive_iff c).mp hexcl (hcomp.1 hres.symm).2
          simp only [Option.some.injEq,hno,iff_false]
          exact fun e => hne e.symm
      · next hk =>
        rw [hexact k r' hr' claimId]
        by_cases hne : claimId = claim.id
        · subst hne
          refine ⟨hkeeps k,fun hholds => ?_⟩
          exact absurd (hown.symm.trans ((h.holds_self k).mp hholds).2.2).symm hk
        · exact (h.holds_of_ne hne).symm
    · rw [h.unpointed ha] at hr'
      rw [hexact k r' hr' claimId]
      by_cases hne : claimId = claim.id
      · subst hne
        refine ⟨hkeeps k,fun hholds => ?_⟩
        obtain ⟨hadm,hexcl,-⟩ := (h.holds_self k).mp hholds
        exact absurd ⟨hadm,hexcl⟩ ha
      · exact (h.holds_of_ne hne).symm

theorem request_compatible (hadmits : reg.RequestAdmits claim resource) {k : String} {c : Claim}
    (hc : reg.claims.get? k = some c) (ha : c.isActiveLike = true) : Compatible claim c :=
  decideClaim_compatible (.inl hadmits) (mem_activeClaims hc ha) ha

theorem activation_compatible {claimId : String} (hfiled : reg.claims.Filed Claim.id)
    (hadmits : reg.ActivationAdmits claimId claim resource) {k : String} {c : Claim} (hc : reg.claims.get? k = some c)
    (hk : k ≠ claimId) (ha : c.isActiveLike = true) : Compatible claim c := by
  refine decideClaim_compatible hadmits (List.mem_filter.mpr ⟨mem_activeClaims hc ha,?_⟩) ha
  simpa [hfiled k c hc] using hk

theorem requestClaim_holder_iff (hreg : Coherent reg) (hexact : HolderExact reg) (claim : Claim) :
    HolderExact (reg.apply (.requestClaim claim)) ↔ KeepsHolder reg (.requestClaim claim) := by
  cases hr : reg.resources.get? claim.resourceId with
  | none =>
    have happly : reg.apply (.requestClaim claim) = reg := by
      simp only [apply,requestClaim,getResource,hr]
      rfl
    rw [happly]
    exact ⟨fun _ h => absurd hr h,fun _ => hexact⟩
  | some resource =>
    have hdecides := requestClaim_decides hr
    rw [hdecides.holderExact_iff hreg hexact (fun ha => (admits_resource (.inl ha)).2.2)
      fun ha k c hc _ hlike => request_compatible ha hc hlike]
    constructor
    · intro hkeeps _ k hholds
      -- a claim that holds its resource stands in its own way
      obtain ⟨hadm,-,hres⟩ := (hdecides.holds_self k).mp (hkeeps k hholds)
      obtain ⟨c,hc,hactive,hexcl,hres'⟩ := hholds
      have hcomp := request_compatible hadm hc (isActiveLike_of_active hactive)
      exact (isExclusive_iff c).mp hexcl (hcomp.1 (hres.trans hres'.symm)).2
    · intro hkeeps k hholds
      exact absurd hholds (hkeeps (by rw [hr]; simp) k)

theorem activateClaim_holder_iff (hreg : Coherent reg) (hexact : HolderExact reg) (claimId : String)
    (approvalId : Option String) :
    HolderExact (reg.apply (.activateClaim claimId approvalId)) ↔ KeepsHolder reg (.activateClaim claimId approvalId) := by
  have hidle : reg.apply (.activateClaim claimId approvalId) = reg →
      (∀ claim resource, reg.claims.get? claimId = some claim → reg.resources.get? claim.resourceId = some resource → False) →
      (HolderExact (reg.apply (.activateClaim claimId approvalId)) ↔ KeepsHolder reg (.activateClaim claimId approvalId)) := by
    intro happly hnone
    rw [happly]
    exact ⟨fun _ claim resource hc hr => (hnone claim resource hc hr).elim,fun _ => hexact⟩
  cases hc : reg.claims.get? claimId with
  | none =>
    refine hidle ?_ fun claim resource hc' => by rw [hc] at hc'; cases hc'
    simp only [apply,activateClaim,getClaim,hc]
    rfl
  | some claim =>
    cases hr : reg.resources.get? claim.resourceId with
    | none =>
      refine hidle ?_ fun claim' resource hc' hr' => by rw [hc] at hc'; cases hc'; rw [hr] at hr'; cases hr'
      simp only [apply,activateClaim,getClaim,getResource,hc,hr,bind,Except.bind]
    | some resource =>
      have hid := hreg.excludes.filed _ _ hc
      have hdecides : Decides reg (reg.apply (.activateClaim claimId approvalId)) resource claim _ _ := activateClaim_decides hc hid hr
      rw [hdecides.holderExact_iff hreg hexact (fun ha => (admits_resource ha).2.2)
        fun ha k c hk hne hlike => activation_compatible hreg.excludes.filed ha hk (hid ▸ hne) hlike]
      have hadmits : reg.Holds claimId claim.resourceId → (reg.ActivationAdmits claimId claim resource ↔
          blockingClaims resource claim (reg.otherActives claimId) reg.resources = []) := by
        rintro ⟨c,hc',hactive,hexcl,-⟩
        rw [hc] at hc'
        cases hc'
        obtain ⟨r,hr',hretired,hquarantined⟩ := hreg.registered _ claim hc (isActiveLike_of_active hactive)
        rw [hr] at hr'
        cases hr'
        exact admits_exclusive_iff hretired hquarantined (hreg.resources _ _ hr).symm hexcl
      constructor
      · intro hkeeps claim' resource' hc' hr' hholds
        rw [hc] at hc'
        cases hc'
        rw [hr] at hr'
        cases hr'
        have hholds' := hkeeps claim.resourceId (by rw [hid]; exact hholds)
        exact (hadmits hholds).mp ((hdecides.holds_self _).mp hholds').1
      · intro hkeeps k hholds
        rw [hid] at hholds
        obtain ⟨c,hc',hactive,hexcl,hres⟩ := hholds
        rw [hc] at hc'
        cases hc'
        have hself : reg.Holds claimId claim.resourceId := ⟨claim,hc,hactive,hexcl,rfl⟩
        exact (hdecides.holds_self k).mpr ⟨(hadmits hself).mpr (hkeeps claim resource hc hr hself),hexcl,hres⟩

theorem registerResource_holder (hreg : Coherent reg) (hexact : HolderExact reg) {resource : Resource}
    (hfresh : resource.currentClaimId = none) : HolderExact (reg.apply (.registerResource resource)) := by
  have heffect := apply_effect hreg.excludes.filed (.registerResource resource)
  generalize reg.apply (.registerResource resource) = reg' at heffect ⊢
  cases heffect with
  | idle => exact hexact
  | register hnew =>
    intro k r hr claimId
    change (reg.resources.set resource.id resource).get? k = _ at hr
    rw [Dict.get?_set] at hr
    split at hr
    · next hk =>
      cases hr
      rw [hfresh]
      -- no claim is active on a resource that is not registered
      refine ⟨fun h => (by cases h),?_⟩
      rintro ⟨c,hc,hactive,-,hres⟩
      obtain ⟨r₀,hr₀,-⟩ := hreg.registered _ c hc (isActiveLike_of_active hactive)
      rw [hres,hk,hnew] at hr₀
      cases hr₀
    · exact hexact k r hr claimId

theorem releaseClaim_holder (hreg : Coherent reg) (hexact : HolderExact reg) (claimId : String) :
    HolderExact (reg.apply (.releaseClaim claimId)) := by
  generalize hreg' : reg.apply (.releaseClaim claimId) = reg'
  have heffect := apply_effect hreg.excludes.filed (.releaseClaim claimId)
  rw [hreg'] at heffect
  cases heffect with
  | idle => exact hexact
  | @release _ claim _ hc hid h =>
    have hself : ∀ k, ¬ reg'.Holds claimId k := by
      rintro k ⟨c,hc',hactive,-⟩
      rw [h.get_self] at hc'
      cases hc'
      cases hactive
    have hother : ∀ {id k : String}, id ≠ claimId → (reg'.Holds id k ↔ reg.Holds id k) := by
      intro id k hne
      unfold Holds
      rw [h.get_of_ne hne]
    intro k r' hr' id
    by_cases hp : ∃ r₀, reg.resources.get? claim.resourceId = some r₀ ∧ r₀.currentClaimId = some claimId
    · obtain ⟨r₀,hr₀,hp⟩ := hp
      have hkey := hreg.resources _ _ hr₀
      rw [h.pointed r₀ hr₀ hp,Dict.get?_set] at hr'
      split at hr'
      · next hk =>
        cases hr'
        by_cases hne : id = claimId
        · simp [hne,hself]
        · have hne' : ¬ claimId = id := fun e => hne e.symm
          rw [hother hne,hk,hkey,← hexact _ r₀ hr₀,hp]
          simp [hne']
      · next hk =>
        rw [hexact k r' hr' id]
        by_cases hne : id = claimId
        · subst hne
          refine ⟨fun hholds => ?_,fun hholds => absurd hholds (hself k)⟩
          obtain ⟨c,hc',-,-,hres⟩ := hholds
          rw [hc] at hc'
          cases hc'
          exact absurd (hres.symm.trans hkey.symm) hk
        · exact (hother hne).symm
    · rw [h.unpointed fun r₀ hr₀ hp' => hp ⟨r₀,hr₀,hp'⟩] at hr'
      rw [hexact k r' hr' id]
      by_cases hne : id = claimId
      · subst hne
        refine ⟨fun hholds => ?_,fun hholds => absurd hholds (hself k)⟩
        have hpointer := (hexact k r' hr' id).mpr hholds
        obtain ⟨c,hc',-,-,hres⟩ := hholds
        rw [hc] at hc'
        cases hc'
        exact absurd ⟨r',hres ▸ hr',hpointer⟩ hp
      · exact (hother hne).symm

end Pointer

/-- A run keeps every pointer exact precisely when no request takes up the id of a claim that
holds a resource and no activation finds such a claim blocked by another. -/
theorem holder_pointer_exact (ops : List RegistryOp)
    (hfresh : ∀ resource, RegistryOp.registerResource resource ∈ ops → resource.currentClaimId = none) :
    (∀ pre op, pre ++ [op] <+: ops → KeepsHolder (run pre) op) ↔ ∀ pre, pre <+: ops → HolderExact (run pre) := by
  have hstep : ∀ reg op, op ∈ ops → Coherent reg → HolderExact reg →
      (HolderExact (reg.apply op) ∧ True ↔ KeepsHolder reg op) := by
    intro reg op hop hreg hexact
    rw [and_true]
    cases op with
    | registerResource resource => exact ⟨fun _ => trivial,fun _ => registerResource_holder hreg hexact (hfresh _ hop)⟩
    | requestClaim claim => exact requestClaim_holder_iff hreg hexact claim
    | activateClaim claimId approvalId => exact activateClaim_holder_iff hreg hexact claimId approvalId
    | releaseClaim claimId => exact ⟨fun _ => trivial,fun _ => releaseClaim_holder hreg hexact claimId⟩
  have h₀ : HolderExact empty := fun k r hr => by simp [empty] at hr
  exact (foldl_law_iff (fun pre _ => Coherent.run pre) h₀ hstep).trans
    ⟨fun h => h.1,fun h => ⟨h,fun _ _ _ => trivial⟩⟩

/-- A quarantine that is asked for twice under one id. -/
def askedTwice : List RegistryOp := [.registerResource (serviceNamed "dock"),
  .requestClaim (quarantineOf "claim" "dock" 8080),.requestClaim (quarantineOf "claim" "dock" 8080)]

theorem holder_pointer_stale : ¬ ∀ ops : List RegistryOp,
    (∀ resource, RegistryOp.registerResource resource ∈ ops → resource.currentClaimId = none) →
    ∀ pre, pre <+: ops → HolderExact (run pre) := by
  intro hall
  have hfresh : ∀ resource, RegistryOp.registerResource resource ∈ askedTwice → resource.currentClaimId = none := by
    intro resource h
    simp only [askedTwice,List.mem_cons,List.not_mem_nil,or_false,RegistryOp.registerResource.injEq,reduceCtorEq] at h
    rw [h]
    rfl
  have hexact := hall askedTwice hfresh askedTwice (List.prefix_refl _)
  have hresource : (run askedTwice).resources.get? "dock" = some { serviceNamed "dock" with currentClaimId := some "claim" } := rfl
  obtain ⟨c,hc,hactive,-⟩ := (hexact "dock" _ hresource "claim").mp rfl
  have hclaim : (run askedTwice).claims.get? "claim" = some { quarantineOf "claim" "dock" 8080 with status := .queued } := rfl
  rw [hclaim] at hc
  cases hc
  cases hactive

/-- The quarantine asked for once. -/
def askedOnce : List RegistryOp := [.registerResource (serviceNamed "dock"),.requestClaim (quarantineOf "claim" "dock" 8080)]

theorem holder_pointer_exact_once : HolderExact (run askedOnce) := by
  have hfresh : ∀ resource, RegistryOp.registerResource resource ∈ askedOnce → resource.currentClaimId = none := by
    intro resource h
    simp only [askedOnce,List.mem_cons,List.not_mem_nil,or_false,RegistryOp.registerResource.injEq,reduceCtorEq] at h
    rw [h]
    rfl
  refine (holder_pointer_exact askedOnce hfresh).mp (fun pre op hpre => ?_) askedOnce (List.prefix_refl _)
  cases op with
  | requestClaim claim =>
    rintro - k ⟨c,hc,-⟩
    have hlength : pre.length ≤ 1 := by simpa [askedOnce] using hpre.length_le
    have hempty : (run pre).claims.get? claim.id = none := by
      have hpre' : pre <+: askedOnce := (List.prefix_append pre _).trans hpre
      rcases pre with - | ⟨a,- | ⟨b,rest⟩⟩
      · rfl
      · obtain ⟨l,hl⟩ := hpre'
        obtain rfl : a = .registerResource (serviceNamed "dock") := by simpa [askedOnce] using (List.cons.inj hl).1
        rfl
      · simp at hlength
    rw [hempty] at hc
    cases hc
  | activateClaim claimId approvalId =>
    have hmem := hpre.subset (List.mem_append_right _ List.mem_cons_self)
    simp [askedOnce] at hmem
  | registerResource resource => trivial
  | releaseClaim claimId => trivial

end Overseer.Core.ResourceRegistry
