import Overseer.Core.Codec
import Overseer.Core.CoordinatorRuns

/-! # A coordinator from a store

`coordinator_from_store` registers the stored resources and restores the claims that have a
decision, both in the order of their ids. A process that goes on from there answers as the
one that wrote the store would have.
-/
namespace Overseer.Core
open Overseer.Library ResourceRegistry

/-! ### Reading rows -/

/-- The rows of a table in the order of their ids. -/
def rowsById {α : Type} (rows : Dict α) : List α := (rows.entries.insertionSort fun a b => a.1.toList ≤ b.1.toList).map Prod.snd

section Load
variable {m : Type → Type} [MonadStore CoordStore CoordError m]

/-- `_load_dataclass` of the rows as they were dumped. -/
def listResources : m (List Resource) := do
  let rows ← atomically (Tx.read fun s : CoordStore => rowsById s.resources)
  orRaise (rows.mapM fun row => Resource.ofJsonable (Json.obj row.members).sortKeys) (.value "stored resource")

def listClaims : m (List Claim) := do
  let rows ← atomically (Tx.read fun s : CoordStore => rowsById s.claims)
  orRaise (rows.mapM fun row => Claim.ofJsonable (Json.obj row.members).sortKeys) (.value "stored claim")

/-- The decision on a claim; a missing one is no error here. -/
def findDecision (claimId : String) : m (Option ConflictDecision) := do
  let row ← atomically (Tx.read fun s : CoordStore => s.decisions.get? claimId)
  match row with
  | none => return none
  | some row => do
    let decision ← orRaise (ConflictDecision.ofJsonable (Json.obj row.members).sortKeys) (.value "stored decision")
    return some decision

def ResourceRegistry.restoreClaim (reg : ResourceRegistry) (claim : Claim) (decision : ConflictDecision) :
    Except RegistryError ResourceRegistry :=
  match reg.resources.get? claim.resourceId with
  | none => .error (.keyError claim.resourceId)
  | some _ => .ok { reg with claims := reg.claims.set claim.id claim, decisions := reg.decisions.set claim.id decision }

def registerAll (reg : ResourceRegistry) : List Resource → Except RegistryError ResourceRegistry
  | [] => .ok reg
  | resource :: rest => do
    let (reg,_) ← reg.registerResource resource
    registerAll reg rest

def restoreAll (reg : ResourceRegistry) : List Claim → m ResourceRegistry
  | [] => return reg
  | claim :: rest => do
    match ← findDecision claim.id with
    | none => restoreAll reg rest
    | some decision => do
      let reg ← Coordinator.liftRegistry (reg.restoreClaim claim decision)
      restoreAll reg rest

def coordinatorFromStore : m ResourceRegistry := do
  let resources ← listResources
  let reg ← Coordinator.liftRegistry (registerAll .empty resources)
  let claims ← listClaims
  restoreAll reg claims

end Load

/-! ### The same registry -/

/-- The resource is the same, its identifiers as mappings. -/
structure SameResource (r r' : Resource) : Prop where
  fields : r' = { r with identifiers := r'.identifiers }
  identifiers : Payload.alike r'.identifiers r.identifiers = true

/-- The same resources and claims, in any order. -/
structure SameRegistry (reg reg' : ResourceRegistry) : Prop where
  claims : ∀ k, reg'.claims.get? k = reg.claims.get? k
  resources : ∀ k, Option.Rel SameResource (reg.resources.get? k) (reg'.resources.get? k)

theorem SameResource.refl (r : Resource) : SameResource r r := ⟨rfl,Payload.alike_refl _⟩

theorem SameResource.restored (r : Resource) : SameResource r r.restored := by
  refine ⟨rfl,?_⟩
  have hnodup : ((Json.sortedMembers r.identifiers.entries).map Prod.fst).Nodup :=
    (Json.sortedMembers_keys_perm _).nodup_iff.mpr r.identifiers.nodup
  unfold Payload.alike
  change Json.alike (.obj (Payload.ofList (Json.sortedMembers r.identifiers.entries)).entries) _ = true
  rw [Payload.entries_ofList hnodup]
  exact Json.sortKeys_alike (.obj r.identifiers.entries)

/-! ### The same decisions -/

/-- The same decision, its blockers in any order. -/
structure SameDecision (d d' : ConflictDecision) : Prop where
  outcome : d'.outcome = d.outcome
  reason : d'.reason = d.reason
  approvalLevel : d'.approvalLevel = d.approvalLevel
  blockers : ∀ id, id ∈ d'.blockingClaimIds ↔ id ∈ d.blockingClaimIds

theorem SameDecision.refl (d : ConflictDecision) : SameDecision d d := ⟨rfl,rfl,rfl,fun _ => Iff.rfl⟩

section Decide
variable {r r' : Resource} {claim : Claim} {actives actives' : List Claim} {resourcesById resourcesById' : Dict Resource}

theorem blocks_same (hr : SameResource r r') (hres : ∀ k, Option.Rel SameResource (resourcesById.get? k) (resourcesById'.get? k))
    (active : Claim) : blocks r' claim resourcesById' active = blocks r claim resourcesById active := by
  have hdeps : r'.dependencies = r.dependencies := by rw [hr.fields]
  unfold blocks
  rw [hdeps]
  have hrel := hres active.resourceId
  cases h : resourcesById.get? active.resourceId with
  | none =>
    rw [h] at hrel
    cases h' : resourcesById'.get? active.resourceId with
    | none => rfl
    | some other' => rw [h'] at hrel; cases hrel
  | some other =>
    rw [h] at hrel
    cases h' : resourcesById'.get? active.resourceId with
    | none => rw [h'] at hrel; cases hrel
    | some other' =>
      rw [h'] at hrel
      cases hrel with
      | some hother =>
        have hid : other'.id = other.id := by rw [hother.fields]
        have hotherDeps : other'.dependencies = other.dependencies := by rw [hother.fields]
        simp only [hid,hotherDeps]

/-- The decision does not depend on the order of the active claims. -/
theorem decideClaim_same (claim : Claim) (hr : SameResource r r') (hactives : ∀ c, c ∈ actives' ↔ c ∈ actives)
    (hres : ∀ k, Option.Rel SameResource (resourcesById.get? k) (resourcesById'.get? k)) :
    SameDecision (decideClaim r claim actives resourcesById) (decideClaim r' claim actives' resourcesById') := by
  have hstate : r'.state = r.state := by rw [hr.fields]
  have hid : r'.id = r.id := by rw [hr.fields]
  have happroval : requiredApproval r' claim = requiredApproval r claim := by rw [hr.fields]; rfl
  have hconflict : hasExclusiveConflict claim actives' = hasExclusiveConflict claim actives := by
    rw [Bool.eq_iff_iff]
    simp only [hasExclusiveConflict,List.any_eq_true,List.mem_filter,hactives]
  have hmem : ∀ c, c ∈ blockingClaims r' claim actives' resourcesById' ↔ c ∈ blockingClaims r claim actives resourcesById := by
    intro c
    simp only [blockingClaims,List.mem_filter,hactives,blocks_same hr hres]
  have hnil : blockingClaims r' claim actives' resourcesById' = [] ↔ blockingClaims r claim actives resourcesById = [] := by
    simp only [List.eq_nil_iff_forall_not_mem,hmem]
  unfold decideClaim
  rw [hstate,hid,hconflict,happroval]
  split
  · exact .refl _
  split
  · exact .refl _
  split
  · exact .refl _
  split
  · exact .refl _
  dsimp only
  by_cases hb : blockingClaims r claim actives resourcesById = []
  · rw [if_neg (not_not.mpr hb),if_neg (not_not.mpr (hnil.mpr hb))]
    exact .refl _
  · rw [if_pos hb,if_pos fun h => hb (hnil.mp h)]
    refine ⟨rfl,rfl,rfl,fun id => ?_⟩
    simp only [List.mem_map,hmem]

end Decide

theorem mem_activeClaims_iff {reg : ResourceRegistry} {c : Claim} :
    c ∈ reg.activeClaims ↔ c.isActiveLike = true ∧ ∃ k, reg.claims.get? k = some c := by
  unfold activeClaims
  rw [List.mem_filter,Dict.mem_values_iff,and_comm]

theorem SameRegistry.activeClaims {reg reg' : ResourceRegistry} (h : SameRegistry reg reg') (c : Claim) :
    c ∈ reg'.activeClaims ↔ c ∈ reg.activeClaims := by
  simp only [mem_activeClaims_iff,h.claims]

/-! ### The same answers -/

/-- What an operation returns. -/
inductive Reply where
  | resource (resource : Resource)
  | record (record : ClaimRecord)
  | claim (claim : Claim)

namespace ResourceRegistry

/-- The registry after an operation and what it returns. -/
def answer (reg : ResourceRegistry) : RegistryOp → Except RegistryError (ResourceRegistry × Reply)
  | .registerResource resource => (reg.registerResource resource).map fun p => (p.1,.resource p.2)
  | .requestClaim claim => (reg.requestClaim claim).map fun p => (p.1,.record p.2)
  | .activateClaim claimId approvalId => (reg.activateClaim claimId approvalId).map fun p => (p.1,.record p.2)
  | .releaseClaim claimId => (reg.releaseClaim claimId).map fun p => (p.1,.claim p.2)

theorem apply_answer (reg : ResourceRegistry) (rop : RegistryOp) :
    reg.apply rop = match reg.answer rop with
      | .ok (reg',_) => reg'
      | .error _ => reg := by
  cases rop with
  | registerResource resource =>
    simp only [apply,answer]
    cases reg.registerResource resource <;> rfl
  | requestClaim claim =>
    simp only [apply,answer]
    cases reg.requestClaim claim <;> rfl
  | activateClaim claimId approvalId =>
    simp only [apply,answer]
    cases reg.activateClaim claimId approvalId <;> rfl
  | releaseClaim claimId =>
    simp only [apply,answer]
    cases reg.releaseClaim claimId <;> rfl

end ResourceRegistry

/-- The same reply, but for the order of blockers. -/
inductive SameReply : Reply → Reply → Prop where
  | resource (r : Resource) : SameReply (.resource r) (.resource r)
  | record (c : Claim) {d d' : ConflictDecision} (h : SameDecision d d') : SameReply (.record ⟨c,d⟩) (.record ⟨c,d'⟩)
  | claim (c : Claim) : SameReply (.claim c) (.claim c)

/-- The same error, or the same reply and registry. -/
inductive SameAnswer : Except RegistryError (ResourceRegistry × Reply) → Except RegistryError (ResourceRegistry × Reply) → Prop where
  | raised (e : RegistryError) : SameAnswer (.error e) (.error e)
  | returned {reg reg' : ResourceRegistry} {reply reply' : Reply} (hreg : SameRegistry reg reg') (hreply : SameReply reply reply') :
      SameAnswer (.ok (reg,reply)) (.ok (reg',reply'))

section Simulation
variable {reg reg' : ResourceRegistry}

theorem SameRegistry.resource_cases (h : SameRegistry reg reg') (k : String) :
    (reg.resources.get? k = none ∧ reg'.resources.get? k = none) ∨
      ∃ r r', reg.resources.get? k = some r ∧ reg'.resources.get? k = some r' ∧ SameResource r r' := by
  have hrel := h.resources k
  cases hr : reg.resources.get? k with
  | none =>
    rw [hr] at hrel
    cases hr' : reg'.resources.get? k with
    | none => exact .inl ⟨rfl,rfl⟩
    | some r' => rw [hr'] at hrel; cases hrel
  | some r =>
    rw [hr] at hrel
    cases hr' : reg'.resources.get? k with
    | none => rw [hr'] at hrel; cases hrel
    | some r' =>
      rw [hr'] at hrel
      cases hrel with
      | some hsame => exact .inr ⟨r,r',rfl,rfl,hsame⟩

theorem rel_set {resources resources' : Dict Resource} (h : ∀ k, Option.Rel SameResource (resources.get? k) (resources'.get? k))
    {r r' : Resource} (hr : SameResource r r') (k : String) :
    Option.Rel SameResource ((resources.set r.id r).get? k) ((resources'.set r'.id r').get? k) := by
  have hid : r'.id = r.id := by rw [hr.fields]
  rw [Dict.get?_set,Dict.get?_set,hid]
  split
  · exact .some hr
  · exact h k

theorem rel_repoint {resources resources' : Dict Resource} (h : ∀ k, Option.Rel SameResource (resources.get? k) (resources'.get? k))
    {r r' : Resource} (hr : SameResource r r') (p : Option String) (k : String) :
    Option.Rel SameResource ((resources.set r.id { r with currentClaimId := p }).get? k)
      ((resources'.set r'.id { r' with currentClaimId := p }).get? k) := by
  have hpointed : SameResource { r with currentClaimId := p } { r' with currentClaimId := p } :=
    ⟨by rw [hr.fields],hr.identifiers⟩
  exact rel_set h hpointed k

theorem same_set {claims claims' : Dict Claim} (h : ∀ k, claims'.get? k = claims.get? k) (id : String) (c : Claim) (k : String) :
    (claims'.set id c).get? k = (claims.set id c).get? k := by
  rw [Dict.get?_set,Dict.get?_set,h]

theorem claimWithStatus_same (claim : Claim) {d d' : ConflictDecision} (h : SameDecision d d') :
    claimWithStatus claim d' = claimWithStatus claim d := by
  unfold claimWithStatus
  rw [h.outcome]

theorem registerResource_same (h : SameRegistry reg reg') (resource : Resource) :
    SameAnswer (reg.answer (.registerResource resource)) (reg'.answer (.registerResource resource)) := by
  simp only [answer,registerResource]
  rcases h.resource_cases resource.id with ⟨hr,hr'⟩ | ⟨r,r',hr,hr',-⟩
  · rw [hr,hr']
    exact .returned ⟨h.claims,rel_set h.resources (.refl resource)⟩ (.resource resource)
  · rw [hr,hr']
    exact .raised _

theorem requestClaim_same (h : SameRegistry reg reg') (claim : Claim) :
    SameAnswer (reg.answer (.requestClaim claim)) (reg'.answer (.requestClaim claim)) := by
  simp only [answer,requestClaim,getResource]
  rcases h.resource_cases claim.resourceId with ⟨hr,hr'⟩ | ⟨r,r',hr,hr',hsame⟩
  · rw [hr,hr']
    exact .raised _
  · rw [hr,hr']
    have hdecision := decideClaim_same claim hsame h.activeClaims h.resources
    have hstored := claimWithStatus_same claim hdecision
    simp only [bind,Except.bind,pure,Except.pure,Except.map,hstored]
    refine .returned ⟨same_set h.claims _ _,?_⟩ (.record _ hdecision)
    dsimp only
    split
    · exact rel_repoint h.resources hsame _
    · exact h.resources

theorem activateClaim_same (h : SameRegistry reg reg') (claimId : String) (approvalId : Option String) :
    SameAnswer (reg.answer (.activateClaim claimId approvalId)) (reg'.answer (.activateClaim claimId approvalId)) := by
  simp only [answer,activateClaim,getClaim,getResource,h.claims]
  cases reg.claims.get? claimId with
  | none => exact .raised _
  | some claim =>
    simp only [bind,Except.bind]
    rcases h.resource_cases claim.resourceId with ⟨hr,hr'⟩ | ⟨r,r',hr,hr',hsame⟩
    · rw [hr,hr']
      exact .raised _
    · rw [hr,hr']
      have hothers : ∀ c, c ∈ reg'.activeClaims.filter (fun active => active.id != claimId) ↔
          c ∈ reg.activeClaims.filter (fun active => active.id != claimId) := by
        intro c
        rw [List.mem_filter,List.mem_filter,h.activeClaims]
      have hdecision := decideClaim_same claim hsame hothers h.resources
      dsimp only
      rw [hdecision.outcome]
      split
      · exact .returned ⟨same_set h.claims _ _,h.resources⟩ (.record _ hdecision)
      · exact .returned ⟨same_set h.claims _ _,h.resources⟩ (.record _ hdecision)
      · exact .returned ⟨same_set h.claims _ _,h.resources⟩ (.record _ hdecision)
      all_goals
        refine .returned ⟨same_set h.claims _ _,?_⟩ (.record _ hdecision)
        dsimp only
        split
        · exact rel_repoint h.resources hsame _
        · exact h.resources

theorem releaseClaim_same (h : SameRegistry reg reg') (claimId : String) :
    SameAnswer (reg.answer (.releaseClaim claimId)) (reg'.answer (.releaseClaim claimId)) := by
  simp only [answer,releaseClaim,getClaim,h.claims]
  cases reg.claims.get? claimId with
  | none => exact .raised _
  | some claim =>
    simp only [bind,Except.bind,pure,Except.pure,Except.map]
    refine .returned ⟨same_set h.claims _ _,?_⟩ (.claim _)
    dsimp only
    rcases h.resource_cases claim.resourceId with ⟨hr,hr'⟩ | ⟨r,r',hr,hr',hsame⟩
    · rw [hr,hr']
      exact h.resources
    · have hpointer : r'.currentClaimId = r.currentClaimId := by rw [hsame.fields]
      rw [hr,hr']
      dsimp only
      rw [hpointer]
      split
      · exact rel_repoint h.resources hsame none
      · exact h.resources

theorem answer_same (h : SameRegistry reg reg') (rop : RegistryOp) : SameAnswer (reg.answer rop) (reg'.answer rop) := by
  cases rop with
  | registerResource resource => exact registerResource_same h resource
  | requestClaim claim => exact requestClaim_same h claim
  | activateClaim claimId approvalId => exact activateClaim_same h claimId approvalId
  | releaseClaim claimId => exact releaseClaim_same h claimId

theorem SameRegistry.apply (h : SameRegistry reg reg') (rop : RegistryOp) : SameRegistry (reg.apply rop) (reg'.apply rop) := by
  rw [apply_answer,apply_answer]
  have hanswer := answer_same h rop
  generalize reg.answer rop = a at hanswer
  generalize reg'.answer rop = a' at hanswer
  cases hanswer with
  | raised e => exact h
  | returned hreg hreply => exact hreg

end Simulation

end Overseer.Core
