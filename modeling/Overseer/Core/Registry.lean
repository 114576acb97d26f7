import Overseer.Core.Claim

/-! # The process-local resource registry

`ResourceRegistry` as a state with one function per operation, and the exclusion
its claims keep over every run of operations.
-/
namespace Overseer.Core
open Overseer.Library

structure ResourceRegistry where
  resources : Dict Resource
  claims : Dict Claim
  decisions : Dict ConflictDecision

/-- The exceptions the operations raise, with the value they carry. -/
inductive RegistryError where
  | valueError (message : String)
  | keyError (key : String)

structure ClaimRecord where
  claim : Claim
  decision : ConflictDecision

namespace ResourceRegistry

def empty : ResourceRegistry := ⟨.empty,.empty,.empty⟩

def registerResource (reg : ResourceRegistry) (resource : Resource) :
    Except RegistryError (ResourceRegistry × Resource) :=
  match reg.resources.get? resource.id with
  | some _ => .error (.valueError s!"resource already registered: {resource.id}")
  | none => .ok ({ reg with resources := reg.resources.set resource.id resource },resource)

def getResource (reg : ResourceRegistry) (resourceId : String) : Except RegistryError Resource :=
  match reg.resources.get? resourceId with
  | some resource => .ok resource
  | none => .error (.keyError resourceId)

def activeClaims (reg : ResourceRegistry) : List Claim := reg.claims.values.filter Claim.isActiveLike

def claimWithStatus (claim : Claim) (decision : ConflictDecision) : Claim :=
  match decision.outcome with
  | .allow => { claim with status := .active }
  | .queue => { claim with status := .queued }
  | .block => { claim with status := .blocked }
  | .quarantine => { claim with status := .blocked }
  | .escalate => { claim with status := .requested }

def requestClaim (reg : ResourceRegistry) (claim : Claim) :
    Except RegistryError (ResourceRegistry × ClaimRecord) := do
  let resource ← reg.getResource claim.resourceId
  let decision := decideClaim resource claim reg.activeClaims reg.resources
  let stored := claimWithStatus claim decision
  let resources := if stored.status = .active ∧ stored.isExclusive then
    reg.resources.set resource.id { resource with currentClaimId := some stored.id } else reg.resources
  return (⟨resources,reg.claims.set stored.id stored,reg.decisions.set stored.id decision⟩,⟨stored,decision⟩)

def getClaim (reg : ResourceRegistry) (claimId : String) : Except RegistryError Claim :=
  match reg.claims.get? claimId with
  | some claim => .ok claim
  | none => .error (.keyError claimId)

def releaseClaim (reg : ResourceRegistry) (claimId : String) :
    Except RegistryError (ResourceRegistry × Claim) := do
  let claim ← reg.getClaim claimId
  let released := { claim with status := .released }
  let resources := match reg.resources.get? claim.resourceId with
    | some resource => if resource.currentClaimId = some claimId then
        reg.resources.set resource.id { resource with currentClaimId := none } else reg.resources
    | none => reg.resources
  return ({ reg with resources, claims := reg.claims.set claimId released },released)

/-- `approval_id or claim.approval_id`: an absent or empty argument keeps the claim's own. -/
def orApproval (approvalId current : Option String) : Option String :=
  match approvalId with
  | some a => if a = "" then current else some a
  | none => current

def activateClaim (reg : ResourceRegistry) (claimId : String) (approvalId : Option String) :
    Except RegistryError (ResourceRegistry × ClaimRecord) := do
  let claim ← reg.getClaim claimId
  let resource ← reg.getResource claim.resourceId
  let others := reg.activeClaims.filter fun active => active.id != claimId
  let decision := decideClaim resource claim others reg.resources
  let approval := orApproval approvalId claim.approvalId
  match decision.outcome with
  | .queue =>
    let queued := { claim with status := .queued, approvalId := approval }
    return ({ reg with claims := reg.claims.set claimId queued,
                       decisions := reg.decisions.set claimId decision },⟨queued,decision⟩)
  | .block | .quarantine =>
    let blocked := { claim with status := .blocked, approvalId := approval }
    return ({ reg with claims := reg.claims.set claimId blocked,
                       decisions := reg.decisions.set claimId decision },⟨blocked,decision⟩)
  | .allow | .escalate =>
    let active := { claim with status := .active, approvalId := approval }
    let resources := if active.isExclusive then
      reg.resources.set resource.id { resource with currentClaimId := some active.id } else reg.resources
    return ({ reg with resources, claims := reg.claims.set claimId active },⟨active,decision⟩)

end ResourceRegistry

/-- The operations a client can call, with their arguments. -/
inductive RegistryOp where
  | registerResource (resource : Resource)
  | requestClaim (claim : Claim)
  | activateClaim (claimId : String) (approvalId : Option String)
  | releaseClaim (claimId : String)

namespace ResourceRegistry

/-- The registry after one call; a call that raises leaves it as it was. -/
def apply (reg : ResourceRegistry) : RegistryOp → ResourceRegistry
  | .registerResource resource => match reg.registerResource resource with
    | .ok (reg',_) => reg'
    | .error _ => reg
  | .requestClaim claim => match reg.requestClaim claim with
    | .ok (reg',_) => reg'
    | .error _ => reg
  | .activateClaim claimId approvalId => match reg.activateClaim claimId approvalId with
    | .ok (reg',_) => reg'
    | .error _ => reg
  | .releaseClaim claimId => match reg.releaseClaim claimId with
    | .ok (reg',_) => reg'
    | .error _ => reg

def run (ops : List RegistryOp) : ResourceRegistry := ops.foldl apply empty

/-- Claims are filed under their own id, and any two active ones are compatible. -/
structure Excludes (reg : ResourceRegistry) : Prop where
  filed : reg.claims.Filed Claim.id
  compatible : ∀ j k a b, reg.claims.get? j = some a → reg.claims.get? k = some b → j ≠ k →
    a.isActiveLike = true → b.isActiveLike = true → Compatible a b

theorem mem_activeClaims {reg : ResourceRegistry} {k : String} {c : Claim}
    (hk : reg.claims.get? k = some c) (hc : c.isActiveLike = true) : c ∈ reg.activeClaims :=
  List.mem_filter.mpr ⟨Dict.mem_values_of_get? hk,hc⟩

/-- Storing one claim keeps the exclusion when that claim is inactive or
compatible with every other active one. -/
theorem Excludes.set {reg reg' : ResourceRegistry} (h : Excludes reg) (claim : Claim)
    (hclaims : reg'.claims = reg.claims.set claim.id claim)
    (hnew : claim.isActiveLike = true → ∀ k c, reg.claims.get? k = some c → k ≠ claim.id →
      c.isActiveLike = true → Compatible claim c) : Excludes reg' := by
  refine ⟨hclaims ▸ h.filed.set claim,?_⟩
  intro j k a b hj hk hjk ha hb
  rw [hclaims,Dict.get?_set] at hj hk
  split at hj
  · next hjc =>
    cases hj
    rw [if_neg (fun hkc => hjk (hjc.trans hkc.symm))] at hk
    exact hnew ha k b hk (fun hkc => hjk (hjc.trans hkc.symm)) hb
  · next hjc =>
    split at hk
    · cases hk
      exact (hnew hb j a hj hjc ha).symm
    · exact h.compatible j k a b hj hk hjk ha hb

theorem claimWithStatus_id (claim : Claim) (d : ConflictDecision) :
    (claimWithStatus claim d).id = claim.id := by
  unfold claimWithStatus
  cases d.outcome <;> rfl

theorem claimWithStatus_active {claim : Claim} {d : ConflictDecision}
    (h : (claimWithStatus claim d).isActiveLike = true) :
    Admits d ∧ claimWithStatus claim d = { claim with status := .active } := by
  unfold claimWithStatus Claim.isActiveLike at *
  cases hd : d.outcome <;> simp [hd] at h
  exact ⟨.inl hd,rfl⟩

theorem registerResource_excludes {reg : ResourceRegistry} (h : Excludes reg) (resource : Resource) :
    Excludes (reg.apply (.registerResource resource)) := by
  simp only [apply,registerResource]
  cases reg.resources.get? resource.id <;> exact ⟨h.filed,h.compatible⟩

theorem requestClaim_excludes {reg : ResourceRegistry} (h : Excludes reg) (claim : Claim) :
    Excludes (reg.apply (.requestClaim claim)) := by
  simp only [apply,requestClaim,getResource]
  cases hr : reg.resources.get? claim.resourceId with
  | none => exact h
  | some resource =>
    refine h.set (claimWithStatus claim _) rfl ?_
    intro hactive k c hk _ hc
    obtain ⟨hadmits,hstored⟩ := claimWithStatus_active hactive
    rw [hstored]
    exact (decideClaim_compatible hadmits (mem_activeClaims hk hc) hc).congr_left rfl rfl rfl rfl rfl

/-- What a successful activation stores: the claim with a new status and approval,
active only when the decision against every other active claim admits it. -/
theorem activateClaim_ok {reg reg' : ResourceRegistry} {claimId : String} {approvalId : Option String}
    {record : ClaimRecord} (h : reg.activateClaim claimId approvalId = .ok (reg',record)) :
    ∃ claim resource status approval, reg.claims.get? claimId = some claim ∧
      reg'.claims = reg.claims.set claimId { claim with status := status, approvalId := approval } ∧
      (status = .active → Admits (decideClaim resource claim
        (reg.activeClaims.filter fun active => active.id != claimId) reg.resources)) ∧
      status ∈ [ClaimStatus.active,.queued,.blocked] := by
  simp only [activateClaim,getClaim,getResource] at h
  cases hclaim : reg.claims.get? claimId with
  | none => simp [hclaim,bind,Except.bind] at h
  | some claim =>
    simp only [hclaim,bind,Except.bind] at h
    cases hresource : reg.resources.get? claim.resourceId with
    | none => simp [hresource] at h
    | some resource =>
      simp only [hresource] at h
      cases hd : (decideClaim resource claim
          (reg.activeClaims.filter fun active => active.id != claimId) reg.resources).outcome with
      | queue =>
        simp only [hd,pure,Except.pure,Except.ok.injEq,Prod.mk.injEq] at h
        obtain ⟨rfl,-⟩ := h
        exact ⟨claim,resource,.queued,_,rfl,rfl,by simp,by simp⟩
      | block =>
        simp only [hd,pure,Except.pure,Except.ok.injEq,Prod.mk.injEq] at h
        obtain ⟨rfl,-⟩ := h
        exact ⟨claim,resource,.blocked,_,rfl,rfl,by simp,by simp⟩
      | quarantine =>
        simp only [hd,pure,Except.pure,Except.ok.injEq,Prod.mk.injEq] at h
        obtain ⟨rfl,-⟩ := h
        exact ⟨claim,resource,.blocked,_,rfl,rfl,by simp,by simp⟩
      | allow =>
        simp only [hd,pure,Except.pure,Except.ok.injEq,Prod.mk.injEq] at h
        obtain ⟨rfl,-⟩ := h
        exact ⟨claim,resource,.active,_,rfl,rfl,fun _ => .inl hd,by simp⟩
      | escalate =>
        simp only [hd,pure,Except.pure,Except.ok.injEq,Prod.mk.injEq] at h
        obtain ⟨rfl,-⟩ := h
        exact ⟨claim,resource,.active,_,rfl,rfl,fun _ => .inr hd,by simp⟩

theorem activateClaim_excludes {reg : ResourceRegistry} (h : Excludes reg) (claimId : String)
    (approvalId : Option String) : Excludes (reg.apply (.activateClaim claimId approvalId)) := by
  simp only [apply]
  split
  · next reg' record hok =>
    obtain ⟨claim,resource,status,approval,hclaim,hclaims,hadmits,hstatus⟩ := activateClaim_ok hok
    have hid : claim.id = claimId := h.filed claimId claim hclaim
    refine h.set { claim with status := status, approvalId := approval } (hid ▸ hclaims) ?_
    intro hactive k c hk hne hc
    have hs : status = .active := by
      simp only [Claim.isActiveLike,decide_eq_true_eq] at hactive
      cases status <;> simp_all
    refine (decideClaim_compatible (hadmits hs)
      (List.mem_filter.mpr ⟨mem_activeClaims hk hc,?_⟩) hc).congr_left rfl rfl rfl rfl rfl
    have hck : c.id = k := h.filed k c hk
    simpa [hck,hid] using hne
  · exact h

theorem releaseClaim_excludes {reg : ResourceRegistry} (h : Excludes reg) (claimId : String) :
    Excludes (reg.apply (.releaseClaim claimId)) := by
  simp only [apply,releaseClaim,getClaim]
  cases hclaim : reg.claims.get? claimId with
  | none => exact h
  | some claim =>
    have hid : claim.id = claimId := h.filed claimId claim hclaim
    refine h.set { claim with status := .released } (by rw [← hid]; rfl) ?_
    intro hactive
    exact absurd hactive (by simp [Claim.isActiveLike])

theorem apply_excludes {reg : ResourceRegistry} (h : Excludes reg) (op : RegistryOp) :
    Excludes (reg.apply op) := by
  cases op with
  | registerResource resource => exact registerResource_excludes h resource
  | requestClaim claim => exact requestClaim_excludes h claim
  | activateClaim claimId approvalId => exact activateClaim_excludes h claimId approvalId
  | releaseClaim claimId => exact releaseClaim_excludes h claimId

theorem foldl_excludes (ops : List RegistryOp) {reg : ResourceRegistry} (h : Excludes reg) :
    Excludes (ops.foldl apply reg) := by
  induction ops generalizing reg with
  | nil => exact h
  | cons op ops ih => exact ih (apply_excludes h op)

theorem empty_excludes : Excludes empty :=
  ⟨Dict.Filed.empty _,fun j k a b hj => by simp [empty] at hj⟩

/-- In every state a run of operations reaches, two distinct active claims on one
resource are observations, and two distinct active exclusive claims share no
port, no group and no dependency. -/
theorem run_claim_exclusion (ops : List RegistryOp) (a b : Claim)
    (ha : a ∈ (run ops).claims.values) (hb : b ∈ (run ops).claims.values) (hab : a.id ≠ b.id)
    (haa : a.isActiveLike = true) (hba : b.isActiveLike = true) :
    (a.resourceId = b.resourceId → a.claimType = .observation ∧ b.claimType = .observation) ∧
    (a.isExclusive = true → b.isExclusive = true →
      Disjoint a.portReservations b.portReservations ∧
      Disjoint a.exclusiveGroups b.exclusiveGroups ∧
      a.resourceId ∉ b.dependencyIds ∧ b.resourceId ∉ a.dependencyIds) := by
  have h : Excludes (run ops) := foldl_excludes ops empty_excludes
  obtain ⟨j,hj⟩ := (Dict.mem_values_iff _ a).mp ha
  obtain ⟨k,hk⟩ := (Dict.mem_values_iff _ b).mp hb
  have hjk : j ≠ k := by
    rw [← h.filed j a hj,← h.filed k b hk]
    exact hab
  exact h.compatible j k a b hj hk hjk haa hba

/-- A low-risk service and a quarantine claim on it reserving one port. -/
def serviceNamed (id : String) : Resource :=
  { id, name := id, type := .service, ownerDomain := .sisko, riskLevel := .low }
def quarantineOf (id resourceId : String) (port : ℤ) : Claim :=
  { id, resourceId, claimType := .quarantine, ownerThread := "thread", ownerRole := .odo
    intent := "isolate", requestedAction := "isolate", riskLevel := .low, portReservations := {port} }

/-- Two quarantines on different services are active together, and their ports are disjoint. -/
theorem run_claim_exclusion_quarantines :
    let ops := [RegistryOp.registerResource (serviceNamed "dock"),.registerResource (serviceNamed "bay"),
      .requestClaim (quarantineOf "claim.dock" "dock" 8080),.requestClaim (quarantineOf "claim.bay" "bay" 9090)]
    let a := { quarantineOf "claim.dock" "dock" 8080 with status := .active }
    let b := { quarantineOf "claim.bay" "bay" 9090 with status := .active }
    (run ops).claims.values = [a,b] ∧ Disjoint a.portReservations b.portReservations := by
  intro ops a b
  have hvalues : (run ops).claims.values = [a,b] := rfl
  have hactive : a.isActiveLike = true ∧ b.isActiveLike = true := by decide
  have h := run_claim_exclusion ops a b (by simp [hvalues]) (by simp [hvalues]) (by decide)
    hactive.1 hactive.2
  exact ⟨hvalues,(h.2 (by decide) (by decide)).1⟩

end ResourceRegistry
end Overseer.Core
