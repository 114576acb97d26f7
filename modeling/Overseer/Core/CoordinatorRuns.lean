import Overseer.Core.Coordinator
import Overseer.Core.HolderPointer

/-! # Runs of the coordinator

One process calls one operation after another against its store. A call that raises does so
before it writes.
-/
namespace Overseer.Core
open Overseer.Library

namespace ResourceRegistry

/-! ### Every claim is on a registered resource -/

def ClaimsPlaced (reg : ResourceRegistry) : Prop :=
  ∀ k c, reg.claims.get? k = some c → ∃ r, reg.resources.get? c.resourceId = some r

theorem ClaimsPlaced.resource {reg : ResourceRegistry} (h : ClaimsPlaced reg) {k : String} {c : Claim}
    (hc : reg.claims.get? k = some c) : ∃ r, reg.getResource c.resourceId = .ok r := by
  obtain ⟨r,hr⟩ := h k c hc
  exact ⟨r,by simp only [getResource,hr]⟩

theorem requestClaim_ok {reg reg' : ResourceRegistry} {claim : Claim} {record : ClaimRecord}
    (h : reg.requestClaim claim = .ok (reg',record)) : ∃ resource, reg.resources.get? claim.resourceId = some resource ∧
      record.decision = decideClaim resource claim reg.activeClaims reg.resources ∧
      record.claim = claimWithStatus claim record.decision ∧ reg'.claims = reg.claims.set record.claim.id record.claim := by
  simp only [requestClaim,getResource] at h
  cases hr : reg.resources.get? claim.resourceId with
  | none => simp [hr,bind,Except.bind] at h
  | some resource =>
    simp only [hr,bind,Except.bind,pure,Except.pure,Except.ok.injEq,Prod.mk.injEq] at h
    obtain ⟨rfl,rfl⟩ := h
    exact ⟨resource,rfl,rfl,rfl,rfl⟩

theorem activateClaim_filed {reg reg' : ResourceRegistry} {claimId : String} {approvalId : Option String} {record : ClaimRecord}
    (h : reg.activateClaim claimId approvalId = .ok (reg',record)) : reg'.claims = reg.claims.set claimId record.claim := by
  simp only [activateClaim,getClaim,getResource] at h
  cases hclaim : reg.claims.get? claimId with
  | none => simp [hclaim,bind,Except.bind] at h
  | some claim =>
    simp only [hclaim,bind,Except.bind] at h
    cases hresource : reg.resources.get? claim.resourceId with
    | none => simp [hresource] at h
    | some resource =>
      simp only [hresource] at h
      split at h <;>
      · simp only [pure,Except.pure,Except.ok.injEq,Prod.mk.injEq] at h
        obtain ⟨rfl,rfl⟩ := h
        rfl

theorem releaseClaim_filed {reg reg' : ResourceRegistry} {claimId : String} {released : Claim}
    (h : reg.releaseClaim claimId = .ok (reg',released)) : reg'.claims = reg.claims.set claimId released := by
  simp only [releaseClaim,getClaim] at h
  cases hclaim : reg.claims.get? claimId with
  | none => simp [hclaim,bind,Except.bind] at h
  | some claim =>
    simp only [hclaim,bind,Except.bind,pure,Except.pure,Except.ok.injEq,Prod.mk.injEq] at h
    obtain ⟨rfl,rfl⟩ := h
    rfl

/-- The operation raises. -/
def Raises (reg : ResourceRegistry) : RegistryOp → Prop
  | .registerResource resource => ∃ e, reg.registerResource resource = .error e
  | .requestClaim claim => ∃ e, reg.requestClaim claim = .error e
  | .activateClaim claimId approvalId => ∃ e, reg.activateClaim claimId approvalId = .error e
  | .releaseClaim claimId => ∃ e, reg.releaseClaim claimId = .error e

theorem Raises.idle {reg : ResourceRegistry} {rop : RegistryOp} (h : reg.Raises rop) : reg.apply rop = reg := by
  cases rop <;>
  · obtain ⟨e,he⟩ := h
    simp only [apply,he]

theorem not_placed {reg reg' : ResourceRegistry} {k : String} {c : Claim} {e : RegistryError}
    (hfiled : reg'.claims = reg.claims.set k c) (he : reg'.getResource c.resourceId = .error e) : ¬ reg'.ClaimsPlaced := by
  intro hplaced
  have hc : reg'.claims.get? k = some c := by rw [hfiled,Dict.get?_set,if_pos rfl]
  obtain ⟨r,hr⟩ := hplaced.resource hc
  rw [hr] at he
  cases he

end ResourceRegistry

inductive CoordOp where
  | registerResource (resource : Resource)
  | requestClaim (claim : Claim)
  | activateClaim (claimId : String) (approvalId : Option String)
  | releaseClaim (claimId : String)
  | approveRequest (approvalId decidedBy : String) (decidedAt : Option String)

/-- The registry of the process, its store, and the calls that returned, latest first. -/
structure CoordState where
  registry : ResourceRegistry := .empty
  store : CoordStore := {}
  log : List CoordOp := []

namespace CoordState

/-- The registry and the store after a call. -/
def call (st : CoordState) : CoordOp → Except CoordError (ResourceRegistry × CoordStore)
  | .registerResource resource => do
    let (reg,store) ← (Coordinator.registerResource st.registry resource : Tx CoordStore CoordError _) st.store
    return (reg,store)
  | .requestClaim claim => do
    let ((reg,_),store) ← (Coordinator.requestClaim st.registry claim : Tx CoordStore CoordError _) st.store
    return (reg,store)
  | .activateClaim claimId approvalId => do
    let ((reg,_),store) ← (Coordinator.activateClaim st.registry claimId approvalId : Tx CoordStore CoordError _) st.store
    return (reg,store)
  | .releaseClaim claimId => do
    let ((reg,_),store) ← (Coordinator.releaseClaim st.registry claimId : Tx CoordStore CoordError _) st.store
    return (reg,store)
  | .approveRequest approvalId decidedBy decidedAt => do
    let (_,store) ← (Coordinator.approveRequest approvalId decidedBy decidedAt : Tx CoordStore CoordError _) st.store
    return (st.registry,store)

def apply (st : CoordState) (op : CoordOp) : CoordState :=
  match st.call op with
  | .ok (registry,store) => ⟨registry,store,op :: st.log⟩
  | .error _ => st

def run (ops : List CoordOp) : CoordState := ops.foldl apply {}

/-! ### What each call does -/

/-- The store once a decided claim was written, with the resource as the registry has it. -/
def decidedStore (s : CoordStore) (record : ClaimRecord) (resource : Resource) : CoordStore := { s with
  claims := s.claims.set record.claim.id record.claim
  decisions := s.decisions.set record.claim.id record.decision
  resources := s.resources.set resource.id resource }

def withApproval (s : CoordStore) (approval : Option ApprovalRequest) : CoordStore :=
  { s with approvals := approval.elim s.approvals fun a => s.approvals.set a.id a }

def withEvent (s : CoordStore) (event : AuditEvent) : CoordStore :=
  { s with auditEvents := s.auditEvents.set event.id event }

/-- The store once an approval was granted. -/
def approvedStore (s : CoordStore) (current : ApprovalRequest) (approvalId decidedBy : String) (decidedAt : Option String) :
    CoordStore :=
  let approved := Coordinator.approve current decidedBy decidedAt
  withEvent (withApproval s (some approved))
    (Coordinator.approvedEvent approved approvalId (((s.claims.get? approved.subjectId).map (·.riskLevel)).getD .low))

/-- What a call does to the registry is what the registry's own operation does. -/
def registryOp : CoordOp → Option RegistryOp
  | .registerResource resource => some (.registerResource resource)
  | .requestClaim claim => some (.requestClaim claim)
  | .activateClaim claimId approvalId => some (.activateClaim claimId approvalId)
  | .releaseClaim claimId => some (.releaseClaim claimId)
  | .approveRequest _ _ _ => none

/-- What a call comes to: it raises and changes nothing, or it returns and writes. It raises
when the registry does, when the resource of a claim is missing, or when there is no such
approval. -/
inductive Effect (st : CoordState) : CoordOp → CoordState → Prop where
  | raised {op : CoordOp} (hidle : ∀ rop, registryOp op = some rop →
      st.registry.Raises rop ∨ ¬ (st.registry.apply rop).ClaimsPlaced)
      (habsent : ∀ approvalId decidedBy decidedAt, op = .approveRequest approvalId decidedBy decidedAt →
        st.store.approvals.get? approvalId = none) : Effect st op st
  | register {resource : Resource} (hnew : st.registry.resources.get? resource.id = none) :
      Effect st (.registerResource resource) ⟨st.registry.apply (.registerResource resource),
        { st.store with resources := st.store.resources.set resource.id resource },.registerResource resource :: st.log⟩
  | request {claim : Claim} {reg' : ResourceRegistry} {record : ClaimRecord} {resource : Resource}
      (hreg : st.registry.requestClaim claim = .ok (reg',record)) (hr : reg'.resources.get? record.claim.resourceId = some resource) :
      Effect st (.requestClaim claim) ⟨reg',
        withEvent (withApproval (decidedStore st.store record resource) (Coordinator.approvalOf claim record))
          (Coordinator.auditOf claim record),.requestClaim claim :: st.log⟩
  | activate {claimId : String} {approvalId : Option String} {reg' : ResourceRegistry} {record : ClaimRecord} {resource : Resource}
      (hreg : st.registry.activateClaim claimId approvalId = .ok (reg',record))
      (hr : reg'.resources.get? record.claim.resourceId = some resource) :
      Effect st (.activateClaim claimId approvalId) ⟨reg',decidedStore st.store record resource,.activateClaim claimId approvalId :: st.log⟩
  | release {claimId : String} {reg' : ResourceRegistry} {released : Claim} {resource : Resource}
      (hreg : st.registry.releaseClaim claimId = .ok (reg',released)) (hr : reg'.resources.get? released.resourceId = some resource) :
      Effect st (.releaseClaim claimId) ⟨reg',{ st.store with
        claims := st.store.claims.set released.id released
        resources := st.store.resources.set resource.id resource },.releaseClaim claimId :: st.log⟩
  | approve {approvalId decidedBy : String} {decidedAt : Option String} {current : ApprovalRequest}
      (ha : st.store.approvals.get? approvalId = some current) :
      Effect st (.approveRequest approvalId decidedBy decidedAt) ⟨st.registry,
        approvedStore st.store current approvalId decidedBy decidedAt,.approveRequest approvalId decidedBy decidedAt :: st.log⟩

abbrev CoordTx := Tx CoordStore CoordError

theorem getResource_cases (reg : ResourceRegistry) (resourceId : String) :
    (∃ e, reg.getResource resourceId = .error e) ∨
      ∃ resource, reg.resources.get? resourceId = some resource ∧ reg.getResource resourceId = .ok resource := by
  unfold ResourceRegistry.getResource
  cases h : reg.resources.get? resourceId with
  | none => exact .inl ⟨_,rfl⟩
  | some resource => exact .inr ⟨resource,rfl,rfl⟩

section Runs
variable {reg : ResourceRegistry} {s : CoordStore} {record : ClaimRecord} {resource : Resource} {approval : Option ApprovalRequest}
  {event : AuditEvent} {e : RegistryError}

theorem persistResult_run (hget : reg.getResource record.claim.resourceId = .ok resource) :
    (Coordinator.persistResult reg record approval event : CoordTx Unit) s =
      .ok ((),withEvent (withApproval (decidedStore s record resource) approval) event) := by
  unfold Coordinator.persistResult
  rw [hget]
  cases approval <;> rfl

theorem persistResult_raise (he : reg.getResource record.claim.resourceId = .error e) :
    (Coordinator.persistResult reg record approval event : CoordTx Unit) s = .error (.registry e) := by
  unfold Coordinator.persistResult
  rw [he]
  rfl

/-- The writes of an activation. -/
def persistRecord (reg : ResourceRegistry) (record : ClaimRecord) : CoordTx (ResourceRegistry × ClaimRecord) := do
  saveClaim record.claim (some record.decision)
  let resource ← Coordinator.liftRegistry (reg.getResource record.claim.resourceId)
  saveResource resource
  return (reg,record)

theorem persistRecord_run (hget : reg.getResource record.claim.resourceId = .ok resource) :
    persistRecord reg record s = .ok ((reg,record),decidedStore s record resource) := by
  unfold persistRecord
  rw [hget]
  rfl

theorem persistRecord_raise (he : reg.getResource record.claim.resourceId = .error e) :
    persistRecord reg record s = .error (.registry e) := by
  unfold persistRecord
  rw [he]
  rfl

/-- The writes of a release. -/
def persistRelease (reg : ResourceRegistry) (released : Claim) : CoordTx (ResourceRegistry × Claim) := do
  saveClaim released none
  let resource ← Coordinator.liftRegistry (reg.getResource released.resourceId)
  saveResource resource
  return (reg,released)

theorem persistRelease_run {released : Claim} (hget : reg.getResource released.resourceId = .ok resource) :
    persistRelease reg released s = .ok ((reg,released),{ s with
      claims := s.claims.set released.id released
      resources := s.resources.set resource.id resource }) := by
  unfold persistRelease
  rw [hget]
  rfl

theorem persistRelease_raise {released : Claim} (he : reg.getResource released.resourceId = .error e) :
    persistRelease reg released s = .error (.registry e) := by
  unfold persistRelease
  rw [he]
  rfl

theorem approveRequest_run {approvalId decidedBy : String} {decidedAt : Option String} {current : ApprovalRequest}
    (ha : s.approvals.get? approvalId = some current) :
    (Coordinator.approveRequest approvalId decidedBy decidedAt : CoordTx ApprovalDecisionResult) s =
      .ok (⟨Coordinator.approve current decidedBy decidedAt,Coordinator.approvedEvent (Coordinator.approve current decidedBy decidedAt)
        approvalId (((s.claims.get? current.subjectId).map (·.riskLevel)).getD .low)⟩,
        approvedStore s current approvalId decidedBy decidedAt) := by
  have hload : (loadApproval approvalId : CoordTx ApprovalRequest) s = .ok (current,s) := by
    change (orRaise (s.approvals.get? approvalId) (CoordError.key approvalId) : CoordTx ApprovalRequest) s = _
    rw [ha]
    rfl
  unfold Coordinator.approveRequest
  rw [Tx.bind_of_ok hload]
  rfl

theorem approveRequest_raise {approvalId decidedBy : String} {decidedAt : Option String}
    (ha : s.approvals.get? approvalId = none) :
    (Coordinator.approveRequest approvalId decidedBy decidedAt : CoordTx ApprovalDecisionResult) s = .error (.key approvalId) := by
  have hload : (loadApproval approvalId : CoordTx ApprovalRequest) s = .error (.key approvalId) := by
    change (orRaise (s.approvals.get? approvalId) (CoordError.key approvalId) : CoordTx ApprovalRequest) s = _
    rw [ha]
    rfl
  unfold Coordinator.approveRequest
  rw [Tx.bind_of_error hload]

/-! What is left of a call once the registry has answered. -/

variable {reg' : ResourceRegistry}

theorem requestClaim_eq {claim : Claim} (hreg : reg.requestClaim claim = .ok (reg',record)) :
    (Coordinator.requestClaim reg claim : CoordTx (ResourceRegistry × CoordinationResult)) = (do
      Coordinator.persistResult reg' record (Coordinator.approvalOf claim record) (Coordinator.auditOf claim record)
      return (reg',⟨record,Coordinator.approvalOf claim record,Coordinator.auditOf claim record⟩)) := by
  unfold Coordinator.requestClaim
  rw [hreg]
  rfl

theorem activateClaim_eq {claimId : String} {approvalId : Option String} (hreg : reg.activateClaim claimId approvalId = .ok (reg',record)) :
    (Coordinator.activateClaim reg claimId approvalId : CoordTx (ResourceRegistry × ClaimRecord)) = persistRecord reg' record := by
  unfold Coordinator.activateClaim
  rw [hreg]
  rfl

theorem releaseClaim_eq {claimId : String} {released : Claim} (hreg : reg.releaseClaim claimId = .ok (reg',released)) :
    (Coordinator.releaseClaim reg claimId : CoordTx (ResourceRegistry × Claim)) = persistRelease reg' released := by
  unfold Coordinator.releaseClaim
  rw [hreg]
  rfl

end Runs

theorem apply_of_ok {st : CoordState} {op : CoordOp} {reg' : ResourceRegistry} {store' : CoordStore}
    (h : st.call op = .ok (reg',store')) : st.apply op = ⟨reg',store',op :: st.log⟩ := by
  simp only [apply,h]

theorem raised_of_error {st : CoordState} {op : CoordOp} {e : CoordError} (h : st.call op = .error e)
    (hidle : ∀ rop, registryOp op = some rop → st.registry.Raises rop ∨ ¬ (st.registry.apply rop).ClaimsPlaced)
    (hop : ∀ approvalId decidedBy decidedAt, op ≠ .approveRequest approvalId decidedBy decidedAt) :
    Effect st op (st.apply op) := by
  have happly : st.apply op = st := by simp only [apply,h]
  rw [happly]
  exact .raised hidle fun _ _ _ he => absurd he (hop _ _ _)

theorem apply_effect (st : CoordState) (op : CoordOp) : Effect st op (st.apply op) := by
  cases op with
  | registerResource resource =>
    cases hnew : st.registry.resources.get? resource.id with
    | some _ =>
      refine raised_of_error (e := .registry (.valueError s!"resource already registered: {resource.id}")) ?_ ?_ (fun _ _ _ he => by cases he)
      · simp only [call,Coordinator.registerResource,ResourceRegistry.registerResource,hnew]
        rfl
      · rintro _ ⟨⟩
        exact .inl ⟨_,by simp only [ResourceRegistry.registerResource,hnew]; rfl⟩
    | none =>
      have hcall : st.call (.registerResource resource) = .ok (st.registry.apply (.registerResource resource),
          { st.store with resources := st.store.resources.set resource.id resource }) := by
        simp only [call,Coordinator.registerResource,ResourceRegistry.registerResource,ResourceRegistry.apply,hnew]
        rfl
      rw [apply_of_ok hcall]
      exact .register hnew
  | requestClaim claim =>
    cases hreg : st.registry.requestClaim claim with
    | error e =>
      refine raised_of_error (e := .registry e) ?_ ?_ (fun _ _ _ he => by cases he)
      · simp only [call,Coordinator.requestClaim,hreg]
        rfl
      · rintro _ ⟨⟩
        exact .inl ⟨e,hreg⟩
    | ok p =>
      obtain ⟨reg',record⟩ := p
      have hrun := requestClaim_eq hreg
      rcases getResource_cases reg' record.claim.resourceId with ⟨e,he⟩ | ⟨resource,hr,hget⟩
      · refine raised_of_error (e := .registry e) ?_ ?_ (fun _ _ _ he => by cases he)
        · simp only [call,hrun,Tx.bind_of_error (persistResult_raise he)]
          rfl
        · rintro _ ⟨⟩
          obtain ⟨_,-,-,-,hfiled⟩ := ResourceRegistry.requestClaim_ok hreg
          exact .inr (by simpa only [ResourceRegistry.apply,hreg] using ResourceRegistry.not_placed hfiled he)
      · have hcall : st.call (.requestClaim claim) = .ok (reg',
            withEvent (withApproval (decidedStore st.store record resource) (Coordinator.approvalOf claim record))
              (Coordinator.auditOf claim record)) := by
          simp only [call,hrun,Tx.bind_of_ok (persistResult_run hget)]
          rfl
        rw [apply_of_ok hcall]
        exact .request hreg hr
  | activateClaim claimId approvalId =>
    cases hreg : st.registry.activateClaim claimId approvalId with
    | error e =>
      refine raised_of_error (e := .registry e) ?_ ?_ (fun _ _ _ he => by cases he)
      · simp only [call,Coordinator.activateClaim,hreg]
        rfl
      · rintro _ ⟨⟩
        exact .inl ⟨e,hreg⟩
    | ok p =>
      obtain ⟨reg',record⟩ := p
      have hrun := activateClaim_eq hreg
      rcases getResource_cases reg' record.claim.resourceId with ⟨e,he⟩ | ⟨resource,hr,hget⟩
      · refine raised_of_error (e := .registry e) ?_ ?_ (fun _ _ _ he => by cases he)
        · simp only [call,hrun,persistRecord_raise he]
          rfl
        · rintro _ ⟨⟩
          exact .inr (by simpa only [ResourceRegistry.apply,hreg] using ResourceRegistry.not_placed (ResourceRegistry.activateClaim_filed hreg) he)
      · have hcall : st.call (.activateClaim claimId approvalId) = .ok (reg',decidedStore st.store record resource) := by
          simp only [call,hrun,persistRecord_run hget]
          rfl
        rw [apply_of_ok hcall]
        exact .activate hreg hr
  | releaseClaim claimId =>
    cases hreg : st.registry.releaseClaim claimId with
    | error e =>
      refine raised_of_error (e := .registry e) ?_ ?_ (fun _ _ _ he => by cases he)
      · simp only [call,Coordinator.releaseClaim,hreg]
        rfl
      · rintro _ ⟨⟩
        exact .inl ⟨e,hreg⟩
    | ok p =>
      obtain ⟨reg',released⟩ := p
      have hrun := releaseClaim_eq hreg
      rcases getResource_cases reg' released.resourceId with ⟨e,he⟩ | ⟨resource,hr,hget⟩
      · refine raised_of_error (e := .registry e) ?_ ?_ (fun _ _ _ he => by cases he)
        · simp only [call,hrun,persistRelease_raise he]
          rfl
        · rintro _ ⟨⟩
          exact .inr (by simpa only [ResourceRegistry.apply,hreg] using ResourceRegistry.not_placed (ResourceRegistry.releaseClaim_filed hreg) he)
      · have hcall : st.call (.releaseClaim claimId) = .ok (reg',{ st.store with
            claims := st.store.claims.set released.id released
            resources := st.store.resources.set resource.id resource }) := by
          simp only [call,hrun,persistRelease_run hget]
          rfl
        rw [apply_of_ok hcall]
        exact .release hreg hr
  | approveRequest approvalId decidedBy decidedAt =>
    cases ha : st.store.approvals.get? approvalId with
    | none =>
      have happly : st.apply (.approveRequest approvalId decidedBy decidedAt) = st := by
        simp only [apply,call,approveRequest_raise ha]
        rfl
      rw [happly]
      refine .raised (fun _ h => by cases h) fun _ _ _ he => ?_
      cases he
      exact ha
    | some current =>
      have hcall : st.call (.approveRequest approvalId decidedBy decidedAt) =
          .ok (st.registry,approvedStore st.store current approvalId decidedBy decidedAt) := by
        simp only [call,approveRequest_run ha]
        rfl
      rw [apply_of_ok hcall]
      exact .approve ha

/-! ### The registry under the coordinator -/

theorem Effect.registry {st st' : CoordState} {op : CoordOp} (h : Effect st op st') :
    st'.registry = st.registry ∨ ∃ rop, registryOp op = some rop ∧ st'.registry = st.registry.apply rop := by
  cases h with
  | raised => exact .inl rfl
  | register hnew => exact .inr ⟨_,rfl,rfl⟩
  | request hreg hr => exact .inr ⟨_,rfl,by simp only [ResourceRegistry.apply,hreg]⟩
  | activate hreg hr => exact .inr ⟨_,rfl,by simp only [ResourceRegistry.apply,hreg]⟩
  | release hreg hr => exact .inr ⟨_,rfl,by simp only [ResourceRegistry.apply,hreg]⟩
  | approve ha => exact .inl rfl

theorem placed_apply {reg : ResourceRegistry} (hreg : reg.Coherent) (h : reg.ClaimsPlaced) (rop : RegistryOp) :
    (reg.apply rop).ClaimsPlaced := by
  have heffect := ResourceRegistry.apply_effect hreg.excludes.filed rop
  intro k c hc
  have hbefore : ∃ r, reg.resources.get? c.resourceId = some r := by
    generalize reg.apply rop = reg' at heffect hc
    cases heffect with
    | idle => exact h k c hc
    | register hnew => exact h k c hc
    | @request claim resource _ hd =>
      obtain ⟨_,_,hclaims,-⟩ := hd.filed
      rw [hclaims,Dict.get?_set] at hc
      split at hc
      · cases hc
        exact ⟨resource,hd.registered⟩
      · exact h k c hc
    | @activate _ _ claim resource _ _ _ hd =>
      obtain ⟨_,_,hclaims,-⟩ := hd.filed
      rw [hclaims,Dict.get?_set] at hc
      split at hc
      · cases hc
        exact ⟨resource,hd.registered⟩
      · exact h k c hc
    | @release _ claim _ hold _ hr =>
      rw [hr.claims,Dict.get?_set] at hc
      split at hc
      · cases hc
        exact h _ claim hold
      · exact h k c hc
  obtain ⟨r,hr⟩ := hbefore
  obtain ⟨p,hp⟩ := heffect.repointed hreg.resources hr
  exact ⟨_,hp⟩

/-- In a registry whose claims are on registered resources a call raises only when the
registry does. -/
theorem apply_registry {st : CoordState} (hreg : st.registry.Coherent) (hplaced : st.registry.ClaimsPlaced) (op : CoordOp) :
    (st.apply op).registry = (registryOp op).elim st.registry st.registry.apply := by
  have heffect := apply_effect st op
  generalize st.apply op = st' at heffect
  cases heffect with
  | raised hidle =>
    cases hrop : registryOp op with
    | none => rfl
    | some rop =>
      rcases hidle rop hrop with hraises | hmissing
      · exact hraises.idle.symm
      · exact absurd (placed_apply hreg hplaced rop) hmissing
  | register hnew => rfl
  | request h hr => simp only [registryOp,Option.elim,ResourceRegistry.apply,h]
  | activate h hr => simp only [registryOp,Option.elim,ResourceRegistry.apply,h]
  | release h hr => simp only [registryOp,Option.elim,ResourceRegistry.apply,h]
  | approve ha => rfl

theorem coherent_apply {st : CoordState} (h : st.registry.Coherent) (op : CoordOp) : (st.apply op).registry.Coherent := by
  rcases (apply_effect st op).registry with hsame | ⟨rop,-,hrop⟩
  · rw [hsame]
    exact h
  · rw [hrop]
    exact h.apply rop

/-- What every state of a run satisfies. -/
structure Sound (st : CoordState) : Prop where
  coherent : st.registry.Coherent
  placed : st.registry.ClaimsPlaced

theorem Sound.apply {st : CoordState} (h : Sound st) (op : CoordOp) : Sound (st.apply op) := by
  refine ⟨coherent_apply h.coherent op,?_⟩
  rw [apply_registry h.coherent h.placed op]
  cases registryOp op with
  | none => exact h.placed
  | some rop => exact placed_apply h.coherent h.placed rop

theorem Sound.initial : Sound {} := ⟨ResourceRegistry.Coherent.empty,fun k c hc => by simp [ResourceRegistry.empty] at hc⟩

theorem Sound.run (ops : List CoordOp) : Sound (run ops) := foldl_invariant Sound.initial (fun _ op h => h.apply op) ops

/-- A lease of a low-risk service, which needs the approval of its role. -/
def leaseOf (id resourceId : String) : Claim :=
  { id, resourceId, claimType := .lease, ownerThread := "thread", ownerRole := .odo
    intent := "work", requestedAction := "work", riskLevel := .low }

end CoordState
end Overseer.Core
