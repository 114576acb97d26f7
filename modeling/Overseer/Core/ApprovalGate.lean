import Overseer.Core.CoordinatorRuns

/-! # Activation and approval

`decide_claim` says which claims need an approval, `request_claim` files the approval as
pending, `approve_request` grants it. `activate_claim` looks at none of it: whether claims
are active only under an approval is up to those who call it.
-/
namespace Overseer.Core.CoordState
open Overseer.Library ResourceRegistry

/-- The claim may be active only under an approval. An observation is admitted by the rule
for read-only use, whatever its risk. -/
def NeedsApproval (reg : ResourceRegistry) (claim : Claim) : Prop :=
  claim.claimType ≠ .observation ∧ ∃ r, reg.resources.get? claim.resourceId = some r ∧ requiredApproval r claim ≠ .none

/-- The approval was granted after the last request of the claim that returned. -/
def DecidedSince (log : List CoordOp) (approvalId claimId : String) : Prop :=
  ∃ later decidedBy decidedAt earlier, log = later ++ .approveRequest approvalId decidedBy decidedAt :: earlier ∧
    ∀ c, CoordOp.requestClaim c ∈ later → c.id ≠ claimId

/-- The store holds an approval of the claim granted since its last request. -/
def ApprovedSince (st : CoordState) (claimId : String) : Prop :=
  ∃ approvalId a, st.store.approvals.get? approvalId = some a ∧ a.status = .approved ∧ a.subjectId = claimId ∧
    DecidedSince st.log approvalId claimId

/-- No claim is active without the approval it needs. -/
def ApprovalRespected (st : CoordState) : Prop :=
  ∀ k c, st.registry.claims.get? k = some c → c.status = .active → NeedsApproval st.registry c → ApprovedSince st k

/-- A released claim comes back only by a new request. -/
def ReturnsByRequest (st : CoordState) (op : CoordOp) : Prop :=
  ∀ k c c', st.registry.claims.get? k = some c → c.status = .released →
    (st.apply op).registry.claims.get? k = some c' → c'.status = .active → ∃ claim, op = .requestClaim claim ∧ claim.id = k

/-- A claim that the activation admits has not been released and has the approval it needs. -/
def Gated (st : CoordState) : CoordOp → Prop
  | .activateClaim claimId _ => ∀ c r, st.registry.claims.get? claimId = some c →
      st.registry.resources.get? c.resourceId = some r → st.registry.ActivationAdmits claimId c r →
      c.status ≠ .released ∧ (NeedsApproval st.registry c → ApprovedSince st claimId)
  | _ => True

/-! ### Decisions and the approval they need -/

theorem allow_no_approval {resource : Resource} {claim : Claim} {actives : List Claim} {resourcesById : Dict Resource}
    (h : (decideClaim resource claim actives resourcesById).outcome = .allow) (hobs : claim.claimType ≠ .observation) :
    requiredApproval resource claim = .none := by
  obtain ⟨hretired,hquarantined,hid⟩ := admits_resource (.inl h)
  unfold decideClaim at h
  rw [if_neg hretired,if_neg hquarantined,if_neg (not_not.mpr hid),if_neg fun h' => hobs h'.1] at h
  dsimp only at h
  split at h
  · cases h
  · split at h
    · cases h
    · next hnone => exact not_not.mp hnone

theorem needsApproval_iff {reg reg' : ResourceRegistry} {claim : Claim} {r : Resource} {p : Option String}
    (hr : reg.resources.get? claim.resourceId = some r)
    (hr' : reg'.resources.get? claim.resourceId = some { r with currentClaimId := p }) (status : ClaimStatus) (approval : Option String) :
    NeedsApproval reg' { claim with status := status, approvalId := approval } ↔ NeedsApproval reg claim := by
  unfold NeedsApproval
  rw [hr,hr']
  simp [requiredApproval]

/-! ### The approvals of a run -/

/-- The id of an approval names its subject. -/
def ApprovalsNamed (st : CoordState) : Prop :=
  ∀ approvalId a, st.store.approvals.get? approvalId = some a → approvalId = "approval." ++ a.subjectId ∧ a.id = approvalId

theorem approvalOf_some {claim : Claim} {record : ClaimRecord} {a : ApprovalRequest} (h : Coordinator.approvalOf claim record = some a) :
    a.id = "approval." ++ claim.id ∧ a.subjectId = record.claim.id ∧ a.status = .pending := by
  unfold Coordinator.approvalOf approvalFromDecision at h
  split at h
  · cases h
  · cases h
    exact ⟨rfl,rfl,rfl⟩

/-- An approval of the store was there before, or a request filed it, or it was granted. -/
theorem Effect.approvals {st st' : CoordState} {op : CoordOp} (h : Effect st op st')
    (hfiled : st.store.approvals.Filed ApprovalRequest.id) {approvalId : String} {a : ApprovalRequest}
    (ha : st'.store.approvals.get? approvalId = some a) : st.store.approvals.get? approvalId = some a ∨
      (∃ claim, op = .requestClaim claim ∧ approvalId = "approval." ++ claim.id ∧ a.id = approvalId ∧ a.subjectId = claim.id) ∨
      ∃ decidedBy decidedAt current, op = .approveRequest approvalId decidedBy decidedAt ∧
        st.store.approvals.get? approvalId = some current ∧ a = Coordinator.approve current decidedBy decidedAt := by
  cases h with
  | raised => exact .inl ha
  | register hnew => exact .inl ha
  | @request claim reg' record resource hreg hr =>
    change (withApproval (decidedStore st.store record resource) (Coordinator.approvalOf claim record)).approvals.get? approvalId =
      some a at ha
    cases happroval : Coordinator.approvalOf claim record with
    | none =>
      rw [happroval] at ha
      exact .inl ha
    | some b =>
      rw [happroval] at ha
      obtain ⟨hid,hsubject,-⟩ := approvalOf_some happroval
      obtain ⟨_,-,-,hclaim,-⟩ := requestClaim_ok hreg
      change (st.store.approvals.set b.id b).get? approvalId = some a at ha
      rw [Dict.get?_set] at ha
      split at ha
      · next hb =>
        cases ha
        refine .inr (.inl ⟨claim,rfl,by rw [hb,hid],hb.symm,?_⟩)
        rw [hsubject,hclaim,claimWithStatus_id]
      · exact .inl ha
  | activate hreg hr => exact .inl ha
  | release hreg hr => exact .inl ha
  | @approve approvalId' decidedBy decidedAt current hcurrent =>
    change (st.store.approvals.set current.id (Coordinator.approve current decidedBy decidedAt)).get? approvalId = some a at ha
    rw [Dict.get?_set,hfiled _ _ hcurrent] at ha
    split at ha
    · next hb =>
      subst hb
      cases ha
      exact .inr (.inr ⟨decidedBy,decidedAt,current,rfl,hcurrent,rfl⟩)
    · exact .inl ha

/-- An approval is only ever filed anew by a request of its subject. -/
theorem Effect.approval_kept {st st' : CoordState} {op : CoordOp} (h : Effect st op st')
    (hfiled : st.store.approvals.Filed ApprovalRequest.id) {approvalId : String} {a : ApprovalRequest}
    (ha : st.store.approvals.get? approvalId = some a)
    (hother : ∀ claim, op = .requestClaim claim → approvalId ≠ "approval." ++ claim.id) :
    ∃ a', st'.store.approvals.get? approvalId = some a' ∧ a'.subjectId = a.subjectId ∧ (a.status = .approved → a'.status = .approved) := by
  cases h with
  | raised => exact ⟨a,ha,rfl,id⟩
  | register hnew => exact ⟨a,ha,rfl,id⟩
  | @request claim reg' record resource hreg hr =>
    refine ⟨a,?_,rfl,id⟩
    change (withApproval (decidedStore st.store record resource) (Coordinator.approvalOf claim record)).approvals.get? approvalId = some a
    cases happroval : Coordinator.approvalOf claim record with
    | none => exact ha
    | some b =>
      change (st.store.approvals.set b.id b).get? approvalId = some a
      rw [Dict.get?_set,(approvalOf_some happroval).1,if_neg (hother claim rfl),ha]
  | activate hreg hr => exact ⟨a,ha,rfl,id⟩
  | release hreg hr => exact ⟨a,ha,rfl,id⟩
  | @approve approvalId' decidedBy decidedAt current hcurrent =>
    change ∃ a', (st.store.approvals.set current.id (Coordinator.approve current decidedBy decidedAt)).get? approvalId = some a' ∧ _
    rw [Dict.get?_set,hfiled _ _ hcurrent]
    by_cases hb : approvalId = approvalId'
    · subst hb
      rw [ha] at hcurrent
      cases hcurrent
      exact ⟨_,if_pos rfl,rfl,fun _ => rfl⟩
    · exact ⟨a,by rw [if_neg hb,ha],rfl,id⟩

theorem ApprovalsNamed.apply {st : CoordState} (h : ApprovalsNamed st) (op : CoordOp) : ApprovalsNamed (st.apply op) := by
  intro approvalId a ha
  rcases (apply_effect st op).approvals (fun k v hk => (h k v hk).2) ha with ha | ⟨claim,-,hid,haid,hsubject⟩ |
    ⟨decidedBy,decidedAt,current,-,hcurrent,rfl⟩
  · exact h approvalId a ha
  · exact ⟨by rw [hid,hsubject],haid⟩
  · exact h approvalId current hcurrent

/-! ### One call -/

section Step
variable {st : CoordState}

theorem DecidedSince.cons {log : List CoordOp} {approvalId claimId : String} {op : CoordOp} (h : DecidedSince log approvalId claimId)
    (hop : ∀ c, op = .requestClaim c → c.id ≠ claimId) : DecidedSince (op :: log) approvalId claimId := by
  obtain ⟨later,decidedBy,decidedAt,earlier,rfl,hlater⟩ := h
  refine ⟨op :: later,decidedBy,decidedAt,earlier,rfl,fun c hc => ?_⟩
  rcases List.mem_cons.mp hc with hc | hc
  · exact hop c hc.symm
  · exact hlater c hc

theorem DecidedSince.of_cons {log : List CoordOp} {approvalId claimId : String} {op : CoordOp}
    (h : DecidedSince (op :: log) approvalId claimId) (hop : ∀ decidedBy decidedAt, op ≠ .approveRequest approvalId decidedBy decidedAt) :
    DecidedSince log approvalId claimId := by
  obtain ⟨later,decidedBy,decidedAt,earlier,hlog,hlater⟩ := h
  cases later with
  | nil => exact absurd (List.cons.inj hlog).1 (hop _ _)
  | cons o later =>
    exact ⟨later,decidedBy,decidedAt,earlier,(List.cons.inj hlog).2,fun c hc => hlater c (List.mem_cons_of_mem _ hc)⟩

theorem Effect.log {st st' : CoordState} {op : CoordOp} (h : Effect st op st') : st'.log = st.log ∨ st'.log = op :: st.log := by
  cases h <;> simp

theorem ApprovedSince.kept {op : CoordOp} {claimId : String} (h : ApprovedSince st claimId) (hnamed : ApprovalsNamed st)
    (hop : ∀ c, op = .requestClaim c → c.id ≠ claimId) : ApprovedSince (st.apply op) claimId := by
  have heffect := apply_effect st op
  obtain ⟨approvalId,a,ha,happroved,hsubject,hsince⟩ := h
  have hother : ∀ claim, op = .requestClaim claim → approvalId ≠ "approval." ++ claim.id := by
    intro claim hclaim hid
    rw [(hnamed _ _ ha).1,hsubject] at hid
    exact hop claim hclaim ((String.append_right_inj _).mp hid).symm
  obtain ⟨a',ha',hsubject',hstatus'⟩ := heffect.approval_kept (fun k v hk => (hnamed k v hk).2) ha hother
  refine ⟨approvalId,a',ha',hstatus' happroved,hsubject'.trans hsubject,?_⟩
  rcases heffect.log with hlog | hlog
  · rw [hlog]
    exact hsince
  · rw [hlog]
    exact hsince.cons hop

/-- What was active before and is not requested again stays under its approval. -/
theorem respected_of_before {op : CoordOp} (hst : Sound st) (hnamed : ApprovalsNamed st) (h : ApprovalRespected st)
    {k : String} {c : Claim} (hc : st.registry.claims.get? k = some c) (hactive : c.status = .active)
    (hop : ∀ claim, op = .requestClaim claim → claim.id ≠ k) (hneeds : NeedsApproval (st.apply op).registry c) :
    ApprovedSince (st.apply op) k := by
  have hreg := hst.coherent
  have hbefore : NeedsApproval st.registry c := by
    obtain ⟨r,hr,-⟩ := hreg.registered k c hc (isActiveLike_of_active hactive)
    rcases (apply_effect st op).registry with hsame | ⟨rop,-,hrop⟩
    · rw [hsame] at hneeds
      exact hneeds
    · obtain ⟨p,hp⟩ := (ResourceRegistry.apply_effect hreg.excludes.filed rop).repointed hreg.resources hr
      rw [hrop] at hneeds
      exact (needsApproval_iff hr hp c.status c.approvalId).mp hneeds
  exact (h k c hc hactive hbefore).kept hnamed hop

/-- Only a request of the claim and an activation make a claim active. -/
theorem active_kept (hst : Sound st) {op : CoordOp} (hop : ∀ claimId approvalId, op ≠ .activateClaim claimId approvalId) {k : String}
    {c : Claim} (hc : (st.apply op).registry.claims.get? k = some c) (hactive : c.status = .active) :
    (∃ claim, op = .requestClaim claim ∧ claim.id = k) ∨ st.registry.claims.get? k = some c := by
  rcases (apply_effect st op).registry with hsame | ⟨rop,hrop,hreg⟩
  · rw [hsame] at hc
    exact .inr hc
  · have heffect := ResourceRegistry.apply_effect hst.coherent.excludes.filed rop
    rw [← hreg] at heffect
    generalize (st.apply op).registry = reg' at heffect hc
    cases heffect with
    | idle => exact .inr hc
    | register hnew => exact .inr hc
    | @request claim resource _ hd =>
      by_cases hk : k = claim.id
      · cases op <;> cases hrop
        exact .inl ⟨claim,rfl,hk.symm⟩
      · rw [hd.get_of_ne hk] at hc
        exact .inr hc
    | @activate claimId approvalId _ _ _ _ _ hd => cases op <;> cases hrop <;> exact absurd rfl (hop claimId approvalId)
    | @release claimId claim _ hold hid hr =>
      by_cases hk : k = claimId
      · rw [hk,hr.get_self] at hc
        cases hc
        cases hactive
      · rw [hr.get_of_ne hk] at hc
        exact .inr hc

theorem returns_of_kept (hst : Sound st) {op : CoordOp} (hop : ∀ claimId approvalId, op ≠ .activateClaim claimId approvalId) :
    ReturnsByRequest st op := by
  intro k c c' hc hreleased hc' hactive
  rcases active_kept hst hop hc' hactive with hreq | hsame
  · exact hreq
  · rw [hc] at hsame
    cases hsame
    rw [hreleased] at hactive
    cases hactive

/-- A request makes a claim active only when it needs no approval. -/
theorem request_respected (hst : Sound st) (hnamed : ApprovalsNamed st) (h : ApprovalRespected st) (claim : Claim) :
    ApprovalRespected (st.apply (.requestClaim claim)) := by
  cases hr : st.registry.resources.get? claim.resourceId with
  | none =>
    have hsame : st.apply (.requestClaim claim) = st := by
      have heffect := apply_effect st (.requestClaim claim)
      generalize st.apply (.requestClaim claim) = st' at heffect
      cases heffect with
      | raised => rfl
      | request hreq hr' =>
        obtain ⟨r,hr',-⟩ := requestClaim_ok hreq
        rw [hr] at hr'
        cases hr'
    rw [hsame]
    exact h
  | some r =>
    intro k c hc hactive hneeds
    have hreg : (st.apply (.requestClaim claim)).registry = st.registry.apply (.requestClaim claim) :=
      apply_registry hst.coherent hst.placed _
    have hdecides := requestClaim_decides hr
    by_cases hk : k = claim.id
    · exfalso
      obtain ⟨status,approval,hclaims,hiff,-⟩ := hdecides.filed
      rw [hreg,hclaims,Dict.get?_set,if_pos hk] at hc
      cases hc
      have heffect := ResourceRegistry.apply_effect hst.coherent.excludes.filed (.requestClaim claim)
      obtain ⟨p,hp⟩ := heffect.repointed hst.coherent.resources hr
      rw [hreg] at hneeds
      obtain ⟨hobs,r',hr',hrequired⟩ := (needsApproval_iff hr hp status approval).mp hneeds
      rw [hr] at hr'
      cases hr'
      exact hrequired (allow_no_approval (hiff.mp hactive) hobs)
    · have hbefore : st.registry.claims.get? k = some c := by rwa [hreg,hdecides.get_of_ne hk] at hc
      refine respected_of_before hst hnamed h hbefore hactive (fun claim' he => ?_) hneeds
      cases he
      exact fun he => hk he.symm

/-- An activation keeps to the approvals exactly when it is gated. -/
theorem activate_respected_iff (hst : Sound st) (hnamed : ApprovalsNamed st) (h : ApprovalRespected st) (claimId : String)
    (approvalId : Option String) : ApprovalRespected (st.apply (.activateClaim claimId approvalId)) ∧
      ReturnsByRequest st (.activateClaim claimId approvalId) ↔ Gated st (.activateClaim claimId approvalId) := by
  have hreg : (st.apply (.activateClaim claimId approvalId)).registry = st.registry.apply (.activateClaim claimId approvalId) :=
    apply_registry hst.coherent hst.placed _
  have heffect := ResourceRegistry.apply_effect hst.coherent.excludes.filed (.activateClaim claimId approvalId)
  have hother : ∀ claim, CoordOp.activateClaim claimId approvalId = .requestClaim claim → claim.id ≠ claimId := fun _ he => by cases he
  cases hc : st.registry.claims.get? claimId with
  | none =>
    have hidle : st.registry.apply (.activateClaim claimId approvalId) = st.registry := by
      simp only [ResourceRegistry.apply,ResourceRegistry.activateClaim,getClaim,hc]
      rfl
    have hgated : Gated st (.activateClaim claimId approvalId) := by
      intro c r hc'
      rw [hc] at hc'
      cases hc'
    refine iff_of_true ⟨fun k c hk hactive hneeds => ?_,fun k c c' hk hreleased hk' hactive => ?_⟩ hgated
    · rw [hreg,hidle] at hk
      exact respected_of_before hst hnamed h hk hactive (fun _ he => by cases he) hneeds
    · rw [hreg,hidle,hk] at hk'
      cases hk'
      rw [hreleased] at hactive
      cases hactive
  | some claim =>
    obtain ⟨r,hr⟩ := hst.placed claimId claim hc
    have hid : claim.id = claimId := hst.coherent.excludes.filed _ _ hc
    have hdecides : Decides _ (st.registry.apply (.activateClaim claimId approvalId)) _ _ _ _ :=
      activateClaim_decides hc hid hr
    obtain ⟨status,approval,hclaims,hiff,-⟩ := hdecides.filed
    obtain ⟨p,hp⟩ := heffect.repointed hst.coherent.resources hr
    have hneeds_iff := needsApproval_iff hr hp status approval
    have hself : (st.apply (.activateClaim claimId approvalId)).registry.claims.get? claimId =
        some { claim with status := status, approvalId := approval } := by rw [hreg,hclaims,Dict.get?_set,if_pos hid.symm]
    have hne : ∀ k, k ≠ claimId → (st.apply (.activateClaim claimId approvalId)).registry.claims.get? k =
        st.registry.claims.get? k := by
      intro k hk
      rw [hreg,hdecides.get_of_ne (hid ▸ hk)]
    constructor
    · rintro ⟨hrespected,hreturns⟩ c r' hc' hr' hadmits
      rw [hc] at hc'
      cases hc'
      rw [hr] at hr'
      cases hr'
      have hactive : status = .active := hiff.mpr hadmits
      constructor
      · intro hreleased
        obtain ⟨_,he,-⟩ := hreturns claimId claim _ hc hreleased hself hactive
        cases he
      · intro hneeds
        rw [← hneeds_iff,← hreg] at hneeds
        obtain ⟨a,row,hrow,happroved,hsubject,hsince⟩ := hrespected claimId _ hself hactive hneeds
        have heffect' := apply_effect st (.activateClaim claimId approvalId)
        generalize st.apply (.activateClaim claimId approvalId) = st' at heffect' hrow hsince
        cases heffect' with
        | raised => exact ⟨a,row,hrow,happroved,hsubject,hsince⟩
        | activate => exact ⟨a,row,hrow,happroved,hsubject,hsince.of_cons fun _ _ he => by cases he⟩
    · intro hgated
      constructor
      · intro k c hk hactive hneeds
        by_cases hkid : k = claimId
        · subst hkid
          rw [hself] at hk
          cases hk
          rw [hreg,hneeds_iff] at hneeds
          exact ((hgated claim r hc hr (hiff.mp hactive)).2 hneeds).kept hnamed hother
        · rw [hne k hkid] at hk
          exact respected_of_before hst hnamed h hk hactive (fun _ he => by cases he) hneeds
      · intro k c c' hk hreleased hk' hactive
        exfalso
        by_cases hkid : k = claimId
        · subst hkid
          rw [hself] at hk'
          cases hk'
          rw [hc] at hk
          cases hk
          exact (hgated claim r hc hr (hiff.mp hactive)).1 hreleased
        · rw [hne k hkid,hk] at hk'
          cases hk'
          rw [hreleased] at hactive
          cases hactive

theorem step_respected_iff (hst : Sound st) (hnamed : ApprovalsNamed st) (h : ApprovalRespected st) (op : CoordOp) :
    ApprovalRespected (st.apply op) ∧ ReturnsByRequest st op ↔ Gated st op := by
  have hkept : (∀ claimId approvalId, op ≠ .activateClaim claimId approvalId) → (∀ claim, op ≠ .requestClaim claim) →
      (ApprovalRespected (st.apply op) ∧ ReturnsByRequest st op) := by
    intro hactivate hrequest
    refine ⟨fun k c hc hactive hneeds => ?_,returns_of_kept hst hactivate⟩
    rcases active_kept hst hactivate hc hactive with ⟨claim,he,-⟩ | hbefore
    · exact absurd he (hrequest claim)
    · exact respected_of_before hst hnamed h hbefore hactive (fun claim he => absurd he (hrequest claim)) hneeds
  cases op with
  | registerResource resource => exact iff_of_true (hkept (fun _ _ he => by cases he) (fun _ he => by cases he)) trivial
  | requestClaim claim => exact iff_of_true ⟨request_respected hst hnamed h claim,returns_of_kept hst (fun _ _ he => by cases he)⟩ trivial
  | activateClaim claimId approvalId => exact activate_respected_iff hst hnamed h claimId approvalId
  | releaseClaim claimId => exact iff_of_true (hkept (fun _ _ he => by cases he) (fun _ he => by cases he)) trivial
  | approveRequest approvalId decidedBy decidedAt =>
    exact iff_of_true (hkept (fun _ _ he => by cases he) (fun _ he => by cases he)) trivial

end Step

/-! ### Whole runs -/

/-- In every run, claims are active only under their approvals and come back only by request
exactly when each activation is gated. -/
theorem approval_before_activation (ops : List CoordOp) :
    (∀ pre op, pre ++ [op] <+: ops → Gated (run pre) op) ↔ (∀ pre, pre <+: ops → ApprovalRespected (run pre)) ∧
      ∀ pre op, pre ++ [op] <+: ops → ReturnsByRequest (run pre) op := by
  have hnamed : ∀ pre, ApprovalsNamed (run pre) := fun pre => foldl_invariant (I := ApprovalsNamed)
    (fun _ _ h => by simp at h) (fun _ op h => h.apply op) pre
  refine foldl_law_iff (I := fun st => Sound st ∧ ApprovalsNamed st) (fun pre _ => ⟨Sound.run pre,hnamed pre⟩) ?_
    (fun st op _ hst hlaw => step_respected_iff hst.1 hst.2 hlaw op)
  intro k c hc
  simp [ResourceRegistry.empty] at hc

/-- The lease is requested and, with its approval still pending, activated. -/
def activatedUnapproved : List CoordOp :=
  [.registerResource (serviceNamed "dock"),.requestClaim (leaseOf "claim" "dock"),.activateClaim "claim" none]

theorem activated_without_approval : ¬ ∀ ops : List CoordOp, (∀ pre, pre <+: ops → ApprovalRespected (run pre)) ∧
    ∀ pre op, pre ++ [op] <+: ops → ReturnsByRequest (run pre) op := by
  intro h
  have hrespected := (h activatedUnapproved).1 activatedUnapproved (List.prefix_rfl)
  have hclaim : (run activatedUnapproved).registry.claims.get? "claim" = some { leaseOf "claim" "dock" with status := .active } := rfl
  have hresource : (run activatedUnapproved).registry.resources.get? "dock" =
      some { serviceNamed "dock" with currentClaimId := some "claim" } := rfl
  have hneeds : NeedsApproval (run activatedUnapproved).registry { leaseOf "claim" "dock" with status := .active } :=
    ⟨by decide,_,hresource,by decide⟩
  obtain ⟨approvalId,_,-,-,-,later,decidedBy,decidedAt,earlier,hlog,-⟩ := hrespected "claim" _ hclaim rfl hneeds
  have hcalls : (run activatedUnapproved).log = activatedUnapproved.reverse := rfl
  have hmem : CoordOp.approveRequest approvalId decidedBy decidedAt ∈ (run activatedUnapproved).log := by
    rw [hlog]
    exact List.mem_append_right _ List.mem_cons_self
  rw [hcalls] at hmem
  simp [activatedUnapproved] at hmem

end Overseer.Core.CoordState
