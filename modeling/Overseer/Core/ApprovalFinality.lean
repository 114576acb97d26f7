import Overseer.Core.StorageControl

/-! # Decided approvals

The coordinator and the storage authorizations write one table of approvals, each under ids
of its own making and without looking at what is there. Only `approve_authorization` asks
for a pending approval of the right subject.
-/
namespace Overseer.Core
open Overseer.Library ResourceRegistry StorageControl

/-- The operations on one store. Crew messages are written by others in between. -/
inductive StorageOp where
  | coord (op : CoordOp)
  | stage (call : StageCall)
  | approveAuthorization (authorizationRef approvedBy : String) (approvedAt : Option String) (clock : String)
  | saveCrewMessage (message : CrewMessage)

structure StorageState where
  coord : CoordState := {}
  stages : Dict StageRow := .empty
  crewMessages : Dict CrewMessage := .empty

namespace StorageState

def store (st : StorageState) : StorageStore := ⟨st.coord.store,st.stages,st.crewMessages⟩

def approvals (st : StorageState) : Dict ApprovalRequest := st.coord.store.approvals

/-- The state after a transaction; one that raises is rolled back. -/
def commit (st : StorageState) (t : StorageTx Unit) : StorageState :=
  match t st.store with
  | .ok (_,s) => ⟨{ st.coord with store := s.coord },s.stages,s.crewMessages⟩
  | .error _ => st

section Host
variable (host : StorageHost)

def apply (st : StorageState) : StorageOp → StorageState
  | .coord op => { st with coord := st.coord.apply op }
  | .stage call => st.commit (stageAuthorization host call)
  | .approveAuthorization ref approvedBy approvedAt clock => st.commit (approveAuthorization host ref approvedBy approvedAt clock)
  | .saveCrewMessage message => { st with crewMessages := st.crewMessages.set message.id message }

/-- A store that other parts of the program may have written approvals, stages and crew
messages to, and a coordinator without claims. -/
def start (approvals : Dict ApprovalRequest) (stages : Dict StageRow) (crewMessages : Dict CrewMessage) : StorageState :=
  ⟨{ store := { approvals } },stages,crewMessages⟩

def run (s₀ : StorageState) (ops : List StorageOp) : StorageState := ops.foldl (apply host) s₀

/-! ### The approval a call writes -/

/-- The approval that a request files. -/
def requested (reg : ResourceRegistry) (claim : Claim) : Option ApprovalRequest :=
  (reg.resources.get? claim.resourceId).bind fun resource => approvalFromDecision ("approval." ++ claim.id) claim.id
    claim.ownerThread claim.ownerRole (decideClaim resource claim reg.activeClaims reg.resources)

def written (st : StorageState) : StorageOp → Option ApprovalRequest
  | .coord (.requestClaim claim) => requested st.coord.registry claim
  | .coord (.approveRequest approvalId decidedBy decidedAt) =>
    (st.approvals.get? approvalId).map fun current => Coordinator.approve current decidedBy decidedAt
  | .coord _ => none
  | .stage call => match call.accepted host st.store with
    | .ok _ => some (call.approval host)
    | .error _ => none
  | .approveAuthorization ref approvedBy approvedAt clock =>
    match approveAuthorization host ref approvedBy approvedAt clock st.store with
    | .ok _ => (stageOf st.store ref).bind fun row => (st.approvals.get? row.stage.approvalId).map fun approval =>
        Coordinator.approve approval approvedBy (some (orElse approvedAt clock))
    | .error _ => none
  | .saveCrewMessage _ => none

end Host

/-! ### What a call does to the approvals -/

theorem requested_of_record {reg reg' : ResourceRegistry} {claim : Claim} {record : ClaimRecord}
    (h : reg.requestClaim claim = .ok (reg',record)) : Coordinator.approvalOf claim record = requested reg claim := by
  obtain ⟨resource,hr,hdecision,hclaim,-⟩ := requestClaim_ok h
  have hfields : record.claim.id = claim.id ∧ record.claim.ownerThread = claim.ownerThread ∧
      record.claim.ownerRole = claim.ownerRole := by
    rw [hclaim]
    unfold claimWithStatus
    cases record.decision.outcome <;> exact ⟨rfl,rfl,rfl⟩
  obtain ⟨hid,hthread,hrole⟩ := hfields
  simp only [Coordinator.approvalOf,requested,hr,hid,hthread,hrole,hdecision,Option.bind_some]

theorem requested_eq_none {reg : ResourceRegistry} {claim : Claim} {e : RegistryError} (h : reg.requestClaim claim = .error e) :
    requested reg claim = none := by
  unfold requested
  simp only [ResourceRegistry.requestClaim,getResource] at h
  cases hr : reg.resources.get? claim.resourceId with
  | none => rfl
  | some resource => simp [hr,bind,Except.bind,pure,Except.pure] at h

/-- An authorization is approved only while its approval is pending and of its subject. -/
theorem approveAuthorization_ok {host : StorageHost} {ref approvedBy : String} {approvedAt : Option String} {clock : String}
    {s s' : StorageStore} (h : approveAuthorization host ref approvedBy approvedAt clock s = .ok ((),s')) :
    ∃ row approval, stageOf s ref = some row ∧ s.coord.approvals.get? row.stage.approvalId = some approval ∧
      independentPending row.stage approval approvedBy ∧
      s' = storeApproval (Coordinator.approve approval approvedBy (some (orElse approvedAt clock))) s := by
  have hpost : (approveAuthorization host ref approvedBy approvedAt clock).Post s fun _ s' =>
      ∃ row approval, stageOf s ref = some row ∧ s.coord.approvals.get? row.stage.approvalId = some approval ∧
        independentPending row.stage approval approvedBy ∧
        s' = storeApproval (Coordinator.approve approval approvedBy (some (orElse approvedAt clock))) s := by
    unfold approveAuthorization
    rw [Tx.post_bind,post_liftCheck]
    intro _ _
    rw [Tx.post_bind,post_liftCheck]
    intro _ _
    rw [Tx.post_bind,Tx.post_read]
    simp only [id]
    split
    · trivial
    next row hrow =>
    rw [Tx.post_bind,post_liftCheck]
    intro _ _
    split
    · trivial
    next approval happroval =>
    rw [Tx.post_bind,post_liftCheck]
    intro _ hcheck
    rw [Tx.post_write]
    exact ⟨row,approval,hrow,happroval,check_ok hcheck,rfl⟩
  exact hpost.of_ok h

theorem stageAuthorization_run {host : StorageHost} {call : StageCall} {s : StorageStore} :
    stageAuthorization host call s = (call.accepted host s).map fun _ =>
      ((),storeApproval (call.approval host) (insertStage (call.stage host) s)) := by
  unfold stageAuthorization
  rw [Tx.bind_of_ok (rfl : Tx.read id s = .ok (s,s))]
  cases h : call.accepted host s with
  | error e =>
    rw [Tx.bind_of_error (e := e)]
    · rfl
    · simp [liftCheck,h,Except.map]
  | ok u =>
    have hlift : (liftCheck (call.accepted host (id s)) : StorageTx _) s = .ok (u,s) := by
      simp [liftCheck,h,Except.map]
    rw [Tx.bind_of_ok hlift]
    rfl

section Step
variable {host : StorageHost} {st : StorageState}

theorem coord_approvals (hst : st.coord.Sound) (op : CoordOp) :
    (st.coord.apply op).store.approvals = (written host st (.coord op)).elim st.approvals fun a => st.approvals.set a.id a := by
  have heffect := CoordState.apply_effect st.coord op
  generalize st.coord.apply op = after at heffect
  cases heffect with
  | raised hidle habsent =>
    cases op with
    | requestClaim claim =>
      rcases hidle _ rfl with ⟨e,he⟩ | hmissing
      · simp only [written,requested_eq_none he]
        rfl
      · exact absurd (CoordState.placed_apply hst.coherent hst.placed _) hmissing
    | approveRequest approvalId decidedBy decidedAt =>
      simp only [written,approvals,habsent _ _ _ rfl]
      rfl
    | registerResource resource => rfl
    | activateClaim claimId approvalId => rfl
    | releaseClaim claimId => rfl
  | register hnew => rfl
  | @request claim reg' record resource hreg hr =>
    change (CoordState.withApproval (CoordState.decidedStore st.coord.store record resource)
      (Coordinator.approvalOf claim record)).approvals = _
    rw [requested_of_record hreg]
    rfl
  | activate hreg hr => rfl
  | release hreg hr => rfl
  | @approve approvalId decidedBy decidedAt current ha =>
    have hwritten : written host st (.coord (.approveRequest approvalId decidedBy decidedAt)) =
        some (Coordinator.approve current decidedBy decidedAt) := by
      simp only [written,approvals,ha,Option.map_some]
    rw [hwritten]
    rfl

/-- The approvals after a call: the one it writes is filed under its id. -/
theorem apply_approvals (hst : st.coord.Sound) (op : StorageOp) :
    (st.apply host op).approvals = (written host st op).elim st.approvals fun a => st.approvals.set a.id a := by
  cases op with
  | coord op => exact coord_approvals hst op
  | stage call =>
    change (st.commit (stageAuthorization host call)).approvals = _
    cases h : call.accepted host st.store with
    | error e =>
      simp only [commit,written,stageAuthorization_run,h,Except.map]
      rfl
    | ok u =>
      simp only [commit,written,stageAuthorization_run,h,Except.map]
      change ((insertStage (call.stage host) st.store).coord.approvals.set _ _) = _
      rw [insertStage_coord]
      rfl
  | approveAuthorization ref approvedBy approvedAt clock =>
    change (st.commit (approveAuthorization host ref approvedBy approvedAt clock)).approvals = _
    cases h : approveAuthorization host ref approvedBy approvedAt clock st.store with
    | error e =>
      simp only [commit,written,h]
      rfl
    | ok p =>
      obtain ⟨row,approval,hrow,happroval,-,hs'⟩ := approveAuthorization_ok h
      have ha : st.approvals.get? row.stage.approvalId = some approval := happroval
      simp only [commit,written,h,hrow,ha,hs',Option.bind_some,Option.map_some]
      rfl
  | saveCrewMessage message => rfl

/-! ### Finality -/

/-- What has to stay of an approval: its subject, and everything about its decision once it
is not pending any more. -/
structure Upheld (a a' : ApprovalRequest) : Prop where
  subject : a'.subjectId = a.subjectId
  decided : a.status ≠ .pending → a'.status = a.status ∧ a'.decidedBy = a.decidedBy ∧ a'.decidedAt = a.decidedAt ∧
    a'.evidenceRequired = a.evidenceRequired

theorem Upheld.refl (a : ApprovalRequest) : Upheld a a := ⟨rfl,fun _ => ⟨rfl,rfl,rfl,rfl⟩⟩

theorem Upheld.trans {a b c : ApprovalRequest} (hab : Upheld a b) (hbc : Upheld b c) : Upheld a c := by
  refine ⟨hbc.subject.trans hab.subject,fun hdecided => ?_⟩
  obtain ⟨hstatus,hby,hat,hevidence⟩ := hab.decided hdecided
  obtain ⟨hstatus',hby',hat',hevidence'⟩ := hbc.decided (hstatus ▸ hdecided)
  exact ⟨hstatus'.trans hstatus,hby'.trans hby,hat'.trans hat,hevidence'.trans hevidence⟩

/-- Every approval is upheld. A call writes the approval of its own subject, so none has
written over the approval of another. -/
def Final (st st' : StorageState) : Prop :=
  ∀ k a, st.approvals.get? k = some a → ∃ a', st'.approvals.get? k = some a' ∧ Upheld a a'

theorem Final.refl (st : StorageState) : Final st st := fun _ a ha => ⟨a,ha,.refl a⟩

theorem Final.trans {st st' st'' : StorageState} (h : Final st st') (h' : Final st' st'') : Final st st'' := by
  intro k a ha
  obtain ⟨b,hb,hab⟩ := h k a ha
  obtain ⟨c,hc,hbc⟩ := h' k b hb
  exact ⟨c,hc,hab.trans hbc⟩

/-- When a call leaves the decided approvals alone: the approval a request or a stage files
is not there yet, or is pending and of the same subject; an approval is granted only while it
is pending, or as it was granted before. -/
def KeepsDecided (host : StorageHost) (st : StorageState) : StorageOp → Prop
  | .coord (.requestClaim claim) => ∀ resource old, st.coord.registry.resources.get? claim.resourceId = some resource →
      (decideClaim resource claim st.coord.registry.activeClaims st.coord.registry.resources).approvalLevel ≠ .none →
      st.approvals.get? ("approval." ++ claim.id) = some old → old.status = .pending ∧ old.subjectId = claim.id
  | .coord (.approveRequest approvalId decidedBy decidedAt) => ∀ old, st.approvals.get? approvalId = some old →
      old.status = .pending ∨ old.status = .approved ∧ old.decidedBy = some decidedBy ∧ old.decidedAt = decidedAt
  | .stage call => call.accepted host st.store = .ok () → ∀ old, st.approvals.get? (call.approvalId host) = some old →
      old.status = .pending ∧ old.subjectId = call.approvalSubject host
  | _ => True

theorem final_iff_written (hst : st.coord.Sound) (op : StorageOp) :
    Final st (st.apply host op) ↔ ∀ a, written host st op = some a → ∀ old, st.approvals.get? a.id = some old → Upheld old a := by
  have happly : (st.apply host op).approvals =
      (written host st op).elim st.approvals fun a => st.approvals.set a.id a := apply_approvals hst op
  unfold Final
  rw [happly]
  cases written host st op with
  | none => exact iff_of_true (fun k a ha => ⟨a,ha,.refl a⟩) (fun _ h => by cases h)
  | some a =>
    constructor
    · intro h b hb old hold
      cases hb
      obtain ⟨a',ha',hupheld⟩ := h a.id old hold
      rw [Option.elim_some,Dict.get?_set,if_pos rfl] at ha'
      cases ha'
      exact hupheld
    · intro h k old hold
      rw [Option.elim_some,Dict.get?_set]
      by_cases hk : k = a.id
      · exact ⟨a,if_pos hk,h a rfl old (hk ▸ hold)⟩
      · exact ⟨old,by rw [if_neg hk,hold],.refl old⟩

theorem upheld_pending_iff {a old : ApprovalRequest} (ha : a.status = .pending) :
    Upheld old a ↔ old.status = .pending ∧ old.subjectId = a.subjectId := by
  constructor
  · intro h
    refine ⟨?_,h.subject.symm⟩
    by_contra hdecided
    exact hdecided ((h.decided hdecided).1.symm.trans ha)
  · rintro ⟨hpending,hsubject⟩
    exact ⟨hsubject.symm,fun hdecided => absurd hpending hdecided⟩

theorem upheld_approve_iff {old : ApprovalRequest} {decidedBy : String} {decidedAt : Option String} :
    Upheld old (Coordinator.approve old decidedBy decidedAt) ↔
      old.status = .pending ∨ old.status = .approved ∧ old.decidedBy = some decidedBy ∧ old.decidedAt = decidedAt := by
  constructor
  · intro h
    by_cases hpending : old.status = .pending
    · exact .inl hpending
    · obtain ⟨hstatus,hby,hat,-⟩ := h.decided hpending
      exact .inr ⟨hstatus.symm,hby.symm,hat.symm⟩
  · rintro (hpending | ⟨hstatus,hby,hat⟩)
    · exact ⟨rfl,fun hdecided => absurd hpending hdecided⟩
    · exact ⟨rfl,fun _ => ⟨hstatus.symm,hby.symm,hat.symm,rfl⟩⟩

theorem final_step_iff (hst : st.coord.Sound) (hfiled : st.approvals.Filed ApprovalRequest.id) (op : StorageOp) :
    Final st (st.apply host op) ↔ KeepsDecided host st op := by
  rw [final_iff_written hst]
  have hnone : written host st op = none → KeepsDecided host st op →
      ((∀ a, written host st op = some a → ∀ old, st.approvals.get? a.id = some old → Upheld old a) ↔ KeepsDecided host st op) := by
    intro hw hk
    rw [hw]
    exact iff_of_true (fun _ h => by cases h) hk
  cases op with
  | coord op =>
    cases op with
    | registerResource resource => exact hnone rfl trivial
    | activateClaim claimId approvalId => exact hnone rfl trivial
    | releaseClaim claimId => exact hnone rfl trivial
    | requestClaim claim =>
      simp only [written,requested,KeepsDecided,approvalFromDecision]
      constructor
      · intro h resource old hr hlevel hold
        exact (upheld_pending_iff rfl).mp (h _ (by rw [hr,Option.bind_some,if_neg hlevel]) old hold)
      · intro h a ha old hold
        obtain ⟨resource,hr,ha⟩ := Option.bind_eq_some_iff.mp ha
        split at ha
        · cases ha
        next hlevel =>
        cases ha
        exact (upheld_pending_iff rfl).mpr (h resource old hr hlevel hold)
    | approveRequest approvalId decidedBy decidedAt =>
      simp only [written,KeepsDecided]
      constructor
      · intro h old hold
        have hid : (Coordinator.approve old decidedBy decidedAt).id = approvalId := hfiled _ old hold
        exact upheld_approve_iff.mp (h _ (by rw [hold,Option.map_some]) old (hid ▸ hold))
      · intro h a ha old hold
        obtain ⟨current,hcurrent,rfl⟩ := Option.map_eq_some_iff.mp ha
        have hid : (Coordinator.approve current decidedBy decidedAt).id = approvalId := hfiled _ current hcurrent
        rw [hid,hcurrent] at hold
        obtain rfl := Option.some.inj hold
        exact upheld_approve_iff.mpr (h current hcurrent)
  | stage call =>
    simp only [written,KeepsDecided]
    constructor
    · intro h haccepted old hold
      exact (upheld_pending_iff rfl).mp (h (call.approval host) (by rw [haccepted]) old hold)
    · intro h a ha old hold
      split at ha
      · next haccepted =>
        cases ha
        exact (upheld_pending_iff rfl).mpr (h haccepted old hold)
      · cases ha
  | approveAuthorization ref approvedBy approvedAt clock =>
    simp only [written,KeepsDecided,iff_true]
    intro a ha old hold
    split at ha
    · next hok =>
      obtain ⟨row,approval,hrow,happroval,hpending,-⟩ := approveAuthorization_ok hok
      have hcurrent : st.approvals.get? row.stage.approvalId = some approval := happroval
      rw [hrow,Option.bind_some,hcurrent,Option.map_some] at ha
      cases ha
      have hid : (Coordinator.approve approval approvedBy (some (orElse approvedAt clock))).id = row.stage.approvalId :=
        hfiled _ approval hcurrent
      rw [hid,hcurrent] at hold
      cases hold
      exact upheld_approve_iff.mpr (.inl hpending.2.1)
    · cases ha
  | saveCrewMessage message => exact hnone rfl trivial

end Step

/-! ### Whole runs -/

/-- What every state of a run satisfies. -/
def Kept (st : StorageState) : Prop := st.coord.Sound ∧ st.approvals.Filed ApprovalRequest.id

theorem Kept.apply {host : StorageHost} {st : StorageState} (h : Kept st) (op : StorageOp) : Kept (st.apply host op) := by
  constructor
  · have hcommit : ∀ t : StorageTx Unit, (st.commit t).coord.Sound := by
      intro t
      unfold commit
      split
      · exact ⟨h.1.coherent,h.1.placed⟩
      · exact h.1
    cases op with
    | coord op => exact h.1.apply op
    | stage call => exact hcommit _
    | approveAuthorization ref approvedBy approvedAt clock => exact hcommit _
    | saveCrewMessage message => exact h.1
  · rw [apply_approvals h.1]
    cases written host st op with
    | none => exact h.2
    | some a => exact h.2.set a

/-- In every run from a store whose approvals are filed under their ids, a decided approval
is final and no approval is written over by that of another subject exactly when every call
keeps the decided ones. -/
theorem decided_approvals_final (host : StorageHost) (approvals : Dict ApprovalRequest) (stages : Dict StageRow)
    (crewMessages : Dict CrewMessage) (hfiled : approvals.Filed ApprovalRequest.id) (ops : List StorageOp) :
    (∀ pre op, pre ++ [op] <+: ops → KeepsDecided host (run host (start approvals stages crewMessages) pre) op) ↔
      ∀ pre later, pre ++ later <+: ops → Final (run host (start approvals stages crewMessages) pre)
        (run host (start approvals stages crewMessages) (pre ++ later)) := by
  have hstart : Kept (start approvals stages crewMessages) :=
    ⟨⟨CoordState.Sound.initial.coherent,CoordState.Sound.initial.placed⟩,hfiled⟩
  have hkept : ∀ pre, Kept (run host (start approvals stages crewMessages) pre) := fun pre =>
    foldl_invariant (I := Kept) hstart (fun _ op h => h.apply op) pre
  refine Iff.trans ?_ (foldl_relation_iff Final.refl Final.trans)
  constructor
  · intro h pre op hpre
    exact (final_step_iff (hkept pre).1 (hkept pre).2 op).mpr (h pre op hpre)
  · intro h pre op hpre
    exact (final_step_iff (hkept pre).1 (hkept pre).2 op).mp (h pre op hpre)

/-- A host for runs that neither stage nor approve an authorization. -/
def plainHost : StorageHost := ⟨id,fun _ => none,fun _ => ""⟩

/-- The approval a lease of a service waits for. -/
def pendingApproval : ApprovalRequest :=
  { id := "approval.claim", subjectId := "claim", approvalLevel := .role, requesterThread := "thread", ownerDomain := .odo
    reason := "role approval required before claim can activate" }

/-- The grant of a pending approval, made again by the same person. -/
theorem decided_approvals_final_once :
    let s₀ := start (Dict.empty.set pendingApproval.id pendingApproval) .empty .empty
    let grant := StorageOp.coord (.approveRequest "approval.claim" "sisko" none)
    let granted := Coordinator.approve pendingApproval "sisko" none
    Final (run plainHost s₀ [grant]) (run plainHost s₀ [grant,grant]) ∧
      (run plainHost s₀ [grant]).approvals.get? "approval.claim" = some granted ∧
      ∃ a, (run plainHost s₀ [grant,grant]).approvals.get? "approval.claim" = some a ∧ a.status = .approved ∧ a.decidedBy = granted.decidedBy := by
  intro s₀ grant granted
  have hfiled : (Dict.empty.set pendingApproval.id pendingApproval).Filed ApprovalRequest.id := (Dict.Filed.empty _).set _
  have hkeeps : ∀ pre op, pre ++ [op] <+: [grant,grant] → KeepsDecided plainHost (run plainHost s₀ pre) op := by
    intro pre op hpre
    have hop : op = grant := by
      have hmem : op ∈ [grant,grant] := hpre.subset (List.mem_append_right _ List.mem_cons_self)
      simpa using hmem
    subst hop
    intro old hold
    cases pre with
    | nil =>
      have hpending : (run plainHost s₀ []).approvals.get? "approval.claim" = some pendingApproval := rfl
      obtain rfl := Option.some.inj (hpending.symm.trans hold)
      exact .inl rfl
    | cons first rest =>
      obtain ⟨rfl,hrest⟩ := List.cons_prefix_cons.mp hpre
      have hlength : rest.length = 0 := by simpa using hrest.length_le
      obtain rfl := List.length_eq_zero_iff.mp hlength
      have hdecided : (run plainHost s₀ [grant]).approvals.get? "approval.claim" = some granted := rfl
      obtain rfl := Option.some.inj (hdecided.symm.trans hold)
      exact .inr ⟨rfl,rfl,rfl⟩
  have hfinal : Final (run plainHost s₀ [grant]) (run plainHost s₀ [grant,grant]) :=
    (decided_approvals_final plainHost _ .empty .empty hfiled [grant,grant]).mp hkeeps [grant] [grant] List.prefix_rfl
  have hbefore : (run plainHost s₀ [grant]).approvals.get? "approval.claim" = some granted := rfl
  obtain ⟨a,ha,hupheld⟩ := hfinal _ _ hbefore
  have hdecided := hupheld.decided (by decide)
  exact ⟨hfinal,hbefore,a,ha,hdecided.1,hdecided.2.1⟩

/-- A lease whose approval is granted twice. -/
def grantedTwice : List StorageOp := [.coord (.registerResource (serviceNamed "dock")),.coord (.requestClaim (CoordState.leaseOf "claim" "dock")),
  .coord (.approveRequest "approval.claim" "sisko" none),.coord (.approveRequest "approval.claim" "quark" none)]

theorem decided_approval_replaced : ¬ ∀ (host : StorageHost) (approvals : Dict ApprovalRequest) (stages : Dict StageRow)
    (crewMessages : Dict CrewMessage), approvals.Filed ApprovalRequest.id → ∀ (ops pre later : List StorageOp), pre ++ later <+: ops →
      Final (run host (start approvals stages crewMessages) pre) (run host (start approvals stages crewMessages) (pre ++ later)) := by
  intro hall
  have hfinal := hall plainHost .empty .empty .empty (Dict.Filed.empty _) grantedTwice (grantedTwice.take 3) (grantedTwice.drop 3)
    (by rw [List.take_append_drop])
  rw [List.take_append_drop] at hfinal
  have hbefore : (run plainHost (start .empty .empty .empty) (grantedTwice.take 3)).approvals.get? "approval.claim" =
      some (Coordinator.approve pendingApproval "sisko" none) := rfl
  have hafter : (run plainHost (start .empty .empty .empty) grantedTwice).approvals.get? "approval.claim" =
      some (Coordinator.approve pendingApproval "quark" none) := rfl
  obtain ⟨a,ha,hupheld⟩ := hfinal _ _ hbefore
  rw [hafter] at ha
  cases ha
  have hby := (hupheld.decided (by decide)).2.1
  revert hby
  decide

end StorageState
end Overseer.Core
