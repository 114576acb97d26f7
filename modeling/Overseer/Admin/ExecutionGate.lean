import Overseer.Admin.PolicyRuns

/-! # Commands behind the gate

In whatever order plans, profiles, advisories and approvals are written, a command runs for a plan
that is as the policy asks, on acceptances that were made for this very plan; and for a canceled
plan none runs until the plan is staged anew.
-/
namespace Overseer.Admin
open Overseer.Library Overseer.Core Overseer.Roadex Core.Admin

namespace AdminStore

/-! ### Permission -/

/-- A warning of the plan was accepted in the run, or warnings do not block. -/
def Overridden (ops : List AdminOp) (plan : AdminPlanRecord) (checkId : String) : Prop :=
  WarningAccepted ops plan.id checkId ∨ (run ops).profile.blockWarningsUntilAccepted = false

/-- What holds of a plan when one of its commands runs. -/
structure Gated (ops : List AdminOp) (plan : AdminPlanRecord) : Prop where
  notArchived : plan.archived = false
  notCanceled : plan.canceled = false
  complete : missingAdminChangeFields plan.toAdminChangePlan = []
  approved : plan.approved = true ∨ (plan.riskLevel = .low ∧ plan.approvalLevel = .none)
  level : approvalRank ((run ops).profile.minimum plan.riskLevel) ≤ approvalRank plan.approvalLevel
  adapter : plan.kind = .userServiceRestart ∨ AdapterEnabled ops plan.kind
  provider : unsupportedAptProviderForPlan plan.toAdminChangePlan = none
  review : (run ops).profile.requireIdsReviewForFirewall = true → adminPlanRequiresIdsReview plan = true →
    ∃ p ∈ (run ops).packages.values, p.planId = plan.id ∧ p.satisfiesPreExecutionReviewGate = true
  adapterOff : (run ops).profile.requireLiveAdapterEnabled = false → Overridden ops plan "admin.adapter.enabled"
  reviewOff : (run ops).profile.requireIdsReviewForFirewall = false → Overridden ops plan "admin.ids.review"
  findings : plan.residualScanFindings ≠ [] → Overridden ops plan "admin.scan.residual-findings"
  rollback : (run ops).profile.requireRollbackSteps = false ∨
    ((run ops).profile.warnOnAptUpgradeRollback = true ∧ plan.kind = .aptUpgrade) → Overridden ops plan "admin.rollback"
  verification : (run ops).profile.requireVerificationSteps = false → Overridden ops plan "admin.verification"

theorem waived_overridden {ops : List AdminOp} (hnames : NamesKept ops) {plan : AdminPlanRecord} {checkId : String} (hcheck : checkId ∈ policyCheckIds)
    (h : Waived (approvedAdminPolicyWarningCheckIds (run ops).approvals plan.id) (run ops).profile checkId) : Overridden ops plan checkId :=
  h.imp_left (warning_accepted hnames hcheck)

theorem mem_packagesFor {s : AdminStore} {planId : String} {p : IDSReviewPackage} (h : p ∈ s.packagesFor planId) :
    p ∈ s.packages.values ∧ p.planId = planId := by
  unfold packagesFor at h
  rw [List.mem_insertionSort] at h
  obtain ⟨hmem,hplan⟩ := List.mem_filter.mp h
  exact ⟨hmem,of_decide_eq_true hplan⟩

/-- What the policy permits, and may be executed, stands on the acceptances of the run. -/
theorem gated_of_permitted {ops : List AdminOp} (hnames : NamesKept ops) {plan : AdminPlanRecord} {enabled : List AdminChangeKind}
    (henabled : approvedAdminAdapterEnablementKinds (run ops).approvals = .ok enabled)
    (hpermitted : Permitted plan (adminExecutionCapabilityFor plan.kind enabled) ((run ops).packagesFor plan.id)
      (approvedAdminPolicyWarningCheckIds (run ops).approvals plan.id) (run ops).profile)
    (hexecute : MayExecute plan.toAdminChangePlan enabled) : Gated ops plan := by
  obtain ⟨harchived,hcanceled,hcomplete,happroved,hlevel,-,hreview,hadapterOff,hreviewOff,hfindings,hrollback,hverification⟩ := hpermitted
  refine ⟨harchived,hcanceled,hcomplete,happroved,hlevel,hexecute.enabled.imp_right (adapter_enabled hnames henabled),hexecute.supported,?_,
    fun h => waived_overridden hnames (by decide) (hadapterOff h),fun h => waived_overridden hnames (by decide) (hreviewOff h),
    fun h => waived_overridden hnames (by decide) (hfindings h),fun h => waived_overridden hnames (by decide) (hrollback h),
    fun h => waived_overridden hnames (by decide) (hverification h)⟩
  intro hrequired hfirewall
  obtain ⟨p,hp,hsatisfies⟩ := hreview hrequired hfirewall
  obtain ⟨hmem,hplan⟩ := mem_packagesFor hp
  exact ⟨p,hmem,hplan,hsatisfies⟩

/-! ### Execution -/

theorem loadPlan_ok {s : AdminStore} {planId : String} {plan : AdminPlanRecord} (h : s.loadPlan planId = .ok plan) :
    s.plans.get? planId = some plan := by
  unfold loadPlan at h
  split at h
  · next plan' hplan =>
    cases h
    exact hplan
  · cases h

theorem execute_of_canProceed {s : AdminStore} {planId : String} {plan : AdminPlanRecord} {enabled : List AdminChangeKind}
    (runner : AdminCommandRunner) (hplan : s.loadPlan planId = .ok plan) (henabled : approvedAdminAdapterEnablementKinds s.approvals = .ok enabled)
    (hproceed : (s.decision plan enabled).canProceed = true) :
    s.executeAdminChange planId runner = .ok (attemptAdminChangePlan plan.toAdminChangePlan runner enabled) := by
  unfold executeAdminChange
  rw [hplan,except_ok_bind,henabled,except_ok_bind]
  dsimp only
  rw [if_pos hproceed]
  rfl

theorem execute_of_blocked {s : AdminStore} {planId : String} {plan : AdminPlanRecord} {enabled : List AdminChangeKind}
    (runner : AdminCommandRunner) (hplan : s.loadPlan planId = .ok plan) (henabled : approvedAdminAdapterEnablementKinds s.approvals = .ok enabled)
    (hblocked : (s.decision plan enabled).canProceed = false) :
    s.executeAdminChange planId runner = .ok (pure (gateBlocked plan (s.decision plan enabled))) := by
  unfold executeAdminChange
  rw [hplan,except_ok_bind,henabled,except_ok_bind]
  dsimp only
  rw [if_neg (Bool.eq_false_iff.mp hblocked)]
  rfl

/-- A call that gives a command to the runner has found the plan permitted, and the plan one that may be executed. -/
theorem execute_commands {s : AdminStore} {planId : String} {runner : AdminCommandRunner} {attempt : Attempt AdminExecutionResult}
    (h : s.executeAdminChange planId runner = .ok attempt) (hcommand : (attempt.run []).2 ≠ []) : ∃ plan enabled,
      s.plans.get? planId = some plan ∧ approvedAdminAdapterEnablementKinds s.approvals = .ok enabled ∧
      Permitted plan (adminExecutionCapabilityFor plan.kind enabled) (s.packagesFor plan.id)
        (approvedAdminPolicyWarningCheckIds s.approvals plan.id) s.profile ∧ MayExecute plan.toAdminChangePlan enabled := by
  obtain ⟨plan,hplan,h⟩ := except_bind_ok h
  obtain ⟨enabled,henabled,h⟩ := except_bind_ok h
  dsimp only at h
  split at h
  · next hproceed =>
    cases h
    refine ⟨plan,enabled,loadPlan_ok hplan,henabled,permitted_iff.mp (canProceed_iff.mp hproceed),?_⟩
    by_contra hblocked
    obtain ⟨summary,hattempt⟩ := @attempt_of_not_mayExecute _ enabled runner hblocked
    rw [hattempt] at hcommand
    exact hcommand rfl
  · cases h
    exact absurd rfl hcommand

/-- In every reached state, a command runs only for a plan that the active profile permits, whose adapter is the one enabled by
default or was enabled, and each of whose warnings was accepted, in the run, by the name of that plan and check after it was asked for. -/
theorem commands_gated (ops : List AdminOp) (hnames : NamesKept ops) (planId : String) (runner : AdminCommandRunner) {attempt : Attempt AdminExecutionResult}
    (h : (run ops).executeAdminChange planId runner = .ok attempt) (hcommand : (attempt.run []).2 ≠ []) :
    ∃ plan, (run ops).plans.get? planId = some plan ∧ Gated ops plan := by
  obtain ⟨plan,enabled,hplan,henabled,hpermitted,hexecute⟩ := execute_commands h hcommand
  exact ⟨plan,hplan,gated_of_permitted hnames henabled hpermitted hexecute⟩

/-- An update to an image that still has findings, by an adapter that has to be enabled. -/
def updatePlan : AdminPlanRecord where
  toAdminChangePlan := { restartPlan with
    id := "update"
    kind := .dockerComposeUpdate
    steps := [⟨"update",["docker","compose","up","-d"],"new image"⟩] }
  residualScanFindings := ["one finding"]

/-- The adapter is enabled and the findings are accepted before the plan is executed. -/
def enabledRun : List AdminOp :=
  [.savePlan updatePlan,.requestEnablement .dockerComposeUpdate "sisko",
    .approveEnablement "approval.admin.adapter.enable.docker_compose_update" "operator" none,
    .requestWarning "update" "admin.scan.residual-findings" "sisko",
    .approveWarning "approval.admin.policy.warning.update.admin.scan.residual-findings" "operator" none]

def answered : AdminCommandRunner := fun _ step => some ⟨step.title,step.command,0,"",""⟩

theorem commands_gated_accepted : ∃ plan, (run enabledRun).plans.get? "update" = some plan ∧ Gated enabledRun plan ∧
    AdapterEnabled enabledRun .dockerComposeUpdate ∧ WarningAccepted enabledRun "update" "admin.scan.residual-findings" := by
  have hnames : NamesKept enabledRun := by
    intro a ha
    simp [enabledRun] at ha
  have hkinds : approvedAdminAdapterEnablementKinds (run enabledRun).approvals = .ok [.dockerComposeUpdate] := by rfl
  have hproceed : ((run enabledRun).decision updatePlan [.dockerComposeUpdate]).canProceed = true := by decide +kernel
  have hload : (run enabledRun).loadPlan "update" = .ok updatePlan := by rfl
  have hplan : (run enabledRun).plans.get? "update" = some updatePlan := loadPlan_ok hload
  have hmay : MayExecute updatePlan.toAdminChangePlan [.dockerComposeUpdate] := mayExecute_iff.mpr (by decide)
  have hcommand : ((attemptAdminChangePlan updatePlan.toAdminChangePlan answered [.dockerComposeUpdate]).run []).2 ≠ [] := by
    rw [attempt_of_mayExecute hmay]
    intro hnone
    cases hnone
  obtain ⟨plan,hstored,hgated⟩ := commands_gated enabledRun hnames "update" answered (execute_of_canProceed answered hload hkinds hproceed) hcommand
  obtain rfl : updatePlan = plan := Option.some.inj (hplan.symm.trans hstored)
  have hblocks : (run enabledRun).profile.blockWarningsUntilAccepted ≠ false := by decide +kernel
  exact ⟨updatePlan,hplan,hgated,hgated.adapter.resolve_left (by decide),(hgated.findings (by decide)).resolve_right hblocks⟩

/-! ### Cancellation -/

def PlansFiled (s : AdminStore) : Prop := Dict.Filed (fun plan : AdminPlanRecord => plan.id) s.plans

theorem lifecycle_keeps {p q : AdminPlanRecord} {step : LifecycleStep} (h : step.apply p = .ok q) :
    q.id = p.id ∧ (p.canceled = true → q.canceled = true) := by
  cases step with
  | approve approvedBy approvedAt =>
    obtain ⟨_,-,h⟩ := except_bind_ok h
    obtain ⟨_,-,h⟩ := except_bind_ok h
    obtain ⟨_,-,h⟩ := except_bind_ok h
    cases h
    exact ⟨rfl,id⟩
  | cancel canceledBy reason canceledAt =>
    obtain ⟨_,-,h⟩ := except_bind_ok h
    obtain ⟨_,-,h⟩ := except_bind_ok h
    cases h
    exact ⟨rfl,fun _ => rfl⟩
  | archive archiveRecordId archivedBy archivedAt =>
    obtain ⟨_,-,h⟩ := except_bind_ok h
    obtain ⟨_,-,h⟩ := except_bind_ok h
    cases h
    exact ⟨rfl,id⟩
  | unarchive restoredBy =>
    obtain ⟨_,-,h⟩ := except_bind_ok h
    obtain ⟨_,-,h⟩ := except_bind_ok h
    cases h
    exact ⟨rfl,id⟩

/-- All that a call may do to the plans. -/
theorem apply_plans {s s' : AdminStore} {op : AdminOp} (hs : s.PlansFiled) (h : s.apply op = .ok s') : s'.plans = s.plans ∨
    (∃ plan, op = .savePlan plan ∧ s'.plans = s.plans.set plan.id plan) ∨
    (∃ plan plan', s.plans.get? plan'.id = some plan ∧ (plan.canceled = true → plan'.canceled = true) ∧ s'.plans = s.plans.set plan'.id plan') := by
  cases op with
  | savePlan plan =>
    cases h
    exact .inr (.inl ⟨plan,rfl,rfl⟩)
  | changePlan planId step =>
    obtain ⟨plan,hplan,h⟩ := except_bind_ok h
    obtain ⟨plan',hstep,h⟩ := except_bind_ok h
    cases h
    obtain ⟨hid,hcanceled⟩ := lifecycle_keeps hstep
    have hplan := loadPlan_ok hplan
    have hname : plan.id = planId := hs planId plan hplan
    refine .inr (.inr ⟨plan,plan',?_,hcanceled,rfl⟩)
    rw [hid,hname]
    exact hplan
  | savePackage package =>
    cases h
    exact .inl rfl
  | saveProfile profile =>
    cases h
    exact .inl rfl
  | requestWarning planId checkId requestedBy =>
    obtain ⟨_,-,h⟩ := except_bind_ok h
    obtain ⟨_,-,h⟩ := except_bind_ok h
    obtain ⟨_,-,h⟩ := except_bind_ok h
    obtain ⟨_,-,h⟩ := except_bind_ok h
    obtain ⟨_,-,h⟩ := except_bind_ok h
    cases h
    exact .inl rfl
  | requestEnablement kind requestedBy =>
    obtain ⟨_,-,h⟩ := except_bind_ok h
    obtain ⟨_,-,h⟩ := except_bind_ok h
    cases h
    exact .inl rfl
  | approveWarning approvalId approvedBy approvedAt =>
    obtain ⟨_,-,h⟩ := except_bind_ok (approveWarning_ok h)
    cases h
    exact .inl rfl
  | approveEnablement approvalId approvedBy approvedAt =>
    obtain ⟨_,-,h⟩ := except_bind_ok (approveEnablement_ok h)
    cases h
    exact .inl rfl
  | approveClaim approvalId decidedBy decidedAt =>
    obtain ⟨_,-,h⟩ := except_bind_ok h
    cases h
    exact .inl rfl
  | saveApproval approval =>
    cases h
    exact .inl rfl

/-- The plan under the id is canceled. -/
def Canceled (s : AdminStore) (planId : String) : Prop := ∃ plan, s.plans.get? planId = some plan ∧ plan.canceled = true

theorem step_plans {s : AdminStore} (hs : s.PlansFiled) (op : AdminOp) : (s.step op).PlansFiled ∧
    ∀ planId, (∀ plan, op = .savePlan plan → plan.id ≠ planId) → s.Canceled planId → (s.step op).Canceled planId := by
  unfold step
  split
  · next s' happly =>
    rcases apply_plans hs happly with hsame | ⟨plan,rfl,hplans⟩ | ⟨plan,plan',hplan,hcanceled,hplans⟩
    · unfold PlansFiled Canceled
      rw [hsame]
      exact ⟨hs,fun _ _ h => h⟩
    · unfold PlansFiled Canceled
      rw [hplans]
      refine ⟨Dict.Filed.set hs plan,fun planId hother h => ?_⟩
      obtain ⟨q,hq,hqc⟩ := h
      refine ⟨q,?_,hqc⟩
      rw [Dict.get?_set,if_neg fun heq => hother plan rfl heq.symm]
      exact hq
    · unfold PlansFiled Canceled
      rw [hplans]
      refine ⟨Dict.Filed.set hs plan',fun planId _ h => ?_⟩
      obtain ⟨q,hq,hqc⟩ := h
      rw [Dict.get?_set]
      split
      · next heq =>
        rw [heq,hplan] at hq
        cases hq
        exact ⟨plan',rfl,hcanceled hqc⟩
      · exact ⟨q,hq,hqc⟩
  · exact ⟨hs,fun _ _ h => h⟩

theorem run_plansFiled (ops : List AdminOp) : (run ops).PlansFiled := by
  induction ops using List.reverseRecOn with
  | nil => exact Dict.Filed.empty _
  | append_singleton ops op ih =>
    rw [run_concat]
    exact (step_plans ih op).1

theorem canceled_kept {ops later : List AdminOp} {planId : String} (h : (run ops).Canceled planId)
    (hlater : ∀ plan, .savePlan plan ∈ later → plan.id ≠ planId) : (run (ops ++ later)).Canceled planId := by
  induction later using List.reverseRecOn with
  | nil => rwa [List.append_nil]
  | append_singleton later op ih =>
    rw [← List.append_assoc,run_concat]
    have hbefore := ih fun plan hplan => hlater plan (List.mem_append_left _ hplan)
    refine (step_plans (run_plansFiled _) op).2 planId (fun plan hop => hlater plan ?_) hbefore
    rw [hop]
    exact List.mem_append_right _ List.mem_cons_self

/-- Once a plan is canceled, no command of it runs, whatever is approved, accepted or restored afterwards, until a
plan is staged under its id. -/
theorem canceled_never_runs {ops later : List AdminOp} {planId canceledBy reason : String} {canceledAt : Option String} {s' : AdminStore}
    (hcancel : (run ops).apply (.changePlan planId (.cancel canceledBy reason canceledAt)) = .ok s')
    (hlater : ∀ plan, .savePlan plan ∈ later → plan.id ≠ planId) {runner : AdminCommandRunner} {attempt : Attempt AdminExecutionResult}
    (h : (run (ops ++ .changePlan planId (.cancel canceledBy reason canceledAt) :: later)).executeAdminChange planId runner = .ok attempt) :
    (attempt.run []).2 = [] := by
  have hrun : run (ops ++ [.changePlan planId (.cancel canceledBy reason canceledAt)]) = s' := by
    rw [run_concat]
    unfold step
    rw [hcancel]
  have hcanceled : s'.Canceled planId := by
    obtain ⟨plan,hplan,hcancel⟩ := except_bind_ok hcancel
    obtain ⟨plan',hstep,hcancel⟩ := except_bind_ok hcancel
    have hname := run_plansFiled ops planId plan (loadPlan_ok hplan)
    have hid := (lifecycle_keeps hstep).1
    cases hcancel
    refine ⟨plan',?_,?_⟩
    · change (Dict.set _ plan'.id plan').get? planId = _
      rw [Dict.get?_set,if_pos (hname.symm.trans hid.symm)]
    · obtain ⟨_,-,hstep⟩ := except_bind_ok hstep
      obtain ⟨_,-,hstep⟩ := except_bind_ok hstep
      cases hstep
      rfl
  rw [← hrun] at hcanceled
  have hkept := canceled_kept hcanceled hlater
  rw [List.append_assoc] at hkept
  by_contra hcommand
  obtain ⟨plan,enabled,hplan,-,hpermitted,-⟩ := execute_commands h hcommand
  obtain ⟨q,hq,hqc⟩ := hkept
  have hsame : (run (ops ++ ([.changePlan planId (.cancel canceledBy reason canceledAt)] ++ later))).plans.get? planId = some plan := hplan
  rw [hsame] at hq
  cases hq
  rw [hpermitted.notCanceled] at hqc
  cases hqc

/-- The restart of a service whose image still has findings. -/
def scannedPlan : AdminPlanRecord where
  toAdminChangePlan := restartPlan
  residualScanFindings := ["one finding"]

/-- The findings are accepted before the plan is executed. -/
def acceptedRun : List AdminOp :=
  [.savePlan scannedPlan,.requestWarning "restart" "admin.scan.residual-findings" "sisko",
    .approveWarning "approval.admin.policy.warning.restart.admin.scan.residual-findings" "operator" none]

/-- The plan is canceled, and its findings are accepted afterwards. -/
def canceledRun : List AdminOp := [.savePlan scannedPlan] ++ .changePlan "restart" (.cancel "sisko" "not now" none) :: acceptedRun.tail

theorem canceled_never_runs_accepted :
    ∃ attempt, (run canceledRun).executeAdminChange "restart" answered = .ok attempt ∧ (attempt.run []).2 = [] := by
  have hlater : ∀ plan, .savePlan plan ∈ acceptedRun.tail → plan.id ≠ "restart" := by
    intro plan hplan
    simp [acceptedRun] at hplan
  have hcancel : ∃ s, (run [.savePlan scannedPlan]).apply (.changePlan "restart" (.cancel "sisko" "not now" none)) = .ok s := ⟨_,rfl⟩
  have hblocked : ∃ plan, (run canceledRun).executeAdminChange "restart" answered =
      .ok (pure (gateBlocked plan ((run canceledRun).decision plan []))) :=
    ⟨_,execute_of_blocked answered rfl rfl (by decide +kernel)⟩
  obtain ⟨s,hcancel⟩ := hcancel
  obtain ⟨plan,hblocked⟩ := hblocked
  exact ⟨_,hblocked,canceled_never_runs hcancel hlater hblocked⟩

end AdminStore
end Overseer.Admin
