import Overseer.Core.AdminRollback
import Overseer.Roadex.AdminPlans

/-! # The policy gate of admin changes

`evaluate_admin_change_policy` of `policy.py`: nine checks of a plan, each of which passes, warns or
blocks. A warning that was accepted passes; what blocks stays blocked.
-/
namespace Overseer.Admin
open Overseer.Library Overseer.Core Overseer.Roadex Core.Admin

inductive PolicyCheckStatus where
  | pass | warn | block
  deriving DecidableEq

def PolicyCheckStatus.value : PolicyCheckStatus → String
  | .pass => "pass"
  | .warn => "warn"
  | .block => "block"

structure PolicyCheck where
  id : String
  status : PolicyCheckStatus
  ownerDomain : OwnerDomain
  summary : String
  evidenceIds : List String := []
  deriving DecidableEq

structure PolicyDecision where
  subjectId : String
  subjectKind : String
  status : PolicyCheckStatus
  checks : List PolicyCheck
  warningsBlockExecution : Bool := true
  deriving DecidableEq

def PolicyDecision.canProceed (d : PolicyDecision) : Bool :=
  d.status = .pass || (d.status = .warn && !d.warningsBlockExecution)

def approvalRank : ApprovalLevel → ℕ
  | .none => 0
  | .role => 1
  | .sisko => 2
  | .human => 3

structure PolicyProfile where
  name : String := "best-practice"
  description : String := "Conservative local-admin defaults for Overseer-controlled host changes."
  minimumApprovalByRisk : List (RiskLevel × ApprovalLevel) := [(.low,.none),(.medium,.sisko),(.high,.sisko),(.critical,.human)]
  requireLiveAdapterEnabled : Bool := true
  requireRollbackSteps : Bool := true
  warnOnAptUpgradeRollback : Bool := false
  requireVerificationSteps : Bool := true
  requireIdsReviewForFirewall : Bool := true
  blockWarningsUntilAccepted : Bool := true
  deriving DecidableEq

/-- `profile.minimum_approval_by_risk.get(risk, HUMAN)`. -/
def PolicyProfile.minimum (profile : PolicyProfile) (risk : RiskLevel) : ApprovalLevel :=
  ((profile.minimumApprovalByRisk.find? fun e => e.1 = risk).map Prod.snd).getD .human

inductive IDSReviewPackageStatus where
  | prepared | submitted | accepted | revisionRequired
  deriving DecidableEq

/-- A `HostSecurityIDSReviewPackage`, as far as the gate reads it. -/
structure IDSReviewPackage where
  id : String
  planId : String
  status : IDSReviewPackageStatus
  advisoryResult : Option String := none
  deriving DecidableEq

def IDSReviewPackage.satisfiesPreExecutionReviewGate (p : IDSReviewPackage) : Bool :=
  p.status = .accepted && !isBlank (p.advisoryResult.getD "")

def adminPlanRequiresIdsReview (plan : AdminPlanRecord) : Bool := plan.kind ∈ [AdminChangeKind.firewallAllowTcp,.firewallDenyTcp,.blockIp]

/-! ### The checks -/

def planStateCheck (plan : AdminPlanRecord) : PolicyCheck :=
  if plan.archived then ⟨"admin.plan.state",.block,plan.ownerDomain,"archived admin plans cannot execute",
    (plan.archiveRecordId.filter (· ≠ "")).toList⟩
  else if plan.canceled then ⟨"admin.plan.state",.block,plan.ownerDomain,"canceled admin plans cannot execute",[]⟩
  else ⟨"admin.plan.state",.pass,plan.ownerDomain,"admin plan is active",[]⟩

def planCompletenessCheck (plan : AdminPlanRecord) : PolicyCheck :=
  let missing := missingAdminChangeFields plan.toAdminChangePlan
  if missing ≠ [] then ⟨"admin.plan.completeness",.block,plan.ownerDomain,
    "admin plan is missing required fields: " ++ ", ".intercalate missing,[]⟩
  else ⟨"admin.plan.completeness",.pass,plan.ownerDomain,"admin plan includes commands, risks, rollback, and verification",[]⟩

def approvalCheck (plan : AdminPlanRecord) : PolicyCheck :=
  if requiresExplicitApproval plan.toAdminChangePlan ∧ ¬ plan.approved then
    ⟨"admin.plan.approval",.block,plan.ownerDomain,plan.approvalLevel.value ++ " approval is required before execution",[]⟩
  else if plan.approved then ⟨"admin.plan.approval",.pass,plan.ownerDomain,
    "admin plan approved by " ++ ((plan.approvedBy.filter (· ≠ "")).getD "unknown approver"),[]⟩
  else ⟨"admin.plan.approval",.pass,plan.ownerDomain,"no explicit approval required",[]⟩

def AdminAdapterStatus.text : AdminAdapterStatus → String
  | .enabled => "enabled"
  | .disabled => "disabled"
  | .unsupported => "unsupported"

def adapterCheck (plan : AdminPlanRecord) (capability : AdminExecutionCapability) (profile : PolicyProfile) : PolicyCheck :=
  if ¬ profile.requireLiveAdapterEnabled then ⟨"admin.adapter.enabled",.warn,plan.ownerDomain,
    "policy profile does not block on live adapter status; executor capability still applies",[]⟩
  else if ¬ capability.canExecuteLive then ⟨"admin.adapter.enabled",.block,plan.ownerDomain,
    "live adapter is " ++ AdminAdapterStatus.text capability.status ++ ": " ++ capability.summary,[]⟩
  else ⟨"admin.adapter.enabled",.pass,plan.ownerDomain,"live adapter is enabled: " ++ capability.adapterName,[]⟩

def idsReviewCheck (plan : AdminPlanRecord) (packages : List IDSReviewPackage) (profile : PolicyProfile) : PolicyCheck :=
  let accepted := packages.filter (·.satisfiesPreExecutionReviewGate)
  if ¬ profile.requireIdsReviewForFirewall then ⟨"admin.ids.review",.warn,.odoIds,
    "policy profile does not block firewall-affecting plans on IDS advisory review",packages.map (·.id)⟩
  else if ¬ adminPlanRequiresIdsReview plan then ⟨"admin.ids.review",.pass,.odoIds,"IDS review is not required",[]⟩
  else if accepted = [] then ⟨"admin.ids.review",.block,.odoIds,
    "accepted IDS/firewall advisory is required before approval or execution",packages.map (·.id)⟩
  else ⟨"admin.ids.review",.pass,.odoIds,"accepted IDS/firewall advisory is present",accepted.map (·.id)⟩

def residualScanFindingsCheck (plan : AdminPlanRecord) : PolicyCheck :=
  if plan.residualScanFindings = [] then ⟨"admin.scan.residual-findings",.pass,.odo,
    "no residual critical/high image findings declared",[]⟩
  else ⟨"admin.scan.residual-findings",.warn,.odo,
    "replacement images still have residual critical/high findings: " ++ "; ".intercalate plan.residualScanFindings,[]⟩

def rollbackCheck (plan : AdminPlanRecord) (profile : PolicyProfile) : PolicyCheck :=
  if ¬ profile.requireRollbackSteps then ⟨"admin.rollback",.warn,plan.ownerDomain,"policy profile allows missing rollback steps",[]⟩
  else if plan.rollbackSteps.isEmpty then ⟨"admin.rollback",.block,plan.ownerDomain,"rollback steps are required",[]⟩
  else if profile.warnOnAptUpgradeRollback ∧ plan.kind = .aptUpgrade then ⟨"admin.rollback",.warn,plan.ownerDomain,
    "apt upgrades may require operator-selected rollback because package downgrades are not always available",[]⟩
  else ⟨"admin.rollback",.pass,plan.ownerDomain,"rollback steps are recorded",[]⟩

def verificationCheck (plan : AdminPlanRecord) (profile : PolicyProfile) : PolicyCheck :=
  if ¬ profile.requireVerificationSteps then ⟨"admin.verification",.warn,.julian,"policy profile allows missing verification steps",[]⟩
  else if plan.verificationSteps.isEmpty then ⟨"admin.verification",.block,plan.ownerDomain,"verification steps are required",[]⟩
  else ⟨"admin.verification",.pass,.julian,"verification steps are recorded",[]⟩

def riskApprovalCheck (plan : AdminPlanRecord) (profile : PolicyProfile) : PolicyCheck :=
  let minimum := profile.minimum plan.riskLevel
  if approvalRank plan.approvalLevel < approvalRank minimum then ⟨"admin.risk.approval-level",.block,.sisko,
    plan.riskLevel.value ++ "-risk admin changes require at least " ++ minimum.value ++ " approval",[]⟩
  else ⟨"admin.risk.approval-level",.pass,.sisko,"risk level and approval level are compatible",[]⟩

/-! ### The decision -/

/-- A warning that was accepted passes. -/
def acceptWarning (acceptedWarningCheckIds : List String) (check : PolicyCheck) : PolicyCheck :=
  if check.status = .warn ∧ check.id ∈ acceptedWarningCheckIds then
    { check with
      status := .pass
      summary := "accepted residual warning: " ++ check.summary }
  else check

def overallStatus (checks : List PolicyCheck) : PolicyCheckStatus :=
  if checks.any fun check => check.status = .block then .block
  else if checks.any fun check => check.status = .warn then .warn
  else .pass

/-- The checks before any warning is accepted. -/
def policyChecks (plan : AdminPlanRecord) (capability : AdminExecutionCapability) (packages : List IDSReviewPackage) (profile : PolicyProfile) :
    List PolicyCheck :=
  [planStateCheck plan,planCompletenessCheck plan,approvalCheck plan,adapterCheck plan capability profile,
    idsReviewCheck plan packages profile,residualScanFindingsCheck plan,rollbackCheck plan profile,verificationCheck plan profile,
    riskApprovalCheck plan profile]

def evaluateAdminChangePolicy (plan : AdminPlanRecord) (capability : AdminExecutionCapability) (packages : List IDSReviewPackage)
    (acceptedWarningCheckIds : List String) (profile : PolicyProfile) : PolicyDecision :=
  let checks := (policyChecks plan capability packages profile).map (acceptWarning acceptedWarningCheckIds)
  { subjectId := plan.id
    subjectKind := plan.kind.value
    status := overallStatus checks
    checks := checks
    warningsBlockExecution := profile.blockWarningsUntilAccepted }

/-! ### What the gate lets through -/

/-- A check that stands as a warning is waived. -/
def Waived (accepted : List String) (profile : PolicyProfile) (checkId : String) : Prop :=
  checkId ∈ accepted ∨ profile.blockWarningsUntilAccepted = false

/-- What the policy asks of a plan. The last conditions are about warnings: the profile switches a check off, but
then someone has to accept that. -/
structure Permitted (plan : AdminPlanRecord) (capability : AdminExecutionCapability) (packages : List IDSReviewPackage)
    (accepted : List String) (profile : PolicyProfile) : Prop where
  notArchived : plan.archived = false
  notCanceled : plan.canceled = false
  complete : missingAdminChangeFields plan.toAdminChangePlan = []
  approved : plan.approved = true ∨ (plan.riskLevel = .low ∧ plan.approvalLevel = .none)
  level : approvalRank (profile.minimum plan.riskLevel) ≤ approvalRank plan.approvalLevel
  adapter : profile.requireLiveAdapterEnabled = true → capability.canExecuteLive = true
  review : profile.requireIdsReviewForFirewall = true → adminPlanRequiresIdsReview plan = true →
    ∃ p ∈ packages, p.satisfiesPreExecutionReviewGate = true
  adapterWaived : profile.requireLiveAdapterEnabled = false → Waived accepted profile "admin.adapter.enabled"
  reviewWaived : profile.requireIdsReviewForFirewall = false → Waived accepted profile "admin.ids.review"
  findingsWaived : plan.residualScanFindings ≠ [] → Waived accepted profile "admin.scan.residual-findings"
  rollbackWaived : profile.requireRollbackSteps = false ∨ (profile.warnOnAptUpgradeRollback = true ∧ plan.kind = .aptUpgrade) →
    Waived accepted profile "admin.rollback"
  verificationWaived : profile.requireVerificationSteps = false → Waived accepted profile "admin.verification"

/-- A check lets a plan through when it passes, or warns and is waived. -/
def Admitted (accepted : List String) (profile : PolicyProfile) (check : PolicyCheck) : Prop :=
  check.status = .pass ∨ (check.status = .warn ∧ Waived accepted profile check.id)

section Gate
variable {plan : AdminPlanRecord} {capability : AdminExecutionCapability} {packages : List IDSReviewPackage} {accepted : List String}
  {profile : PolicyProfile}

theorem acceptWarning_status (check : PolicyCheck) : (acceptWarning accepted check).status =
    if check.status = .warn ∧ check.id ∈ accepted then .pass else check.status := by
  unfold acceptWarning
  split <;> rfl

theorem overallStatus_pass (checks : List PolicyCheck) : overallStatus checks = .pass ↔ ∀ check ∈ checks, check.status = .pass := by
  unfold overallStatus
  constructor
  · intro h check hcheck
    split at h
    · cases h
    · next hblock =>
      split at h
      · cases h
      · next hwarn =>
        have hnotBlock : check.status ≠ .block := fun heq => hblock (List.any_eq_true.mpr ⟨check,hcheck,by simpa using heq⟩)
        have hnotWarn : check.status ≠ .warn := fun heq => hwarn (List.any_eq_true.mpr ⟨check,hcheck,by simpa using heq⟩)
        cases hstatus : check.status with
        | pass => rfl
        | warn => exact absurd hstatus hnotWarn
        | block => exact absurd hstatus hnotBlock
  · intro h
    have hnone : ∀ status, status ≠ .pass → (checks.any fun check => check.status = status) = false := by
      intro status hstatus
      refine List.any_eq_false.mpr fun check hcheck => ?_
      rw [h check hcheck]
      simpa using hstatus.symm
    rw [hnone .block (by decide),hnone .warn (by decide)]
    rfl

theorem overallStatus_block (checks : List PolicyCheck) : overallStatus checks = .block ↔ ∃ check ∈ checks, check.status = .block := by
  unfold overallStatus
  split
  · next hblock => simpa using hblock
  · next hblock =>
    refine ⟨fun h => ?_,fun h => absurd (by simpa using h) hblock⟩
    split at h <;> cases h

/-- The decision lets a plan through exactly when every check does. -/
theorem canProceed_iff : (evaluateAdminChangePolicy plan capability packages accepted profile).canProceed = true ↔
    ∀ check ∈ policyChecks plan capability packages profile, Admitted accepted profile check := by
  have hstatus : ∀ check : PolicyCheck, ((acceptWarning accepted check).status = .block ↔ check.status = .block) ∧
      ((acceptWarning accepted check).status = .pass ↔ check.status = .pass ∨ check.status = .warn ∧ check.id ∈ accepted) := by
    intro check
    rw [acceptWarning_status]
    cases check.status <;> by_cases hmem : check.id ∈ accepted <;> simp [hmem]
  unfold PolicyDecision.canProceed evaluateAdminChangePolicy
  simp only [Bool.or_eq_true,Bool.and_eq_true,decide_eq_true_eq,Bool.not_eq_true']
  constructor
  · rintro (hpass | ⟨hwarn,hlax⟩) check hcheck
    · have hmem := (overallStatus_pass _).mp hpass _ (List.mem_map_of_mem hcheck)
      exact ((hstatus check).2.mp hmem).imp_right fun h => ⟨h.1,.inl h.2⟩
    · cases hcheckStatus : check.status with
      | pass => exact .inl hcheckStatus
      | warn => exact .inr ⟨hcheckStatus,.inr hlax⟩
      | block =>
        have hblock := (overallStatus_block ((policyChecks plan capability packages profile).map (acceptWarning accepted))).mpr
          ⟨_,List.mem_map_of_mem hcheck,(hstatus check).1.mpr hcheckStatus⟩
        rw [hwarn] at hblock
        cases hblock
  · intro h
    cases hoverall : overallStatus ((policyChecks plan capability packages profile).map (acceptWarning accepted)) with
    | pass => exact .inl rfl
    | warn =>
      refine .inr ⟨rfl,?_⟩
      by_contra hstrict
      have hall : ∀ check ∈ (policyChecks plan capability packages profile).map (acceptWarning accepted), check.status = .pass := by
        intro check hcheck
        obtain ⟨check,hmem,rfl⟩ := List.mem_map.mp hcheck
        refine (hstatus check).2.mpr ((h check hmem).imp_right fun hwaived => ⟨hwaived.1,?_⟩)
        exact hwaived.2.resolve_right hstrict
      rw [(overallStatus_pass _).mpr hall] at hoverall
      cases hoverall
    | block =>
      obtain ⟨check,hcheck,hblock⟩ := (overallStatus_block _).mp hoverall
      obtain ⟨check,hmem,rfl⟩ := List.mem_map.mp hcheck
      have hcheckBlock := (hstatus check).1.mp hblock
      rcases h check hmem with hpass | ⟨hwarn,-⟩
      · rw [hcheckBlock] at hpass
        cases hpass
      · rw [hcheckBlock] at hwarn
        cases hwarn

/-! ### One check after another -/

theorem admitted_planState : Admitted accepted profile (planStateCheck plan) ↔ plan.archived = false ∧ plan.canceled = false := by
  unfold Admitted planStateCheck
  cases plan.archived <;> cases plan.canceled <;> simp

theorem admitted_planCompleteness :
    Admitted accepted profile (planCompletenessCheck plan) ↔ missingAdminChangeFields plan.toAdminChangePlan = [] := by
  unfold Admitted planCompletenessCheck
  by_cases h : missingAdminChangeFields plan.toAdminChangePlan = [] <;> simp [h]

theorem admitted_approval (hcanceled : plan.canceled = false) : Admitted accepted profile (approvalCheck plan) ↔
    plan.approved = true ∨ (plan.riskLevel = .low ∧ plan.approvalLevel = .none) := by
  unfold Admitted approvalCheck requiresExplicitApproval
  rw [hcanceled]
  cases plan.approved <;> cases plan.riskLevel <;> cases plan.approvalLevel <;> simp

theorem admitted_adapter : Admitted accepted profile (adapterCheck plan capability profile) ↔
    (profile.requireLiveAdapterEnabled = true → capability.canExecuteLive = true) ∧
    (profile.requireLiveAdapterEnabled = false → Waived accepted profile "admin.adapter.enabled") := by
  unfold Admitted adapterCheck
  cases profile.requireLiveAdapterEnabled <;> cases capability.canExecuteLive <;> simp

theorem admitted_idsReview : Admitted accepted profile (idsReviewCheck plan packages profile) ↔
    (profile.requireIdsReviewForFirewall = true → adminPlanRequiresIdsReview plan = true →
      ∃ p ∈ packages, p.satisfiesPreExecutionReviewGate = true) ∧
    (profile.requireIdsReviewForFirewall = false → Waived accepted profile "admin.ids.review") := by
  have hnone : packages.filter (·.satisfiesPreExecutionReviewGate) = [] ↔ ¬ ∃ p ∈ packages, p.satisfiesPreExecutionReviewGate = true := by
    rw [List.filter_eq_nil_iff]
    push Not
    exact Iff.rfl
  unfold Admitted idsReviewCheck
  simp only [hnone]
  cases profile.requireIdsReviewForFirewall <;> cases adminPlanRequiresIdsReview plan <;>
    by_cases hany : ∃ p ∈ packages, p.satisfiesPreExecutionReviewGate = true <;> simp [hany]

theorem admitted_residualScanFindings : Admitted accepted profile (residualScanFindingsCheck plan) ↔
    (plan.residualScanFindings ≠ [] → Waived accepted profile "admin.scan.residual-findings") := by
  unfold Admitted residualScanFindingsCheck
  by_cases h : plan.residualScanFindings = [] <;> simp [h]

theorem admitted_rollback (hsteps : plan.rollbackSteps.isEmpty = false) : Admitted accepted profile (rollbackCheck plan profile) ↔
    (profile.requireRollbackSteps = false ∨ (profile.warnOnAptUpgradeRollback = true ∧ plan.kind = .aptUpgrade) →
      Waived accepted profile "admin.rollback") := by
  unfold Admitted rollbackCheck
  rw [hsteps]
  cases profile.requireRollbackSteps <;> cases profile.warnOnAptUpgradeRollback <;> by_cases hkind : plan.kind = .aptUpgrade <;> simp [hkind]

theorem admitted_verification (hsteps : plan.verificationSteps.isEmpty = false) : Admitted accepted profile (verificationCheck plan profile) ↔
    (profile.requireVerificationSteps = false → Waived accepted profile "admin.verification") := by
  unfold Admitted verificationCheck
  rw [hsteps]
  cases profile.requireVerificationSteps <;> simp

theorem admitted_riskApproval : Admitted accepted profile (riskApprovalCheck plan profile) ↔
    approvalRank (profile.minimum plan.riskLevel) ≤ approvalRank plan.approvalLevel := by
  unfold Admitted riskApprovalCheck
  by_cases h : approvalRank plan.approvalLevel < approvalRank (profile.minimum plan.riskLevel)
  · simp [h]
  · simp [h,Nat.le_of_not_lt h]

theorem steps_of_complete (h : missingAdminChangeFields plan.toAdminChangePlan = []) :
    plan.rollbackSteps.isEmpty = false ∧ plan.verificationSteps.isEmpty = false := by
  unfold missingAdminChangeFields at h
  simp only [List.append_eq_nil_iff] at h
  obtain ⟨⟨⟨-,hrollback⟩,-⟩,hverification⟩ := h
  constructor
  · cases hempty : plan.rollbackSteps.isEmpty with
    | false => rfl
    | true =>
      rw [hempty] at hrollback
      cases hrollback
  · cases hempty : plan.verificationSteps.isEmpty with
    | false => rfl
    | true =>
      rw [hempty] at hverification
      cases hverification

theorem permitted_iff : (∀ check ∈ policyChecks plan capability packages profile, Admitted accepted profile check) ↔
    Permitted plan capability packages accepted profile := by
  unfold policyChecks
  simp only [List.forall_mem_cons,List.not_mem_nil,false_implies,implies_true,and_true]
  rw [admitted_planState,admitted_planCompleteness,admitted_adapter,admitted_idsReview,admitted_residualScanFindings,admitted_riskApproval]
  constructor
  · rintro ⟨⟨harchived,hcanceled⟩,hcomplete,happroval,⟨hadapter,hadapterWaived⟩,⟨hreview,hreviewWaived⟩,hfindings,hrollback,hverification,hlevel⟩
    obtain ⟨hrollbackSteps,hverificationSteps⟩ := steps_of_complete hcomplete
    exact ⟨harchived,hcanceled,hcomplete,(admitted_approval hcanceled).mp happroval,hlevel,hadapter,hreview,hadapterWaived,hreviewWaived,
      hfindings,(admitted_rollback hrollbackSteps).mp hrollback,(admitted_verification hverificationSteps).mp hverification⟩
  · rintro ⟨harchived,hcanceled,hcomplete,happroval,hlevel,hadapter,hreview,hadapterWaived,hreviewWaived,hfindings,hrollback,hverification⟩
    obtain ⟨hrollbackSteps,hverificationSteps⟩ := steps_of_complete hcomplete
    exact ⟨⟨harchived,hcanceled⟩,hcomplete,(admitted_approval hcanceled).mpr happroval,⟨hadapter,hadapterWaived⟩,⟨hreview,hreviewWaived⟩,
      hfindings,(admitted_rollback hrollbackSteps).mpr hrollback,(admitted_verification hverificationSteps).mpr hverification,hlevel⟩

/-- A plan may proceed exactly when it is as the policy asks: no acceptance lifts what blocks, and where the profile
switches a check off the warning that is left has to be accepted. -/
theorem gate_permits_iff : (evaluateAdminChangePolicy plan capability packages accepted profile).canProceed = true ↔
    Permitted plan capability packages accepted profile := canProceed_iff.trans permitted_iff

end Gate
end Overseer.Admin
