import Mathlib.Data.List.Sort
import Mathlib.Data.List.Dedup
import Mathlib.Data.List.Lex
import Mathlib.Data.Char
import Overseer.Admin.Policy
import Overseer.Library.Traversal

/-! # What the gate rests on

The operations of `cli.py` on admin plans: plans and their life cycle, advisories, the active profile, and
the two kinds of approval that the gate reads, for a warning of one plan and for an adapter of
one kind. Both are approvals that were asked for by name and given since, as long as nothing else that saves
approvals uses their names.
-/
namespace Overseer.Admin
open Overseer.Library Overseer.Core Overseer.Roadex Core.Admin

/-! ### The store -/

structure AdminStore where
  plans : Dict AdminPlanRecord := .empty
  approvals : Dict ApprovalRequest := .empty
  packages : Dict IDSReviewPackage := .empty
  profile : PolicyProfile := {}

/-- The kinds in the order of their values. -/
def kindsByValue : List AdminChangeKind :=
  [.aptInstall,.aptUpdate,.aptUpgrade,.blockIp,.dockerComposeUpdate,.firewallAllowTcp,.firewallDenyTcp,.firmwareUpdate,.flatpakInstall,
    .npmGlobalInstall,.storageMountTest,.userServiceRestart]

/-- `AdminChangeKind(text)`. -/
def kindOfValue? (text : String) : Option AdminChangeKind := kindsByValue.find? (·.value = text)

/-- `text[len(start):]`. -/
def dropText (start text : String) : String := String.ofList (text.toList.drop start.toList.length)

def enablementIdStart : String := "approval.admin.adapter.enable."
def enablementSubjectStart : String := "admin.adapter.enable."
def warningIdStart : String := "approval.admin.policy.warning."
def warningSubjectStart : String := "admin.policy.warning."

def adminAdapterEnablementKindFromSubject (subjectId : String) : Check AdminChangeKind :=
  if hasPrefix subjectId enablementSubjectStart then
    match kindOfValue? (dropText enablementSubjectStart subjectId) with
    | some kind => .ok kind
    | none => .error (.value ("'" ++ dropText enablementSubjectStart subjectId ++ "' is not a valid AdminChangeKind"))
  else .error (.value "admin adapter enablement subject is required")

def approvedAdminAdapterEnablementKinds (approvals : Dict ApprovalRequest) : Check (List AdminChangeKind) := do
  let relevant := approvals.values.filter fun a => a.status = .approved ∧ hasPrefix a.id enablementIdStart
  let approved ← relevant.mapM fun a => adminAdapterEnablementKindFromSubject a.subjectId
  return kindsByValue.filter (· ∈ approved)

def approvedAdminPolicyWarningCheckIds (approvals : Dict ApprovalRequest) (planId : String) : List String :=
  let start := warningSubjectStart ++ planId ++ "."
  let accepted := (approvals.values.filter fun a => a.status = .approved ∧ hasPrefix a.subjectId start).map fun a => dropText start a.subjectId
  accepted.dedup.insertionSort fun a b => a.toList ≤ b.toList

namespace AdminStore

/-- `list_host_security_ids_review_packages_for_plan`. -/
def packagesFor (s : AdminStore) (planId : String) : List IDSReviewPackage :=
  (s.packages.values.filter fun p => p.planId = planId).insertionSort fun a b => a.id.toList ≤ b.id.toList

def loadPlan (s : AdminStore) (planId : String) : Check AdminPlanRecord :=
  match s.plans.get? planId with
  | some plan => .ok plan
  | none => .error (.key planId)

/-- The decision on a plan as the store stands. -/
def decision (s : AdminStore) (plan : AdminPlanRecord) (enabled : List AdminChangeKind) : PolicyDecision :=
  evaluateAdminChangePolicy plan (adminExecutionCapabilityFor plan.kind enabled) (s.packagesFor plan.id)
    (approvedAdminPolicyWarningCheckIds s.approvals plan.id) s.profile

/-! ### Approvals -/

def warningApproval (planId checkId requestedBy : String) : ApprovalRequest where
  id := warningIdStart ++ planId ++ "." ++ checkId
  subjectId := warningSubjectStart ++ planId ++ "." ++ checkId
  approvalLevel := .human
  requesterThread := requestedBy
  ownerDomain := .sisko
  reason := "Accept residual policy warning " ++ checkId ++ " for admin plan " ++ planId
  evidenceRequired := [planId,checkId]

def enablementApproval (kind : AdminChangeKind) (requestedBy : String) : ApprovalRequest where
  id := enablementIdStart ++ kind.value
  subjectId := enablementSubjectStart ++ kind.value
  approvalLevel := .human
  requesterThread := requestedBy
  ownerDomain := .sisko
  reason := "Enable live admin adapter " ++ (defaultCapability kind).adapterName ++ " for " ++ kind.value
  evidenceRequired := ["admin.adapter.enablement-plan." ++ kind.value]

def requestAdminPolicyWarning (s : AdminStore) (planId checkId requestedBy : String) : Check AdminStore := do
  check (isBlank requestedBy = false) "requested_by is required"
  check (isBlank checkId = false) "check_id is required"
  let plan ← s.loadPlan planId
  let enabled ← approvedAdminAdapterEnablementKinds s.approvals
  check (∃ c ∈ (s.decision plan enabled).checks, c.status = .warn ∧ c.id = checkId) "policy check is not an active warning for this plan"
  let approval := warningApproval planId checkId requestedBy
  return { s with approvals := s.approvals.set approval.id approval }

def requestAdminAdapterEnablement (s : AdminStore) (kind : AdminChangeKind) (requestedBy : String) : Check AdminStore := do
  check (isBlank requestedBy = false) "requested_by is required"
  -- every other adapter asks for an authorization
  check ((defaultCapability kind).canExecuteLive = false) ("admin adapter is already enabled: " ++ kind.value)
  let approval := enablementApproval kind requestedBy
  return { s with approvals := s.approvals.set approval.id approval }

def loadApproval (s : AdminStore) (approvalId : String) (error : RoadexError) : Check ApprovalRequest :=
  match s.approvals.get? approvalId with
  | some approval => .ok approval
  | none => .error error

/-- `approve_claim_status`. -/
def approveClaim (s : AdminStore) (approvalId decidedBy : String) (decidedAt : Option String) : Check AdminStore := do
  let current ← s.loadApproval approvalId (.key approvalId)
  return { s with approvals := s.approvals.set current.id (Coordinator.approve current decidedBy decidedAt) }

def approveAdminPolicyWarning (s : AdminStore) (approvalId approvedBy : String) (approvedAt : Option String) : Check AdminStore := do
  check (isBlank approvalId = false) "approval_id is required"
  let approval ← s.loadApproval approvalId (.value ("admin policy warning approval does not exist: " ++ approvalId))
  check (hasPrefix approval.id warningIdStart = true) "admin policy warning approval is required"
  s.approveClaim approvalId approvedBy approvedAt

def approveAdminAdapterEnablement (s : AdminStore) (approvalId approvedBy : String) (approvedAt : Option String) : Check AdminStore := do
  check (isBlank approvalId = false) "approval_id is required"
  check (isBlank approvedBy = false) "approved_by is required"
  let approval ← s.loadApproval approvalId (.value ("admin adapter enablement approval does not exist: " ++ approvalId))
  check (hasPrefix approval.id enablementIdStart = true) "admin adapter enablement approval is required"
  let kind ← adminAdapterEnablementKindFromSubject approval.subjectId
  check ((defaultCapability kind).canExecuteLive = false) ("admin adapter is already enabled: " ++ kind.value)
  s.approveClaim approvalId approvedBy approvedAt

/-! ### Execution -/

/-- The result of a call that the gate has stopped. -/
def gateBlocked (plan : AdminPlanRecord) (decision : PolicyDecision) : AdminExecutionResult where
  id := "admin.exec." ++ plan.id ++ ".blocked"
  planId := plan.id
  status := .blocked
  summary := "admin policy " ++ decision.status.value ++ ": " ++
    (((decision.checks.find? fun c => c.status = .block ∨ c.status = .warn).map (·.summary)).getD "policy gate blocked execution")
  commandResults := []

/-- `execute_admin_change_status`, with the commands it gives to the runner. -/
def executeAdminChange (s : AdminStore) (planId : String) (runner : AdminCommandRunner) : Check (Attempt AdminExecutionResult) := do
  let plan ← s.loadPlan planId
  let enabled ← approvedAdminAdapterEnablementKinds s.approvals
  let decision := s.decision plan enabled
  if decision.canProceed then return attemptAdminChangePlan plan.toAdminChangePlan runner enabled
  else return pure (gateBlocked plan decision)

end AdminStore

/-! ### Runs -/

inductive AdminOp where
  | savePlan (plan : AdminPlanRecord)
  | changePlan (planId : String) (step : LifecycleStep)
  | savePackage (package : IDSReviewPackage)
  | saveProfile (profile : PolicyProfile)
  | requestWarning (planId checkId requestedBy : String)
  | approveWarning (approvalId approvedBy : String) (approvedAt : Option String)
  | requestEnablement (kind : AdminChangeKind) (requestedBy : String)
  | approveEnablement (approvalId approvedBy : String) (approvedAt : Option String)
  | approveClaim (approvalId decidedBy : String) (decidedAt : Option String)
  -- what requests for claims, migrations, archives and storage save
  | saveApproval (approval : ApprovalRequest)

namespace AdminStore

def apply (s : AdminStore) : AdminOp → Check AdminStore
  | .savePlan plan => .ok { s with plans := s.plans.set plan.id plan }
  | .changePlan planId step => do
    let plan ← step.apply (← s.loadPlan planId)
    return { s with plans := s.plans.set plan.id plan }
  | .savePackage package => .ok { s with packages := s.packages.set package.id package }
  | .saveProfile profile => .ok { s with profile := profile }
  | .requestWarning planId checkId requestedBy => s.requestAdminPolicyWarning planId checkId requestedBy
  | .approveWarning approvalId approvedBy approvedAt => s.approveAdminPolicyWarning approvalId approvedBy approvedAt
  | .requestEnablement kind requestedBy => s.requestAdminAdapterEnablement kind requestedBy
  | .approveEnablement approvalId approvedBy approvedAt => s.approveAdminAdapterEnablement approvalId approvedBy approvedAt
  | .approveClaim approvalId decidedBy decidedAt => s.approveClaim approvalId decidedBy decidedAt
  | .saveApproval approval => .ok { s with approvals := s.approvals.set approval.id approval }

/-- A call that raises changes nothing. -/
def step (s : AdminStore) (op : AdminOp) : AdminStore :=
  match s.apply op with
  | .ok s' => s'
  | .error _ => s

def run (ops : List AdminOp) : AdminStore := ops.foldl step {}

/-! ### What an operation does to the approvals -/

/-- The approval that a call asks for. -/
def requested : AdminOp → Option ApprovalRequest
  | .requestWarning planId checkId requestedBy => some (warningApproval planId checkId requestedBy)
  | .requestEnablement kind requestedBy => some (enablementApproval kind requestedBy)
  | _ => none

/-- The id under which a call gives an approval. -/
def approves : AdminOp → Option String
  | .approveWarning approvalId _ _ | .approveEnablement approvalId _ _ | .approveClaim approvalId _ _ => some approvalId
  | _ => none

/-- Every approval is filed under its id. -/
def ApprovalsFiled (s : AdminStore) : Prop := Dict.Filed ApprovalRequest.id s.approvals

theorem check_ok {c : Prop} [Decidable c] {message : String} (h : check c message = .ok ()) : c := by
  unfold check at h
  split at h
  · next hc => exact hc
  · cases h

theorem approveClaim_ok {s s' : AdminStore} {approvalId decidedBy : String} {decidedAt : Option String} (hs : s.ApprovalsFiled)
    (h : s.approveClaim approvalId decidedBy decidedAt = .ok s') : ∃ current, s.approvals.get? approvalId = some current ∧
      current.id = approvalId ∧ s'.approvals = s.approvals.set approvalId (Coordinator.approve current decidedBy decidedAt) := by
  obtain ⟨current,hcurrent,h⟩ := except_bind_ok h
  unfold loadApproval at hcurrent
  split at hcurrent
  · next approval happroval =>
    cases hcurrent
    cases h
    have hid := hs approvalId current happroval
    refine ⟨current,happroval,hid,?_⟩
    change s.approvals.set current.id _ = _
    rw [hid]
  · cases hcurrent

theorem approveWarning_ok {s s' : AdminStore} {approvalId approvedBy : String} {approvedAt : Option String}
    (h : s.approveAdminPolicyWarning approvalId approvedBy approvedAt = .ok s') : s.approveClaim approvalId approvedBy approvedAt = .ok s' := by
  obtain ⟨_,-,h⟩ := except_bind_ok h
  obtain ⟨_,-,h⟩ := except_bind_ok h
  obtain ⟨_,-,h⟩ := except_bind_ok h
  exact h

theorem approveEnablement_ok {s s' : AdminStore} {approvalId approvedBy : String} {approvedAt : Option String}
    (h : s.approveAdminAdapterEnablement approvalId approvedBy approvedAt = .ok s') : s.approveClaim approvalId approvedBy approvedAt = .ok s' := by
  obtain ⟨_,-,h⟩ := except_bind_ok h
  obtain ⟨_,-,h⟩ := except_bind_ok h
  obtain ⟨_,-,h⟩ := except_bind_ok h
  obtain ⟨_,-,h⟩ := except_bind_ok h
  obtain ⟨_,-,h⟩ := except_bind_ok h
  obtain ⟨_,-,h⟩ := except_bind_ok h
  exact h

/-- A check of the plan that stands as a warning: what an acceptance may be asked for. -/
def ActiveWarning (s : AdminStore) (planId checkId : String) : Prop :=
  ∃ plan enabled, s.plans.get? planId = some plan ∧ approvedAdminAdapterEnablementKinds s.approvals = .ok enabled ∧
    ∃ c ∈ (s.decision plan enabled).checks, c.status = .warn ∧ c.id = checkId

theorem requestWarning_ok {s s' : AdminStore} {planId checkId requestedBy : String}
    (h : s.requestAdminPolicyWarning planId checkId requestedBy = .ok s') : s.ActiveWarning planId checkId ∧
      s'.approvals = s.approvals.set (warningApproval planId checkId requestedBy).id (warningApproval planId checkId requestedBy) := by
  obtain ⟨_,-,h⟩ := except_bind_ok h
  obtain ⟨_,-,h⟩ := except_bind_ok h
  obtain ⟨plan,hplan,h⟩ := except_bind_ok h
  obtain ⟨enabled,henabled,h⟩ := except_bind_ok h
  obtain ⟨_,hactive,h⟩ := except_bind_ok h
  cases h
  unfold loadPlan at hplan
  split at hplan
  · next plan' hplan' =>
    cases hplan
    exact ⟨⟨plan,enabled,hplan',henabled,check_ok hactive⟩,rfl⟩
  · cases hplan

theorem requestEnablement_ok {s s' : AdminStore} {kind : AdminChangeKind} {requestedBy : String}
    (h : s.requestAdminAdapterEnablement kind requestedBy = .ok s') :
    s'.approvals = s.approvals.set (enablementApproval kind requestedBy).id (enablementApproval kind requestedBy) := by
  obtain ⟨_,-,h⟩ := except_bind_ok h
  obtain ⟨_,-,h⟩ := except_bind_ok h
  cases h
  rfl

/-- A successful request of this approval: one for a warning finds the warning standing. -/
def Requests (s : AdminStore) (op : AdminOp) (a : ApprovalRequest) : Prop :=
  requested op = some a ∧ ∀ planId checkId requestedBy, op = .requestWarning planId checkId requestedBy → s.ActiveWarning planId checkId

/-- An approval that the gate does not read: no enablement by its id, no acceptance by its subject. -/
def Foreign (a : ApprovalRequest) : Prop :=
  hasPrefix a.id enablementIdStart = false ∧ hasPrefix a.subjectId warningSubjectStart = false

/-- Nothing else in the run saves approvals under the names of the gate. -/
def NamesKept (ops : List AdminOp) : Prop := ∀ a, AdminOp.saveApproval a ∈ ops → Foreign a

/-- All that a call may do to the approvals. -/
theorem apply_approvals {s s' : AdminStore} {op : AdminOp} (hs : s.ApprovalsFiled) (h : s.apply op = .ok s') :
    s'.approvals = s.approvals ∨
    (∃ a, s.Requests op a ∧ a.status = .pending ∧ s'.approvals = s.approvals.set a.id a) ∨
    (∃ approvalId current decidedBy decidedAt, approves op = some approvalId ∧ s.approvals.get? approvalId = some current ∧
      current.id = approvalId ∧ s'.approvals = s.approvals.set approvalId (Coordinator.approve current decidedBy decidedAt)) ∨
    ∃ a, op = .saveApproval a ∧ s'.approvals = s.approvals.set a.id a := by
  cases op with
  | savePlan plan =>
    cases h
    exact .inl rfl
  | changePlan planId step =>
    obtain ⟨_,-,h⟩ := except_bind_ok h
    obtain ⟨_,-,h⟩ := except_bind_ok h
    cases h
    exact .inl rfl
  | savePackage package =>
    cases h
    exact .inl rfl
  | saveProfile profile =>
    cases h
    exact .inl rfl
  | requestWarning planId checkId requestedBy =>
    obtain ⟨hactive,happrovals⟩ := requestWarning_ok h
    refine .inr (.inl ⟨_,⟨rfl,?_⟩,rfl,happrovals⟩)
    intro planId' checkId' requestedBy' hop
    cases hop
    exact hactive
  | requestEnablement kind requestedBy =>
    refine .inr (.inl ⟨_,⟨rfl,?_⟩,rfl,requestEnablement_ok h⟩)
    intro planId checkId requestedBy' hop
    cases hop
  | approveWarning approvalId approvedBy approvedAt =>
    obtain ⟨current,hcurrent,hid,happrovals⟩ := approveClaim_ok hs (approveWarning_ok h)
    exact .inr (.inr (.inl ⟨approvalId,current,_,_,rfl,hcurrent,hid,happrovals⟩))
  | approveEnablement approvalId approvedBy approvedAt =>
    obtain ⟨current,hcurrent,hid,happrovals⟩ := approveClaim_ok hs (approveEnablement_ok h)
    exact .inr (.inr (.inl ⟨approvalId,current,_,_,rfl,hcurrent,hid,happrovals⟩))
  | approveClaim approvalId decidedBy decidedAt =>
    obtain ⟨current,hcurrent,hid,happrovals⟩ := approveClaim_ok hs h
    exact .inr (.inr (.inl ⟨approvalId,current,_,_,rfl,hcurrent,hid,happrovals⟩))
  | saveApproval approval =>
    cases h
    exact .inr (.inr (.inr ⟨approval,rfl,rfl⟩))

/-! ### Where an approval comes from -/

/-- The call returns when it comes after these. -/
def Succeeds (ops : List AdminOp) (op : AdminOp) : Prop := ∃ s, (run ops).apply op = .ok s

/-- The approval was asked for in the run; and since then given, if it is approved. -/
def Stems (ops : List AdminOp) (a : ApprovalRequest) : Prop :=
  ∃ pre op post b, ops = pre ++ op :: post ∧ Succeeds pre op ∧ (run pre).Requests op b ∧ b.id = a.id ∧ b.subjectId = a.subjectId ∧
    (a.status = .approved → ∃ mid app tail, post = mid ++ app :: tail ∧ approves app = some a.id ∧ Succeeds (pre ++ op :: mid) app)

theorem Stems.concat {ops : List AdminOp} {a : ApprovalRequest} (h : Stems ops a) (op : AdminOp) : Stems (ops ++ [op]) a := by
  obtain ⟨pre,req,post,b,hops,hasked,hreq,hid,hsubject,happroved⟩ := h
  refine ⟨pre,req,post ++ [op],b,?_,hasked,hreq,hid,hsubject,fun hstatus => ?_⟩
  · rw [hops,List.append_assoc,List.cons_append]
  · obtain ⟨mid,app,tail,rfl,hgives⟩ := happroved hstatus
    exact ⟨mid,app,tail ++ [op],by rw [List.append_assoc,List.cons_append],hgives⟩

theorem run_concat (ops : List AdminOp) (op : AdminOp) : run (ops ++ [op]) = (run ops).step op := by
  unfold run
  rw [List.foldl_append]
  rfl

/-- In every reached state every approval is filed under its id, and one that the gate reads stems from the run. -/
theorem run_approvals (ops : List AdminOp) (hnames : NamesKept ops) :
    (run ops).ApprovalsFiled ∧ ∀ id a, (run ops).approvals.get? id = some a → Foreign a ∨ Stems ops a := by
  induction ops using List.reverseRecOn with
  | nil =>
    refine ⟨Dict.Filed.empty _,fun id a h => ?_⟩
    cases h
  | append_singleton ops op ih =>
    obtain ⟨hfiled,hstems⟩ := ih fun a ha => hnames a (List.mem_append_left _ ha)
    have hkept : ∀ id a, (run ops).approvals.get? id = some a → Foreign a ∨ Stems (ops ++ [op]) a :=
      fun id a ha => (hstems id a ha).imp_right fun h => h.concat op
    rw [run_concat]
    unfold step
    split
    · next s' happly =>
      rcases apply_approvals hfiled happly with hsame | ⟨a,hreq,hpending,happrovals⟩ |
        ⟨approvalId,current,decidedBy,decidedAt,hgives,hcurrent,hid,happrovals⟩ | ⟨a,rfl,happrovals⟩
      · unfold ApprovalsFiled
        rw [hsame]
        exact ⟨hfiled,hkept⟩
      · unfold ApprovalsFiled
        rw [happrovals]
        refine ⟨hfiled.set a,fun id b hb => ?_⟩
        rw [Dict.get?_set] at hb
        split at hb
        · cases hb
          refine .inr ⟨ops,op,[],a,rfl,⟨s',happly⟩,hreq,rfl,rfl,fun happroved => ?_⟩
          rw [hpending] at happroved
          cases happroved
        · exact hkept id b hb
      · have happroved : (Coordinator.approve current decidedBy decidedAt).id = approvalId := hid
        unfold ApprovalsFiled
        rw [happrovals]
        constructor
        · have hset := hfiled.set (Coordinator.approve current decidedBy decidedAt)
          rwa [happroved] at hset
        · intro id b hb
          rw [Dict.get?_set] at hb
          split at hb
          · cases hb
            rcases hstems approvalId current hcurrent with hforeign | ⟨pre,req,post,c,hops,hasked,hreq,hid',hsubject,-⟩
            · exact .inl hforeign
            · refine .inr ⟨pre,req,post ++ [op],c,?_,hasked,hreq,hid',hsubject,fun _ => ⟨post,op,[],rfl,?_,s',?_⟩⟩
              · rw [hops,List.append_assoc,List.cons_append]
              · rw [hgives,happroved]
              · rw [← hops]
                exact happly
          · exact hkept id b hb
      · unfold ApprovalsFiled
        rw [happrovals]
        refine ⟨hfiled.set a,fun id b hb => ?_⟩
        rw [Dict.get?_set] at hb
        split at hb
        · cases hb
          exact .inl (hnames a (List.mem_append_right _ List.mem_cons_self))
        · exact hkept id b hb
    · exact ⟨hfiled,hkept⟩

/-! ### Names of approvals -/

def policyCheckIds : List String :=
  ["admin.plan.state","admin.plan.completeness","admin.plan.approval","admin.adapter.enabled","admin.ids.review","admin.scan.residual-findings",
    "admin.rollback","admin.verification","admin.risk.approval-level"]

theorem policyChecks_ids (plan : AdminPlanRecord) (capability : AdminExecutionCapability) (packages : List IDSReviewPackage)
    (profile : PolicyProfile) : (policyChecks plan capability packages profile).map (·.id) = policyCheckIds := by
  have h₁ : (planStateCheck plan).id = "admin.plan.state" := by
    unfold planStateCheck
    split
    · rfl
    split <;> rfl
  have h₂ : (planCompletenessCheck plan).id = "admin.plan.completeness" := by
    unfold planCompletenessCheck
    dsimp only
    split <;> rfl
  have h₃ : (approvalCheck plan).id = "admin.plan.approval" := by
    unfold approvalCheck
    split
    · rfl
    split <;> rfl
  have h₄ : (adapterCheck plan capability profile).id = "admin.adapter.enabled" := by
    unfold adapterCheck
    split
    · rfl
    split <;> rfl
  have h₅ : (idsReviewCheck plan packages profile).id = "admin.ids.review" := by
    unfold idsReviewCheck
    dsimp only
    split
    · rfl
    split
    · rfl
    split <;> rfl
  have h₆ : (residualScanFindingsCheck plan).id = "admin.scan.residual-findings" := by
    unfold residualScanFindingsCheck
    split <;> rfl
  have h₇ : (rollbackCheck plan profile).id = "admin.rollback" := by
    unfold rollbackCheck
    split
    · rfl
    split
    · rfl
    split <;> rfl
  have h₈ : (verificationCheck plan profile).id = "admin.verification" := by
    unfold verificationCheck
    split
    · rfl
    split <;> rfl
  have h₉ : (riskApprovalCheck plan profile).id = "admin.risk.approval-level" := by
    unfold riskApprovalCheck
    dsimp only
    split <;> rfl
  unfold policyChecks policyCheckIds
  rw [List.map_cons,List.map_cons,List.map_cons,List.map_cons,List.map_cons,List.map_cons,List.map_cons,List.map_cons,List.map_cons,
    h₁,h₂,h₃,h₄,h₅,h₆,h₇,h₈,h₉,List.map_nil]

theorem activeWarning_id {s : AdminStore} {planId checkId : String} (h : s.ActiveWarning planId checkId) : checkId ∈ policyCheckIds := by
  obtain ⟨plan,enabled,-,-,c,hc,-,rfl⟩ := h
  obtain ⟨check,hcheck,rfl⟩ := List.mem_map.mp hc
  have hid : (acceptWarning (approvedAdminPolicyWarningCheckIds s.approvals plan.id) check).id = check.id := by
    unfold acceptWarning
    split <;> rfl
  rw [hid,← policyChecks_ids plan (adminExecutionCapabilityFor plan.kind enabled) (s.packagesFor plan.id) s.profile]
  exact List.mem_map_of_mem hcheck

theorem checkId_not_suffix : ∀ c ∈ policyCheckIds, ∀ r ∈ policyCheckIds, ¬ ('.' :: r.toList) <:+ c.toList := by decide +kernel

theorem named_inj {p q c r : String} (hc : c ∈ policyCheckIds) (hr : r ∈ policyCheckIds)
    (h : p.toList ++ '.' :: c.toList = q.toList ++ '.' :: r.toList) : p = q ∧ c = r := by
  have hends : ∀ {s : List Char} {c r : String}, c ∈ policyCheckIds → r ∈ policyCheckIds → '.' :: c.toList = s ++ '.' :: r.toList → s = [] := by
    intro s c r hc hr heq
    cases s with
    | nil => rfl
    | cons a s =>
      have htail := (List.cons.inj heq).2
      exact absurd ⟨s,htail.symm⟩ (checkId_not_suffix c hc r hr)
  rcases List.append_eq_append_iff.mp h with ⟨s,hq,heq⟩ | ⟨s,hp,heq⟩
  · have hs := hends hc hr heq
    rw [hs,List.append_nil] at hq
    rw [hs] at heq
    exact ⟨String.ext hq.symm,String.ext (List.cons.inj heq).2⟩
  · have hs := hends hr hc heq
    rw [hs,List.append_nil] at hp
    rw [hs] at heq
    exact ⟨String.ext hp,String.ext (List.cons.inj heq).2.symm⟩

theorem toList_of_hasPrefix {text start : String} (h : hasPrefix text start = true) : text.toList = start.toList ++ (dropText start text).toList := by
  unfold dropText
  rw [String.toList_ofList]
  exact (List.prefix_iff_eq_append.mp (hasPrefix_iff.mp h)).symm

theorem dropText_append (start t : String) : dropText start (start ++ t) = t := by
  unfold dropText
  rw [String.toList_append,List.drop_left]
  exact String.ofList_toList

theorem enablement_not_warning (x y : List Char) : enablementSubjectStart.toList ++ x ≠ warningSubjectStart.toList ++ y ∧
    enablementIdStart.toList ++ x ≠ warningIdStart.toList ++ y := by
  constructor
  · intro h
    have htake := congrArg (List.take 7) h
    rw [List.take_append_of_le_length (by decide +kernel),List.take_append_of_le_length (by decide +kernel)] at htake
    exact absurd htake (by decide +kernel)
  · intro h
    have htake := congrArg (List.take 16) h
    rw [List.take_append_of_le_length (by decide +kernel),List.take_append_of_le_length (by decide +kernel)] at htake
    exact absurd htake (by decide +kernel)

theorem kindOfValue?_value (kind : AdminChangeKind) : kindOfValue? kind.value = some kind := by
  cases kind <;> decide +kernel

/-! ### What was accepted -/

/-- The acceptance was asked for by the name of this plan and this check, while the check was a warning of
the plan, and given since; both calls returned. -/
def WarningAccepted (ops : List AdminOp) (planId checkId : String) : Prop :=
  ∃ pre requestedBy mid app tail, ops = pre ++ .requestWarning planId checkId requestedBy :: (mid ++ app :: tail) ∧
    Succeeds pre (.requestWarning planId checkId requestedBy) ∧ (run pre).ActiveWarning planId checkId ∧
    approves app = some (warningIdStart ++ planId ++ "." ++ checkId) ∧
    Succeeds (pre ++ .requestWarning planId checkId requestedBy :: mid) app

/-- The adapter was asked for by its kind, and enabled since; both calls returned. -/
def AdapterEnabled (ops : List AdminOp) (kind : AdminChangeKind) : Prop :=
  ∃ pre requestedBy mid app tail, ops = pre ++ .requestEnablement kind requestedBy :: (mid ++ app :: tail) ∧
    Succeeds pre (.requestEnablement kind requestedBy) ∧ approves app = some (enablementIdStart ++ kind.value) ∧
    Succeeds (pre ++ .requestEnablement kind requestedBy :: mid) app

theorem warning_accepted {ops : List AdminOp} (hnames : NamesKept ops) {planId checkId : String} (hcheck : checkId ∈ policyCheckIds)
    (h : checkId ∈ approvedAdminPolicyWarningCheckIds (run ops).approvals planId) : WarningAccepted ops planId checkId := by
  unfold approvedAdminPolicyWarningCheckIds at h
  rw [List.mem_insertionSort,List.mem_dedup] at h
  obtain ⟨a,ha,hdrop⟩ := List.mem_map.mp h
  obtain ⟨ha,hselected⟩ := List.mem_filter.mp ha
  obtain ⟨hstatus,hsubject⟩ := of_decide_eq_true hselected
  obtain ⟨id,hid⟩ := (Dict.mem_values_iff _ _).mp ha
  have htext := toList_of_hasPrefix hsubject
  have hread : ¬ Foreign a := by
    rintro ⟨-,hforeign⟩
    have hlong : hasPrefix a.subjectId warningSubjectStart = true := by
      rw [hasPrefix_iff,htext,String.toList_append,String.toList_append,List.append_assoc,List.append_assoc]
      exact List.prefix_append _ _
    rw [hlong] at hforeign
    cases hforeign
  obtain ⟨pre,op,post,b,hops,hasked,⟨hreq,hactive⟩,hbid,hbsubject,happroved⟩ := ((run_approvals ops hnames).2 id a hid).resolve_left hread
  rw [hdrop,← hbsubject] at htext
  obtain ⟨mid,app,tail,rfl,hgives,hgiven⟩ := happroved hstatus
  rw [← hbid] at hgives
  cases op with
  | requestWarning planId' checkId' requestedBy =>
    cases hreq
    have hstanding := hactive planId' checkId' requestedBy rfl
    have hlist : planId'.toList ++ '.' :: checkId'.toList = planId.toList ++ '.' :: checkId.toList := by
      simpa [warningApproval,String.toList_append] using htext
    obtain ⟨rfl,rfl⟩ := named_inj (activeWarning_id hstanding) hcheck hlist
    exact ⟨pre,requestedBy,mid,app,tail,hops,hasked,hstanding,hgives,hgiven⟩
  | requestEnablement kind requestedBy =>
    cases hreq
    simp only [enablementApproval,String.toList_append,List.append_assoc] at htext
    exact absurd htext (enablement_not_warning _ _).1
  | _ => cases hreq

theorem adapter_enabled {ops : List AdminOp} (hnames : NamesKept ops) {enabled : List AdminChangeKind} {kind : AdminChangeKind}
    (h : approvedAdminAdapterEnablementKinds (run ops).approvals = .ok enabled) (hkind : kind ∈ enabled) : AdapterEnabled ops kind := by
  obtain ⟨approved,happrovedKinds,h⟩ := except_bind_ok h
  cases h
  have hmem : kind ∈ approved := of_decide_eq_true (List.mem_filter.mp hkind).2
  obtain ⟨a,ha,hsubject⟩ := mapM_ok_mem happrovedKinds hmem
  obtain ⟨ha,hselected⟩ := List.mem_filter.mp ha
  obtain ⟨hstatus,hidStart⟩ := of_decide_eq_true hselected
  obtain ⟨id,hid⟩ := (Dict.mem_values_iff _ _).mp ha
  have hread : ¬ Foreign a := by
    rintro ⟨hforeign,-⟩
    rw [hidStart] at hforeign
    cases hforeign
  obtain ⟨pre,op,post,b,hops,hasked,⟨hreq,-⟩,hbid,hbsubject,happroved⟩ := ((run_approvals ops hnames).2 id a hid).resolve_left hread
  obtain ⟨mid,app,tail,rfl,hgives,hgiven⟩ := happroved hstatus
  rw [← hbid] at hgives
  cases op with
  | requestWarning planId checkId requestedBy =>
    cases hreq
    have htext := toList_of_hasPrefix hidStart
    rw [← hbid] at htext
    simp only [warningApproval,String.toList_append,List.append_assoc] at htext
    exact absurd htext.symm (enablement_not_warning _ _).2
  | requestEnablement kind' requestedBy =>
    cases hreq
    unfold adminAdapterEnablementKindFromSubject at hsubject
    split at hsubject
    · have hvalue : dropText enablementSubjectStart a.subjectId = kind'.value := by
        have hnamed : a.subjectId = enablementSubjectStart ++ kind'.value := hbsubject.symm
        rw [hnamed,dropText_append]
      rw [hvalue,kindOfValue?_value] at hsubject
      cases hsubject
      exact ⟨pre,requestedBy,mid,app,tail,hops,hasked,hgives,hgiven⟩
    · cases hsubject
  | _ => cases hreq

end AdminStore
end Overseer.Admin
