import Overseer.Roadex.Sources

/-! # Approvals bound to their sources

`stage_bound_roadex_approval` and `roadex_approval_status` of `roadex_approval_status.py`, and the
bindings of the store. A binding fixes what an approval is about by a digest; the status reads
the source strictly, compares the digest and tells the decision that the evidence shows. The
status is here for admin plans only: for another kind of source it is refused.
-/
namespace Overseer.Roadex
open Overseer.Library Overseer.Core

/-! ### Bindings -/

structure RoadexApprovalBindingDraft where
  approvalRef : String
  sourceKind : String
  sourceId : String
  projectId : String
  workspaceId : String
  resourceRef : String
  authorityClass : String
  subject : String
  deriving DecidableEq

structure RoadexApprovalBinding extends RoadexApprovalBindingDraft where
  scopeDigest : String
  createdAt : String
  deriving DecidableEq

/-- The authority that each kind of source belongs to. -/
def sourceAuthorityClasses : List (String × String) := [("admin-plan","privileged-operation"),
  ("roadex-approval-fixture","project-workflow"),("roadex-human-decision","privileged-operation")]

def sourceKinds : List String := sourceAuthorityClasses.map Prod.fst

def authorityClasses : List String := ["privileged-operation","project-workflow"]

def validateApprovalBindingDraft (draft : RoadexApprovalBindingDraft) : Check Unit := do
  let _ ← requireTruthyStr draft.approvalRef "approval_ref"
  validateOpaqueRef draft.approvalRef
  let _ ← requireEnum draft.sourceKind sourceKinds "source_kind"
  let _ ← requireTruthyStr draft.sourceId "source_id"
  let _ ← requireTruthyStr draft.projectId "project_id"
  let _ ← requireTruthyStr draft.workspaceId "workspace_id"
  let _ ← requireTruthyStr draft.resourceRef "resource_ref"
  let _ ← requireEnum draft.authorityClass authorityClasses "authority_class"
  check (Dict.find draft.sourceKind sourceAuthorityClasses = some draft.authorityClass)
    "source_kind and authority_class pairing is invalid"
  let _ ← requireTruthyStr draft.subject "subject"
  check (draft.sourceKind = "admin-plan" → draft.sourceId = draft.approvalRef) "admin-plan source_id must match approval_ref"

def RoadexHost.scopeDigest (host : RoadexHost) (draft : RoadexApprovalBindingDraft) (sourceDigest : String) : String :=
  host.digest [("approvalRef",.str draft.approvalRef),("sourceKind",.str draft.sourceKind),("sourceId",.str draft.sourceId),
    ("projectId",.str draft.projectId),("workspaceId",.str draft.workspaceId),("resourceRef",.str draft.resourceRef),
    ("authorityClass",.str draft.authorityClass),("subject",.str draft.subject),("sourceEvidenceDigest",.str sourceDigest)]

def RoadexHost.bindingFromDraft (host : RoadexHost) (draft : RoadexApprovalBindingDraft) (sourceDigest createdAt : String) :
    RoadexApprovalBinding where
  toRoadexApprovalBindingDraft := draft
  scopeDigest := host.scopeDigest draft sourceDigest
  createdAt := createdAt

namespace RoadexApprovalBinding

def members (b : RoadexApprovalBinding) : List (String × Json) :=
  [("approval_ref",.str b.approvalRef),("source_kind",.str b.sourceKind),("source_id",.str b.sourceId),
    ("project_id",.str b.projectId),("workspace_id",.str b.workspaceId),("resource_ref",.str b.resourceRef),
    ("authority_class",.str b.authorityClass),("subject",.str b.subject),("scope_digest",.str b.scopeDigest),
    ("created_at",.str b.createdAt)]

def fieldNames : List String := ["approval_ref","source_kind","source_id","project_id","workspace_id","resource_ref",
  "authority_class","subject","scope_digest","created_at"]

def dump (b : RoadexApprovalBinding) : Json := (Json.obj b.members).sortKeys

/-- The text of a field. -/
def textOf (data : Json) (field : String) : Option String := (data.member? field).bind Json.asStr?

/-- `_decode_roadex_binding_payload`. -/
def decode (host : RoadexHost) (payload : Json) : Check RoadexApprovalBinding := do
  check (payload.isCanonical = true) "binding payload is not canonical JSON"
  checkExactFields payload fieldNames "binding"
  let approvalRef ← requireTruthyStr (textOf payload "approval_ref") "approval_ref"
  let sourceKind ← requireEnum (textOf payload "source_kind") sourceKinds "source_kind"
  let sourceId ← requireTruthyStr (textOf payload "source_id") "source_id"
  let projectId ← requireTruthyStr (textOf payload "project_id") "project_id"
  let workspaceId ← requireTruthyStr (textOf payload "workspace_id") "workspace_id"
  let resourceRef ← requireTruthyStr (textOf payload "resource_ref") "resource_ref"
  let authorityClass ← requireEnum (textOf payload "authority_class") authorityClasses "authority_class"
  let subject ← requireTruthyStr (textOf payload "subject") "subject"
  let scopeDigest ← requireTruthyStr (textOf payload "scope_digest") "scope_digest"
  check ((textOf payload "created_at").isSome = true) "binding::created_at must be a string"
  let createdAt ← host.requireIso8601 (textOf payload "created_at") "created_at"
  return ⟨⟨approvalRef,sourceKind,sourceId,projectId,workspaceId,resourceRef,authorityClass,subject⟩,scopeDigest,createdAt⟩

/-- `_validate_binding_object_types`. -/
def validate (host : RoadexHost) (b : RoadexApprovalBinding) : Check Unit := do
  let _ ← requireTruthyStr b.approvalRef "approval_ref"
  let _ ← requireEnum b.sourceKind sourceKinds "source_kind"
  let _ ← requireTruthyStr b.sourceId "source_id"
  let _ ← requireTruthyStr b.projectId "project_id"
  let _ ← requireTruthyStr b.workspaceId "workspace_id"
  let _ ← requireTruthyStr b.resourceRef "resource_ref"
  let _ ← requireEnum b.authorityClass authorityClasses "authority_class"
  check (Dict.find b.sourceKind sourceAuthorityClasses = some b.authorityClass)
    "source_kind and authority_class pairing is invalid"
  let _ ← requireTruthyStr b.subject "subject"
  let _ ← requireTruthyStr b.scopeDigest "scope_digest"
  let _ ← host.requireIso8601 b.createdAt "created_at"
  return ()

end RoadexApprovalBinding

/-! ### The bindings of the store -/

namespace ApprovalStore

def loadRoadexApprovalBinding (host : RoadexHost) (s : ApprovalStore) (approvalRef : String) : Check RoadexApprovalBinding :=
  match s.roadexApprovalBindings.get? approvalRef with
  | none => .error (.key approvalRef)
  | some row => do
    let binding ← RoadexApprovalBinding.decode host row.payload
    check (row.sourceId = binding.sourceId) "roadex approval binding source_id is inconsistent"
    check (row.sourceKind = binding.sourceKind) "roadex approval binding source_kind is inconsistent"
    check (binding.approvalRef = approvalRef) "roadex approval binding approval_ref is inconsistent"
    return binding

/-- `save_roadex_approval_binding`: whichever payload it returns is the one of the binding. -/
def saveRoadexApprovalBinding (host : RoadexHost) (s : ApprovalStore) (binding : RoadexApprovalBinding) :
    Check (RoadexApprovalBinding × ApprovalStore) := do
  RoadexApprovalBinding.validate host binding
  match s.roadexApprovalBindings.get? binding.approvalRef with
  | some row => do
    check (row.payload = binding.dump) "Roadex approval binding is immutable"
    return (binding,s)
  | none =>
    return (binding,{ s with
      roadexApprovalBindings := s.roadexApprovalBindings.set binding.approvalRef
        ⟨binding.sourceKind,binding.sourceId,binding.dump⟩ })

end ApprovalStore

/-! ### Binding -/

def loadExistingBinding (host : RoadexHost) (s : ApprovalStore) (approvalRef : String) : Check (Option RoadexApprovalBinding) :=
  match s.loadRoadexApprovalBinding host approvalRef with
  | .ok binding => .ok (some binding)
  | .error (.key _) => .ok none
  | .error e => .error e

def RoadexHost.validateReplayedBinding (host : RoadexHost) (existing : RoadexApprovalBinding) (draft : RoadexApprovalBindingDraft)
    (source : Source) : Check Unit :=
  check (existing = host.bindingFromDraft draft (host.exactSourceEvidenceDigest source) existing.createdAt)
    "Roadex approval binding is immutable"

/-- `stage_bound_roadex_approval`. The callback tells by the store which sources it saves, or raises. -/
def stageBoundRoadexApproval (host : RoadexHost) (now : host.Instant) (draft : RoadexApprovalBindingDraft)
    (saveSource : ApprovalStore → Check (List Source)) (s : ApprovalStore) : Check (RoadexApprovalBinding × ApprovalStore) := do
  validateApprovalBindingDraft draft
  match ← loadExistingBinding host s draft.approvalRef with
  | some existing => do
    let source ← s.loadSource host draft.sourceKind draft.sourceId
    host.validateReplayedBinding existing draft source
    return (existing,s)
  | none => do
    check (s.sourceExists draft.sourceKind draft.sourceId = false) "preexisting source cannot be bound"
    let sources ← saveSource s
    let s ← s.saveSources sources
    let source ← s.loadSource host draft.sourceKind draft.sourceId
    host.requireInitialSourceState source
    s.saveRoadexApprovalBinding host
      (host.bindingFromDraft draft (host.exactSourceEvidenceDigest source) (host.isoformat now))

/-- The call as one transaction: an error takes its writes back. -/
def stageCall (host : RoadexHost) (now : host.Instant) (draft : RoadexApprovalBindingDraft)
    (saveSource : ApprovalStore → Check (List Source)) (s : ApprovalStore) : Check RoadexApprovalBinding × ApprovalStore :=
  match stageBoundRoadexApproval host now draft saveSource s with
  | .ok (binding,s') => (.ok binding,s')
  | .error e => (.error e,s)

/-! ### The status of an approval of an admin plan -/

inductive Decision where
  | pending | approved | rejected
  deriving DecidableEq

def Decision.value : Decision → String
  | .pending => "pending"
  | .approved => "approved"
  | .rejected => "rejected"

structure ApprovalStatusView where
  approvalRef : String
  sourceKind : String
  projectId : String
  workspaceId : String
  resourceRef : String
  authorityClass : String
  subject : String
  scopeDigest : String
  decision : Decision
  decisionVersion : String
  updatedAt : String

/-- The instants of the given texts. -/
def RoadexHost.instants (host : RoadexHost) : List String → Check (List host.Instant)
  | [] => .ok []
  | text :: rest =>
    match host.fromisoformat (replaceZ text) with
    | none => .error (.value "updatedAt must be an ISO 8601 timestamp")
    | some .naive => .error (.value "updatedAt must include timezone information")
    -- `astimezone(UTC)` of a time that has no instant in the calendar
    | some (.aware none) => .error (.overflow "date value out of range")
    | some (.aware (some t)) => do
      let ts ← instants host rest
      return t :: ts

def RoadexHost.newestTime (host : RoadexHost) (values : List (Option String)) : Check String := do
  let candidates ← host.instants (values.filterMap fun value => value.filter (· ≠ ""))
  match candidates with
  | [] => .error (.value "updated time is unavailable")
  | t :: ts => return host.isoformat (ts.foldl max t)

/-- `project_decision` for an admin plan: the decision, the status of the source and the time. -/
def RoadexHost.projectDecision (host : RoadexHost) (binding : RoadexApprovalBinding) (plan : AdminPlanRecord) :
    Check (Decision × String × String) := do
  check (binding.sourceId = plan.id) "admin source id must match source payload"
  host.requireAdminArchiveState plan
  if plan.canceled then do
    check (plan.approved = false) "admin source terminal evidence is malformed"
    host.requireAdminCanceledPlanEvidence plan
    check (plan.approvedBy = none ∧ plan.approvedAt = none) "admin source canceled evidence is malformed"
    let updatedAt ← host.newestTime [plan.approvedAt,plan.canceledAt,binding.createdAt]
    return (.rejected,"canceled",updatedAt)
  else if plan.approved then do
    host.requireAdminApprovedPlanEvidence plan
    check (plan.canceledBy = none ∧ plan.canceledAt = none ∧ plan.cancellationReason = none)
      "admin source approved evidence is malformed"
    let updatedAt ← host.newestTime [plan.approvedAt,binding.createdAt]
    return (.approved,"approved",updatedAt)
  else do
    requireAdminPendingPlanEvidence plan
    return (.pending,"pending",binding.createdAt)

def RoadexHost.projectDecisionVersion (host : RoadexHost) (binding : RoadexApprovalBinding) (sourceStatus : String)
    (decision : Decision) (updatedAt : String) : String :=
  host.digest [("approvalRef",.str binding.approvalRef),("scopeDigest",.str binding.scopeDigest),
    ("decision",.str decision.value),("sourceStatus",.str sourceStatus),("updatedAt",.str updatedAt)]

def publicProjection (binding : RoadexApprovalBinding) (decision : Decision) (decisionVersion updatedAt : String) :
    ApprovalStatusView where
  approvalRef := binding.approvalRef
  sourceKind := binding.sourceKind
  projectId := binding.projectId
  workspaceId := binding.workspaceId
  resourceRef := binding.resourceRef
  authorityClass := binding.authorityClass
  subject := binding.subject
  scopeDigest := binding.scopeDigest
  decision := decision
  decisionVersion := decisionVersion
  updatedAt := updatedAt

/-- The binding of an approval; a missing one has its own error. -/
def boundApproval (host : RoadexHost) (s : ApprovalStore) (approvalRef : String) : Check RoadexApprovalBinding :=
  match s.loadRoadexApprovalBinding host approvalRef with
  | .error (.key _) => .error (.missing approvalRef)
  | result => result

/-- `load_exact_bound_source` for an admin plan. -/
def loadExactBoundSource (s : ApprovalStore) (binding : RoadexApprovalBinding) : Check AdminPlanRecord :=
  if binding.sourceKind = "admin-plan" then
    match s.loadAdminChangePayload binding.sourceId with
    | .error (.key _) => .error (.projection "source reference is malformed")
    | result => result
  else .error (.value "unsupported source_kind")

def roadexApprovalStatus (host : RoadexHost) (s : ApprovalStore) (approvalRef : String) : Check ApprovalStatusView := do
  validateOpaqueRef approvalRef
  let binding ← boundApproval host s approvalRef
  let source ← loadExactBoundSource s binding
  check (source.id = binding.sourceId) "admin source id must match source payload"
  check (binding.scopeDigest = host.scopeDigest binding.toRoadexApprovalBindingDraft (host.sourceDigest source))
    "source evidence digest does not match binding"
  let projected ← host.projectDecision binding source
  let version := host.projectDecisionVersion binding projected.2.1 projected.1 projected.2.2
  return publicProjection binding projected.1 version projected.2.2

/-! ### Runs of lifecycle steps -/

/-- A step on the stored plan: load it, change it and save it. -/
def ApprovalStore.lifecycle (s : ApprovalStore) (planId : String) (step : LifecycleStep) : Check ApprovalStore := do
  let plan ← s.loadAdminChangePlan planId
  let plan ← step.apply plan
  return s.saveAdminChangePlan plan

def ApprovalStore.play (planId : String) : List LifecycleStep → ApprovalStore → Check ApprovalStore
  | [], s => .ok s
  | step :: rest, s => do
    let s ← s.lifecycle planId step
    play planId rest s

end Overseer.Roadex
