import Overseer.Psychlo.CanonicalText
import Overseer.Core.Codec

/-! # Approved operations

`initiate_authorized` admits one of five operations with a human approval. The approval and
the change plan it is about are read from the administrative store the first time; what they
authorized is kept as a snapshot, which is read instead of them from then on.
-/
namespace Overseer.Psychlo
open Overseer.Library Overseer.Agent

/-- The operations that a human approves. -/
inductive AuthorizedKind where
  | externalRoundBinding | ingressConflictReconciliation | crossProjectTeamBinding
  | concurrencyCanaryAuthorization | concurrencyCeilingAuthorization
  deriving DecidableEq

namespace AuthorizedKind

/-- The actions that an approval may name for the operation. -/
def aliases : AuthorizedKind → List String
  | externalRoundBinding => ["external-round-binding","external-work"]
  | ingressConflictReconciliation => ["ingress-conflict-reconciliation","conflict-reconciliation"]
  | crossProjectTeamBinding => ["cross-project-team-binding"]
  | concurrencyCanaryAuthorization => ["concurrency-canary-authorization","concurrency-canary"]
  | concurrencyCeilingAuthorization => ["concurrency-ceiling-authorization","concurrency-ceiling"]

/-- The field that names what the operation is on. -/
def targetField : AuthorizedKind → String
  | externalRoundBinding => "reconciliationId"
  | ingressConflictReconciliation => "ingressIdempotencyKey"
  | crossProjectTeamBinding => "bindingId"
  | concurrencyCanaryAuthorization | concurrencyCeilingAuthorization => "authorizationId"

/-- The operation of that name, `methods.get(kind)`. -/
def ofName : String → Option AuthorizedKind
  | "external-round-binding" => some externalRoundBinding
  | "ingress-conflict-reconciliation" => some ingressConflictReconciliation
  | "cross-project-team-binding" => some crossProjectTeamBinding
  | "concurrency-canary-authorization" => some concurrencyCanaryAuthorization
  | "concurrency-ceiling-authorization" => some concurrencyCeilingAuthorization
  | _ => none

theorem eq_of_alias {k l : AuthorizedKind} {action : String} (hk : action ∈ k.aliases) (hl : action ∈ l.aliases) : k = l := by
  have hall : ∀ k l : AuthorizedKind, k ≠ l → ∀ action ∈ k.aliases, action ∉ l.aliases := by
    intro k l hne
    cases k <;> cases l <;> first | exact absurd rfl hne | decide
  by_contra hne
  exact hall k l hne action hk hl

end AuthorizedKind

/-! ### Snapshots -/

def approvalSnapshot (approvalId : String) : BridgeTx (Option SnapshotRow) := Tx.read (·.snapshots.get? approvalId)

def saveApprovalSnapshot (approvalId : String) (payload : Payload) (digest : String) : BridgeTx SnapshotRow := do
  require (isBlank approvalId = false ∧ isBlank digest = false) (valueError "approval snapshot identity is required")
  match ← approvalSnapshot approvalId with
  | some existing => do
    require (existing.digest = digest ∧ existing.payload.alike payload) (valueError "approval authority snapshot is immutable")
    return existing
  | none => do
    let row : SnapshotRow := ⟨digest,payload⟩
    Tx.write fun s => { s with snapshots := s.snapshots.set approvalId row }
    return row

/-! ### The approval and its plan -/

/-- A text of a record, or `None`. -/
def textOrNull (o : Option String) : Json := (o.map Json.str).getD .null

/-- `person.lower() in {...}`. -/
def isServiceName (person : String) : Bool :=
  (["sisko","overseer","system"].map String.toList).contains (person.toList.map Core.Admin.lowerChar)

/-- The person who decided, when it is one whose decision counts. -/
def independentDecider (approval : Core.ApprovalRequest) : Option String :=
  approval.decidedBy.filter fun person => isBlank person = false ∧ isServiceName person = false

def checkApproval (approvalId : String) (approval : Core.ApprovalRequest) : Check String := do
  check (approval.id = approvalId) (valueError "approval record identity conflict")
  check (approval.status = .approved ∧ approval.approvalLevel = .human) (valueError "approved administrative provenance is required")
  found (independentDecider approval) (valueError "independent human approval is required")

/-- `metadata.get(k, metadata.get(k', default))`. -/
def metadataOr (metadata : Payload) (k k' : String) (default : Json) : Json :=
  (metadata.get? k).getD ((metadata.get? k').getD default)

/-- The evidence, when it is a list of texts that are not blank. -/
def evidenceTexts : Json → Option (List String)
  | .arr items => do
    let texts ← items.mapM Json.asStr?
    if texts ≠ [] ∧ ∀ t ∈ texts, isBlank t = false then some texts else none
  | _ => none

/-- The authority as it is stored: what was authorized, and the records it was read from. -/
def authoritySnapshot (record : Payload) (approval : Core.ApprovalRequest) (plan : Core.AdminChangePlan) : Payload :=
  .ofList [("record",.obj record.entries),
    ("approval",.obj [("id",.str approval.id),("subjectId",.str approval.subjectId),("status",.str approval.status.value),
      ("approvalLevel",.str approval.approvalLevel.value),("ownerDomain",.str approval.ownerDomain.value),
      ("decidedBy",textOrNull approval.decidedBy),("decidedAt",textOrNull approval.decidedAt),
      ("evidenceRequired",.arr (approval.evidenceRequired.map .str))]),
    ("subject",.obj [("id",.str plan.id),("kind",.str plan.kind.value),("target",.str plan.target),
      ("ownerDomain",.str plan.ownerDomain.value),("approved",.bool plan.approved),("canceled",.bool plan.canceled),
      ("archived",.bool plan.archived)])]

namespace Bridge
variable (b : Bridge)

def checkDecidedAt (decidedAt : Option String) : BridgeProg Unit :=
  match decidedAt.filter (· ≠ "") with
  | none => pure ()
  | some text => do
    let invalid := valueError "approval timestamp is invalid"
    let decided ← orRaise (b.host.fromisoformat text) invalid
    let now ← orRaise (b.host.fromisoformat (← ask .clock)) invalid
    let postdated ← liftProg (Host.before now decided)
    require (postdated = false) (valueError "approval is postdated")

def subjectMetadata (plan : Core.AdminChangePlan) : Payload :=
  let decoded := ((b.host.loads plan.proposedState).bind Payload.ofJson?).getD .empty
  (Payload.ofJson? ((decoded.get? "psychloAuthorization").getD (.obj decoded.entries))).getD .empty

/-- The plan against the approval and the operation: what the approval authorizes. -/
def checkSubject (approval : Core.ApprovalRequest) (decidedBy : String) (plan : Core.AdminChangePlan) (payload : Payload)
    (kind : AuthorizedKind) : Check Payload := do
  check (plan.id = approval.subjectId ∧ plan.approved = true ∧ plan.canceled = false ∧ plan.archived = false)
    (valueError "approved administrative subject is invalid")
  let metadata := b.subjectMetadata plan
  check (metadataOr metadata "owner" "ownerDomain" (.str plan.ownerDomain.value) = .str approval.ownerDomain.value ∧
    approval.ownerDomain = plan.ownerDomain ∧ approval.ownerDomain.value = b.approvalOwnerDomain)
    (valueError "approval owner does not match immutable subject")
  let recordAction := metadataOr metadata "action" "kind" (.str plan.kind.value)
  check ((← memberOf recordAction kind.aliases) = true) (valueError "approval action does not match operation")
  let target ← found ((metadata.get? "target").getD (.str plan.target)).asStr? (valueError "approval target does not match operation")
  check (payload.get kind.targetField = .str target) (valueError "approval target does not match operation")
  let expectedDigest := metadataOr metadata "payloadDigest" "payload_digest" .null
  check (metadata.get "payload" = .null ∨ (metadata.get "payload").alike (.obj payload.entries))
    (valueError "approval payload does not match immutable subject")
  let digest := b.host.canonicalDigest payload
  check (expectedDigest = .str digest) (valueError "approval payload digest does not match operation")
  let evidence ← found (evidenceTexts ((metadata.get? "evidence").getD (.arr (plan.risks.map .str)))) (valueError "approval evidence is required")
  check (∀ item ∈ approval.evidenceRequired, item ∈ evidence ∨ item = digest) (valueError "approval evidence does not match operation")
  return .ofList [("id",.str approval.id),("subjectId",.str approval.subjectId),("ownerDomain",.str approval.ownerDomain.value),
    ("decidedBy",.str decidedBy),("decidedAt",textOrNull approval.decidedAt),("action",recordAction),("target",.str target),
    ("payloadDigest",.str digest),("evidence",.arr (evidence.map .str))]

/-- An operation against the stored authority. -/
def checkSnapshot (approvalId : String) (payload : Payload) (kind : AuthorizedKind) (row : SnapshotRow) : Check Payload := do
  let invalid := valueError "approval authority snapshot is invalid"
  let record ← found (Payload.ofJson? (row.payload.get "record")) invalid
  check (record.get "id" = .str approvalId) invalid
  check ((← memberOf (record.get "action") kind.aliases) = true) invalid
  check (record.get "ownerDomain" = .str b.approvalOwnerDomain) invalid
  check ((payload.get kind.targetField).alike (record.get "target") ∧
    record.get "payloadDigest" = .str (b.host.canonicalDigest payload)) (valueError "approval authority snapshot does not match operation")
  return record

/-- The authority is read from the approval and its plan, and stored. -/
def readAuthority (approvalId : String) (payload : Payload) (kind : AuthorizedKind)
    (loaded : Core.ApprovalRequest × Core.AdminChangePlan) : BridgeProg Payload := do
  let (approval,plan) := loaded
  let decidedBy ← liftProg (checkApproval approvalId approval)
  b.checkDecidedAt approval.decidedAt
  let record ← liftProg (b.checkSubject approval decidedBy plan payload kind)
  let _saved ← atomically (saveApprovalSnapshot approvalId (authoritySnapshot record approval plan) (b.host.canonicalDigest record))
  return record

def approvedAdminRecord (approvalId : String) (payload : Payload) (kind : AuthorizedKind) : BridgeProg Payload := do
  require (isBlank approvalId = false) (valueError "persisted approval record ID is required")
  require (b.hasApprovals = true) (valueError "authoritative approval store is unavailable")
  match ← atomically (approvalSnapshot approvalId) with
  | some row => liftProg (b.checkSnapshot approvalId payload kind row)
  | none => do
    let loaded ← orRaise (← ask (.loadApproval approvalId)) (valueError "approved administrative provenance is missing")
    match ← atomically (approvalSnapshot approvalId) with
    | some row => liftProg (b.checkSnapshot approvalId payload kind row)
    | none => b.readAuthority approvalId payload kind loaded

end Bridge

/-- An operation that its approval was found to authorize. -/
structure Authorized where
  approvalId : String
  kind : AuthorizedKind
  input : Payload

/-- `initiate_authorized` up to the operation itself, which the authorized call goes on with. -/
def Bridge.initiateAuthorized (b : Bridge) (kind : String) (request : Payload) : BridgeProg Authorized := do
  let required := valueError "approval_id and operation input are required"
  require (request.hasKeys ["approval_id","input"] = true) required
  let approvalId ← orRaise (request.str? "approval_id") required
  let input ← orRaise (Payload.ofJson? (request.get "input")) required
  let kind ← orRaise (AuthorizedKind.ofName kind) (valueError "unsupported authorized operation")
  let _record ← b.approvedAdminRecord approvalId input kind
  return ⟨approvalId,kind,input⟩

end Overseer.Psychlo
