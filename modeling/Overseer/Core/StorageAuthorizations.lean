import Overseer.Core.StorageControl

/-! # Storage authorizations

What becomes of a staged authorization: `create_execution_request`, `materialize_authorization` and
`revoke_authorization` of `storage_control.py`, and the two verifications of `storage_adapter.py`.
The rows of a reference are kept once; its revocation stands in a table of its own.
-/
namespace Overseer.Core
open Overseer.Library StorageControl

inductive StorageAdapterStatus where
  | registered | approvalPending | approved | enabled | suspended | expired | revoked | retired
  deriving DecidableEq

structure StorageAdapterRegistration where
  adapterId : String
  allowedActions : List String
  registrationRevision : ℤ
  status : StorageAdapterStatus := .registered
  kind : String := "bounded_storage_v1"
  contractVersion : String := "1.0"
  allowedResourcePrefixes : List String := ["storage."]
  approvedRevision : Option ℤ := none
  expiresAt : Option String := none
  revokedAt : Option String := none
  readinessChecks : List String := []

structure StorageExecutionRequest where
  requestId : String
  adapterId : String
  adapterRevision : ℤ
  projectId : String
  resourceId : String
  rootId : String
  action : String
  parameters : Payload
  policyRevision : String
  claimId : String
  approvalId : String
  authorizationRef : String
  idempotencyKey : String
  requestedBy : String
  reason : String
  acceptanceCriteria : List String
  limits : Payload
  expiresAt : String
  contractVersion : String := "1.0"
  requestDigest : String := ""
  createdAt : Option String := none

/-- A materialized authorization: the payload that was staged, and its approval. -/
structure AuthorizationRecord where
  payload : Payload
  approvalId : String
  approvedAt : String
  status : String := "approved"
  revokedAt : Option String := none
  deriving DecidableEq

structure Revocation where
  kind : String
  revokedBy : String
  revokedAt : String
  evidenceId : String

/-- The tables of the storage authorizations; revocations are filed under their reference. -/
structure AuthorizationStore where
  control : StorageStore := {}
  registrations : Dict StorageAdapterRegistration := .empty
  executionRequests : Dict StorageExecutionRequest := .empty
  authorizations : Dict AuthorizationRecord := .empty
  rootAuthorizations : Dict AuthorizationRecord := .empty
  revocations : Dict Revocation := .empty

/-- A printed reading of the clock. -/
structure ClockText where
  text : String
  nonempty : text ≠ ""

structure AuthorizationHost extends StorageHost where
  isoformat : ℤ → String

abbrev AuthorizationTx := Tx AuthorizationStore StorageError

/-- An exception of the adapter, with its code. -/
structure AdapterError where
  code : String
  message : String

namespace StorageControl

/-- A transaction on the stages, crew messages and approvals. -/
def onControl {α : Type} (t : StorageTx α) : AuthorizationTx α := fun s => (t s.control).map fun r => (r.1,{ s with control := r.2 })

def liftChecked {α : Type} (r : Except StorageError α) : AuthorizationTx α := fun s => r.map fun a => (a,s)

section Host
variable (host : AuthorizationHost)

/-! ### Execution requests -/

def requestFields : List String := ["request_id","adapter_id","adapter_revision","project_id","resource_id","root_id","action",
  "parameters","policy_revision","claim_id","approval_id","authorization_ref","idempotency_key","requested_by","reason",
  "acceptance_criteria","limits","expires_at"]

def requestIdentifiers : List String := ["request_id","adapter_id","project_id","resource_id","root_id","action","policy_revision",
  "claim_id","approval_id","authorization_ref","idempotency_key","requested_by"]

def allowedActions : List String := ["directory.create","file.write","path.copy","path.move","path.delete","backup.create",
  "backup.verify_restore"]

def requiredReadiness : List String := ["durable_operation_journal","descriptor_relative_containment","strict_tool_schemas",
  "transport_verified"]

def isPositive : Json → Bool
  | .int n => 1 ≤ n
  | _ => false

def isCriterion : Json → Bool
  | .str s => !isBlank s && s.length ≤ 256
  | _ => false

def members : Json → List (String × Json)
  | .obj members => members
  | _ => []

def isMapping : Json → Bool
  | .obj _ => true
  | _ => false

def items : Json → List Json
  | .arr items => items
  | _ => []

/-- The parameters an action has to have, where they are laid down. -/
def expectedParameters : String → Option (List String)
  | "directory.create" => some ["relative_path","parents"]
  | "file.write" => some ["relative_path","content","content_digest","write_mode","content_encoding","expected_prior_digest"]
  | "path.copy" => some ["source_root_id","source_relative_path","relative_path","destination_mode"]
  | "path.move" => some ["source_relative_path","relative_path","expected_source_digest","expected_source_type","destination_mode"]
  | "path.delete" => some ["relative_path","expected_type","expected_digest","recursive"]
  | _ => none

def isRelativePath : Json → Bool
  | .str s => s ≠ "" && !hasPrefix s "/" && !hasPart s "\\" && (s.splitOn "/").all (· ∉ ["",".",".."])
  | _ => false

def pathsValid (parameters : Payload) : Bool :=
  parameters.entries.all fun e => !"path".toList.isSuffixOf e.1.toList || isRelativePath e.2

def fullDigest (value : Json) : String := "sha256:" ++ host.sha256 (Json.dumps true (Json.sortKeys value))

def texts (values : List String) : Json := .arr (values.map .str)

def optional : Option String → Json
  | none => .null
  | some s => .str s

/-- Every field but the digest. -/
def digestMembers (r : StorageExecutionRequest) : List (String × Json) :=
  [("request_id",.str r.requestId),("adapter_id",.str r.adapterId),("adapter_revision",.int r.adapterRevision),
    ("project_id",.str r.projectId),("resource_id",.str r.resourceId),("root_id",.str r.rootId),("action",.str r.action),
    ("parameters",.obj r.parameters.entries),("policy_revision",.str r.policyRevision),("claim_id",.str r.claimId),
    ("approval_id",.str r.approvalId),("authorization_ref",.str r.authorizationRef),("idempotency_key",.str r.idempotencyKey),
    ("requested_by",.str r.requestedBy),("reason",.str r.reason),("acceptance_criteria",texts r.acceptanceCriteria),
    ("limits",.obj r.limits.entries),("expires_at",.str r.expiresAt),("contract_version",.str r.contractVersion),
    ("created_at",optional r.createdAt)]

def canonicalDigest (r : StorageExecutionRequest) : String := fullDigest host (.obj (digestMembers r))

/-- `canonical_adapter_request_digest`: a parameter takes the place of a field of its name. -/
def canonicalAdapterRequestDigest (r : StorageExecutionRequest) : String :=
  let fields := Payload.ofList [("project_id",.str r.projectId),("root_id",.str r.rootId),("request_id",.str r.requestId),
    ("idempotency_key",.str r.idempotencyKey),("authorization_ref",.str r.authorizationRef),
    ("policy_revision",.str r.policyRevision),("reason",.str r.reason)]
  fullDigest host (.obj [("action",.str r.action),("request",.obj (fields.merge r.parameters.entries).entries)])

/-- `validate_storage_execution_request`, which looks at backups only. -/
def validateStorageExecutionRequest (r : StorageExecutionRequest) : Except AdapterError Unit := do
  let check (c : Bool) (message : String) : Except AdapterError Unit := if c then .ok () else .error ⟨"INVALID_ARGUMENT",message⟩
  let checkLimits := check (r.limits.hasKeys ["max_bytes","max_items"] && r.limits.values.all isPositive)
    "exact positive backup limits are required"
  if r.action = "backup.create" then do
    check (r.parameters.hasKeys ["source_root_id","retention_count","encryption_profile"])
      "exact backup action parameters are required"
    check ((r.parameters.str? "source_root_id").any isIdentifier &&
        (r.parameters.get "retention_count" = .int 3 || r.parameters.get "retention_count" = .float "3.0") &&
        r.parameters.get "encryption_profile" = .str "gpg-symmetric-aes256-iterated-s2k")
      "backup creation parameters are invalid"
    checkLimits
  else if r.action = "backup.verify_restore" then do
    check (r.parameters.hasKeys ["artifact_id","expected_artifact_digest","expected_manifest_digest"])
      "exact backup action parameters are required"
    check ((r.parameters.str? "artifact_id").any (fun id => isIdentifier id && hasPrefix id "backup-") &&
        isDigest (r.parameters.get "expected_artifact_digest") && isDigest (r.parameters.get "expected_manifest_digest"))
      "backup verification parameters are invalid"
    checkLimits
  else pure ()

/-- The arguments of a request with the reading of the clock it can make. -/
structure RequestCall where
  payload : Payload
  createdAt : Option String := none
  clock : String

def RequestCall.request (call : RequestCall) (now : ℤ) : StorageExecutionRequest :=
  let p := call.payload
  let text (name : String) := str host.toStorageHost (p.get name)
  let unsigned : StorageExecutionRequest := ⟨text "request_id",text "adapter_id",((p.get "adapter_revision").asInt?).getD 0,
    text "project_id",text "resource_id",text "root_id",text "action",.ofList (members (p.get "parameters")),text "policy_revision",
    text "claim_id",text "approval_id",text "authorization_ref",text "idempotency_key",text "requested_by",text "reason",
    (items (p.get "acceptance_criteria")).filterMap Json.asStr?,.ofList (members (p.get "limits")),text "expires_at","1.0","",
    some (host.isoformat now)⟩
  { unsigned with requestDigest := canonicalDigest host unsigned }

/-- The checks before the store is opened. -/
def RequestCall.checked (call : RequestCall) : Except StorageError (StorageExecutionRequest × ℤ × ℤ) := do
  let p := call.payload
  check (p.hasKeys requestFields = true) (.value "execution request fields are not exact")
  check ((requestIdentifiers.all fun name => (p.str? name).any isIdentifier) = true)
    (.value "execution request identifiers are invalid")
  check ((p.str? "action").any (· ∈ allowedActions) = true ∧ isPositive (p.get "adapter_revision") = true)
    (.value "execution request adapter or action is invalid")
  check (p.get "project_id" = p.get "requested_by" ∧ (p.str? "reason").any (fun r => 1 ≤ r.length ∧ r.length ≤ 512) = true)
    (.value "execution request owner or reason is invalid")
  check (isMapping (p.get "parameters") = true ∧ members (p.get "limits") ≠ [] ∧
      ((members (p.get "limits")).all fun m => isPositive m.2) = true)
    (.value "execution request parameters or limits are invalid")
  check (items (p.get "acceptance_criteria") ≠ [] ∧ (items (p.get "acceptance_criteria")).all isCriterion = true)
    (.value "execution request acceptance criteria are invalid")
  let now ← time host.toStorageHost (orElse call.createdAt call.clock)
  let expires ← time host.toStorageHost (str host.toStorageHost (p.get "expires_at"))
  check (now < expires) (.value "execution request is expired")
  let request := call.request host now
  check ((expectedParameters request.action).all (request.parameters.hasKeys ·) = true)
    (.value "execution request action fields are invalid")
  check (pathsValid request.parameters = true) (.value "execution request path is invalid")
  match validateStorageExecutionRequest request with
  | .error _ => .error (.value "execution request action fields are invalid")
  | .ok _ => .ok (request,now,expires)

/-- A time that is given and not empty lies after another one. -/
def after (given : Option String) (limit : ℤ) : Except StorageError Bool :=
  match given with
  | none => .ok false
  | some "" => .ok false
  | some text => do
    let expires ← time host.toStorageHost text
    pure (limit < expires)

/-- A claim under which storage may be used. -/
def isHeld (claim : Claim) : Prop :=
  claim.status ∈ [ClaimStatus.approved,.active] ∧ claim.claimType ∈ [ClaimType.lease,.lock,.checkout,.hold]

instance (claim : Claim) : Decidable (isHeld claim) := inferInstanceAs (Decidable (_ ∧ _))

def StorageAdapterRegistration.accepts (r : StorageAdapterRegistration) (resourceId action : String) (now : ℤ) :
    Except StorageError Bool :=
  if r.status = .enabled ∧ r.approvedRevision = some r.registrationRevision ∧ r.contractVersion = "1.0" ∧
      r.kind = "bounded_storage_v1" ∧ requiredReadiness ⊆ r.readinessChecks ∧ action ∈ r.allowedActions ∧
      r.allowedActions ⊆ allowedActions ∧ r.allowedResourcePrefixes.any (hasPrefix resourceId) = true ∧
      r.revokedAt.all (· = "") = true then
    if r.expiresAt.all (· = "") = true then .ok true else after host r.expiresAt now
  else .ok false

/-- `save_storage_execution_request`; an id that is taken is refused by the table. -/
def saveStorageExecutionRequest (r : StorageExecutionRequest) : AuthorizationTx Unit := do
  let s ← Tx.read id
  match s.executionRequests.values.find? fun o =>
      o.adapterId = r.adapterId ∧ o.projectId = r.projectId ∧ o.idempotencyKey = r.idempotencyKey with
  | some prior => liftChecked (check (prior.requestDigest = r.requestDigest)
      (.value "storage idempotency key already belongs to another request"))
  | none => do
    liftChecked (check (s.executionRequests.get? r.requestId = none) (.key r.requestId))
    Tx.write fun s => { s with executionRequests := s.executionRequests.set r.requestId r }

def found {α : Type} (row : Option α) (k : String) : Except StorageError α :=
  match row with
  | some a => .ok a
  | none => .error (.key k)

def createExecutionRequest (call : RequestCall) : AuthorizationTx Unit := do
  let checked ← liftChecked (call.checked host)
  let request := checked.1
  let s ← Tx.read id
  let claim ← liftChecked (found (s.control.coord.claims.get? request.claimId) request.claimId)
  let registration ← liftChecked (found (s.registrations.get? request.adapterId) request.adapterId)
  let covered ← liftChecked (after host claim.expiresAt checked.2.2)
  liftChecked (check (claim.resourceId = request.resourceId ∧ claim.ownerThread = request.requestedBy ∧
      claim.requestedAction = request.action ∧ isHeld claim ∧ covered = true)
    (.value "execution request claim does not match or cover expiry"))
  let accepts ← liftChecked (StorageAdapterRegistration.accepts host registration request.resourceId request.action checked.2.1)
  liftChecked (check (registration.registrationRevision = request.adapterRevision ∧ accepts = true)
    (.value "execution request adapter is not enabled for the exact action"))
  saveStorageExecutionRequest request

/-! ### Materializing -/

/-- What an approval has to be before its stage is materialized. -/
def Granted (stage : StorageAuthorizationStage) (approval : ApprovalRequest) : Prop :=
  approval.status = .approved ∧ approval.decidedBy.any (· ≠ "") = true ∧ approval.decidedBy ≠ some stage.crewOwner ∧
    approval.decidedAt.any (· ≠ "") = true ∧ Json.str approval.subjectId = expectedSubject stage ∧
    stage.crewEvidenceId ∈ approval.evidenceRequired ∧ stage.payloadDigest ∈ approval.evidenceRequired ∧
    approval.ownerDomain = .obrien

instance (stage : StorageAuthorizationStage) (approval : ApprovalRequest) : Decidable (Granted stage approval) :=
  inferInstanceAs (Decidable (_ ∧ _))

def recordOf (stage : StorageAuthorizationStage) (approval : ApprovalRequest) (now : String) : AuthorizationRecord where
  payload := stage.payload
  approvalId := approval.id
  approvedAt := orElse approval.decidedAt now

/-- The request and the claim of an operation are the ones that were staged. -/
def OperationMatches (s : AuthorizationStore) (stage : StorageAuthorizationStage) (approval : ApprovalRequest) : Except StorageError Unit := do
  let p := stage.payload
  let requestId := str host.toStorageHost (p.get "request_id")
  let claimId := str host.toStorageHost (p.get "claim_id")
  let request ← found (s.executionRequests.get? requestId) requestId
  let claim ← found (s.control.coord.claims.get? claimId) claimId
  let expires ← time host.toStorageHost (str host.toStorageHost (p.get "expires_at"))
  let covered ← after host claim.expiresAt expires
  check (p.get "request_id" = .str request.requestId ∧ p.get "request_digest" = .str request.requestDigest ∧
      p.get "project_id" = .str request.projectId ∧ p.get "root_id" = .str request.rootId ∧ p.get "action" = .str request.action ∧
      p.get "policy_revision" = .str request.policyRevision ∧ p.get "claim_id" = .str request.claimId ∧
      p.get "approval_id" = .str request.approvalId ∧ p.get "authorization_ref" = .str request.authorizationRef ∧
      p.get "expires_at" = .str request.expiresAt ∧ p.get "target_digest" = .str (canonicalAdapterRequestDigest host request) ∧
      (p.get "limits").alike (.obj request.limits.entries) = true ∧ approval.id = request.approvalId ∧ claim.id = request.claimId ∧
      claim.resourceId = request.resourceId ∧ claim.ownerThread = request.requestedBy ∧ isHeld claim ∧ covered = true)
    (.value "operation project, request, claim, approval, authorization, digest, or expiry does not match")

/-- A reference that has a row keeps it. -/
def keepFirst (table : Dict AuthorizationRecord) (ref : String) (record : AuthorizationRecord) (message : String) :
    Except StorageError (Dict AuthorizationRecord) := do
  check ((table.get? ref).all (· = record) = true) (.value message)
  pure (if (table.get? ref).isSome then table else table.set ref record)

def saveStorageRootAuthorization (record : AuthorizationRecord) : AuthorizationTx Unit := do
  let s ← Tx.read id
  let table ← liftChecked (keepFirst s.rootAuthorizations (str host.toStorageHost (record.payload.get "authorization_ref")) record
    "storage root authorization reference is immutable")
  Tx.write fun s => { s with rootAuthorizations := table }

def saveStorageAuthorization (record : AuthorizationRecord) : AuthorizationTx Unit := do
  let s ← Tx.read id
  let table ← liftChecked (keepFirst s.authorizations (str host.toStorageHost (record.payload.get "authorization_ref")) record
    "storage authorization reference is immutable")
  Tx.write fun s => { s with authorizations := table }

def stagedRow (s : StorageStore) (ref : String) : Except StorageError StageRow :=
  match stageOf s ref with
  | some row => .ok row
  | none => .error (.value "authorization stage does not exist")

/-- What is materialized: the stage of the reference, its approval, and what they have to pass. -/
def materializable (s : AuthorizationStore) (authorizationRef now : String) :
    Except StorageError (StorageAuthorizationStage × ApprovalRequest) := do
  let row ← stagedRow s.control authorizationRef
  let approval ← found (s.control.coord.approvals.get? row.stage.approvalId) row.stage.approvalId
  requireCrew s.control row.stage.crewEvidenceId row.stage.crewOwner
  check (Granted row.stage approval) (.value "exact human approval and crew evidence are required")
  let expires ← time host.toStorageHost (str host.toStorageHost (row.stage.payload.get "expires_at"))
  let current ← time host.toStorageHost now
  check (current < expires) (.value "authorization is expired")
  pure (row.stage,approval)

def materializeAuthorization (authorizationRef : String) (materializedAt : Option String) (clock : String) : AuthorizationTx Unit := do
  let now := orElse materializedAt clock
  let s ← Tx.read id
  let staged ← liftChecked (materializable host s authorizationRef now)
  if staged.1.kind = "root" then saveStorageRootAuthorization host (recordOf staged.1 staged.2 now)
  else do
    liftChecked (OperationMatches host s staged.1 staged.2)
    saveStorageAuthorization host (recordOf staged.1 staged.2 now)

/-! ### Revoking -/

def materialized (s : AuthorizationStore) (kind ref : String) : Bool :=
  if kind = "root" then (s.rootAuthorizations.get? ref).isSome else (s.authorizations.get? ref).isSome

/-- What is revoked is materialized, and is revoked once. -/
def revocable (s : AuthorizationStore) (authorizationRef revokedBy evidenceId : String) : Except StorageError String := do
  check (revokedBy ≠ "" ∧ evidenceId ≠ "") (.value "revoker and evidence are required")
  let crew ← found (s.control.crewMessages.get? evidenceId) evidenceId
  requireCrew s.control evidenceId crew.ownerDomain.value
  match stageOf s.control authorizationRef with
  | none => .error (.value "materialized authorization does not exist")
  | some row => do
    check (materialized s row.kind authorizationRef = true) (.value "materialized authorization does not exist")
    check (s.revocations.get? authorizationRef = none) (.value "UNIQUE constraint failed")
    pure row.kind

def revokeAuthorization (authorizationRef revokedBy evidenceId : String) (revokedAt : Option String) (clock : ClockText) :
    AuthorizationTx Unit := do
  let s ← Tx.read id
  let kind ← liftChecked (revocable s authorizationRef revokedBy evidenceId)
  Tx.write fun s =>
    { s with revocations := s.revocations.set authorizationRef ⟨kind,revokedBy,orElse revokedAt clock.text,evidenceId⟩ }

/-! ### Verifying -/

/-- A row as it is loaded, with the time it was revoked at. -/
def loaded (s : AuthorizationStore) (table : Dict AuthorizationRecord) (ref : String) : Option AuthorizationRecord :=
  (table.get? ref).map fun record =>
    match s.revocations.get? ref with
    | some r => { record with revokedAt := some r.revokedAt }
    | none => record

def required (message : String) : AdapterError := ⟨"AUTHORIZATION_REQUIRED",message⟩

def orRequired {α : Type} (row : Option α) (message : String) : Except AdapterError α :=
  match row with
  | some a => .ok a
  | none => .error (required message)

def demand (c : Prop) [Decidable c] (code message : String) : Except AdapterError Unit := if c then .ok () else .error ⟨code,message⟩

/-- `_timestamp`; a time that cannot be read makes the authorization invalid. -/
def timestamp (read : Except StorageError ℤ) (message : String) : Except AdapterError ℤ :=
  match read with
  | .ok t => .ok t
  | .error _ => .error ⟨"AUTHORIZATION_INVALID",message⟩

/-- The time a verification is made at: the one it is given, or the clock. -/
def verifiedTime (verifiedAt : Option String) (clock : ℤ) : Except StorageError ℤ :=
  match verifiedAt with
  | none => .ok clock
  | some t => if t = "" then .ok clock else time host.toStorageHost t

def rootVerifyFields : List String := ["authorization_ref","action","project_id","root_id","policy_revision","root_identity","alias",
  "status","max_bytes","target_digest"]

def isText (p : Payload) (name : String) : Bool := (p.str? name).any (· ≠ "")

/-- `verify_storage_root_authorization_status`: the record it answers with, or its error. -/
def verifyStorageRootAuthorizationStatus (s : AuthorizationStore) (payload : Payload) (verifiedAt : Option String) (clock : ℤ) :
    Except AdapterError AuthorizationRecord := do
  let failed := "authoritative root verification failed"
  demand (payload.hasKeys rootVerifyFields = true ∧ (rootVerifyFields.all fun name => name = "max_bytes" || isText payload name) = true ∧
      isPositive (payload.get "max_bytes") = true ∧ payload.str? "action" ∈ [some "root.register",some "root.transition"] ∧
      payload.str? "status" ∈ [some "active",some "suspended",some "retired"] ∧ isDigest (payload.get "root_identity") = true ∧
      isDigest (payload.get "target_digest") = true)
    "INVALID_ARGUMENT" "exact root verification fields are required"
  let missing := "authoritative root records are unavailable"
  let ref := str host.toStorageHost (payload.get "authorization_ref")
  let record ← orRequired (loaded s s.rootAuthorizations ref) missing
  let approval ← orRequired (s.control.coord.approvals.get? record.approvalId) missing
  let now ← timestamp (verifiedTime host verifiedAt clock) failed
  demand ((["action","project_id","root_id","policy_revision","root_identity","alias","status","max_bytes","target_digest"].all
    fun name => record.payload.get name = payload.get name) = true) "AUTHORIZATION_MISMATCH" failed
  let approvedAt ← timestamp (time host.toStorageHost record.approvedAt) failed
  let expires ← timestamp (time host.toStorageHost (str host.toStorageHost (record.payload.get "expires_at"))) failed
  demand (record.status = "approved" ∧ record.revokedAt.all (· = "") = true ∧ approvedAt ≤ now ∧ now < expires)
    "AUTHORIZATION_INVALID" failed
  demand (approval.id = record.approvalId ∧ record.payload.get "authorization_ref" = .str approval.subjectId ∧ approval.status = .approved)
    "AUTHORIZATION_INVALID" failed
  pure record

def verifyFields : List String := ["authorization_ref","request_digest","project_id","root_id","action","policy_revision"]

def verifyStorageAuthorization (record : AuthorizationRecord) (request : StorageExecutionRequest) (claim : Claim)
    (approval : ApprovalRequest) (payload : Payload) (now : ℤ) (failed : String) : Except AdapterError AuthorizationRecord := do
  let p := record.payload
  demand (p.get "request_id" = .str request.requestId ∧ p.get "target_digest" = payload.get "request_digest" ∧
      p.get "project_id" = payload.get "project_id" ∧ p.get "root_id" = payload.get "root_id" ∧ p.get "action" = payload.get "action" ∧
      p.get "policy_revision" = payload.get "policy_revision" ∧ p.get "request_digest" = .str request.requestDigest ∧
      p.get "request_digest" = .str (canonicalDigest host request) ∧
      payload.get "request_digest" = .str (canonicalAdapterRequestDigest host request)) "AUTHORIZATION_MISMATCH" failed
  let expires ← timestamp (time host.toStorageHost (str host.toStorageHost (p.get "expires_at"))) failed
  demand (record.status = "approved" ∧ record.revokedAt.all (· = "") = true ∧ now < expires) "AUTHORIZATION_INVALID" failed
  validateStorageExecutionRequest request
  demand ((p.get "limits").alike (.obj request.limits.entries) = true) "AUTHORIZATION_MISMATCH" failed
  demand (payload.get "project_id" = .str request.projectId ∧ payload.get "root_id" = .str request.rootId ∧
    payload.get "action" = .str request.action ∧ payload.get "policy_revision" = .str request.policyRevision)
    "AUTHORIZATION_MISMATCH" failed
  demand (p.get "claim_id" = .str claim.id ∧ claim.id = request.claimId ∧ claim.resourceId = request.resourceId ∧
    claim.ownerThread = request.requestedBy ∧ isHeld claim) "CLAIM_INVALID" failed
  match after host claim.expiresAt expires with
  | .error _ => .error ⟨"AUTHORIZATION_INVALID",failed⟩
  | .ok covered => do
    demand (covered = true) "CLAIM_INVALID" failed
    demand (approval.id = record.approvalId ∧ approval.id = request.approvalId ∧ approval.subjectId = request.requestId ∧
      approval.status = .approved) "AUTHORIZATION_INVALID" failed
    pure record

/-- `verify_storage_authorization_status`: the record it answers with, or its error. -/
def verifyStorageAuthorizationStatus (s : AuthorizationStore) (payload : Payload) (verifiedAt : Option String) (clock : ℤ) :
    Except AdapterError AuthorizationRecord := do
  demand (payload.hasKeys verifyFields = true ∧ verifyFields.all (isText payload) = true)
    "INVALID_ARGUMENT" "exact storage verification fields are required"
  let failed := "authoritative storage verification failed"
  let missing := "authoritative storage records are unavailable"
  let ref := str host.toStorageHost (payload.get "authorization_ref")
  let record ← orRequired (loaded s s.authorizations ref) missing
  let request ← orRequired (s.executionRequests.get? (str host.toStorageHost (record.payload.get "request_id"))) missing
  let claim ← orRequired (s.control.coord.claims.get? (str host.toStorageHost (record.payload.get "claim_id"))) missing
  let approval ← orRequired (s.control.coord.approvals.get? record.approvalId) missing
  let now ← timestamp (verifiedTime host verifiedAt clock) failed
  verifyStorageAuthorization host record request claim approval payload now failed

end Host
end StorageControl
end Overseer.Core
