import Overseer.Core.CoordinatorRuns
import Overseer.Core.Codec
import Overseer.Library.JsonText
import Overseer.Library.Text

/-! # Staged storage authorizations

`stage_authorization` and `approve_authorization` of `storage_control.py`. A stage is filed
once under its reference; its approval goes into the table the coordinator writes too, under
an id made from the reference or taken from the payload.
-/
namespace Overseer.Core
open Overseer.Library

inductive CrewMessageStatus where
  | opened | acknowledged | closed
  deriving DecidableEq

inductive CrewReviewStatus where
  | pending | waitingHumanApproval | approved | correctionRequested | rejected
  deriving DecidableEq

structure CrewMessage where
  id : String
  ownerDomain : OwnerDomain
  status : CrewMessageStatus := .opened
  reviewStatus : CrewReviewStatus := .pending
  decidedBy : Option String := none
  decidedAt : Option String := none

structure StorageAuthorizationStage where
  stageId : String
  kind : String
  authorizationRef : String
  approvalId : String
  payload : Payload
  payloadDigest : String
  crewEvidenceId : String
  crewOwner : String
  createdAt : String

/-- A row: the stage as it was dumped, and as it is read back. -/
structure StageRow where
  kind : String
  authorizationRef : String
  text : String
  stage : StorageAuthorizationStage

/-- What the host supplies: the digest, the calendar (whether a time has an offset, and its
microseconds) and the printed form of a container. -/
structure StorageHost where
  sha256 : String → String
  fromisoformat : String → Option (Bool × ℤ)
  repr : Json → String

inductive StorageError where
  | value (message : String)
  | key (k : String)
  | type (message : String)

structure StorageStore where
  coord : CoordStore := {}
  stages : Dict StageRow := .empty
  crewMessages : Dict CrewMessage := .empty

abbrev StorageTx := Tx StorageStore StorageError

namespace StorageControl

/-! ### Checks on a payload -/

def check (c : Prop) [Decidable c] (e : StorageError) : Except StorageError Unit := if c then .ok () else .error e

/-- `[A-Za-z0-9][A-Za-z0-9._-]{0,127}`. -/
def isIdentifier (s : String) : Bool :=
  match s.toList with
  | [] => false
  | c :: rest => c.isAlphanum && rest.all (fun d => d.isAlphanum || d = '.' || d = '_' || d = '-') && rest.length ≤ 127

def isDigest : Json → Bool
  | .str s => s.startsWith "sha256:" && s.length = 71 &&
      (s.toList.drop 7).all fun c => c.isDigit || ('a' ≤ c && c ≤ 'f')
  | _ => false

section Host
variable (host : StorageHost)

/-- `str(value)`. -/
def str : Json → String
  | .arr items => host.repr (.arr items)
  | .obj members => host.repr (.obj members)
  | v => v.text

/-- `value.replace("Z", "+00:00")`. -/
def offsetText (value : String) : String := String.ofList (value.toList.flatMap fun c => if c = 'Z' then "+00:00".toList else [c])

def time (value : String) : Except StorageError ℤ :=
  match host.fromisoformat (offsetText value) with
  | none => .error (.value "Invalid isoformat string")
  | some (false,_) => .error (.value "timezone is required")
  | some (true,micros) => .ok micros

/-- `a or b` of two texts, where an absent and an empty one count as missing. -/
def orElse (a : Option String) (b : String) : String :=
  match a with
  | some s => if s = "" then b else s
  | none => b

def rootFields : List String := ["authorization_ref","action","project_id","root_id","policy_revision","root_identity","alias",
  "status","max_bytes","target_digest","expires_at"]

def operationFields : List String := ["authorization_ref","request_id","request_digest","project_id","root_id","action",
  "policy_revision","claim_id","approval_id","target_digest","limits","expires_at"]

def checkIdentifiers (payload : Payload) : List String → Except StorageError Unit
  | [] => .ok ()
  | name :: rest => do
    check ((payload.str? name).any isIdentifier) (.value s!"{name} is invalid")
    checkIdentifiers payload rest

/-- The digest of the target and the expiry. -/
def checkExpiry (payload : Payload) (now : String) : Except StorageError Unit := do
  let invalid := StorageError.value "digest or expiry is invalid"
  check (isDigest (payload.get "target_digest") = true) invalid
  match payload.str? "expires_at" with
  | none => .error invalid
  | some expiresAt =>
    let expires ← time host expiresAt
    let current ← time host now
    check (current < expires) invalid

instance decidableMemTexts (o : Option String) (texts : List (Option String)) : Decidable (o ∈ texts) := List.instDecidableMemOfLawfulBEq o texts

def checkRoot (payload : Payload) : Except StorageError Unit := do
  let invalid := StorageError.value "root authorization fields are invalid"
  check (payload.str? "action" ∈ [some "root.register",some "root.transition"]) invalid
  check ((payload.get "status").hashable = true) (.type "unhashable type")
  check (payload.str? "status" ∈ [some "active",some "suspended",some "retired"]) invalid
  check (isDigest (payload.get "root_identity") = true) invalid
  check ((payload.str? "alias").any (· ≠ "") = true) invalid
  match payload.get "max_bytes" with
  | .int n => check (1 ≤ n) invalid
  | _ => .error invalid

def isLimit : Json → Bool
  | .int n => 0 ≤ n
  | _ => false

def checkOperation (payload : Payload) : Except StorageError Unit := do
  let invalid := StorageError.value "operation authorization fields are invalid"
  check (isDigest (payload.get "request_digest") = true) invalid
  match payload.get "limits" with
  | .obj members => check (∀ m ∈ members, isLimit m.2 = true) invalid
  | _ => .error invalid

/-- `_validate_payload`; `now` is the creation time or a reading of the clock. -/
def validatePayload (kind : String) (payload : Payload) (now : String) : Except StorageError Unit := do
  checkIdentifiers payload ["authorization_ref","project_id","root_id","policy_revision","action"]
  checkExpiry host payload now
  if kind = "root" then checkRoot payload else checkOperation payload

/-! ### Staging -/

def expectedOwner (kind : String) : Option String :=
  if kind = "root" then some "kira" else if kind = "operation" then some "obrien" else none

/-- The arguments of a call with the two readings of the clock it can make. -/
structure StageCall where
  kind : String
  payload : Payload
  crewEvidenceId : String
  crewOwner : String
  createdAt : Option String := none
  validatedAt : String
  stagedAt : String

def StageCall.authorizationRef (call : StageCall) : String := str host (call.payload.get "authorization_ref")

/-- The id of the approval of a stage. -/
def StageCall.approvalId (call : StageCall) : String :=
  if call.kind = "operation" then str host (call.payload.get "approval_id")
  else "approval.storage." ++ call.kind ++ "." ++ call.authorizationRef host

/-- What the approval of a stage is about. -/
def StageCall.approvalSubject (call : StageCall) : String :=
  if call.kind = "root" then call.authorizationRef host else str host (call.payload.get "request_id")

def StageCall.digest (call : StageCall) : String :=
  "sha256:" ++ host.sha256 (Json.dumps true (Json.sortKeys (.obj call.payload.entries)))

def StageCall.stage (call : StageCall) : StorageAuthorizationStage where
  stageId := "stage.storage." ++ call.kind ++ "." ++ call.authorizationRef host
  kind := call.kind
  authorizationRef := call.authorizationRef host
  approvalId := call.approvalId host
  payload := call.payload
  payloadDigest := call.digest host
  crewEvidenceId := call.crewEvidenceId
  crewOwner := call.crewOwner
  createdAt := orElse call.createdAt call.stagedAt

def StageCall.approval (call : StageCall) : ApprovalRequest where
  id := call.approvalId host
  subjectId := call.approvalSubject host
  approvalLevel := .human
  requesterThread := call.crewOwner
  ownerDomain := .obrien
  reason := "Approve exact " ++ call.kind ++ " storage authorization digest " ++ call.digest host
  evidenceRequired := [call.crewEvidenceId,call.digest host]

/-- `json.dumps` of a stage with its keys sorted. -/
def dumped (stage : StorageAuthorizationStage) : String :=
  Json.dumps true (Json.sortKeys (.obj [("stage_id",.str stage.stageId),("kind",.str stage.kind),
    ("authorization_ref",.str stage.authorizationRef),("approval_id",.str stage.approvalId),("payload",.obj stage.payload.entries),
    ("payload_digest",.str stage.payloadDigest),("crew_evidence_id",.str stage.crewEvidenceId),("crew_owner",.str stage.crewOwner),
    ("created_at",.str stage.createdAt)]))

/-- The checks before the store is opened. -/
def StageCall.checks (call : StageCall) : Except StorageError Unit := do
  check (expectedOwner call.kind = some call.crewOwner ∧ call.crewEvidenceId.startsWith "crew." = true)
    (.value "external crew evidence owner does not match authorization kind")
  check (call.payload.hasKeys (if call.kind = "root" then rootFields else operationFields) = true)
    (.value "authorization payload fields are not exact")
  validatePayload host call.kind call.payload (orElse call.createdAt call.validatedAt)

def requireCrew (s : StorageStore) (evidenceId owner : String) : Except StorageError Unit :=
  match s.crewMessages.get? evidenceId with
  | none => .error (.key evidenceId)
  | some message => check (message.ownerDomain.value = owner ∧ message.status = .acknowledged ∧ message.reviewStatus = .approved ∧
      message.decidedBy = some owner ∧ message.decidedAt.any (· ≠ "") = true)
    (.value "terminal acknowledged and approved crew evidence is required")

/-- The row of the stage with a reference. -/
def stageOf (s : StorageStore) (ref : String) : Option StageRow := s.stages.values.find? fun row => row.authorizationRef = ref

/-- A call passes its checks, the crew's evidence is there, and the reference is free or was
staged by the same call. -/
def StageCall.accepted (call : StageCall) (s : StorageStore) : Except StorageError Unit := do
  call.checks host
  requireCrew s call.crewEvidenceId call.crewOwner
  check ((stageOf s (call.authorizationRef host)).all (fun row => row.text = dumped (call.stage host)) = true)
    (.value "authorization reference is immutable")

def liftCheck {α : Type} (r : Except StorageError α) : StorageTx α := fun s => r.map fun a => (a,s)

theorem post_liftCheck {α : Type} (r : Except StorageError α) (s : StorageStore) (Q : α → StorageStore → Prop) :
    (liftCheck r).Post s Q ↔ ∀ a, r = .ok a → Q a s := by
  unfold Tx.Post liftCheck
  cases r with
  | error e => simp [Except.map]
  | ok a => simp [Except.map]

theorem check_ok {c : Prop} [Decidable c] {e : StorageError} {a : Unit} (h : check c e = .ok a) : c := by
  unfold check at h
  split at h
  · assumption
  · cases h

/-- `INSERT OR IGNORE` into the stages. -/
def insertStage (stage : StorageAuthorizationStage) (s : StorageStore) : StorageStore :=
  if (s.stages.get? stage.stageId).isSome ∨ (stageOf s stage.authorizationRef).isSome then s
  else { s with stages := s.stages.set stage.stageId ⟨stage.kind,stage.authorizationRef,dumped stage,stage⟩ }

theorem insertStage_coord (stage : StorageAuthorizationStage) (s : StorageStore) : (insertStage stage s).coord = s.coord := by
  unfold insertStage
  split <;> rfl

def storeApproval (approval : ApprovalRequest) (s : StorageStore) : StorageStore :=
  { s with coord := { s.coord with approvals := s.coord.approvals.set approval.id approval } }

def stageAuthorization (call : StageCall) : StorageTx Unit := do
  let s ← Tx.read id
  liftCheck (call.accepted host s)
  Tx.write (insertStage (call.stage host))
  Tx.write (storeApproval (call.approval host))

/-! ### Approving -/

/-- What the approval of the stage has to be about. -/
def expectedSubject (stage : StorageAuthorizationStage) : Json :=
  if stage.kind = "root" then .str stage.authorizationRef else stage.payload.get "request_id"

/-- Whether the approval is still open for the stage, and its approver independent. -/
def independentPending (stage : StorageAuthorizationStage) (approval : ApprovalRequest) (approvedBy : String) : Prop :=
  approvedBy ≠ stage.crewOwner ∧ approval.status = .pending ∧ Json.str approval.subjectId = expectedSubject stage ∧
    approval.evidenceRequired = [stage.crewEvidenceId,stage.payloadDigest]

instance (stage : StorageAuthorizationStage) (approval : ApprovalRequest) (approvedBy : String) :
    Decidable (independentPending stage approval approvedBy) := inferInstanceAs (Decidable (_ ∧ _ ∧ _ ∧ _))

/-- `approve_authorization`; `clock` is read when no time is given. -/
def approveAuthorization (authorizationRef approvedBy : String) (approvedAt : Option String) (clock : String) : StorageTx Unit := do
  liftCheck (check (isBlank approvedBy = false) (.value "approved_by is required"))
  let now := orElse approvedAt clock
  let _ ← liftCheck (time host now)
  let s ← Tx.read id
  match stageOf s authorizationRef with
  | none => Tx.raise (.value "authorization stage does not exist")
  | some row =>
    liftCheck (requireCrew s row.stage.crewEvidenceId row.stage.crewOwner)
    match s.coord.approvals.get? row.stage.approvalId with
    | none => Tx.raise (.key row.stage.approvalId)
    | some approval =>
      liftCheck (check (independentPending row.stage approval approvedBy)
        (.value "exact independent pending storage approval is required"))
      Tx.write (storeApproval (Coordinator.approve approval approvedBy (some now)))

end Host

end StorageControl
end Overseer.Core
