import Overseer.Provisioning.Plans
import Overseer.Library.JsonRoundTrip
import Overseer.Library.Canonical

/-! # The contract of a provisioning plan

`build_plan` makes the steps of a plan from its inputs, `_validate_plan` makes them again and
compares digests. A plan is stored as the text of `_dump` and read by `_load`.
-/
namespace Overseer.Provisioning
open Overseer.Library Overseer.Core

/-! ### What every plan has -/

def systemUser : String := "donuthole-backup"
def sourcePath : String := "/home/god/Documents/Codex Workspace/DonutHole"
def adapterSourcePath : String := "/home/god/Documents/Codex Workspace/TheUnderdark"
def backupPath : String := "/var/lib/codex-development-backups/donuthole"
def keyDirectory : String := "/etc/codex-development-backups/keys"
def keyPath : String := keyDirectory ++ "/donuthole.gpg-passphrase"
def configPath : String := "/etc/codex-development-backups/donuthole.json"
def unitName : String := "theunderdark-donuthole.service"
def userUnitName : String := "theunderdark-mcp.service"
def unitPath : String := "/etc/systemd/system/" ++ unitName
def gpgPath : String := "/usr/bin/gpg"
def executablePath : String := "/opt/theunderdark/.venv/bin/theunderdark-production"
def statePath : String := backupPath ++ "/state"
def artifactPath : String := backupPath ++ "/artifacts"
def listenHost : String := "127.0.0.1"
def listenPort : ℤ := 8799
def overseerBaseUrl : String := "http://127.0.0.1:8766"
def serviceUrl : String := "http://127.0.0.1:8799/mcp"
def retentionCount : ℤ := 3

/-- `0o700` and `0o600`. -/
def privateDirectory : ℤ := 448
def privateFile : ℤ := 384

/-! ### Inputs -/

/-- The arguments of `build_plan` beside the id and the evidence. -/
structure PlanInputs where
  gpgSha256 : Json
  adapterCommit : Json
  runtimeDigest : Json
  capabilityDigest : Json
  rootAuthorizationRefs : Json
  rootRegistrations : Json
  overseerTokenSourceFile : Json
  overseerTokenFile : Json
  cursorKeyFile : Json

/-- `[0-9a-f]{40}`. -/
def isCommit (v : Json) : Bool := v.asStr?.any fun s => s.length = 40 && s.toList.all fun c => c.isDigit || ('a' ≤ c && c ≤ 'f')

def isIdentifierText (v : Json) : Bool := v.asStr?.any StorageControl.isIdentifier

def registrationFields : List String := ["project_id","root_id","policy_revision","host_path","alias","max_bytes","authorization_ref"]

def validRootRegistration (v : Json) : Bool :=
  match Payload.ofJson? v with
  | none => false
  | some value => value.hasKeys registrationFields &&
      ["project_id","root_id","policy_revision","alias","authorization_ref"].all (fun k => isIdentifierText (value.get k)) &&
      (value.get "host_path").asStr?.any (hasPrefix · "/") &&
      match value.get "max_bytes" with
      | .int n => 0 < n
      | _ => false

/-- A file of its own below the directory of the keys. -/
def isPrivatePath (v : Json) : Bool := v.asStr?.any fun path => hasPrefix path (keyDirectory ++ "/") && ['.','.'] ∉ path.toList.splitOn '/'

def refsValid : Json → Bool
  | .obj (e :: es) => (e :: es).all fun e => StorageControl.isDigest (.str e.1) && isIdentifierText e.2
  | _ => false

def registrationsValid : Json → Bool
  | .arr (v :: vs) => (v :: vs).all validRootRegistration
  | _ => false

def PlanInputs.valid (i : PlanInputs) (planId : String) (evidenceIds : Dict String) : Bool :=
  StorageControl.isIdentifier planId && StorageControl.isDigest i.gpgSha256 && isCommit i.adapterCommit &&
  StorageControl.isDigest i.runtimeDigest && StorageControl.isDigest i.capabilityDigest && refsValid i.rootAuthorizationRefs &&
  registrationsValid i.rootRegistrations && i.overseerTokenSourceFile.asStr?.any (hasPrefix · "/") &&
  i.overseerTokenSourceFile ∉ [i.overseerTokenFile,i.cursorKeyFile] &&
  [i.overseerTokenFile,i.cursorKeyFile].all isPrivatePath && i.overseerTokenFile ≠ i.cursorKeyFile &&
  evidenceIds.keys.all (· ∈ requiredEvidence.map (·.1)) && (requiredEvidence.map (·.1)).all (· ∈ evidenceIds.keys)

/-! ### Steps -/

section Steps
variable (i : PlanInputs)

def texts (items : List String) : Json := .arr (items.map .str)

def readOnlyPaths : Json := .arr [.str sourcePath,.str configPath,.str keyPath,i.overseerTokenFile,i.cursorKeyFile]

def readWritePaths : Json := texts [artifactPath,statePath]

def unitProperties : Json := .obj [("user",.str systemUser),("exec_start",texts [executablePath,"serve","--config",configPath]),
  ("read_only_paths",readOnlyPaths i),("read_write_paths",readWritePaths),("umask",.str "0077"),("private_tmp",.bool true),
  ("private_state",.bool true),("protect_system",.str "strict"),("protect_home",.str "read-only"),
  ("no_new_privileges",.bool true),("restrict_address_families",texts ["AF_UNIX","AF_INET"])]

def configObject : Json := .obj [("host",.str listenHost),("port",.int listenPort),("state_dir",.str statePath),
  ("journal_path",.str (statePath ++ "/journal.sqlite3")),("admission_path",.str (statePath ++ "/admission.sqlite3")),
  ("pagination_path",.str (statePath ++ "/pagination.sqlite3")),("registry_path",.str (statePath ++ "/registry.sqlite3")),
  ("overseer_authorization_endpoint",.str (overseerBaseUrl ++ "/storage/authorizations/verify")),
  ("overseer_root_endpoint",.str (overseerBaseUrl ++ "/storage/roots/verify")),
  ("overseer_token_file",i.overseerTokenFile),("cursor_key_file",i.cursorKeyFile),("root_authorization_refs",i.rootAuthorizationRefs),
  ("limits",.obj [("max_storage_bytes",.int 1073741824),("max_concurrent_operations",.int 1),("max_requests_per_window",.int 12),
    ("rate_window_seconds",.int 3600),("lease_seconds",.int 300)]),
  ("backup_bindings",.arr [.obj [("project_id",.str "project.donuthole"),("root_id",.str "backup-root"),("policy_revision",.str "1"),
    ("source_root",.str sourcePath),("artifact_dir",.str artifactPath),("passphrase_file",.str keyPath),("gpg_executable",.str gpgPath)]])]

def ensureDirectory (path : String) : ProvisioningStep :=
  ⟨"ensure_directory",.obj [("path",.str path),("mode",.int privateDirectory),("owner",.str systemUser)]⟩

def forwardSteps (configDigest unitDigest : String) : List ProvisioningStep := [
  ⟨"verify_published_adapter_source",.obj [("path",.str adapterSourcePath),("commit",i.adapterCommit),
    ("capability_digest",i.capabilityDigest)]⟩,
  ⟨"install_runtime",.obj [("source",.str adapterSourcePath),("commit",i.adapterCommit),("runtime_digest",i.runtimeDigest),
    ("destination",.str "/opt/theunderdark"),("owner",.str "root"),("immutable",.bool true)]⟩,
  ⟨"verify_endpoint_migration_ready",.obj [("host",.str listenHost),("port",.int listenPort),
    ("forbid_simultaneous_user_and_system_service",.bool true)]⟩,
  ⟨"ensure_system_user",.obj [("name",.str systemUser),("home",.str "/nonexistent"),("shell",.str "/usr/sbin/nologin")]⟩,
  ensureDirectory backupPath,
  ensureDirectory artifactPath,
  ensureDirectory statePath,
  ensureDirectory keyDirectory,
  ⟨"generate_secret_file",.obj [("path",.str keyPath),("mode",.int privateFile),("owner",.str systemUser),("bytes",.int 48),
    ("return_value",.bool false)]⟩,
  ⟨"install_overseer_api_token",.obj [("source_path",i.overseerTokenSourceFile),("destination_path",i.overseerTokenFile),
    ("mode",.int privateFile),("owner",.str systemUser),("return_value",.bool false)]⟩,
  ⟨"generate_cursor_key",.obj [("path",i.cursorKeyFile),("mode",.int privateFile),("owner",.str systemUser),("bytes",.int 32),
    ("return_value",.bool false)]⟩,
  ⟨"ensure_read_only_acl",.obj [("path",.str sourcePath),("principal",.str systemUser),("permissions",.str "r-X")]⟩,
  ⟨"install_private_config",.obj [("path",.str configPath),("mode",.int privateFile),("owner",.str systemUser),
    ("config",configObject i),("config_digest",.str configDigest)]⟩,
  ⟨"register_authorized_roots",.obj [("tool",.str "underdark_root_register"),
    ("authorization_endpoint",.str (overseerBaseUrl ++ "/storage/roots/verify")),("registrations",i.rootRegistrations),
    ("token_file",i.overseerTokenFile)]⟩,
  ⟨"stop_disable_user_service",.obj [("unit",.str userUnitName),("scope",.str "user")]⟩,
  ⟨"install_systemd_unit",.obj [("path",.str unitPath),("unit",.str unitName),("properties",unitProperties i),
    ("unit_digest",.str unitDigest)]⟩,
  ⟨"start_enable_system_service",.obj [("unit",.str unitName),("scope",.str "system")]⟩,
  ⟨"verify_mcp_service",.obj [("url",.str serviceUrl),("capability_digest",i.capabilityDigest),
    ("required_tools",texts ["underdark_backup_create","underdark_backup_verify_restore"])]⟩,
  ⟨"verify_codex_url",.obj [("url",.str serviceUrl)]⟩,
  ⟨"verify_gpg_identity",.obj [("path",.str gpgPath),("sha256",i.gpgSha256)]⟩,
  ⟨"verify_backup_policy",.obj [("retention",.int retentionCount),("plaintext_archive",.bool false),("restore_required",.bool true)]⟩]

def rollbackSteps : List ProvisioningStep := [
  ⟨"stop_disable_system_service",.obj [("unit",.str unitName),("scope",.str "system")]⟩,
  ⟨"remove_systemd_unit",.obj [("path",.str unitPath),("unit",.str unitName)]⟩,
  ⟨"restore_enable_user_service",.obj [("unit",.str userUnitName),("scope",.str "user"),("only_if_previously_enabled",.bool true)]⟩,
  ⟨"remove_private_config",.obj [("path",.str configPath)]⟩,
  ⟨"remove_read_only_acl",.obj [("path",.str sourcePath),("principal",.str systemUser)]⟩,
  ⟨"remove_cursor_key_if_unreferenced",.obj [("path",i.cursorKeyFile)]⟩,
  ⟨"remove_overseer_api_token",.obj [("path",i.overseerTokenFile)]⟩,
  ⟨"remove_secret_file_if_no_backups",.obj [("path",.str keyPath),("artifact_dir",.str artifactPath)]⟩,
  ⟨"remove_directory_if_empty",.obj [("path",.str keyDirectory)]⟩,
  ⟨"remove_directory_if_empty",.obj [("path",.str statePath)]⟩,
  ⟨"remove_directory_if_empty",.obj [("path",.str artifactPath)]⟩,
  ⟨"remove_directory_if_empty",.obj [("path",.str backupPath)]⟩,
  ⟨"remove_system_user_if_unused",.obj [("name",.str systemUser),("retained_path",.str backupPath)]⟩,
  ⟨"remove_runtime_if_unreferenced",.obj [("path",.str "/opt/theunderdark"),("runtime_digest",i.runtimeDigest)]⟩]

end Steps

/-! ### Records as JSON -/

/-- The fields of the contract with their defaults. -/
def contractFields : List (String × Option Json) := [("gpg_sha256",none),("adapter_commit",none),("runtime_digest",none),
  ("capability_digest",none),("root_authorization_refs",none),("root_registrations",none),("overseer_token_source_file",none),
  ("overseer_token_file",none),("cursor_key_file",none),("plan_digest",none),("config_digest",none),("unit_digest",none),
  ("kind",some (.str planKind)),("system_user",some (.str systemUser)),("source_path",some (.str sourcePath)),
  ("source_access",some (.str "read_only_acl")),("backup_path",some (.str backupPath)),("backup_mode",some (.int privateDirectory)),
  ("key_directory",some (.str keyDirectory)),("key_path",some (.str keyPath)),("config_path",some (.str configPath)),
  ("key_mode",some (.int privateFile)),("gpg_path",some (.str gpgPath)),("retention_count",some (.int retentionCount)),
  ("unit_path",some (.str unitPath)),("read_only_paths",none),("read_write_paths",none)]

def ProvisioningStatus.value : ProvisioningStatus → String
  | .staged => "staged"
  | .approved => "approved"
  | .denied => "denied"
  | .revisionRequested => "revision_requested"
  | .executed => "executed"
  | .failed => "failed"
  | .rolledBack => "rolled_back"

def ProvisioningStatus.all : List ProvisioningStatus := [.staged,.approved,.denied,.revisionRequested,.executed,.failed,.rolledBack]

def ProvisioningStatus.ofJson? (v : Json) : Option ProvisioningStatus := ProvisioningStatus.all.find? fun status => v = .str status.value

def optionalText : Option String → Json
  | some s => .str s
  | none => .null

def stepJson (step : ProvisioningStep) : Json := .obj [("operation",.str step.operation),("arguments",step.arguments)]

def contractMembers (contract : Json) : List (String × Json) :=
  match contract with
  | .obj members => members
  | _ => []

/-- The fields of the plan that a decision or an execution sets. -/
def progressMembers (plan : BackupProvisioningPlan) : List (String × Json) := [("status",.str plan.status.value),
  ("approved_by",optionalText plan.approvedBy),("approved_at",optionalText plan.approvedAt),("executed_at",optionalText plan.executedAt),
  ("evidence_digest",optionalText plan.evidenceDigest),("failed_operation",optionalText plan.failedOperation),
  ("error_code",optionalText plan.errorCode),("decision_source",.str plan.decisionSource),
  ("decision_reason",optionalText plan.decisionReason),("decided_by",optionalText plan.decidedBy),("decided_at",optionalText plan.decidedAt)]

/-- The other fields. -/
def fixedMembers (plan : BackupProvisioningPlan) : List (String × Json) := [("plan_id",.str plan.planId),
  ("evidence_ids",.obj (plan.evidenceIds.entries.map fun e => (e.1,.str e.2))),("steps",.arr (plan.steps.map stepJson)),
  ("rollback_steps",.arr (plan.rollbackSteps.map stepJson))] ++ contractMembers plan.contract

/-- `asdict`, whose members are written in the order of their names. -/
def asdict (plan : BackupProvisioningPlan) : Json := .obj (fixedMembers plan ++ progressMembers plan)

/-- `_dump`. -/
def dumpPlan (plan : BackupProvisioningPlan) : String := Json.dumps true (asdict plan).sortKeys

def stepOf? (v : Json) : Option ProvisioningStep := do
  let operation ← (← v.member? "operation").asStr?
  return ⟨operation,← v.member? "arguments"⟩

def stepsOf? (v : Json) : Option (List ProvisioningStep) :=
  match v with
  | .arr items => items.mapM stepOf?
  | _ => none

def evidenceOf? (v : Json) : Option (Dict String) :=
  match v with
  | .obj members => do
    let entries ← members.mapM fun e => e.2.asStr?.map fun s => (e.1,s)
    return Dict.empty.merge entries
  | _ => none

/-- A text or null, for a field with a default. -/
def textOrNull? (data : Json) (name : String) : Option (Option String) :=
  match data.member? name with
  | none => some none
  | some .null => some none
  | some v => v.asStr?.map some

/-- What does not change once a plan is staged. -/
structure PlanFrame where
  planId : String
  contract : Json
  evidenceIds : Dict String
  steps : List ProvisioningStep
  rollbackSteps : List ProvisioningStep

def loadFrame (data : Json) : Option PlanFrame := do
  let planId ← (← data.member? "plan_id").asStr?
  let contract ← contractFields.mapM fun f => ((data.member? f.1).or f.2).map fun v => (f.1,v)
  let evidenceIds ← evidenceOf? (← data.member? "evidence_ids")
  let steps ← stepsOf? (← data.member? "steps")
  let rollbackSteps ← stepsOf? (← data.member? "rollback_steps")
  return ⟨planId,.obj contract,evidenceIds,steps,rollbackSteps⟩

def planFields : List String := ["plan_id","evidence_ids","steps","rollback_steps"] ++ contractFields.map (·.1) ++ ["status","approved_by",
  "approved_at","executed_at","evidence_digest","failed_operation","error_code","decision_source","decision_reason","decided_by","decided_at"]

/-- The record of parsed data, when its fields are there and of their types. -/
def planOf? (data : Json) : Option BackupProvisioningPlan := do
  guard (∀ k ∈ data.keys, k ∈ planFields)
  let frame ← loadFrame data
  let status ← ProvisioningStatus.ofJson? (← data.member? "status")
  let decisionSource ← ((data.member? "decision_source").getD (.str "Roadex")).asStr?
  return { planId := frame.planId, contract := frame.contract, evidenceIds := frame.evidenceIds, steps := frame.steps,
           rollbackSteps := frame.rollbackSteps, status, decisionSource,
           approvedBy := ← textOrNull? data "approved_by"
           approvedAt := ← textOrNull? data "approved_at"
           executedAt := ← textOrNull? data "executed_at"
           evidenceDigest := ← textOrNull? data "evidence_digest"
           failedOperation := ← textOrNull? data "failed_operation"
           errorCode := ← textOrNull? data "error_code"
           decisionReason := ← textOrNull? data "decision_reason"
           decidedBy := ← textOrNull? data "decided_by"
           decidedAt := ← textOrNull? data "decided_at" }

/-- `_load`. -/
def loadPlan (floatText : String → String) (payload : String) : Option BackupProvisioningPlan :=
  (Json.loads floatText payload).bind planOf?

/-! ### The check of a plan -/

section Check
variable (sha256 : String → String)

def planDigest (plan : BackupProvisioningPlan) : String :=
  "sha256:" ++ sha256 (Json.dumps true (Json.obj ((fixedMembers plan).filter (·.1 ≠ "plan_digest"))).sortKeys)

/-- `_object_digest`. -/
def jsonDigest (value : Json) : String := "sha256:" ++ sha256 (Json.dumps true value.sortKeys)

/-- The contract of a plan, under its digest. -/
def contractOf (i : PlanInputs) (planDigest : String) : Json := .obj [("gpg_sha256",i.gpgSha256),("adapter_commit",i.adapterCommit),
  ("runtime_digest",i.runtimeDigest),("capability_digest",i.capabilityDigest),("root_authorization_refs",i.rootAuthorizationRefs),
  ("root_registrations",i.rootRegistrations),("overseer_token_source_file",i.overseerTokenSourceFile),
  ("overseer_token_file",i.overseerTokenFile),("cursor_key_file",i.cursorKeyFile),("plan_digest",.str planDigest),
  ("config_digest",.str (jsonDigest sha256 (configObject i))),("unit_digest",.str (jsonDigest sha256 (unitProperties i))),
  ("kind",.str planKind),("system_user",.str systemUser),("source_path",.str sourcePath),("source_access",.str "read_only_acl"),
  ("backup_path",.str backupPath),("backup_mode",.int privateDirectory),("key_directory",.str keyDirectory),("key_path",.str keyPath),
  ("config_path",.str configPath),("key_mode",.int privateFile),("gpg_path",.str gpgPath),("retention_count",.int retentionCount),
  ("unit_path",.str unitPath),("read_only_paths",readOnlyPaths i),("read_write_paths",readWritePaths)]

def buildPlan (planId : String) (i : PlanInputs) (evidenceIds : Dict String) : Except String BackupProvisioningPlan := do
  unless i.valid planId evidenceIds do
    throw "exact plan, published source, capability, GPG identity, and evidence roles are required"
  unless evidenceIds.values.all StorageControl.isIdentifier do
    throw "evidence IDs must be opaque identifiers"
  let plan : BackupProvisioningPlan := {
    planId, evidenceIds
    contract := contractOf sha256 i ""
    steps := forwardSteps i (jsonDigest sha256 (configObject i)) (jsonDigest sha256 (unitProperties i))
    rollbackSteps := rollbackSteps i }
  return { plan with contract := contractOf sha256 i (planDigest sha256 plan) }

def contractValue (plan : BackupProvisioningPlan) (name : String) : Json := (plan.contract.member? name).getD .null

def inputsOf (plan : BackupProvisioningPlan) : PlanInputs where
  gpgSha256 := contractValue plan "gpg_sha256"
  adapterCommit := contractValue plan "adapter_commit"
  runtimeDigest := contractValue plan "runtime_digest"
  capabilityDigest := contractValue plan "capability_digest"
  rootAuthorizationRefs := contractValue plan "root_authorization_refs"
  rootRegistrations := contractValue plan "root_registrations"
  overseerTokenSourceFile := contractValue plan "overseer_token_source_file"
  overseerTokenFile := contractValue plan "overseer_token_file"
  cursorKeyFile := contractValue plan "cursor_key_file"

/-- `_validate_plan`: what is wrong with the plan. -/
def planFault (plan : BackupProvisioningPlan) : Option String :=
  match buildPlan sha256 plan.planId (inputsOf plan) plan.evidenceIds with
  | .error message => some message
  | .ok rebuilt =>
    if contractValue plan "kind" = .str planKind ∧ contractValue plan "plan_digest" = contractValue rebuilt "plan_digest" ∧
        contractValue plan "plan_digest" = .str (planDigest sha256 plan) then none
    else some "provisioning plan contract or digest does not match"

end Check

/-! ### What a stored plan is read as -/

section Codec
variable {plan row : BackupProvisioningPlan}

/-- The later row tells the same contract. -/
structure SameFrame (plan row : BackupProvisioningPlan) : Prop where
  planId : row.planId = plan.planId
  contract : row.contract = plan.contract
  evidenceIds : row.evidenceIds = plan.evidenceIds
  steps : row.steps = plan.steps
  rollbackSteps : row.rollbackSteps = plan.rollbackSteps

theorem SameFrame.fixedMembers (h : SameFrame plan row) : fixedMembers row = fixedMembers plan := by
  unfold Provisioning.fixedMembers
  rw [h.planId,h.contract,h.evidenceIds,h.steps,h.rollbackSteps]

theorem SameFrame.planFault (h : SameFrame plan row) (sha256 : String → String) : planFault sha256 row = planFault sha256 plan := by
  have hinputs : inputsOf row = inputsOf plan := by
    unfold inputsOf contractValue
    rw [h.contract]
  unfold Provisioning.planFault planDigest contractValue
  rw [hinputs,h.planId,h.evidenceIds,h.contract,h.fixedMembers]

theorem loadFrame_congr {data data' : Json}
    (h : ∀ k ∈ ["plan_id","evidence_ids","steps","rollback_steps"] ++ contractFields.map (·.1), data.member? k = data'.member? k) :
    loadFrame data = loadFrame data' := by
  have hcontract : contractFields.mapM (fun f => ((data.member? f.1).or f.2).map fun v => (f.1,v)) =
      contractFields.mapM (fun f => ((data'.member? f.1).or f.2).map fun v => (f.1,v)) := by
    have hmap : ∀ fields : List (String × Option Json), (∀ f ∈ fields, data.member? f.1 = data'.member? f.1) →
        fields.mapM (fun f => ((data.member? f.1).or f.2).map fun v => (f.1,v)) =
          fields.mapM (fun f => ((data'.member? f.1).or f.2).map fun v => (f.1,v)) := by
      intro fields hfields
      induction fields with
      | nil => rfl
      | cons f rest ih =>
        rw [List.mapM_cons,List.mapM_cons,hfields f List.mem_cons_self,ih fun g hg => hfields g (List.mem_cons_of_mem _ hg)]
    exact hmap _ fun f hf => h f.1 (List.mem_append_right _ (List.mem_map_of_mem hf))
  unfold loadFrame
  rw [hcontract,h "plan_id" (by decide),h "evidence_ids" (by decide),h "steps" (by decide),h "rollback_steps" (by decide)]

/-- A contract has exactly its fields. -/
def Formed (plan : BackupProvisioningPlan) : Prop :=
  ∃ members, plan.contract = .obj members ∧ members.map Prod.fst = contractFields.map (·.1)

theorem mapM_keys {get : String × Option Json → Option Json} {fields : List (String × Option Json)} {members : List (String × Json)}
    (h : fields.mapM (fun f => (get f).map fun v => (f.1,v)) = some members) : members.map Prod.fst = fields.map (·.1) := by
  induction fields generalizing members with
  | nil =>
    cases h
    rfl
  | cons f rest ih =>
    rw [List.mapM_cons] at h
    obtain ⟨e,he,h⟩ := Option.bind_eq_some_iff.mp h
    obtain ⟨es,hes,h⟩ := Option.bind_eq_some_iff.mp h
    obtain ⟨v,-,rfl⟩ := Option.map_eq_some_iff.mp he
    cases h
    rw [List.map_cons,List.map_cons,ih hes]

theorem formed_of_loadFrame {data : Json} {frame : PlanFrame} (h : loadFrame data = some frame) :
    ∃ members, frame.contract = .obj members ∧ members.map Prod.fst = contractFields.map (·.1) := by
  unfold loadFrame at h
  obtain ⟨_,-,h⟩ := Option.bind_eq_some_iff.mp h
  obtain ⟨_,-,h⟩ := Option.bind_eq_some_iff.mp h
  obtain ⟨members,hmembers,h⟩ := Option.bind_eq_some_iff.mp h
  obtain ⟨_,-,h⟩ := Option.bind_eq_some_iff.mp h
  obtain ⟨_,-,h⟩ := Option.bind_eq_some_iff.mp h
  obtain ⟨_,-,h⟩ := Option.bind_eq_some_iff.mp h
  obtain ⟨_,-,h⟩ := Option.bind_eq_some_iff.mp h
  obtain ⟨_,-,h⟩ := Option.bind_eq_some_iff.mp h
  obtain ⟨_,-,h⟩ := Option.bind_eq_some_iff.mp h
  cases h
  exact ⟨members,rfl,mapM_keys hmembers⟩

theorem keys_asdict (h : Formed plan) : (fixedMembers plan ++ progressMembers plan).map Prod.fst =
    ["plan_id","evidence_ids","steps","rollback_steps"] ++ contractFields.map (·.1) ++ ["status","approved_by","approved_at","executed_at",
      "evidence_digest","failed_operation","error_code","decision_source","decision_reason","decided_by","decided_at"] := by
  obtain ⟨members,hcontract,hkeys⟩ := h
  rw [fixedMembers,hcontract,contractMembers,List.map_append,List.map_append,hkeys]
  rfl

theorem nodup_asdict (h : Formed plan) : ((fixedMembers plan ++ progressMembers plan).map Prod.fst).Nodup := by
  rw [keys_asdict h]
  decide

theorem member?_asdict (h : Formed plan) {k : String} {v : Json} (hv : (k,v) ∈ fixedMembers plan ++ progressMembers plan) :
    (asdict plan).sortKeys.member? k = some v.sortKeys := by
  rw [asdict,Json.member?_sortKeys (nodup_asdict h),(Dict.mem_iff_find (nodup_asdict h) k v).mp hv]
  rfl

theorem textOrNull?_asdict (h : Formed plan) {name : String} {value : Option String}
    (hv : (name,optionalText value) ∈ progressMembers plan) : textOrNull? (asdict plan).sortKeys name = some value := by
  rw [textOrNull?,member?_asdict h (List.mem_append_right _ hv)]
  cases value <;> rfl

theorem statusOf_value (status : ProvisioningStatus) : ProvisioningStatus.ofJson? (.str status.value) = some status := by
  cases status <;> decide

theorem planOf?_asdict (h : Formed plan) (hframe : loadFrame (asdict plan).sortKeys =
    some ⟨plan.planId,plan.contract,plan.evidenceIds,plan.steps,plan.rollbackSteps⟩) : planOf? (asdict plan).sortKeys = some plan := by
  have hguard : ∀ k ∈ (asdict plan).sortKeys.keys, k ∈ planFields := by
    intro k hk
    rw [asdict,Json.mem_keys_sortKeys,keys_asdict h] at hk
    exact hk
  have hprogress : ("status",.str plan.status.value) ∈ progressMembers plan ∧ ("decision_source",.str plan.decisionSource) ∈ progressMembers plan := by
    simp [progressMembers]
  have hstatus : (asdict plan).sortKeys.member? "status" = some (.str plan.status.value) :=
    member?_asdict h (List.mem_append_right _ hprogress.1)
  have hsource : (asdict plan).sortKeys.member? "decision_source" = some (.str plan.decisionSource) :=
    member?_asdict h (List.mem_append_right _ hprogress.2)
  have htext : ∀ name value, (name,optionalText value) ∈ progressMembers plan → textOrNull? (asdict plan).sortKeys name = some value :=
    fun name value hv => textOrNull?_asdict h hv
  unfold planOf?
  rw [guard,if_pos hguard,hframe,hstatus,hsource,htext "approved_by" plan.approvedBy (by simp [progressMembers]),
    htext "approved_at" plan.approvedAt (by simp [progressMembers]),htext "executed_at" plan.executedAt (by simp [progressMembers]),
    htext "evidence_digest" plan.evidenceDigest (by simp [progressMembers]),
    htext "failed_operation" plan.failedOperation (by simp [progressMembers]),htext "error_code" plan.errorCode (by simp [progressMembers]),
    htext "decision_reason" plan.decisionReason (by simp [progressMembers]),htext "decided_by" plan.decidedBy (by simp [progressMembers]),
    htext "decided_at" plan.decidedAt (by simp [progressMembers])]
  simp only [Option.pure_def,Option.bind_eq_bind,Option.bind_some,statusOf_value,Option.getD_some,Json.asStr?]

theorem frame_of_planOf? {data : Json} (h : planOf? data = some plan) :
    loadFrame data = some ⟨plan.planId,plan.contract,plan.evidenceIds,plan.steps,plan.rollbackSteps⟩ := by
  unfold planOf? at h
  obtain ⟨_,-,h⟩ := Option.bind_eq_some_iff.mp h
  obtain ⟨frame,hframe,h⟩ := Option.bind_eq_some_iff.mp h
  iterate 12 obtain ⟨_,-,h⟩ := Option.bind_eq_some_iff.mp h
  cases h
  exact hframe

variable {floatText : String → String}

/-- The text of a row is read as the plan. -/
structure Decodes (floatText : String → String) (plan : BackupProvisioningPlan) : Prop where
  printed : Json.Printed floatText (asdict plan)
  loads : loadPlan floatText (dumpPlan plan) = some plan

theorem loadPlan_dumpPlan (h : Json.Printed floatText (asdict plan)) : loadPlan floatText (dumpPlan plan) = planOf? (asdict plan).sortKeys := by
  rw [loadPlan,dumpPlan,Json.loads_dumps true (Json.printed_sortKeys _ h)]
  rfl

/-- Whatever an execution writes, its row is read back. -/
theorem Decodes.of_frame (h : Decodes floatText plan) (hframe : SameFrame plan row) : Decodes floatText row := by
  have hplan := (loadPlan_dumpPlan h.printed).symm.trans h.loads
  have hloaded := frame_of_planOf? hplan
  have hformed : Formed plan := formed_of_loadFrame hloaded
  have hformed' : Formed row := by
    obtain ⟨members,hcontract,hkeys⟩ := hformed
    exact ⟨members,hframe.contract.trans hcontract,hkeys⟩
  have hprinted : Json.Printed floatText (asdict row) := by
    refine Json.printed_obj.mpr ⟨nodup_asdict hformed',fun e he => ?_⟩
    rcases List.mem_append.mp he with he | he
    · rw [hframe.fixedMembers] at he
      exact (Json.printed_obj.mp h.printed).2 e (List.mem_append_left _ he)
    · have htext : ∀ value : Option String, Json.Printed floatText (optionalText value) := by
        intro value
        cases value <;> exact ⟨rfl,rfl⟩
      simp only [progressMembers,List.mem_cons,List.not_mem_nil,or_false] at he
      rcases he with rfl | rfl | rfl | rfl | rfl | rfl | rfl | rfl | rfl | rfl | rfl
      all_goals first | exact htext _ | exact ⟨rfl,rfl⟩
  refine ⟨hprinted,(loadPlan_dumpPlan hprinted).trans (planOf?_asdict hformed' ?_)⟩
  rw [hframe.planId,hframe.contract,hframe.evidenceIds,hframe.steps,hframe.rollbackSteps,← hloaded]
  refine loadFrame_congr fun k hk => ?_
  have hmem : ∃ v, (k,v) ∈ fixedMembers plan := by
    obtain ⟨members,hcontract,hkeys⟩ := hformed
    have hkey : k ∈ (fixedMembers plan).map Prod.fst := by
      rw [fixedMembers,hcontract,contractMembers,List.map_append,hkeys]
      exact hk
    obtain ⟨e,he,rfl⟩ := List.mem_map.mp hkey
    exact ⟨e.2,he⟩
  obtain ⟨v,hv⟩ := hmem
  rw [member?_asdict hformed' (List.mem_append_left _ (hframe.fixedMembers ▸ hv)),member?_asdict hformed (List.mem_append_left _ hv)]

end Codec

/-! ### Plans that are read back -/

/-- The mappings inside the plan name their keys in order, as those of a plan that was read do. -/
structure Ordered (plan : BackupProvisioningPlan) : Prop where
  formed : Formed plan
  contract : ∀ members, plan.contract = .obj members → ∀ e ∈ members, e.2.sortKeys = e.2
  evidence : (plan.evidenceIds.keys).Pairwise fun a b => a.toList ≤ b.toList
  steps : ∀ step ∈ plan.steps ++ plan.rollbackSteps, step.arguments.sortKeys = step.arguments

section Ordered
variable {plan : BackupProvisioningPlan}

theorem stepsOf?_sortKeys {steps : List ProvisioningStep} (h : ∀ step ∈ steps, step.arguments.sortKeys = step.arguments) :
    stepsOf? (Json.arr (steps.map stepJson)).sortKeys = some steps := by
  rw [Json.sortKeys,Json.sortItems_eq_map,List.map_map,stepsOf?]
  induction steps with
  | nil => rfl
  | cons step rest ih =>
    have hstep : stepOf? (stepJson step).sortKeys = some step := by
      have hoperation : (stepJson step).sortKeys.member? "operation" = some (.str step.operation) :=
        (Json.member?_sortKeys (by simp) _).trans rfl
      have harguments : (stepJson step).sortKeys.member? "arguments" = some step.arguments :=
        (Json.member?_sortKeys (by simp) _).trans (congrArg some (h step List.mem_cons_self))
      rw [stepOf?,hoperation,harguments]
      rfl
    rw [List.map_cons,List.mapM_cons,Function.comp_apply,hstep,ih fun step' hs => h step' (List.mem_cons_of_mem _ hs)]
    rfl

theorem evidenceOf?_sortKeys (d : Dict String) (h : d.keys.Pairwise fun a b => a.toList ≤ b.toList) :
    evidenceOf? (Json.obj (d.entries.map fun e => (e.1,.str e.2))).sortKeys = some d := by
  have hsort : Json.sortMembers (d.entries.map fun e => (e.1,.str e.2)) = d.entries.map fun e => (e.1,.str e.2) := by
    rw [Json.sortMembers_eq_map,List.map_map]
    rfl
  have hsorted : Json.sortedMembers (d.entries.map fun e => (e.1,.str e.2)) = d.entries.map fun e => (e.1,.str e.2) := by
    rw [Json.sortedMembers,hsort]
    have hkeys : d.entries.Pairwise fun a b => a.1.toList ≤ b.1.toList :=
      List.Pairwise.of_map Prod.fst (fun _ _ h => h) h
    exact List.Pairwise.insertionSort_eq (List.pairwise_map.mpr hkeys)
  have hread : ∀ es : List (String × String), (es.map fun e => (e.1,Json.str e.2)).mapM (fun e => e.2.asStr?.map fun s => (e.1,s)) = some es := by
    intro es
    induction es with
    | nil => rfl
    | cons e rest ih =>
      rw [List.map_cons,List.mapM_cons,ih]
      rfl
  rw [Json.sortKeys_obj,hsorted,evidenceOf?,hread]
  exact congrArg some (Dict.ext_entries (Dict.entries_merge (d := .empty) d.nodup))

theorem contract_read {data : Json} {fields : List (String × Option Json)} {members : List (String × Json)}
    (hkeys : members.map Prod.fst = fields.map (·.1)) (h : ∀ e ∈ members, data.member? e.1 = some e.2) :
    fields.mapM (fun f => ((data.member? f.1).or f.2).map fun v => (f.1,v)) = some members := by
  induction fields generalizing members with
  | nil =>
    obtain rfl := List.map_eq_nil_iff.mp hkeys
    rfl
  | cons f rest ih =>
    obtain ⟨e,es,rfl,he,hes⟩ := List.map_eq_cons_iff.mp hkeys
    have hkey : f.1 = e.1 := he.symm
    rw [List.mapM_cons,hkey,h e List.mem_cons_self,ih hes fun e' he' => h e' (List.mem_cons_of_mem _ he')]
    rfl

theorem Ordered.decodes {floatText : String → String} (h : Ordered plan) (hprinted : Json.Printed floatText (asdict plan)) :
    Decodes floatText plan := by
  obtain ⟨members,hcontract,hkeys⟩ := h.formed
  have hfield : ∀ e ∈ fixedMembers plan, (asdict plan).sortKeys.member? e.1 = some e.2.sortKeys :=
    fun e he => member?_asdict h.formed (List.mem_append_left _ he)
  have hread : contractFields.mapM (fun f => (((asdict plan).sortKeys.member? f.1).or f.2).map fun v => (f.1,v)) = some members := by
    refine contract_read hkeys fun e he => ?_
    have hmem : e ∈ fixedMembers plan := by
      rw [fixedMembers,hcontract]
      exact List.mem_append_right _ he
    rw [hfield e hmem,h.contract members hcontract e he]
  have hid := hfield ("plan_id",.str plan.planId) (by simp [fixedMembers])
  have hevidence := hfield ("evidence_ids",.obj (plan.evidenceIds.entries.map fun e => (e.1,.str e.2))) (by simp [fixedMembers])
  have hsteps := hfield ("steps",.arr (plan.steps.map stepJson)) (by simp [fixedMembers])
  have hrollback := hfield ("rollback_steps",.arr (plan.rollbackSteps.map stepJson)) (by simp [fixedMembers])
  refine ⟨hprinted,(loadPlan_dumpPlan hprinted).trans (planOf?_asdict h.formed ?_)⟩
  unfold loadFrame
  rw [hread,hid,hevidence,hsteps,hrollback,hcontract]
  simp only [Option.pure_def,Option.bind_eq_bind,Option.bind_some,evidenceOf?_sortKeys plan.evidenceIds h.evidence,
    stepsOf?_sortKeys fun step hs => h.steps step (List.mem_append_left _ hs),
    stepsOf?_sortKeys fun step hs => h.steps step (List.mem_append_right _ hs)]
  rfl

end Ordered

end Overseer.Provisioning
