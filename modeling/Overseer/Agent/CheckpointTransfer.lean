import Overseer.Agent.HandoffValid

/-! # Which checkpoints are handed off

Behind the fence `_perform_handoff` collects a checkpoint from the outgoing driver, checks that
it is fresh and transferable, stores it, and has the package built from what is stored. The
store sanitizes the evidence, and the builder compares what is stored with what was collected.
-/
namespace Overseer.Agent.Attested
open Overseer.Library Overseer.Library.Json

structure AgentCheckpoint where
  id : String
  instanceId : String
  sessionId : String
  driverEpochId : String
  evidence : List (String × Json) := []
  createdAt : Option String := none
  expiresAt : Option String := none

/-- The rows of `agent_checkpoints` by id, and the handoffs. -/
structure TransferStore where
  checkpoints : Dict Json
  handoffs : HandoffStore

namespace AgentCheckpoint

def membersBefore (c : AgentCheckpoint) : List (String × Json) :=
  [("id",.str c.id),("instance_id",.str c.instanceId),("session_id",.str c.sessionId),("driver_epoch_id",.str c.driverEpochId)]

def membersAfter (c : AgentCheckpoint) : List (String × Json) :=
  [("created_at",optionalText c.createdAt),("expires_at",optionalText c.expiresAt)]

def members (c : AgentCheckpoint) : List (String × Json) := c.membersBefore ++ ("evidence",.obj c.evidence) :: c.membersAfter

/-- `to_jsonable(checkpoint)`. -/
def toJsonable (c : AgentCheckpoint) : Json := .obj c.members

/-- The fields that a stored checkpoint keeps. -/
def sameIdentity (c d : AgentCheckpoint) : Bool :=
  c.id = d.id && c.instanceId = d.instanceId && c.sessionId = d.sessionId && c.driverEpochId = d.driverEpochId &&
  c.createdAt = d.createdAt && c.expiresAt = d.expiresAt

/-- `==` of two checkpoints. -/
def equals (floatIsInt : String → ℤ → Bool) (c d : AgentCheckpoint) : Bool :=
  c.sameIdentity d && (Json.obj c.evidence).equals floatIsInt (.obj d.evidence)

/-- `AgentCheckpoint.__post_init__`. -/
def check (c : AgentCheckpoint) : Except AgentError Unit := do
  requireIdentifier c.id "checkpoint id"
  requireIdentifier c.instanceId "instance id"
  requireIdentifier c.sessionId "session id"
  requireIdentifier c.driverEpochId "driver epoch id"
  ensure (hasBlankKey (.obj c.evidence) = false) ⟨.type,"record mapping keys must be non-empty strings"⟩

end AgentCheckpoint

/-- `_load_dataclass(AgentCheckpoint, payload)`, from the parsed payload. -/
def loadCheckpoint (payload : Json) : Except AgentError AgentCheckpoint := do
  let id ← fieldText payload "id"
  let instanceId ← fieldText payload "instance_id"
  let sessionId ← fieldText payload "session_id"
  let driverEpochId ← fieldText payload "driver_epoch_id"
  let checkpoint : AgentCheckpoint := {
    id, instanceId, sessionId, driverEpochId
    evidence := fieldMapping payload "evidence"
    createdAt := fieldOptional payload "created_at"
    expiresAt := fieldOptional payload "expires_at" }
  checkpoint.check
  return checkpoint

/-! ### The transfer -/

/-- What a driver gives as its checkpoint; a mapping of Python names a key once. -/
structure ProviderCheckpoint where
  evidence : List (String × Json)
  unique : uniqueKeys (.obj evidence) = true
  createdAt : Option String := none
  expiresAt : Option String := none

/-- What a handoff is about: the outgoing epoch, the incoming provider, and the ids and times it draws. -/
structure Transfer where
  instanceId : String
  outgoingEpochId : String
  outgoingSessionId : String
  incomingProviderId : String
  requiredCapabilities : AgentCapabilities
  incomingCapabilities : AgentCapabilities
  checkpointId : String
  handoffId : String
  createdAt : String
  incomingEpochId : String
  incomingSessionId : String
  operationGeneration : ℤ
  operationOwnerRef : Option String
  -- the moment, and what `_aware_datetime` makes of a text, in microseconds
  now : ℤ
  aware : String → Option ℤ

section Service
variable (a : Attester)

/-- A row of the id is of the same checkpoint. -/
def checkStoredCheckpoint (sanitized : AgentCheckpoint) (s : TransferStore) : Except AgentError Unit :=
  match s.checkpoints.get? sanitized.id with
  | none => .ok ()
  | some row => do
    let existing ← loadCheckpoint row
    ensure (existing.sameIdentity sanitized = true) (valueError "agent_checkpoints immutable identity cannot change")

/-- `save_agent_checkpoint`; a row is its payload as `json.loads` reads it. -/
def saveAgentCheckpoint (checkpoint : AgentCheckpoint) (s : TransferStore) : Except AgentError TransferStore := do
  let payload ← sanitizeAgentJson a.cfg.isAlnum none false checkpoint.toJsonable
  let sanitized ← loadCheckpoint payload.reread
  checkStoredCheckpoint sanitized s
  return { s with checkpoints := s.checkpoints.set sanitized.id payload.reread }

def loadAgentCheckpoint (id : String) (s : TransferStore) : Except AgentError AgentCheckpoint :=
  match s.checkpoints.get? id with
  | none => .error (keyError id)
  | some row => loadCheckpoint row

namespace Transfer
variable (x : Transfer)

/-- `_collect_checkpoint`, with what the driver gave. -/
def collected (provided : ProviderCheckpoint) : AgentCheckpoint where
  id := x.checkpointId
  instanceId := x.instanceId
  sessionId := x.outgoingSessionId
  driverEpochId := x.outgoingEpochId
  evidence := provided.evidence
  createdAt := provided.createdAt
  expiresAt := provided.expiresAt

def maxCheckpointAge : ℤ := 300 * 1000000

/-- `_aware_datetime` of a time that has to be there. -/
def moment (text : Option String) : Except AgentError ℤ :=
  match text.bind x.aware with
  | some t => .ok t
  | none => .error (handoffError "checkpoint timestamp is malformed")

def validateCheckpointForHandoff (checkpoint : AgentCheckpoint) : Except AgentError Unit := do
  let createdAt ← x.moment checkpoint.createdAt
  let expiresAt ← checkpoint.expiresAt.mapM fun text => x.moment (some text)
  ensure (0 ≤ x.now - createdAt ∧ x.now - createdAt ≤ maxCheckpointAge) (handoffError "checkpoint is stale")
  ensure (∀ e ∈ expiresAt, x.now < e) (handoffError "checkpoint is expired")
  match (Dict.find "status" checkpoint.evidence).getD .null with
  | .arr _ | .obj _ => .error ⟨.type,"unhashable type"⟩
  | status => ensure (status ∈ [.str "ready",.str "completed",.str "checkpointed"]) (handoffError "checkpoint state is not transferable")

/-- The evidence of the package that `build_from_store` builds. -/
def readyEvidence : List (String × Json) :=
  [("checkpoint_id",.str x.checkpointId),("outgoing_epoch_id",.str x.outgoingEpochId),("status",.str "ready")]

theorem readyEvidence_unique : uniqueKeys (.obj x.readyEvidence) = true := by
  simp [readyEvidence,uniqueKeys,uniqueKeysMembers]

def arguments : BuildArguments where
  instanceId := x.instanceId
  outgoingEpochId := x.outgoingEpochId
  incomingProviderId := x.incomingProviderId
  objective := "continue approved work from recorded checkpoint"
  evidence := x.readyEvidence
  unique := x.readyEvidence_unique
  requiredCapabilities := x.requiredCapabilities
  checkpointId := some x.checkpointId

/-- The evidence that binds the package to its incoming epoch and its fence. -/
def importingEvidence : List (String × Json) :=
  [("checkpoint_id",.str x.checkpointId),("outgoing_epoch_id",.str x.outgoingEpochId),("status",.str "importing"),
    ("incoming_epoch_id",.str x.incomingEpochId),("incoming_session_id",.str x.incomingSessionId),
    ("operation_generation",.int x.operationGeneration),("operation_owner_ref",optionalText x.operationOwnerRef)]

/-- The package from when the checkpoint was compared to when it is given to the incoming driver: built, validated, bound
to its incoming epoch, signed again and validated again. -/
def packageForImport (s : HandoffStore) : Except AgentError (AgentHandoffPackage × HandoffStore) := do
  let (built,s) ← build a x.arguments x.handoffId x.createdAt s
  let built ← validate a built x.incomingCapabilities s
  let (package,s) ← signAndSaveAgentHandoff a { built with evidence := x.importingEvidence } s
  let package ← validate a package x.incomingCapabilities s
  return (package,s)

/-- `_perform_handoff` behind the fence, up to the import, with what the outgoing driver gave. -/
def handOff (provided : ProviderCheckpoint) (s : TransferStore) : Except AgentError (AgentHandoffPackage × TransferStore) := do
  let checkpoint := x.collected provided
  checkpoint.check
  x.validateCheckpointForHandoff checkpoint
  let s ← saveAgentCheckpoint a checkpoint s
  -- `build_from_store`: the checkpoint is of the outgoing epoch, as `collected` makes it
  let persisted ← loadAgentCheckpoint checkpoint.id s
  ensure (persisted.equals a.floatIsInt checkpoint = true) (valueError "checkpoint does not match the persisted record")
  let (package,handoffs) ← x.packageForImport a s.handoffs
  return (package,{ s with handoffs })

end Transfer
end Service

/-! ### What is stored of a checkpoint -/

section Stored
variable {isAlnum : Char → Bool} {floatIsInt : String → ℤ → Bool}

theorem checkpointFields_unkeyed : ∀ name ∈ ["id","instance_id","session_id","driver_epoch_id","evidence","created_at","expires_at"],
    redactedByKey (some name) = none := by
  decide +kernel

namespace AgentCheckpoint

theorem before_asIs (c : AgentCheckpoint) : ∀ e ∈ c.membersBefore, WrittenAsIs isAlnum e := by
  intro e he
  simp only [membersBefore,List.mem_cons,List.not_mem_nil,or_false] at he
  rcases he with rfl | rfl | rfl | rfl
  · exact text_asIs (checkpointFields_unkeyed _ (by simp)) _
  · exact text_asIs (checkpointFields_unkeyed _ (by simp)) _
  · exact text_asIs (checkpointFields_unkeyed _ (by simp)) _
  · exact text_asIs (checkpointFields_unkeyed _ (by simp)) _

theorem after_asIs (c : AgentCheckpoint) : ∀ e ∈ c.membersAfter, WrittenAsIs isAlnum e := by
  intro e he
  simp only [membersAfter,List.mem_cons,List.not_mem_nil,or_false] at he
  rcases he with rfl | rfl
  · exact optional_asIs (checkpointFields_unkeyed _ (by simp)) _
  · exact optional_asIs (checkpointFields_unkeyed _ (by simp)) _

/-- Of a checkpoint only the evidence is written otherwise than it is. -/
theorem sanitize_checkpoint {c : AgentCheckpoint} {payload : Json}
    (h : sanitizeAgentJson isAlnum none false c.toJsonable = .ok payload) :
    ∃ evidence, sanitizeAgentJson isAlnum (some "evidence") false (.obj c.evidence) = .ok (.obj evidence) ∧
      payload = { c with evidence }.toJsonable := by
  rw [toJsonable,sanitize_obj rfl] at h
  obtain ⟨written,hwritten,rfl⟩ := except_map_ok h
  obtain ⟨xs,ys,hxs,hys,rfl⟩ := sanitizeMembers_append hwritten
  obtain ⟨x,zs,hx,hzs,rfl⟩ := sanitizeMembers_cons hys
  rw [sanitizeMembers_asIs c.before_asIs hxs,sanitizeMembers_asIs c.after_asIs hzs]
  have hevidence := hx
  rw [sanitize_obj (checkpointFields_unkeyed _ (by simp))] at hevidence
  obtain ⟨evidence,-,rfl⟩ := except_map_ok hevidence
  exact ⟨evidence,hx,rfl⟩

theorem members_nodup (c : AgentCheckpoint) : (c.members.map Prod.fst).Nodup := by
  simp [members,membersBefore,membersAfter]

theorem member?_toJsonable (c : AgentCheckpoint) (k : String) :
    c.toJsonable.reread.member? k = (Dict.find k c.members).map reread := member?_reread c.members_nodup k

theorem fieldText_reread (c : AgentCheckpoint) (field text : String) (h : Dict.find field c.members = some (.str text)) :
    fieldText c.toJsonable.reread field = .ok text := by
  rw [fieldText,member?_toJsonable,h]
  rfl

theorem fieldOptional_reread (c : AgentCheckpoint) (field : String) (o : Option String)
    (h : Dict.find field c.members = some (optionalText o)) : fieldOptional c.toJsonable.reread field = o := by
  rw [fieldOptional,member?_toJsonable,h]
  exact optional_reread o

theorem loadCheckpoint_reread (c : AgentCheckpoint) : loadCheckpoint c.toJsonable.reread =
    (check { c with evidence := rereadMembers c.evidence }).map fun _ => { c with evidence := rereadMembers c.evidence } := by
  have hevidence : c.toJsonable.reread.member? "evidence" = some (reread (.obj c.evidence)) := by
    rw [c.member?_toJsonable]
    rfl
  rw [loadCheckpoint,c.fieldText_reread "id" c.id rfl,c.fieldText_reread "instance_id" c.instanceId rfl,
    c.fieldText_reread "session_id" c.sessionId rfl,c.fieldText_reread "driver_epoch_id" c.driverEpochId rfl,
    c.fieldOptional_reread "created_at" c.createdAt rfl,c.fieldOptional_reread "expires_at" c.expiresAt rfl,fieldMapping,hevidence,
    reread_obj]
  simp only [bind,Except.bind,pure,Except.pure,Except.map]

theorem equals_reread (c : AgentCheckpoint) (evidence : List (String × Json)) :
    ({ c with evidence := rereadMembers evidence } : AgentCheckpoint).equals floatIsInt c =
      (reread (.obj evidence)).equals floatIsInt (.obj c.evidence) := by
  simp [equals,sameIdentity,reread_obj]

end AgentCheckpoint

variable {a : Attester} {c : AgentCheckpoint} {s s' : TransferStore}

theorem saveAgentCheckpoint_ok (h : saveAgentCheckpoint a c s = .ok s') :
    ∃ evidence, sanitizeAgentJson a.cfg.isAlnum (some "evidence") false (.obj c.evidence) = .ok (.obj evidence) ∧
      loadAgentCheckpoint c.id s' = .ok { c with evidence := rereadMembers evidence } ∧ s'.handoffs = s.handoffs := by
  obtain ⟨payload,hpayload,h⟩ := except_bind_ok h
  obtain ⟨sanitized,hload,h⟩ := except_bind_ok h
  obtain ⟨_,-,h⟩ := except_bind_ok h
  obtain ⟨evidence,hevidence,rfl⟩ := AgentCheckpoint.sanitize_checkpoint hpayload
  have hread := hload
  rw [AgentCheckpoint.loadCheckpoint_reread] at hread
  obtain ⟨_,-,rfl⟩ := except_map_ok hread
  cases h
  refine ⟨evidence,hevidence,?_,rfl⟩
  simp only [loadAgentCheckpoint,Dict.get?_set,if_true]
  exact hload

theorem loaded_equals_iff (h : saveAgentCheckpoint a c s = .ok s') (hunique : uniqueKeys (.obj c.evidence) = true) :
    ∃ loaded, loadAgentCheckpoint c.id s' = .ok loaded ∧
      (loaded.equals a.floatIsInt c = true ↔ Kept (some "evidence") false (.obj c.evidence)) := by
  obtain ⟨evidence,hwritten,hload,-⟩ := saveAgentCheckpoint_ok h
  have hequals : EqualsStored a.cfg.isAlnum a.floatIsInt (.obj c.evidence) := equalsStored (.obj c.evidence)
  exact ⟨_,hload,by rw [AgentCheckpoint.equals_reread,hequals _ _ _ hunique hwritten]⟩

end Stored

/-! ### The handoff -/

section HandOff
variable {a : Attester} {x : Transfer} {provided : ProviderCheckpoint} {s s' : TransferStore}

/-- Behind the checks a handoff compares what is stored with what was collected, and goes on to the package. -/
theorem handOff_eq (hcheck : (x.collected provided).check = .ok ())
    (hvalid : x.validateCheckpointForHandoff (x.collected provided) = .ok ()) (hsave : saveAgentCheckpoint a (x.collected provided) s = .ok s') :
    ∃ loaded, loadAgentCheckpoint x.checkpointId s' = .ok loaded ∧
      (loaded.equals a.floatIsInt (x.collected provided) = true ↔ Kept (some "evidence") false (.obj provided.evidence)) ∧
      x.handOff a provided s = if loaded.equals a.floatIsInt (x.collected provided) = true then
          (x.packageForImport a s.handoffs).map fun r => (r.1,{ s' with handoffs := r.2 })
        else .error (valueError "checkpoint does not match the persisted record") := by
  obtain ⟨loaded,hload,hkept⟩ := loaded_equals_iff hsave provided.unique
  obtain ⟨-,-,-,hhandoffs⟩ := saveAgentCheckpoint_ok hsave
  refine ⟨loaded,hload,hkept,?_⟩
  have hload' : loadAgentCheckpoint (x.collected provided).id s' = .ok loaded := hload
  simp only [Transfer.handOff,hcheck,hvalid,hsave,hload',bind,Except.bind,ensure,hhandoffs]
  by_cases hequal : loaded.equals a.floatIsInt (x.collected provided) = true
  · simp only [if_pos hequal]
    cases x.packageForImport a s.handoffs <;> rfl
  · simp only [if_neg hequal]

/-- A checkpoint that is valid and could be saved is loaded as it was, and its handoff reaches the import, exactly when the
store keeps its evidence; otherwise the handoff fails on the comparison. `hservice` says that the handoff service and the
incoming driver accept the package, which names the checkpoint and says nothing of its evidence. -/
theorem checkpoint_handed_off_iff (hcheck : (x.collected provided).check = .ok ())
    (hvalid : x.validateCheckpointForHandoff (x.collected provided) = .ok ()) (hsave : saveAgentCheckpoint a (x.collected provided) s = .ok s')
    (hservice : (x.packageForImport a s.handoffs).isOk = true) :
    (((∃ loaded, loadAgentCheckpoint x.checkpointId s' = .ok loaded ∧ loaded.equals a.floatIsInt (x.collected provided) = true) ∧
        (x.handOff a provided s).isOk = true) ↔ Kept (some "evidence") false (.obj provided.evidence)) ∧
    (¬ Kept (some "evidence") false (.obj provided.evidence) →
      x.handOff a provided s = .error (valueError "checkpoint does not match the persisted record")) := by
  obtain ⟨loaded,hload,hkept,hhandOff⟩ := handOff_eq hcheck hvalid hsave
  refine ⟨⟨?_,fun h => ⟨⟨loaded,hload,hkept.mpr h⟩,?_⟩⟩,fun h => ?_⟩
  · rintro ⟨⟨loaded',hload',hequal⟩,-⟩
    obtain rfl : loaded = loaded' := Except.ok.inj (hload.symm.trans hload')
    exact hkept.mp hequal
  · rw [hhandOff,if_pos (hkept.mpr h)]
    cases hpackage : x.packageForImport a s.handoffs with
    | ok r => rfl
    | error e =>
      rw [hpackage] at hservice
      cases hservice
  · rw [hhandOff,if_neg fun hequal => h (hkept.mp hequal)]

end HandOff

def exampleTransfer : Transfer where
  instanceId := "agent"
  outgoingEpochId := "epoch.1"
  outgoingSessionId := "session.1"
  incomingProviderId := "codex"
  requiredCapabilities := {}
  incomingCapabilities := { handoffImport := true }
  checkpointId := "checkpoint.1"
  handoffId := "handoff.1"
  createdAt := "now"
  incomingEpochId := "epoch.2"
  incomingSessionId := "session.2"
  operationGeneration := 1
  operationOwnerRef := some "owner"
  now := 0
  aware text := if text = "now" then some 0 else none

def emptyTransferStore : TransferStore := ⟨.empty,attestedStore⟩

/-- A checkpoint that is ready. -/
def readyCheckpoint : ProviderCheckpoint where
  evidence := [("status",.str "ready")]
  unique := by simp [uniqueKeys,uniqueKeysMembers]
  createdAt := some "now"

/-- A checkpoint that is ready, with a note of its driver. -/
def notedCheckpoint : ProviderCheckpoint where
  evidence := [("status",.str "ready"),("note",.str "text")]
  unique := by simp [uniqueKeys,uniqueKeysMembers]
  createdAt := some "now"

theorem eq_ok_of_isOk {ε : Type} {c : Except ε Unit} (h : c.isOk = true) : c = .ok () := by
  cases c with
  | error e => cases h
  | ok u => rfl

theorem package_for_import_isOk : (exampleTransfer.packageForImport plainAttester emptyTransferStore.handoffs).isOk = true := by
  decide +kernel

theorem checkpoint_handed_off_ready : (exampleTransfer.handOff plainAttester readyCheckpoint emptyTransferStore).isOk = true := by
  obtain ⟨s',hsave⟩ := exists_of_toBool (show (saveAgentCheckpoint plainAttester (exampleTransfer.collected readyCheckpoint)
    emptyTransferStore).toBool = true by decide +kernel)
  refine ((checkpoint_handed_off_iff (eq_ok_of_isOk (by decide +kernel)) (eq_ok_of_isOk (by decide +kernel)) hsave
    package_for_import_isOk).1.mpr ?_).2
  rw [kept_obj (checkpointFields_unkeyed _ (by simp))]
  intro e he
  cases List.mem_singleton.mp he
  change Kept (some "status") (holdsEvidence (some "evidence") false) (.str "ready")
  refine (kept_word (by simp) (by simp)).mpr ((keptAt_unkeyed (by decide)).mpr ⟨fun _ _ hredacted => ?_,nofun⟩)
  exact absurd hredacted.2 (by decide)

/-- A checkpoint with a note is valid and is saved, and is not handed off. -/
theorem noted_checkpoint_not_handed_off :
    (exampleTransfer.collected notedCheckpoint).check = .ok () ∧
    exampleTransfer.validateCheckpointForHandoff (exampleTransfer.collected notedCheckpoint) = .ok () ∧
    (exampleTransfer.packageForImport plainAttester emptyTransferStore.handoffs).isOk = true ∧
    ∃ s' loaded, saveAgentCheckpoint plainAttester (exampleTransfer.collected notedCheckpoint) emptyTransferStore = .ok s' ∧
      loadAgentCheckpoint "checkpoint.1" s' = .ok loaded ∧
      loaded.equals plainAttester.floatIsInt (exampleTransfer.collected notedCheckpoint) = false ∧
      exampleTransfer.handOff plainAttester notedCheckpoint emptyTransferStore =
        .error (valueError "checkpoint does not match the persisted record") := by
  have hcheck : (exampleTransfer.collected notedCheckpoint).check = .ok () := eq_ok_of_isOk (by decide +kernel)
  have hvalid : exampleTransfer.validateCheckpointForHandoff (exampleTransfer.collected notedCheckpoint) = .ok () :=
    eq_ok_of_isOk (by decide +kernel)
  obtain ⟨s',hsave⟩ := exists_of_toBool (show (saveAgentCheckpoint plainAttester (exampleTransfer.collected notedCheckpoint)
    emptyTransferStore).toBool = true by decide +kernel)
  obtain ⟨loaded,hload,hkept,hhandOff⟩ := handOff_eq hcheck hvalid hsave
  have hdiffers : loaded.equals plainAttester.floatIsInt (exampleTransfer.collected notedCheckpoint) = false := by
    refine Bool.eq_false_iff.mpr fun hequal => ?_
    have hall := (kept_obj (checkpointFields_unkeyed _ (by simp))).mp (hkept.mp hequal)
    have hplace := hall ("note",.str "text") (by simp [notedCheckpoint]) _ _ _ (.here _ _ _)
    have hmarked := ((keptAt_unkeyed (by decide)).mp hplace).1 "text" rfl ⟨by decide,by decide⟩
    exact absurd hmarked (by decide)
  refine ⟨hcheck,hvalid,package_for_import_isOk,s',loaded,hsave,hload,hdiffers,?_⟩
  rw [hhandOff,hdiffers]
  rfl

end Overseer.Agent.Attested
