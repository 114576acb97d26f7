import Overseer.Agent.Handoff
import Overseer.Agent.Sanitizer
import Overseer.Library.Fallible
import Overseer.Library.JsonEquality

/-! # Attested handoffs

`AgentHandoffService` over a store of payloads: what is signed is the package as it was built,
what is kept of it is sanitized, written as JSON and read back. The HMAC is a parameter, and so
are the patterns of the configuration.
-/
namespace Overseer.Agent.Attested
open Overseer.Library Overseer.Library.Json

structure AgentHandoffPackage where
  id : String
  instanceId : String
  outgoingEpochId : String
  incomingProviderId : String
  objective : String
  checkpointId : Option String := none
  requiredCapabilities : AgentCapabilities := {}
  evidence : List (String × Json) := []
  createdAt : Option String := none
  attestationVersion : Option String := none
  signature : Option String := none

/-- The rows of `agent_handoffs` by id, and the key of `agent_private_metadata`. -/
structure HandoffStore where
  key : Option String
  rows : Dict Json

/-- What the service and its store are given. -/
structure Attester where
  cfg : Config
  hmac : String → String → String
  floatIsInt : String → ℤ → Bool

/-! ### Records -/

def capabilityMembers (c : AgentCapabilities) : List (String × Json) :=
  [("session_discovery",.bool c.sessionDiscovery),("session_resume",.bool c.sessionResume),
    ("interactive_dispatch",.bool c.interactiveDispatch),("noninteractive_dispatch",.bool c.noninteractiveDispatch),
    ("structured_events",.bool c.structuredEvents),("checkpoints",.bool c.checkpoints),("cancellation",.bool c.cancellation),
    ("delegated_workers",.bool c.delegatedWorkers),("usage_observation",.bool c.usageObservation),
    ("handoff_import",.bool c.handoffImport)]

def optionalText (o : Option String) : Json := o.elim .null .str

namespace AgentHandoffPackage

def membersBefore (p : AgentHandoffPackage) : List (String × Json) :=
  [("id",.str p.id),("instance_id",.str p.instanceId),("outgoing_epoch_id",.str p.outgoingEpochId),
    ("incoming_provider_id",.str p.incomingProviderId),("objective",.str p.objective),
    ("checkpoint_id",optionalText p.checkpointId),("required_capabilities",.obj (capabilityMembers p.requiredCapabilities))]

def membersAfter (p : AgentHandoffPackage) : List (String × Json) :=
  [("created_at",optionalText p.createdAt),("attestation_version",optionalText p.attestationVersion),
    ("signature",optionalText p.signature)]

def members (p : AgentHandoffPackage) : List (String × Json) :=
  p.membersBefore ++ ("evidence",.obj p.evidence) :: p.membersAfter

/-- `to_jsonable(package)`. -/
def toJsonable (p : AgentHandoffPackage) : Json := .obj p.members

/-- `==` of two packages. -/
def equals (floatIsInt : String → ℤ → Bool) (p q : AgentHandoffPackage) : Bool :=
  p.id = q.id && p.instanceId = q.instanceId && p.outgoingEpochId = q.outgoingEpochId &&
  p.incomingProviderId = q.incomingProviderId && p.objective = q.objective && p.checkpointId = q.checkpointId &&
  p.requiredCapabilities = q.requiredCapabilities && (Json.obj p.evidence).equals floatIsInt (.obj q.evidence) &&
  p.createdAt = q.createdAt && p.attestationVersion = q.attestationVersion && p.signature = q.signature

end AgentHandoffPackage

mutual
/-- A mapping inside the value has a blank key. -/
def hasBlankKey : Json → Bool
  | .arr items => hasBlankKeyItems items
  | .obj members => hasBlankKeyMembers members
  | _ => false
def hasBlankKeyItems : List Json → Bool
  | [] => false
  | value :: rest => hasBlankKey value || hasBlankKeyItems rest
def hasBlankKeyMembers : List (String × Json) → Bool
  | [] => false
  | (key,value) :: rest => isBlank key || hasBlankKey value || hasBlankKeyMembers rest
end

def isHexDigest (text : String) : Bool := text.length = 64 && text.toList.all fun c => c.isDigit || c ∈ ['a','b','c','d','e','f']

def requireIdentifier (value label : String) : Except AgentError Unit :=
  ensure (isBlank value = false) (valueError s!"{label} must be a stable non-empty identifier")

/-- `AgentHandoffPackage.__post_init__`. -/
def checkRecord (p : AgentHandoffPackage) : Except AgentError Unit := do
  requireIdentifier p.id "handoff id"
  requireIdentifier p.instanceId "instance id"
  requireIdentifier p.outgoingEpochId "outgoing epoch id"
  requireIdentifier p.incomingProviderId "incoming provider id"
  ensure (isBlank p.objective = false) (valueError "handoff objective must be non-empty")
  p.checkpointId.forM fun id => requireIdentifier id "checkpoint id"
  ensure (∀ v ∈ p.attestationVersion, v = attestationVersion) (valueError "unsupported handoff attestation version")
  ensure (∀ v ∈ p.signature, isHexDigest v = true) (valueError "handoff signature must be a lowercase SHA-256 HMAC")
  ensure (hasBlankKey (.obj p.evidence) = false) ⟨.type,"record mapping keys must be non-empty strings"⟩

/-- The text of a field that every record has. -/
def fieldText (payload : Json) (field : String) : Except AgentError String :=
  match payload.member? field with
  | some (.str text) => .ok text
  | _ => .error ⟨.type,s!"missing required argument: {field}"⟩

def fieldOptional (payload : Json) (field : String) : Option String := (payload.member? field).bind asStr?

def fieldFlag (payload : Option Json) (field : String) : Bool := payload.bind (·.member? field) = some (.bool true)

def fieldCapabilities (payload : Option Json) : AgentCapabilities where
  sessionDiscovery := fieldFlag payload "session_discovery"
  sessionResume := fieldFlag payload "session_resume"
  interactiveDispatch := fieldFlag payload "interactive_dispatch"
  noninteractiveDispatch := fieldFlag payload "noninteractive_dispatch"
  structuredEvents := fieldFlag payload "structured_events"
  checkpoints := fieldFlag payload "checkpoints"
  cancellation := fieldFlag payload "cancellation"
  delegatedWorkers := fieldFlag payload "delegated_workers"
  usageObservation := fieldFlag payload "usage_observation"
  handoffImport := fieldFlag payload "handoff_import"

def fieldMapping (payload : Json) (field : String) : List (String × Json) :=
  match payload.member? field with
  | some (.obj members) => members
  | _ => []

/-- `_load_dataclass(AgentHandoffPackage, payload)`, from the parsed payload. -/
def loadDataclass (payload : Json) : Except AgentError AgentHandoffPackage := do
  let id ← fieldText payload "id"
  let instanceId ← fieldText payload "instance_id"
  let outgoingEpochId ← fieldText payload "outgoing_epoch_id"
  let incomingProviderId ← fieldText payload "incoming_provider_id"
  let objective ← fieldText payload "objective"
  let package : AgentHandoffPackage := {
    id, instanceId, outgoingEpochId, incomingProviderId, objective
    checkpointId := fieldOptional payload "checkpoint_id"
    requiredCapabilities := fieldCapabilities (payload.member? "required_capabilities")
    evidence := fieldMapping payload "evidence"
    createdAt := fieldOptional payload "created_at"
    attestationVersion := fieldOptional payload "attestation_version"
    signature := fieldOptional payload "signature" }
  checkRecord package
  return package

/-! ### The store -/

def canonicalHandoffBytes (p : AgentHandoffPackage) : String := dumps false { p with signature := none }.toJsonable.reread

section Service
variable (a : Attester)

/-- The fields that a stored package keeps. -/
def sameIdentity (p q : AgentHandoffPackage) : Bool :=
  p.id = q.id && p.instanceId = q.instanceId && p.outgoingEpochId = q.outgoingEpochId &&
  p.incomingProviderId = q.incomingProviderId && p.objective = q.objective && p.checkpointId = q.checkpointId &&
  p.requiredCapabilities = q.requiredCapabilities && p.createdAt = q.createdAt

/-- A row of the id names the same package. -/
def checkStored (sanitized : AgentHandoffPackage) (s : HandoffStore) : Except AgentError Unit :=
  match s.rows.get? sanitized.id with
  | none => .ok ()
  | some row => do
    let existing ← loadDataclass row
    ensure (sameIdentity existing sanitized = true) (valueError "agent_handoffs immutable identity cannot change")

/-- `save_agent_handoff`; a row is its payload as `json.loads` reads it. -/
def saveAgentHandoff (handoff : AgentHandoffPackage) (s : HandoffStore) : Except AgentError HandoffStore := do
  let payload ← sanitizeAgentJson a.cfg.isAlnum none false handoff.toJsonable
  let sanitized ← loadDataclass payload.reread
  checkStored sanitized s
  return { s with rows := s.rows.set sanitized.id payload.reread }

def loadAgentHandoff (id : String) (s : HandoffStore) : Except AgentError AgentHandoffPackage :=
  match s.rows.get? id with
  | none => .error (keyError id)
  | some row => loadDataclass row

def handoffAttestationKey (s : HandoffStore) : Except AgentError String :=
  match s.key with
  | some key => .ok key
  | none => .error ⟨.manager,"handoff attestation key is unavailable"⟩

def signAndSaveAgentHandoff (handoff : AgentHandoffPackage) (s : HandoffStore) :
    Except AgentError (AgentHandoffPackage × HandoffStore) := do
  let versioned := { handoff with attestationVersion := some attestationVersion, signature := none }
  checkRecord versioned
  let key ← handoffAttestationKey s
  let signed := { versioned with signature := some (a.hmac key (canonicalHandoffBytes versioned)) }
  checkRecord signed
  let s ← saveAgentHandoff a signed s
  return (signed,s)

def verifyAgentHandoffAttestation (handoff : AgentHandoffPackage) (s : HandoffStore) : Except AgentError Bool :=
  if handoff.attestationVersion = some attestationVersion ∧ handoff.signature ≠ none then
    match s.rows.get? handoff.id with
    | none => .ok false
    | some row => do
      let persisted ← loadDataclass row
      if persisted.equals a.floatIsInt handoff then
        let key ← handoffAttestationKey s
        return handoff.signature = some (a.hmac key (canonicalHandoffBytes handoff))
      else return false
  else .ok false

/-- Another connection finds the rows as they are; a key is drawn where there is none. -/
def reopen (fresh : String) (s : HandoffStore) : HandoffStore := { s with key := some (s.key.getD fresh) }

/-! ### The service -/

/-- `_validate_handoff_bounds` and `_reject_sensitive_material` on an objective and its evidence. -/
def checkMaterial (objective : String) (evidence : List (String × Json)) : Except AgentError Unit := do
  let bounded : Option String → Except AgentError Unit := fun fault => fault.elim (.ok ()) fun text => .error (valueError text)
  bounded (boundsFault 0 (.str objective))
  bounded (boundsFault 0 (.obj evidence))
  ensure (sensitive a.cfg (some "objective") (.str objective) = false) (valueError "handoff contains sensitive material")
  ensure (sensitive a.cfg none (.obj evidence) = false) (valueError "handoff contains sensitive material")

/-- The arguments of `build`; a mapping of Python names a key once. -/
structure BuildArguments where
  instanceId : String
  outgoingEpochId : String
  incomingProviderId : String
  objective : String
  evidence : List (String × Json)
  unique : uniqueKeys (.obj evidence) = true
  requiredCapabilities : AgentCapabilities
  checkpointId : Option String := none

/-- `AgentHandoffService.build`, with the id and the time of the package. -/
def build (args : BuildArguments) (id createdAt : String) (s : HandoffStore) :
    Except AgentError (AgentHandoffPackage × HandoffStore) := do
  checkMaterial a args.objective args.evidence
  let package : AgentHandoffPackage := {
    id, instanceId := args.instanceId, outgoingEpochId := args.outgoingEpochId
    incomingProviderId := args.incomingProviderId, objective := args.objective, checkpointId := args.checkpointId
    requiredCapabilities := args.requiredCapabilities, evidence := args.evidence, createdAt := some createdAt }
  checkRecord package
  signAndSaveAgentHandoff a package s

def validate (package : AgentHandoffPackage) (capabilities : AgentCapabilities) (s : HandoffStore) :
    Except AgentError AgentHandoffPackage := do
  checkMaterial a package.objective package.evidence
  let attested ← verifyAgentHandoffAttestation a package s
  ensure (attested = true) (valueError "handoff attestation is missing or invalid")
  ensure (capabilities.handoffImport = true) (valueError "incoming provider lacks handoff_import capability")
  ensure (capabilities.supports package.requiredCapabilities = true) (valueError "incoming provider lacks required capabilities")
  return package

end Service
end Overseer.Agent.Attested
