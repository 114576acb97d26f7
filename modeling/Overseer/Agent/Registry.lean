import Mathlib.Data.List.Sort
import Mathlib.Data.List.Lex
import Mathlib.Data.Char
import Overseer.Agent.Sanitizer
import Overseer.Library.DepthFirst
import Overseer.Library.JsonEquality
import Overseer.Library.Traversal

/-! # The provider registry

`agent_registry.py`: the committed configuration of providers and instances, what a machine may
override of it, and the records that are built from the two. A mapping of the configuration is the
list of its members; reading a file, and the factories of the adapters, are left out.
-/
namespace Overseer.Agent
open Overseer.Library

def AgentTransport.value : AgentTransport → String
  | .interactiveCli => "interactive_cli"
  | .noninteractiveCli => "noninteractive_cli"
  | .api => "api"
  | .gateway => "gateway"

/-- `AgentTransport(text)`. -/
def AgentTransport.ofValue? (text : String) : Option AgentTransport :=
  [interactiveCli,noninteractiveCli,api,gateway].find? (·.value = text)

namespace Registry
open Json DepthFirst

abbrev Mapping := List (String × Json)

/-- `mapping.get(key)`. -/
def get (mapping : Mapping) (key : String) : Json := (Dict.find key mapping).getD .null

/-- `sorted(keys)` as an error names it, for keys of printable characters. -/
def sortedNames (keys : List String) : String :=
  "[" ++ ", ".intercalate ((keys.insertionSort fun a b => a.toList ≤ b.toList).map fun key => "'" ++ key ++ "'") ++ "]"

def requireMapping (value : Json) (label : String) : Except AgentError Mapping :=
  match value with
  | .obj members => .ok members
  | _ => .error (valueError (label ++ " must be an object"))

def requireList (value : Json) (label : String) : Except AgentError (List Json) :=
  match value with
  | .arr items => .ok items
  | _ => .error (valueError (label ++ " must be a list"))

/-- `mapping.get(key, [])` and `mapping.get(key, {})`. -/
def getList (mapping : Mapping) (key : String) : Json := (Dict.find key mapping).getD (.arr [])
def getMapping (mapping : Mapping) (key : String) : Json := (Dict.find key mapping).getD (.obj [])

/-! ### Secret references -/

def isAsciiAlnum (c : Char) : Bool := c.isAlpha || c.isDigit

/-- `re.fullmatch` with the pattern of a locator. -/
def isLocator (id : String) : Bool :=
  hasPrefix id "secret://" &&
    match id.toList.drop 9 with
    | [] => false
    | c :: rest => isAsciiAlnum c && rest.all fun c => isAsciiAlnum c || c ∈ ['.','_','/','-']

/-- A credential locator, never credential material. -/
structure CredentialReference where
  id : String
  locator : isLocator id = true
  deriving DecidableEq

def locatorError : AgentError := valueError "configuration accepts only secret reference locators"

def secretReference (value : Json) : Except AgentError CredentialReference :=
  match value with
  | .str id => if h : isLocator id = true then .ok ⟨id,h⟩ else .error locatorError
  | _ => .error locatorError

/-- `(?:api|private|access)[_-]?key` at this place. -/
def secretKeyNameAt (cs : List Char) : Bool :=
  ["api","private","access"].any fun start => (afterText start.toList cs).any fun rest =>
    (afterText "key".toList rest).isSome ||
      match rest with
      | c :: rest => (c = '_' || c = '-') && (afterText "key".toList rest).isSome
      | [] => false

/-- `_SECRET_KEY_PATTERN` at a place of the key. -/
def secretNameAt (cs : List Char) : Bool :=
  (["secret","password","token","credential","authorization","auth","cookie","bearer"].any fun name => (afterText name.toList cs).isSome) ||
    secretKeyNameAt cs

/-- `_SECRET_KEY_PATTERN.search(key)`. -/
def isSecretKey (key : String) : Bool := key.toList.tails.any secretNameAt

/-- `key.lower().endswith("_secret_ref")`. -/
def isSecretRef (key : String) : Bool := "_secret_ref".toList.isSuffixOf (key.toList.map Char.toLower)

mutual
def rejectInlineSecrets : Json → Except AgentError Unit
  | .obj members => rejectMembers members
  | .arr items => rejectItems items
  | _ => .ok ()
def rejectItems : List Json → Except AgentError Unit
  | [] => .ok ()
  | item :: rest => do
    rejectInlineSecrets item
    rejectItems rest
def rejectMembers : List (String × Json) → Except AgentError Unit
  | [] => .ok ()
  | (key,value) :: rest => do
    if key = "credential_references" then
      (← requireMapping value key).forM fun reference => do
        let _ ← secretReference reference.2
    else if key = "required_secret_references" then
      (← requireList value key).forM fun name =>
        ensure (name.asStr?.any (· ≠ "") = true) (valueError "required secret references must be non-empty names")
    else if isSecretKey key then
      ensure (isSecretRef key = true) locatorError
      let _ ← secretReference value
    else rejectInlineSecrets value
    rejectMembers rest
end

/-! ### Local overrides -/

/-- The records of a section, filed by id. -/
def recordsById (value : Json) (label : String) : Except AgentError (Dict Mapping) := do
  (← requireList value label).foldlM (fun records record => do
    let mapping ← requireMapping record (label ++ " record")
    match get mapping "id" with
    | .str id =>
      ensure (id ≠ "") (valueError (label ++ " record id must be non-empty"))
      ensure (records.get? id = none) (valueError ("duplicate " ++ label ++ " id: " ++ id))
      return records.set id mapping
    | _ => throw (valueError (label ++ " record id must be non-empty"))) Dict.empty

section Equality
variable (floatIsInt : String → ℤ → Bool)

mutual
/-- What an override makes of the value that is there. -/
def mergeValue (old : Option Json) : Json → Except AgentError Json
  | .obj override => do
    match old with
    | some (.obj base) => return .obj (← mergeMembers base base override)
    | _ => return .obj override
  | value => .ok value
/-- `_merge_mapping(base, override)`, with what is merged so far. -/
def mergeMembers (base merged : Mapping) : List (String × Json) → Except AgentError Mapping
  | [] => .ok merged
  | (key,value) :: rest => do
    ensure (key = "id" → equals floatIsInt value (get base "id") = true) (valueError "local override cannot change a record id")
    let value ← mergeValue (Dict.find key merged) value
    mergeMembers base (Dict.assign key value merged) rest
end

def mergeMapping (base override : Mapping) : Except AgentError Mapping := mergeMembers floatIsInt base base override

def localProviderFields : List String := ["executable_path"]
def localInstanceFields : List String := ["workspace","model_profile_id","credential_references"]

def validateLocalOverrideFields (part : String) (override : Mapping) : Except AgentError Unit :=
  let allowed := if part = "providers" then localProviderFields else localInstanceFields
  let disallowed := (override.map Prod.fst).filter fun key => key ∉ allowed ∧ ¬ isSecretRef key
  ensure (disallowed = []) (valueError ("local override cannot change committed " ++ part ++ " fields: " ++ sortedNames disallowed))

/-- The records of one section under the overrides of one machine. -/
def mergeSection (committed machine : Mapping) (part : String) (merged : Mapping) : Except AgentError Mapping :=
  match Dict.find part machine with
  | none => .ok merged
  | some overrides => do
    let overrides ← requireMapping overrides ("local " ++ part)
    let records ← recordsById (getList committed part) part
    let records ← overrides.foldlM (fun records e => do
      match records.get? e.1 with
      | none => throw (valueError ("local override references unknown " ++ part ++ " id: " ++ e.1))
      | some record =>
        let override ← requireMapping e.2 ("local " ++ part ++ " override")
        validateLocalOverrideFields part override
        return records.set e.1 (← mergeMapping floatIsInt record override)) records
    return Dict.assign part (.arr (records.values.map .obj)) merged

def schemaVersion (configuration : Mapping) : Json := (Dict.find "schema_version" configuration).getD (.int 1)

def mergeLocalOverrides (committed : Mapping) (machine : Option Mapping) : Except AgentError Mapping :=
  match machine with
  | none => .ok committed
  | some machine => do
    let unknown := (machine.map Prod.fst).filter fun key => key ∉ ["schema_version","providers","instances"]
    ensure (unknown = []) (valueError ("local override contains unknown sections: " ++ sortedNames unknown))
    let merged ← mergeSection floatIsInt committed machine "providers" committed
    let merged ← mergeSection floatIsInt committed machine "instances" merged
    ensure ((Dict.find "schema_version" machine).all (fun version => equals floatIsInt version (schemaVersion committed)) = true)
      (valueError "local override cannot change schema_version")
    return merged

end Equality

/-! ### Records -/


/-- A provider of the configuration, with the secrets its instances must refer to. -/
structure ConfiguredProvider extends AgentProvider where
  requiredSecretReferences : List String := []
  deriving DecidableEq

/-- An instance of the configuration, with its credential references by name. -/
structure ConfiguredProfile extends AgentInstanceProfile where
  credentialReferences : Dict CredentialReference := .empty
  deriving DecidableEq

def capabilityNames : List String :=
  ["session_discovery","session_resume","interactive_dispatch","noninteractive_dispatch","structured_events","checkpoints",
    "cancellation","delegated_workers","usage_observation","handoff_import"]

def capabilities (value : Json) : Except AgentError AgentCapabilities := do
  let mapping ← requireMapping value "capabilities"
  let unknown := (mapping.map Prod.fst).filter (· ∉ capabilityNames)
  ensure (unknown = []) (valueError ("unknown capabilities: " ++ sortedNames unknown))
  ensure (∀ e ∈ mapping, e.2 = .bool true ∨ e.2 = .bool false) (valueError "capabilities must be boolean")
  let enabled := fun name => decide (get mapping name = .bool true)
  return {
    sessionDiscovery := enabled "session_discovery"
    sessionResume := enabled "session_resume"
    interactiveDispatch := enabled "interactive_dispatch"
    noninteractiveDispatch := enabled "noninteractive_dispatch"
    structuredEvents := enabled "structured_events"
    checkpoints := enabled "checkpoints"
    cancellation := enabled "cancellation"
    delegatedWorkers := enabled "delegated_workers"
    usageObservation := enabled "usage_observation"
    handoffImport := enabled "handoff_import" }

def validateFields (record : Mapping) (allowed : List String) (label : String) (allowSecretRefs : Bool) : Except AgentError Unit :=
  let unknown := (record.map Prod.fst).filter fun key => key ∉ allowed ∧ ¬ (allowSecretRefs && isSecretRef key)
  ensure (unknown = []) (valueError ("unknown " ++ label ++ " fields: " ++ sortedNames unknown))

def providerFields : List String :=
  ["id","adapter","transport","executable","executable_path","capabilities","required_secret_references"]

def instanceFields : List String :=
  ["id","primary_provider_id","workspace","fallback_provider_ids","credential_references","required_capabilities","model_profile_id"]

def allowedExecutables : List String := ["codex","claude","qwen","vibe"]

/-- `_ADAPTER_COMBINATIONS`, whose keys are `_ALLOWED_ADAPTERS`. -/
def adapterCombinations : List (String × AgentTransport × Option String) :=
  [("codex",.interactiveCli,some "codex"),("claude",.noninteractiveCli,some "claude"),("qwen_code",.interactiveCli,some "qwen"),
    ("mistral_vibe",.interactiveCli,some "vibe"),("antigravity",.gateway,none)]

/-- `_EXECUTABLE_NAME_PATTERN.fullmatch(name)`. -/
def isExecutableName (name : String) : Bool :=
  match name.toList with
  | [] => false
  | c :: rest => isAsciiAlnum c && rest.all fun c => isAsciiAlnum c || c ∈ ['.','_','-']

/-- `Path(text).name` of an absolute path without `.` and `..`. -/
def pathName (text : String) : String := String.ofList (text.toList.reverse.takeWhile (· ≠ '/')).reverse

/-- A value that is not null. -/
def given (value : Json) : Bool := value ≠ .null

def requireIdentifier (value label : String) : Except AgentError Unit :=
  ensure (¬ isBlank value) (valueError (label ++ " must be a stable non-empty identifier"))

def requireIdentifiers (values : List String) (label : String) : Except AgentError Unit :=
  values.forM fun value => requireIdentifier value label

/-- The texts of a list whose items must be identifiers. -/
def identifiers (items : List Json) (label : String) : Except AgentError (List String) :=
  items.mapM fun item => match item with
    | .str s => do
      requireIdentifier s label
      return s
    | _ => throw (valueError (label ++ " must be a stable non-empty identifier"))

/-- A text that a record must have. -/
def requireText (record : Mapping) (key : String) (message : String) : Except AgentError String :=
  match get record key with
  | .str s => do
    ensure (s ≠ "") (valueError message)
    return s
  | _ => throw (valueError message)

def requireTransport (record : Mapping) : Except AgentError AgentTransport :=
  match (get record "transport").asStr?.bind AgentTransport.ofValue? with
  | some transport => .ok transport
  | none => .error (valueError "provider transport is not supported")

section Paths
-- `str(Path(text).resolve())`, which follows the links of the machine
variable (resolve : String → Except AgentError String)

/-- The paths of the executable on this machine. -/
def executableAllowlist (executable : String) (executablePath : Json) : Except AgentError (List String) :=
  match executablePath with
  | .null => .ok [executable]
  | .str path => do
    ensure (hasPrefix path "/" = true) (valueError "local executable_path must be an absolute path")
    let canonicalPath ← resolve path
    ensure (pathName canonicalPath = executable) (valueError "local executable_path basename must match the provider executable")
    return [canonicalPath]
  | _ => .error (valueError "local executable_path must be an absolute path")

/-- The name of the executable that is started. -/
def checkExecutable (transport : AgentTransport) (executable : Json) : Except AgentError Unit :=
  if transport = .gateway then .ok () else do
    ensure (executable.asStr?.any isExecutableName = true) (valueError "executable name must be a single command name")
    ensure (executable.asStr?.any (· ∈ allowedExecutables) = true) (valueError "executable is not allowlisted")

/-- A gateway has nothing to start. -/
def providerAllowlist (record : Mapping) (transport : AgentTransport) (executable : Json) : Except AgentError (List String) :=
  if transport = .gateway then do
    ensure (¬ given executable ∧ ¬ given (get record "executable_path")) (valueError "gateway provider executable must be null")
    return []
  else executableAllowlist resolve (executable.asStr?.getD "") (get record "executable_path")

def providerFromRecord (record : Mapping) : Except AgentError ConfiguredProvider := do
  validateFields record providerFields "provider" false
  let id ← requireText record "id" "provider id must be non-empty"
  let adapter ← requireText record "adapter" "provider adapter is not supported"
  ensure (adapter ∈ adapterCombinations.map Prod.fst) (valueError "provider adapter is not supported")
  let transport ← requireTransport record
  let executable := get record "executable"
  checkExecutable transport executable
  ensure ((given executable → executable.asStr?.isSome) ∧ (adapter,transport,executable.asStr?) ∈ adapterCombinations)
    (valueError "provider adapter, transport, and executable combination is invalid")
  let executableAllowlist ← providerAllowlist resolve record transport executable
  let capabilities ← capabilities (getMapping record "capabilities")
  let references ← requireList (getList record "required_secret_references") "required_secret_references"
  requireIdentifier id "provider id"
  requireIdentifier adapter "adapter id"
  requireIdentifiers executableAllowlist "executable"
  let references ← identifiers references "required secret reference"
  return {
    id := id
    adapterId := adapter
    capabilities := capabilities
    transports := [transport]
    executableAllowlist := executableAllowlist
    requiredSecretReferences := references }

end Paths

/-- The provider ids of a list, each of them configured. -/
def fallbackIds (providers : Dict ConfiguredProvider) (value : Json) : Except AgentError (List String) :=
  match value with
  | .arr items => do
    let ids := items.filterMap asStr?
    ensure (ids.length = items.length ∧ ∀ id ∈ ids, (providers.get? id).isSome)
      (valueError "fallback providers must be configured provider ids")
    return ids
  | _ => .error (valueError "fallback providers must be configured provider ids")

/-! `AgentInstanceProfile.__post_init__`, as far as a profile of the registry can fail it: what comes
before the model profile, which the configuration gives as any value, and the rest. -/

def checkIdentity (profile : ConfiguredProfile) : Except AgentError Unit := do
  requireIdentifier profile.id "instance id"
  requireIdentifier profile.primaryProviderId "primary provider id"
  ensure (¬ isBlank profile.workspace) (valueError "workspace must be non-empty")
  requireIdentifiers profile.primaryAdapterId.toList "primary adapter id"

def checkReferences (profile : ConfiguredProfile) : Except AgentError Unit := do
  requireIdentifiers profile.modelProfileId.toList "model profile id"
  requireIdentifiers profile.externalSessionId.toList "external session id"
  requireIdentifiers profile.approvedFallbackProviderIds "fallback provider id"
  ensure profile.approvedFallbackProviderIds.Nodup (valueError "fallback provider id values must be unique")
  ensure (profile.primaryProviderId ∉ profile.approvedFallbackProviderIds) (valueError "primary provider cannot be its own fallback")
  requireIdentifiers profile.credentialReferences.keys "credential reference name"

def checkProfile (profile : ConfiguredProfile) : Except AgentError Unit := do
  checkIdentity profile
  checkReferences profile

/-- The credential references of a record: those of the mapping, and those under a key of their own. -/
def referencesOf (record : Mapping) : Except AgentError (Dict CredentialReference) := do
  let references ← requireMapping (getMapping record "credential_references") "credential_references"
  let references := Payload.ofList (references ++ record.filter fun e => isSecretRef e.1)
  fillFrom secretReference references

/-- `record.get("model_profile_id")`, which must be a text. -/
def modelProfileOf (record : Mapping) : Except AgentError (Option String) :=
  match get record "model_profile_id" with
  | .null => .ok none
  | .str s => .ok (some s)
  | _ => .error (valueError "model profile id must be a stable non-empty identifier")

def primaryProvider (providers : Dict ConfiguredProvider) (id : String) : Except AgentError ConfiguredProvider :=
  match providers.get? id with
  | some primary => .ok primary
  | none => .error (valueError "instance primary provider must be configured")

/-- An instance with fallbacks needs providers that take over a handoff. -/
def requiredCapabilitiesOf (record : Mapping) (fallbackIds : List String) : Except AgentError AgentCapabilities :=
  match Dict.find "required_capabilities" record with
  | some value => capabilities value
  | none => .ok (if fallbackIds = [] then {} else { handoffImport := true })

def profileFromRecord (providers : Dict ConfiguredProvider) (record : Mapping) : Except AgentError ConfiguredProfile := do
  validateFields record instanceFields "instance" true
  let id ← requireText record "id" "instance id must be non-empty"
  let primaryProviderId ← requireText record "primary_provider_id" "instance primary provider must be configured"
  let primary ← primaryProvider providers primaryProviderId
  let workspace ← requireText record "workspace" "instance workspace must be non-empty"
  let fallbackIds ← fallbackIds providers (getList record "fallback_provider_ids")
  ensure fallbackIds.Nodup (valueError "fallback provider ids must be unique and ordered")
  let requiredCapabilities ← requiredCapabilitiesOf record fallbackIds
  let references ← referencesOf record
  let profile : ConfiguredProfile := {
    id := id
    primaryProviderId := primaryProviderId
    transport := primary.transports.headD .interactiveCli
    workspace := workspace
    primaryAdapterId := some primary.adapterId
    declaredCapabilities := primary.capabilities
    requiredCapabilities := requiredCapabilities
    credentialReferences := references
    approvedFallbackProviderIds := fallbackIds }
  checkIdentity profile
  let profile := { profile with modelProfileId := ← modelProfileOf record }
  checkReferences profile
  return profile

/-- The provider of the instance and its fallbacks, in the order they are tried. -/
def ConfiguredProfile.selectable (profile : ConfiguredProfile) : List String :=
  profile.primaryProviderId :: profile.approvedFallbackProviderIds

def validateRequiredSecretReferences (profiles : List ConfiguredProfile) (providers : Dict ConfiguredProvider) : Except AgentError Unit :=
  profiles.forM fun profile =>
    let required := profile.selectable.flatMap fun id => ((providers.get? id).map (·.requiredSecretReferences)).getD []
    match required.find? fun name => name ∉ profile.credentialReferences.keys with
    | some name => .error (valueError ("profile is missing required credential reference: " ++ name))
    | none => .ok ()

/-! ### Fallbacks -/

/-- `graph` after the loop over the profiles; a set is the list of what was put into it. -/
def fallbackGraph (profiles : List ConfiguredProfile) : Dict (List String) :=
  profiles.foldl (fun graph profile =>
    graph.set profile.primaryProviderId (((graph.get? profile.primaryProviderId).getD []) ++ profile.approvedFallbackProviderIds)) Dict.empty

section Sets
-- the order in which a set is gone through
variable (inOrder : List String → List String)

/-- `depth` bounds the depth of the search. -/
def validateFallbacks (depth : ℕ) (profiles : List ConfiguredProfile) (providers : Dict ConfiguredProvider) :
    ExceptT AgentError Option Unit := do
  let graph := fallbackGraph profiles
  let _ ← visitAll (fun id => .ok (inOrder ((graph.get? id).getD []))) (valueError "fallback cycle is not allowed") depth
    (fun _ => .fresh) graph.keys
  if ∀ profile ∈ profiles, ∀ id ∈ profile.approvedFallbackProviderIds,
      (providers.get? id).any (·.capabilities.supports profile.requiredCapabilities) then return
  else throw (valueError "fallback provider lacks required capabilities")

end Sets

/-! ### Loading -/

def validateTopLevelSections (configuration : Mapping) (source : String) : Except AgentError Unit :=
  let unknown := (configuration.map Prod.fst).filter fun key => key ∉ ["schema_version","providers","instances"]
  ensure (unknown = []) (valueError (source ++ " configuration contains unknown sections: " ++ sortedNames unknown))

def validateCommittedMachineLocalFields (configuration : Mapping) : Except AgentError Unit := do
  (← requireList (getList configuration "providers") "providers").forM fun provider => do
    let provider ← requireMapping provider "provider record"
    ensure ("executable_path" ∉ provider.map Prod.fst) (valueError "committed configuration cannot set machine-local executable_path")

/-- The validated configuration. -/
structure AgentRegistry where
  providers : Dict ConfiguredProvider
  profiles : Dict ConfiguredProfile

section Load
variable (floatIsInt : String → ℤ → Bool) (resolve : String → Except AgentError String) (inOrder : List String → List String)

/-- The configuration of one machine, from what is committed and what the machine overrides. -/
def configure (committed : Mapping) (machine : Option Mapping) : Except AgentError Mapping := do
  validateTopLevelSections committed "committed"
  validateCommittedMachineLocalFields committed
  rejectInlineSecrets (.obj committed)
  machine.toList.forM fun machine => do
    validateTopLevelSections machine "local override"
    rejectInlineSecrets (.obj machine)
  mergeLocalOverrides floatIsInt committed machine

/-- The records of a configuration, before the checks across them. -/
def build (configuration : Mapping) : Except AgentError AgentRegistry := do
  ensure (equals floatIsInt (schemaVersion configuration) (.int 1) = true) (valueError "unsupported provider registry schema_version")
  let providers ← fillFrom (providerFromRecord resolve) (← recordsById (getList configuration "providers") "providers")
  let profiles ← fillFrom (profileFromRecord providers) (← recordsById (getList configuration "instances") "instances")
  validateRequiredSecretReferences profiles.values providers
  return ⟨providers,profiles⟩

def load (depth : ℕ) (committed : Mapping) (machine : Option Mapping) : ExceptT AgentError Option AgentRegistry := do
  let registry ← ExceptT.mk (some (configure floatIsInt committed machine >>= build floatIsInt resolve))
  validateFallbacks inOrder depth registry.profiles.values registry.providers
  return registry

end Load

/-! ### Selecting a provider -/

/-- The profile of an instance that another of its providers drives. -/
def ConfiguredProfile.select (profile : ConfiguredProfile) (provider : ConfiguredProvider) (providerId : String) : ConfiguredProfile :=
  { profile with
    primaryProviderId := provider.id
    transport := provider.transports.headD .interactiveCli
    primaryAdapterId := some provider.adapterId
    externalSessionId := none
    declaredCapabilities := provider.capabilities
    approvedFallbackProviderIds := profile.selectable.filter (· ≠ providerId) }

namespace AgentRegistry

def profile (r : AgentRegistry) (instanceId : String) : Except AgentError ConfiguredProfile :=
  match r.profiles.get? instanceId with
  | some profile => .ok profile
  | none => .error (keyError ("unknown agent instance: " ++ instanceId))

/-- `self.providers[provider_id]`. -/
def provider (r : AgentRegistry) (providerId : String) : Except AgentError ConfiguredProvider :=
  match r.providers.get? providerId with
  | some provider => .ok provider
  | none => .error (keyError providerId)

def profileForProvider (r : AgentRegistry) (instanceId providerId : String) : Except AgentError ConfiguredProfile := do
  let profile ← r.profile instanceId
  ensure (providerId ∈ profile.selectable) (valueError ("provider " ++ providerId ++ " is not approved for instance " ++ instanceId))
  let provider ← r.provider providerId
  checkProfile (profile.select provider providerId)
  return profile.select provider providerId

end AgentRegistry
end Registry
end Overseer.Agent
