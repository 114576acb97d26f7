import Overseer.Agent.Store
import Overseer.Library.JsonText
import Mathlib.Algebra.Ring.Int.Defs

/-! # Wire contracts of the Psychlo bridge

The closed payloads of `psychlo_contracts.py` that the bridge's store reads again under
its lock. A `ContractError` is a value error here; a missing member that is subscripted is
a key error, two times of which only one has an offset are a type error.
-/
namespace Overseer.Psychlo
open Overseer.Library Overseer.Agent

/-- What `datetime.fromisoformat` makes of a text. -/
structure Moment where
  aware : Bool
  micros : ℤ

/-- The digest, the calendar and the floating-point numbers of the host. `fromisoformat` is
applied to the text with `Z` replaced by `+00:00`; `doubleBits` is the double that a number
converts to as sixteen hexadecimal digits, none for an integer that is too large, and `floatIsInt`
compares a float with an integer. `loads` is `json.loads`, none where it raises. -/
structure Host where
  sha256 : String → String
  fromisoformat : String → Option Moment
  doubleBits : Json → Option String := fun _ => none
  floatIsInt : String → ℤ → Bool := fun _ _ => false
  loads : String → Option Json := fun _ => none

abbrev Check := Except AgentError

def check (c : Prop) [Decidable c] (e : AgentError) : Check Unit := if c then .ok () else .error e

/-- The value, or an error. -/
def found {α : Type} (o : Option α) (e : AgentError) : Check α :=
  match o with
  | some a => .ok a
  | none => .error e

/-- `v in choices`; a value that has no hash raises. -/
def memberOf (v : Json) (choices : List String) : Check Bool :=
  if v.hashable then .ok (choices.any fun c => v = .str c) else .error ⟨.type,"unhashable type"⟩

/-- `value[k]`. -/
def item (value : Payload) (k : String) : Check Json :=
  match value.get? k with
  | some v => .ok v
  | none => .error (keyError k)

def object (v : Json) (name : String) : Check Payload :=
  match Payload.ofJson? v with
  | some p => .ok p
  | none => .error (valueError s!"{name} must be an object")

def onlyKeys (value : Payload) (allowed : List String) (name : String) : Check Unit :=
  check (∀ k ∈ value.keys, k ∈ allowed) (valueError s!"{name} contains unknown fields")

def isIdChar (c : Char) : Bool := c.isAlphanum || c = '.' || c = '_' || c = ':' || c = '-'

/-- `ID_RE`. -/
def isId (s : String) : Bool :=
  match s.toList with
  | [] => false
  | c :: rest => c.isAlphanum && rest.all isIdChar && rest.length ≤ 159

def isHex (c : Char) : Bool := c.isDigit || ('a' ≤ c && c ≤ 'f')

/-- `SHA256_RE`. -/
def isDigest (s : String) : Bool := s.length = 64 && s.toList.all isHex

/-- Nonempty, without blanks at its ends, and not too long. -/
def isText (maximum : ℕ) (s : String) : Bool :=
  s ≠ "" && s.toList.head?.all (!isSpace ·) && s.toList.getLast?.all (!isSpace ·) && s.length ≤ maximum

/-- One field check: the value is a text that the test accepts. -/
def textField (test : String → Bool) (v : Json) (name : String) : Check String :=
  match v.asStr? with
  | some s => if test s then .ok s else .error (valueError s!"{name} is invalid")
  | none => .error (valueError s!"{name} is invalid")

def idField (v : Json) (name : String) : Check String := textField isId v name
def digestField (v : Json) (name : String) : Check String := textField isDigest v name
def questionField (v : Json) (name : String) : Check String := textField (isText 6000) v name

def roundModels : List String := ["gpt-5","gpt-5.6-luna","gpt-5.6-terra","gpt-5.6-sol"]

def featureClasses : List String := ["typescript-feature","javascript-feature","python-feature","rust-feature",
  "go-feature","java-feature","kotlin-feature","swift-feature","cpp-feature","csharp-feature","round-result","unknown"]

namespace Host
variable (host : Host)

def timestampField (v : Json) (name : String) : Check String :=
  textField (fun s => (host.fromisoformat s).isSome) v name

def moment (s : String) : Check Moment :=
  match host.fromisoformat s with
  | some m => .ok m
  | none => .error (valueError s!"Invalid isoformat string: {s}")

/-- Whether the first time is the earlier one. -/
def before (a b : Moment) : Check Bool :=
  if a.aware = b.aware then .ok (decide (a.micros < b.micros))
  else .error ⟨.type,"can't compare offset-naive and offset-aware datetimes"⟩

/-- The digest of the members of the given keys, each of which must be there. -/
def memberDigest (value : Payload) (keys : List String) : Check String := do
  let members ← keys.mapM fun k => do return (k,← item value k)
  return host.sha256 (Json.dumps true (.obj members))

mutual
def canonical : Json → String
  | .obj members =>
    let texts := (canonicalMembers members).insertionSort fun a b => textLe a.1 b.1
    "\x7b" ++ ",".intercalate (texts.map fun e => Json.quote true e.1 ++ ":" ++ e.2) ++ "\x7d"
  | .arr items => "[" ++ ",".intercalate (canonicalItems items) ++ "]"
  | v => Json.dumps false v
def canonicalItems : List Json → List String
  | [] => []
  | a :: as => canonical a :: canonicalItems as
def canonicalMembers : List (String × Json) → List (String × String)
  | [] => []
  | (k,a) :: as => (k,canonical a) :: canonicalMembers as
end

/-- The digest of the content, a top-level digest left out. -/
def canonicalDigest (value : Payload) : String :=
  host.sha256 (canonical (.obj (value.entries.filter (·.1 ≠ "digest"))))

/-- A natural number, not a boolean. -/
def natural (v : Json) : Option ℕ :=
  match v with
  | .int n => if 0 ≤ n then some n.toNat else none
  | _ => none

/-- The fields every protocol payload shares. -/
def strictProtocol (payload : Payload) (required : List String) (name : String) : Check Payload := do
  onlyKeys payload required name
  discard <| idField (payload.get "correlationId") "correlationId"
  discard <| idField (payload.get "idempotencyKey") "idempotencyKey"
  discard <| host.timestampField (payload.get "occurredAt") "occurredAt"
  return payload

/-! ### The canary authorization -/

/-- Check the fields of a project that are there. -/
def canaryProject (v : Json) : Check Payload := do
  let project ← object v "canary project"
  onlyKeys project ["projectId","planId","planVersion","leadId"] "canary project"
  project.entries.forM fun e => do discard <| idField e.2 e.1
  return project

def parseCanaryAuthorization (payload : Payload) : Check Payload := do
  let required := ["authorizationId","targetTemporaryCeiling","expectedGlobalCeiling","expectedRevision","projects",
    "workflowId","decisionVersion","decisionId","question","deadline","correlationId","idempotencyKey","occurredAt",
    "digest"]
  let value ← host.strictProtocol payload required "concurrency canary authorization"
  let target ← item value "targetTemporaryCeiling"
  let globalCeiling ← item value "expectedGlobalCeiling"
  let revision ← item value "expectedRevision"
  check (target.alike (.int 2) ∧ globalCeiling.alike (.int 1) ∧ (natural revision).isSome)
    (valueError "canary authorization ceiling is invalid")
  match ← item value "projects" with
  | .arr [first,second] => do
    let first ← canaryProject first
    let second ← canaryProject second
    let p ← item first "projectId"
    let q ← item second "projectId"
    check (p.alike q = false) (valueError "canary projects must differ")
    let authorizationId ← idField (← item value "authorizationId") "authorizationId"
    discard <| idField (← item value "workflowId") "workflowId"
    discard <| idField (← item value "decisionVersion") "decisionVersion"
    let decisionId ← idField (← item value "decisionId") "decisionId"
    let question ← questionField (← item value "question") "question"
    let deadline ← host.timestampField (← item value "deadline") "deadline"
    let digest ← digestField (← item value "digest") "digest"
    let occurredAt ← host.timestampField (← item value "occurredAt") "occurredAt"
    check (decisionId = "roadex:concurrency-canary:" ++ authorizationId ∧
      question = "Approve the exact live concurrency canary " ++ digest)
      (valueError "canary authorization binding is invalid")
    let later ← before (← host.moment occurredAt) (← host.moment deadline)
    check (later = true) (valueError "canary authorization binding is invalid")
    let base ← host.memberDigest value ["authorizationId","targetTemporaryCeiling","expectedGlobalCeiling",
      "expectedRevision","projects","workflowId","decisionVersion","deadline","correlationId","idempotencyKey","occurredAt"]
    check (base = digest) (valueError "canary authorization digest mismatch")
    return value
  | _ => .error (valueError "canary requires two projects")

/-! ### The ceiling authorization -/

def parseConcurrencyCeilingAuthorization (payload : Payload) : Check Payload := do
  let required := ["authorizationId","ceiling","expectedRevision","revision","canaryResultId","projectId","planId",
    "workflowId","decisionVersion","decisionId","question","correlationId","idempotencyKey","occurredAt","digest"]
  let value ← host.strictProtocol payload required "concurrency ceiling authorization"
  ["authorizationId","canaryResultId","projectId","planId","workflowId","decisionVersion","decisionId",
    "correlationId","idempotencyKey"].forM fun k => do discard <| idField (value.get k) k
  let question ← questionField (← item value "question") "question"
  let ceiling ← (natural (value.get "ceiling")).elim (.error (valueError "ceiling is invalid")) pure
  let expected ← (natural (value.get "expectedRevision")).elim (.error (valueError "expectedRevision is invalid")) pure
  let revision ← (natural (value.get "revision")).elim (.error (valueError "revision is invalid")) pure
  check (1 ≤ ceiling ∧ revision = expected + 1) (valueError "concurrency ceiling revision is invalid")
  discard <| host.timestampField (← item value "occurredAt") "occurredAt"
  let digest ← digestField (← item value "digest") "digest"
  let authorizationId ← idField (value.get "authorizationId") "authorizationId"
  check (value.str? "decisionId" = some ("roadex:concurrency:" ++ authorizationId) ∧
    question = "Approve the exact global concurrency operation " ++ digest)
    (valueError "concurrency ceiling decision binding is invalid")
  let base ← host.memberDigest value ["authorizationId","ceiling","expectedRevision","revision","canaryResultId",
    "projectId","planId","workflowId","decisionVersion","correlationId","idempotencyKey","occurredAt"]
  check (base = digest) (valueError "concurrency ceiling digest mismatch")
  return value

/-! ### The canary result -/

def executionIds : List String := ["executionId","authorizationId","projectId","planId","planVersion","roundId","leadId"]

/-- One execution of a canary result, with its two halves. -/
structure CanaryExecution where
  executionId : String
  started : Payload
  completed : Payload

def canaryExecution (authorizationId : Json) (v : Json) : Check CanaryExecution := do
  let execution ← object v "canary execution"
  onlyKeys execution ["executionId","started","completed"] "canary execution"
  let executionId ← idField (execution.get "executionId") "executionId"
  let started ← object (execution.get "started") "canary execution start"
  let completed ← object (execution.get "completed") "canary execution completion"
  onlyKeys started (executionIds ++ ["startedAt","digest"]) "canary execution start"
  onlyKeys completed (executionIds ++ ["settledAt","terminalStatus","resultDigest","evidenceId","evidenceDigest","digest"])
    "canary execution completion"
  executionIds.forM fun k => do
    discard <| idField (started.get k) k
    discard <| idField (completed.get k) k
  check (started.str? "executionId" = some executionId ∧ completed.str? "executionId" = some executionId ∧
    started.str? "roundId" = completed.str? "roundId") (valueError "canary execution binding is invalid")
  check ((started.get "authorizationId").alike authorizationId ∧ (completed.get "authorizationId").alike authorizationId)
    (valueError "canary execution authorization is invalid")
  discard <| host.timestampField (← item started "startedAt") "startedAt"
  discard <| host.timestampField (← item completed "settledAt") "settledAt"
  check ((← item completed "terminalStatus").alike (.str "completed"))
    (valueError "canary execution was not successful")
  ["resultDigest","evidenceDigest","digest"].forM fun k => do discard <| digestField (← item completed k) k
  discard <| idField (← item completed "evidenceId") "evidenceId"
  let startDigest ← digestField (← item started "digest") "digest"
  let startBase ← host.memberDigest started (executionIds ++ ["startedAt"])
  let completedBase ← host.memberDigest completed
    (executionIds ++ ["settledAt","terminalStatus","resultDigest","evidenceId","evidenceDigest"])
  check (startBase = startDigest ∧ completed.str? "digest" = some completedBase)
    (valueError "canary execution digest mismatch")
  return ⟨executionId,started,completed⟩

def parseConcurrencyCanaryResult (payload : Payload) : Check Payload := do
  onlyKeys payload ["resultId","authorizationId","targetCeiling","expectedRevision","executions","concurrencyObserved",
    "occurredAt","digest"] "concurrency canary result"
  let resultId ← idField (payload.get "resultId") "resultId"
  let authorizationId ← idField (payload.get "authorizationId") "authorizationId"
  check (resultId = "canary-result:" ++ authorizationId ∧ (payload.get "targetCeiling").alike (.int 2) ∧
    payload.get "concurrencyObserved" = .bool true) (valueError "canary result identity is invalid")
  check (natural (payload.get "expectedRevision")).isSome (valueError "canary result revision is invalid")
  let occurredAt ← host.timestampField (payload.get "occurredAt") "occurredAt"
  let digest ← digestField (payload.get "digest") "digest"
  match payload.get "executions" with
  | .arr [first,second] => do
    let first ← host.canaryExecution (.str authorizationId) first
    let second ← host.canaryExecution (.str authorizationId) second
    check (first.executionId ≠ second.executionId ∧ first.started.str? "projectId" ≠ second.started.str? "projectId")
      (valueError "canary executions must be distinct projects")
    let firstStart ← host.moment ((first.started.str? "startedAt").getD "")
    let secondStart ← host.moment ((second.started.str? "startedAt").getD "")
    let firstEnd ← host.moment ((first.completed.str? "settledAt").getD "")
    let secondEnd ← host.moment ((second.completed.str? "settledAt").getD "")
    let occurred ← host.moment occurredAt
    let overlap ← (do
      if ← before firstStart secondEnd then before secondStart firstEnd else return false : Check Bool)
    check (overlap = true) (valueError "canary executions do not prove overlap")
    let firstLate ← before occurred firstEnd
    check (firstLate = false) (valueError "canary executions do not prove overlap")
    let secondLate ← before occurred secondEnd
    check (secondLate = false) (valueError "canary executions do not prove overlap")
    let base ← host.memberDigest payload ["resultId","authorizationId","targetCeiling","expectedRevision","executions",
      "concurrencyObserved","occurredAt"]
    check (base = digest) (valueError "canary result digest mismatch")
    return payload
  | _ => .error (valueError "canary result executions are invalid")

/-! ### The external round -/

def externalIds : List String := ["reconciliationId","externalExecutionId","projectId","aTeamId","planId","planVersion",
  "projectLeadId","threadId","startingCheckpoint","terminalCheckpoint","correlationId","idempotencyKey"]

def externalFields : List String := externalIds ++ ["repository","terminalStatus","deliveredScope","remainingWork","blockers",
  "evidenceIds","occurredAt","schemaVersion","digest","explicitGate"]

/-- `GIT_RE`. -/
def isGitHead (s : String) : Bool := (s.length = 40 || s.length = 64) && s.toList.all isHex

/-- A list of at most 64 items that each pass the field check. -/
def arrayField (test : String → Bool) (v : Json) (name : String) : Check Unit :=
  match v with
  | .arr items => do
    check (items.length ≤ 64) (valueError s!"{name} is invalid")
    items.forM fun item => do discard <| textField test item s!"{name} item"
  | _ => .error (valueError s!"{name} is invalid")

def parseExternalRound (payload : Payload) : Check Payload := do
  onlyKeys payload externalFields "external round"
  externalIds.forM fun k => do discard <| idField (payload.get k) k
  let repository ← object (payload.get "repository") "repository"
  onlyKeys repository ["pathIdentity","beforeHead","afterHead","dirtyDigest"] "repository"
  discard <| textField (isText 2048) (repository.get "pathIdentity") "pathIdentity"
  check (isGitHead (repository.get "beforeHead").text ∧ isGitHead (repository.get "afterHead").text)
    (valueError "repository heads are invalid")
  discard <| digestField (repository.get "dirtyDigest") "dirtyDigest"
  let known ← memberOf (payload.get "terminalStatus") ["completed","blocked"]
  check (known = true) (valueError "terminal status is invalid")
  if payload.get "terminalStatus" = .str "blocked" then
    check ((← item payload "blockers").truthy = true) (valueError "terminal status is invalid")
  discard <| questionField (payload.get "deliveredScope") "deliveredScope"
  discard <| questionField (payload.get "remainingWork") "remainingWork"
  arrayField (isText 6000) (payload.get "blockers") "blockers"
  if payload.get "explicitGate" ≠ .null then do
    discard <| questionField (payload.get "explicitGate") "explicitGate"
    check (payload.get "terminalStatus" = .str "blocked") (valueError "explicit gate requires blocked result")
  arrayField isId (payload.get "evidenceIds") "evidenceIds"
  discard <| host.timestampField (payload.get "occurredAt") "occurredAt"
  check (payload.get "schemaVersion" = .str "psychlo.external-round.v1" ∧
    payload.get "digest" = .str (host.canonicalDigest payload)) (valueError "external round digest or schema is invalid")
  return payload

/-! ### Token samples -/

/-- `_common`: the members every record of the bridge's own contracts has. -/
def common (value : Payload) (schema : String) (required allowed : List String) (name : String) : Check Unit := do
  check (∀ k ∈ required, k ∈ value.keys) (valueError s!"{name} is missing required fields")
  onlyKeys value allowed name
  check (value.get "sourceId" = .str "overseer") (valueError s!"{name} source is invalid")
  discard <| idField (value.get "correlationId") "correlationId"
  discard <| idField (value.get "idempotencyKey") "idempotencyKey"
  discard <| host.timestampField (value.get "occurredAt") "occurredAt"
  check (value.get "schemaVersion" = .str schema) (valueError s!"{name} schema version is invalid")

def telemetrySchema : String := "psychlo.telemetry.v1"

def telemetryIds : List String := ["checkpointId","projectId","planId","roundId","threadId","model","featureClass"]

def telemetryRequired : List String := telemetryIds ++ ["sampleKind","cumulative","activeMs","waitingMs","sourceId",
  "correlationId","idempotencyKey","occurredAt","schemaVersion"]

def telemetryKinds : List String := ["baseline","completed-turn","durable-checkpoint","bounded-long-turn","terminal"]

/-- The counters that add up to the total. -/
def addedCounters : List String := ["cachedInput","uncachedInput","output","reasoning"]

def counterNames : List String := addedCounters ++ ["total"]

/-- Run the check on a member that is there. -/
def optionally (value : Payload) (k : String) (test : Json → Check Unit) : Check Unit :=
  match value.get? k with
  | some v => test v
  | none => .ok ()

/-- The cumulative counters: natural numbers whose total is their sum. A missing counter is a key error. -/
def cumulativeCounters (v : Json) : Check Unit := do
  let counters ← object v "cumulative"
  onlyKeys counters counterNames "cumulative"
  check (∀ e ∈ counters.entries, (natural e.2).isSome) (valueError "cumulative counters are invalid")
  let added ← addedCounters.mapM (item counters)
  let total ← item counters "total"
  check ((added.map fun v => v.asInt?.getD 0).sum = total.asInt?.getD 0) (valueError "cumulative total is invalid")

def parseTelemetryCheckpoint (payload : Payload) : Check Payload := do
  host.common payload telemetrySchema telemetryRequired
    (telemetryRequired ++ ["providerSnapshotId","providerCapturedAt","attribution"]) "telemetry checkpoint"
  telemetryIds.forM fun k => do discard <| idField (payload.get k) k
  let known ← memberOf (payload.get "sampleKind") telemetryKinds
  check (known = true) (valueError "sampleKind is invalid")
  cumulativeCounters (payload.get "cumulative")
  ["activeMs","waitingMs"].forM fun k => check (natural (payload.get k)).isSome (valueError s!"{k} is invalid")
  optionally payload "providerSnapshotId" fun v => do discard <| idField v "providerSnapshotId"
  optionally payload "providerCapturedAt" fun v => do discard <| host.timestampField v "providerCapturedAt"
  optionally payload "attribution" fun v => do
    let known ← memberOf v ["isolated","shared","censored","unknown"]
    check (known = true) (valueError "attribution is invalid")
  return payload

/-! ### Observations -/

def learningSchema : String := "psychlo.learning.v1"

def learningRequired : List String := ["id","featureProfile","outcome","sourceId","correlationId","idempotencyKey","occurredAt",
  "schemaVersion"]

/-- The choices of the profile's members. -/
def profileChoices : List (String × List String) := [("taskClass",featureClasses),("model",roundModels),
  ("attribution",["isolated","shared","censored","unknown"]),("sampleKind",telemetryKinds),
  ("projectClass",["frontend","backend","fullstack","library","service","cli","unknown"]),
  ("dependencyClass",["none","direct","transitive","unknown"]),
  ("executionPattern",["single-round","multi-round","bounded","unknown"]),("similarityClass",["exact","near","none","unknown"])]

def profileGates : List String := ["buildGate","testGate","browserGate","securityGate","deploymentGate"]

def usageNames : List String := ["usage","actualUsage","remainingUsage"]

/-- `observation-` and a number or 32 hexadecimal digits. -/
def isObservationId (s : String) : Bool :=
  let rest := s.toList.drop 12
  s.toList.take 12 = "observation-".toList &&
    (rest ≠ [] && rest.all Char.isDigit || rest.length = 32 && rest.all isHex)

/-- A finite number that is not negative. An integer beyond the doubles has no finite value. -/
def isUsage : Json → Bool
  | .int n => 0 ≤ n && n < 2 ^ 1024 - 2 ^ 970
  | .float t => t ∉ ["nan","inf","-inf"] && (t.toList.head? ≠ some '-' || t = "-0.0")
  | _ => false

/-- The value is one of the choices. -/
def choiceOf (choices : List String) (name : String) (v : Json) : Check Unit :=
  check (choices.any fun c => v = .str c) (valueError s!"{name} is invalid")

/-- The value, by its hash, is one of the choices. -/
def memberField (choices : List String) (name : String) (v : Json) : Check Unit := do
  let known ← memberOf v choices
  check (known = true) (valueError s!"{name} is invalid")

def learningProfile (profile : Payload) : Check Unit := do
  profileChoices.forM fun c => optionally profile c.1 (choiceOf c.2 c.1)
  optionally profile "expectedComponents" fun v =>
    check (∃ n, natural v = some n ∧ n ≤ 100) (valueError "expectedComponents is invalid")
  profileGates.forM fun k => optionally profile k fun v =>
    check (v = .bool true ∨ v = .bool false) (valueError s!"{k} is invalid")

def learningOutcome (outcome : Payload) : Check Unit := do
  optionally outcome "status" (memberField ["completed","blocked"] "status")
  optionally outcome "observedAt" fun v => do discard <| host.timestampField v "observedAt"
  usageNames.forM fun k => optionally outcome k fun v => check (isUsage v = true) (valueError s!"{k} is invalid")
  ["activeMs","waitingMs"].forM fun k => optionally outcome k fun v =>
    check (natural v).isSome (valueError s!"{k} is invalid")
  optionally outcome "policyVersion" (choiceOf ["psychlo-estimate-v1"] "policyVersion")
  optionally outcome "censored" (memberField ["true","false"] "censored")

def parseLearningObservation (payload : Payload) : Check Payload := do
  host.common payload learningSchema learningRequired learningRequired "learning observation"
  check ((payload.str? "id").any isObservationId) (valueError "learning observation id is invalid")
  let profile ← object (payload.get "featureProfile") "featureProfile"
  let outcome ← object (payload.get "outcome") "outcome"
  onlyKeys profile (profileChoices.map (·.1) ++ ["expectedComponents"] ++ profileGates) "featureProfile"
  onlyKeys outcome (usageNames ++ ["activeMs","waitingMs","status","observedAt","policyVersion","censored"]) "outcome"
  learningProfile profile
  host.learningOutcome outcome
  return payload

/-- The value is zero as a double. -/
def isZero : Json → Bool
  | .int n => n = 0
  | .float t => t = "0.0" || t = "-0.0"
  | _ => false

/-- A number by the bits of its double. -/
def normalizeNumber (v : Json) : Check Json := do
  check (v ∉ [.float "nan",.float "inf",.float "-inf"]) (valueError "learning observation numeric value is not finite")
  let bits ← if isZero v then .ok "0000000000000000"
    else found (host.doubleBits v) ⟨.overflow,"int too large to convert to float"⟩
  return .obj [("$f64",.str bits)]

mutual
/-- `normalize`; the keys are sorted afterwards. -/
def normalize : Json → Check Json
  | .bool b => .ok (.bool b)
  | .str s => .ok (.str s)
  | .int n => host.normalizeNumber (.int n)
  | .float t => host.normalizeNumber (.float t)
  | .obj members => do return .obj (← normalizeMembers members)
  | _ => .error (valueError "learning observation digest value is invalid")
def normalizeMembers : List (String × Json) → Check (List (String × Json))
  | [] => .ok []
  | (k,v) :: rest => do
    let v ← normalize v
    return (k,v) :: (← normalizeMembers rest)
end

/-- What identifies an observation. -/
def learningContent (value : Payload) : Json :=
  .obj [("id",value.get "id"),("featureProfile",value.get "featureProfile"),("outcome",value.get "outcome")]

def learningObservationDigest (value : Payload) : Check String := do
  let content ← host.normalize (learningContent value)
  return host.sha256 (Json.dumps false content.sortKeys)

def learningObservationLegacySelectedDigest (value : Payload) : String := host.sha256 (canonical (learningContent value))

/-! ### The review of a supervisor -/

def reviewIds : List String := ["projectId","leadId","supervisorLeadId","linkId","version","reviewId","resultId",
  "coordinationTeamId","supervisorMemberId","correlationId","idempotencyKey","evidenceId"]

def reviewParticipant (v : Json) : Check Unit := do
  let participant ← object v "supervisor participant result"
  onlyKeys participant ["resultId","digest"] "supervisor participant result"
  discard <| idField (← item participant "resultId") "participant resultId"
  discard <| digestField (← item participant "digest") "participant digest"

/-- A nonempty list of nonblank texts. -/
def isEvidence (v : Json) : Bool :=
  match v with
  | .arr (first :: rest) => (first :: rest).all fun item => item.asStr?.any fun s => !isBlank s
  | _ => false

def parseCrossProjectSupervisorReview (payload : Payload) : Check Payload := do
  let required := reviewIds ++ ["decision","participantResults","accepted","evidence","digest","occurredAt"]
  let value ← host.strictProtocol payload required "cross-project supervisor review"
  check (∀ k ∈ required, k ∈ value.keys) (valueError "cross-project supervisor review is missing required fields")
  reviewIds.forM fun k => do discard <| idField (value.get k) k
  check (value.get "decision" = .str (if (value.get "accepted").truthy then "accepted" else "rejected"))
    (valueError "supervisor review decision is invalid")
  check (value.get "accepted" = .bool true ∨ value.get "accepted" = .bool false)
    (valueError "supervisor review acceptance is invalid")
  match value.get "participantResults" with
  | .arr (first :: rest) => do
    (first :: rest).forM reviewParticipant
    check (isEvidence (value.get "evidence") = true) (valueError "supervisor review evidence is required")
    discard <| host.timestampField (value.get "occurredAt") "occurredAt"
    let digest ← digestField (value.get "digest") "digest"
    check (host.canonicalDigest value = digest) (valueError "supervisor review digest mismatch")
    return value
  | _ => .error (valueError "supervisor review participants are required")

/-! ### The coordination work request -/

def crossProjectWorkRequestId (linkId version projectId : String) : String :=
  "cross-project-work:" ++ host.sha256 (Json.dumps false
    (.obj [("linkId",.str linkId),("version",.str version),("projectId",.str projectId)]))

def crossProjectWorkRequestDigest (payload : Payload) : String :=
  host.sha256 (Json.dumps false (.obj ([("coordinationBindingId","coordinationBindingId"),("linkId","linkId"),
    ("version","version"),("projectId","projectId"),("leadId","leadId"),("requestId","id"),
    ("requiredRequestIds","requiredRequestIds"),("supervisorLeadId","supervisorLeadId"),("scope","scope"),
    ("evidenceIds","evidenceIds"),("expectedResultDigest","expectedResultDigest")].map fun f => (f.1,payload.get f.2))))

def workRequestTexts : List String := ["schemaVersion","id","linkId","version","projectId","leadId",
  "coordinationBindingId","supervisorLeadId","scope","expectedResultDigest","requestDigest"]

/-- The items of a list of texts, each of which passes the test. -/
def textList (test : String → Bool) (v : Json) : Option (List String) :=
  match v with
  | .arr items => items.mapM fun item => item.asStr?.bind fun s => if test s then some s else none
  | _ => none

/-- The checks `receive_coordination_work_request` makes of the payload itself: the
required requests. -/
def requireWorkRequest (value : Payload) : Check (List String) := do
  let invalid := valueError "coordination work request is invalid"
  check (value.hasKeys (workRequestTexts ++ ["evidenceIds","requiredRequestIds"]) ∧
    value.get "schemaVersion" = .str "psychlo.event.v1" ∧
    ∀ k ∈ workRequestTexts, (value.str? k).any (fun s => !isBlank s) = true) invalid
  check ((∀ k ∈ ["id","linkId","version","projectId","leadId","coordinationBindingId","supervisorLeadId"],
      (value.get k).text.length ≤ 256) ∧ (value.get "scope").text.length ≤ 2000 ∧
    isDigest (value.get "expectedResultDigest").text = true ∧ isDigest (value.get "requestDigest").text = true) invalid
  let evidence ← found (textList (fun s => !isBlank s && s.length ≤ 256) (value.get "evidenceIds"))
    (valueError "coordination work evidence is invalid")
  check (0 < evidence.length ∧ evidence.length ≤ 32) (valueError "coordination work evidence is invalid")
  let requestIds ← found (textList (fun s => "cross-project-work:".toList.isPrefixOf s.toList && s.length ≤ 256)
    (value.get "requiredRequestIds")) (valueError "coordination request set is invalid")
  check (1 < requestIds.length ∧ requestIds.length ≤ 64 ∧ requestIds.Nodup) (valueError "coordination request set is invalid")
  let id := (value.get "id").text
  check (id = host.crossProjectWorkRequestId (value.get "linkId").text (value.get "version").text (value.get "projectId").text ∧
    id ∈ requestIds ∧ (value.get "coordinationBindingId").text ≠ (value.get "linkId").text)
    (valueError "coordination binding identity is invalid")
  check ((value.get "requestDigest").text = host.crossProjectWorkRequestDigest value)
    (valueError "coordination request digest is invalid")
  return requestIds

end Host
end Overseer.Psychlo
