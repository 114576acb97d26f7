import Overseer.Library.Runs
import Overseer.Library.Json
import Overseer.Library.Text
import Mathlib.Data.List.Sort
import Mathlib.Data.List.Lex
import Mathlib.Data.Char

/-! # The remote testing control file

`remote_testing.py`: accounts, leases and test tokens live in one JSON file. Every operation
reads the whole file, works on its copy and writes the whole copy back. Times are microseconds.
-/
namespace Overseer.Remote
open Overseer.Library

structure Account where
  accountId : String
  agentKind : String
  agentId : String
  enabled : Bool
  allowedProjects : List String
  allowedServicePaths : List String
  allowedGatewayOrigins : List String
  gatewayPrincipal : String
  autoDisableOnScopeViolation : Bool := true
  deriving DecidableEq

inductive LeaseStatus where
  | active | expired
  deriving DecidableEq

structure Lease where
  leaseId : String
  profileId : String
  project : String
  jobTypes : List String
  jobIds : List String := []
  expiresAt : ℤ
  status : LeaseStatus := .active
  deriving DecidableEq

/-- The entries of a mutation scope that are read. -/
structure MutationScope where
  allowedMethods : Option (List String) := none
  methods : Option (List String) := none
  allowedRoutes : Option (List String) := none
  routes : Option (List String) := none
  servicePaths : List String := []
  deriving DecidableEq

inductive TokenStatus where
  | active | revoked | expired
  deriving DecidableEq

def TokenStatus.value : TokenStatus → String
  | .active => "active"
  | .revoked => "revoked"
  | .expired => "expired"

structure TestToken where
  tokenId : String
  tokenHash : String
  accountId : String
  leaseId : Option String
  jobId : Option String
  project : String
  threadId : Option String
  servicePaths : List String
  gatewayOrigins : List String
  allowedMethods : List String
  allowedRoutes : List String
  mutates : Bool
  mutationScope : Option MutationScope
  status : TokenStatus := .active
  expiresAt : ℤ
  deriving DecidableEq

/-- The control file; one that does not exist reads as the empty one. -/
structure ControlState where
  profiles : List String := []
  leases : Dict Lease := .empty
  accounts : Dict Account := .empty
  tokens : Dict TestToken := .empty
  deriving DecidableEq

inductive RemoteError where
  | value (message : String)
  | overflow
  deriving DecidableEq

/-- The digest, the printed time, and Unicode's case and word characters. -/
structure RemoteHost where
  sha256 : String → String
  strftime : ℤ → String
  upper : String → String
  lower : String → String
  isWord : Char → Bool

inductive RemoteQuery where
  | clock | drawn

abbrev RemoteAnswer : RemoteQuery → Type
  | .clock => ℤ
  | .drawn => String × String

/-- What a write of the file works from: the copy last read or written, the account it records
and the token it issues. -/
structure Held where
  copy : Option ControlState := none
  recording : Option String := none
  issuing : Option String := none

instance : Inhabited Held := ⟨{}⟩

abbrev RemoteProg := Prog ControlState Held RemoteAnswer RemoteError

def clock : RemoteProg ℤ := Prog.ask RemoteQuery.clock

def liftExcept {α : Type} : Except RemoteError α → RemoteProg α
  | .ok a => pure a
  | .error e => raise e

@[simp] theorem liftExcept_ok {α : Type} (a : α) : liftExcept (.ok a) = (pure a : RemoteProg α) := rfl

@[simp] theorem liftExcept_error {α : Type} (e : RemoteError) : liftExcept (.error e) = (raise e : RemoteProg α) := rfl

-- sealed, so that no unifier runs the checks of an operation to see whether they pass
attribute [irreducible] liftExcept

def check (c : Prop) [Decidable c] (message : String) : Except RemoteError Unit := if c then .ok () else .error (.value message)

/-! ### Constants -/

def defaultProfileId : String := "remote-testing.tank-msi"
def testTokenPrefix : String := "qrt_"
def maxTestTokenTtlMinutes : ℤ := 120

def supportedAgentKinds : List String := ["windows","android","ios","macos","linux","browser","gateway"]

def supportedJobTypes : List String := ["ping","overseer.http_status","overseer.auth_panel_smoke","overseer.admin_approve_smoke",
  "overseer.full_ui_regression","overseer.performance_regression","protected_gateway.request_sequence",
  "tank.local_facility_request","roadex.authenticated_session_prompt","roadex.project_creation_flow"]

def scopedTokenRequiredJobTypes : List String := ["roadex.authenticated_session_prompt"]

def sensitiveKeyParts : List String := ["token","cookie","secret","password","api_key","apikey","bearer","authorization",
  "local_storage","storage_state"]

def readMethods : List String := ["GET","HEAD","OPTIONS"]

/-- `datetime.max`. -/
def latestTime : ℤ := 253402300799999999

/-! ### The file -/

def withDefaultProfile (state : ControlState) : ControlState :=
  if defaultProfileId ∈ state.profiles then state else { state with profiles := state.profiles ++ [defaultProfileId] }

def loadControlState : RemoteProg ControlState := atomically (Tx.read withDefaultProfile)

def saveControlState (held : Held) (state : ControlState) : RemoteProg Unit := Prog.transaction held (Tx.write fun _ => state)

/-! ### Texts -/

def requiredId (value field : String) : Except RemoteError String :=
  if strip value = "" then .error (.value (field ++ " is required")) else .ok (strip value)

/-- Each run of other characters becomes one dash. -/
def dashed (inRun : Bool) : List Char → List Char
  | [] => []
  | c :: rest =>
    if c.isAlphanum ∨ c = '_' ∨ c = '.' ∨ c = '-' then c :: dashed false rest
    else if inRun then dashed true rest else '-' :: dashed true rest

def safeId (value : String) : String :=
  let cleaned := (trim (· = '-') (String.ofList (dashed false (strip value).toList))).map Char.toLower
  if cleaned = "" then "remote-test" else cleaned

def normalizedScopeList (values : List String) (allowWildcard : Bool) : Except RemoteError (List String) := do
  let items := (values.map strip).filter (· ≠ "")
  check (allowWildcard = true ∨ "*" ∉ items) "wildcard scope is not allowed here"
  check (items ≠ []) "scope list cannot be empty"
  pure items.eraseDups

def normalizedServicePaths (values : List String) (allowWildcard : Bool) : Except RemoteError (List String) := do
  let normalized ← normalizedScopeList values allowWildcard
  normalized.forM fun path => if path = "*" then pure () else do
    check (hasPrefix path "/" = true) "service paths must start with /"
    check (hasPart path "//" = false) "service paths must not contain empty path segments"
  pure normalized

def normalizedRoutes (values : List String) : Except RemoteError (List String) := do
  let normalized ← normalizedScopeList values true
  normalized.forM fun path => if path = "*" then pure () else check (hasPrefix path "/" = true) "routes must start with /"
  pure normalized

/-! ### Scopes -/

def pathMatchesServiceScope (rawPath : String) (servicePaths : List String) : Bool :=
  "*" ∈ servicePaths || servicePaths.any fun path => rawPath = path || hasPrefix rawPath (path ++ "/")

/-- A part of a route: one character, a name that stands for a path segment, or what matches nothing. -/
inductive RoutePart where
  | char (c : Char)
  | segment
  | never

/-- `:[A-Za-z][A-Za-z0-9_]*` becomes a segment; `inName` while such a name goes on. -/
def routeParts (inName : Bool) : List Char → List RoutePart
  | [] => []
  | [c] => if inName = true ∧ (c.isAlphanum ∨ c = '_') then [] else [.char c]
  | c :: d :: rest =>
    if inName = true ∧ (c.isAlphanum ∨ c = '_') then routeParts true (d :: rest)
    else if c = '\\' ∧ d = ':' then
      -- `replace` takes away the second of two backslashes, and the first escapes the colon or the `[` of its segment
      if rest.head?.any Char.isAlpha then [.never] else .char ':' :: routeParts false rest
    else if c = ':' ∧ d.isAlpha = true then .segment :: routeParts true (d :: rest)
    else .char c :: routeParts false (d :: rest)

/-- `re.fullmatch`; a segment matches any text but a slash, and not the empty one. -/
def matchesParts : List RoutePart → List Char → Bool
  | [], [] => true
  | [], _ :: _ => false
  | _ :: _, [] => false
  | .char c :: parts, d :: rest => c = d && matchesParts parts rest
  | .never :: _, _ :: _ => false
  | .segment :: parts, d :: rest => d ≠ '/' && (matchesParts parts rest || matchesParts (.segment :: parts) rest)

def routeAllowed (normalizedPath : String) (allowedRoutes : List String) : Bool :=
  "*" ∈ allowedRoutes || allowedRoutes.any fun route =>
    ("/*".toList.isSuffixOf route.toList && hasPrefix normalizedPath (String.ofList route.toList.dropLast)) ||
    (':' ∈ route.toList && matchesParts (routeParts false route.toList) normalizedPath.toList) || normalizedPath = route

def MutationScope.methodList (scope : MutationScope) : List String := scope.allowedMethods.getD (scope.methods.getD [])
def MutationScope.routeList (scope : MutationScope) : List String := scope.allowedRoutes.getD (scope.routes.getD [])

def mutationScopeAllowed (host : RemoteHost) (grant : TestToken) (method rawPath normalizedPath : String) :
    Except RemoteError Bool := do
  let scope := grant.mutationScope.getD {}
  let methods ← normalizedScopeList scope.methodList false
  let routes ← normalizedRoutes scope.routeList
  let servicePaths ← if scope.servicePaths = [] then pure [] else normalizedServicePaths scope.servicePaths false
  pure (host.upper method ∈ methods && (routes = [] || routeAllowed normalizedPath routes) &&
    (servicePaths = [] || pathMatchesServiceScope rawPath servicePaths))

def leaseStatus (lease : Lease) (now : ℤ) : LeaseStatus := if lease.expiresAt ≤ now then .expired else lease.status

def expiry (now ttlMinutes : ℤ) : Except RemoteError ℤ :=
  if now + ttlMinutes * 60000000 ≤ latestTime then .ok (now + ttlMinutes * 60000000) else .error .overflow

/-! ### What an operation answers -/

inductive Reply where
  | accountRecorded (accountId : String)
  | profileRecorded (profileId : String)
  | leased (leaseId : String)
  | enqueued (jobId : String)
  | issued (tokenId : String)
  | revoked (tokenId : String)
  | unrelated
  | denied (accountId tokenId : Option String) (reason : String)
  | authorized (accountId tokenId project : String) (threadId : Option String) (mutates : Bool) (gatewayPrincipal : String)
  deriving DecidableEq

/-! ### Accounts -/

structure AccountCall where
  accountId : String := "tank-msi-gateway-test"
  agentKind : String := "windows"
  agentId : String := "tank-msi"
  allowedProjects : List String := ["*"]
  allowedServicePaths : List String := ["*"]
  allowedGatewayOrigins : List String := ["*"]
  gatewayPrincipal : String := "owner"
  enabled : Bool := true

def AccountCall.account (call : AccountCall) : Except RemoteError Account := do
  let accountId ← requiredId call.accountId "account_id"
  let agentId ← requiredId call.agentId "agent_id"
  let allowedProjects ← normalizedScopeList call.allowedProjects true
  let allowedServicePaths ← normalizedServicePaths call.allowedServicePaths true
  let allowedGatewayOrigins ← normalizedScopeList call.allowedGatewayOrigins true
  let gatewayPrincipal ← requiredId call.gatewayPrincipal "gateway_principal"
  pure ⟨accountId,call.agentKind,agentId,call.enabled,allowedProjects,allowedServicePaths,allowedGatewayOrigins,gatewayPrincipal,true⟩

def ControlState.setAccount (state : ControlState) (account : Account) : ControlState :=
  { state with accounts := state.accounts.set account.accountId account }

/-- `record_remote_testing_account_status`; the file is written before and after the event is
recorded. -/
def recordRemoteTestingAccountStatus (call : AccountCall) : RemoteProg Reply := do
  require (call.agentKind ∈ supportedAgentKinds) (.value "unsupported agent_kind")
  let state ← loadControlState
  let account ← liftExcept call.account
  let recorded := state.setAccount account
  saveControlState { copy := some state, recording := some account.accountId } recorded
  saveControlState { copy := some recorded } recorded
  pure (.accountRecorded account.accountId)

def recordRemoteTestingProfileStatus (profileId : String) : RemoteProg Reply := do
  let state ← loadControlState
  let profileId ← liftExcept (requiredId profileId "profile_id")
  let profiles := if profileId ∈ state.profiles then state.profiles else state.profiles ++ [profileId]
  saveControlState { copy := some state } { state with profiles := profiles }
  pure (.profileRecorded profileId)

/-! ### Leases and jobs -/

structure LeaseCall where
  leaseId : String
  project : String
  jobTypes : List String := ["ping"]
  ttlMinutes : ℤ := 120
  profileId : String := defaultProfileId

def LeaseCall.lease (call : LeaseCall) (state : ControlState) (now : ℤ) : Except RemoteError Lease := do
  check (call.profileId ∈ state.profiles) "profile_id is not registered"
  let leaseId ← requiredId call.leaseId "lease_id"
  let expiresAt ← expiry now call.ttlMinutes
  pure { leaseId := leaseId, profileId := call.profileId, project := call.project, jobTypes := call.jobTypes, expiresAt := expiresAt }

def ControlState.setLease (state : ControlState) (lease : Lease) : ControlState :=
  { state with leases := state.leases.set lease.leaseId lease }

def requestRemoteTestingLeaseStatus (call : LeaseCall) : RemoteProg Reply := do
  require (0 < call.ttlMinutes) (.value "ttl_minutes must be positive")
  require (∀ item ∈ call.jobTypes, item ∈ supportedJobTypes) (.value ("unsupported job type(s): " ++
    ", ".intercalate (call.jobTypes.filter (· ∉ supportedJobTypes))))
  let state ← loadControlState
  let now ← clock
  let lease ← liftExcept (call.lease state now)
  saveControlState { copy := some state } (state.setLease lease)
  pure (.leased lease.leaseId)

/-- `\bBearer\s+\S+` at the start of a text. -/
def startsBearer (text : List Char) : Bool :=
  "Bearer".toList.isPrefixOf text && (text.drop 6).head?.any isSpace && (text.drop 6).dropWhile isSpace ≠ []

/-- `sk-[A-Za-z0-9_-]+` at the start of a text. -/
def startsKey (text : List Char) : Bool :=
  "sk-".toList.isPrefixOf text && (text.drop 3).head?.any fun c => c.isAlphanum || c = '_' || c = '-'

def looksSecret (host : RemoteHost) (previous : Option Char) : List Char → Bool
  | [] => false
  | c :: rest => (previous.all (fun p => !host.isWord p) && startsBearer (c :: rest)) || startsKey (c :: rest) ||
      looksSecret host (some c) rest

mutual
def assertRedactedSafe (host : RemoteHost) (path : String) : Json → Except RemoteError Unit
  | .obj members => assertMembersSafe host path members
  | .arr items => assertItemsSafe host path 0 items
  | .str s => check (looksSecret host none s.toList = false) (path ++ " appears to contain secret material and cannot be queued")
  | .null | .bool _ | .int _ | .float _ => .ok ()
def assertItemsSafe (host : RemoteHost) (path : String) (index : ℕ) : List Json → Except RemoteError Unit
  | [] => .ok ()
  | item :: rest => do
    assertRedactedSafe host (path ++ "[" ++ toString index ++ "]") item
    assertItemsSafe host path (index + 1) rest
def assertMembersSafe (host : RemoteHost) (path : String) : List (String × Json) → Except RemoteError Unit
  | [] => .ok ()
  | (key,item) :: rest => do
    let lowered := host.lower key
    check (lowered = "mutation_authorization" ∨ sensitiveKeyParts.all (fun part => !hasPart lowered part) = true)
      (path ++ "." ++ key ++ " may contain secret material and cannot be queued")
    assertRedactedSafe host (path ++ "." ++ key) item
    assertMembersSafe host path rest
end

/-- Python's truth of a value. -/
def truthy : Json → Bool
  | .null => false
  | .bool b => b
  | .int n => n ≠ 0
  | .float text => text ≠ "0.0" && text ≠ "-0.0"
  | .str s => s ≠ ""
  | .arr items => items ≠ []
  | .obj members => members ≠ []

def fixtureAllowsMutation (params : Dict Json) : Bool :=
  (params.get? "fixture_id").any truthy || (params.get? "disposable_fixture").any truthy ||
    (params.get? "allow_mutation" = some (.bool true) && params.get? "require_explicit_user_approval" = some (.bool true))

structure JobCall where
  leaseId : String
  jobType : String
  project : String := "Overseer"
  params : Dict Json := .empty
  baseUrl : String := "http://127.0.0.1:8766"
  gatewayPath : String := "/Overseer"
  authTokenId : Option String := none
  mutates : Bool := false

/-- An argument that is given and not empty. -/
def given (value : Option String) : Option String := value.filter (· ≠ "")

/-- The checks on the token a job is to run under. -/
def JobCall.checkToken (call : JobCall) (state : ControlState) (tokenId : String) : Except RemoteError Unit :=
  match state.tokens.get? tokenId with
  | none => .error (.value "auth_token_id is not active")
  | some grant => do
    check (grant.status = .active) "auth_token_id is not active"
    check ((given grant.leaseId).all (· = call.leaseId) = true) "auth_token_id is not scoped to this lease"
    check (grant.project = call.project) "auth_token_id is not scoped to this project"
    check (pathMatchesServiceScope call.gatewayPath grant.servicePaths = true) "auth_token_id is not scoped to this gateway path"
    check (call.baseUrl ∈ grant.gatewayOrigins ∨ "*" ∈ grant.gatewayOrigins) "auth_token_id is not scoped to this gateway origin"
    check (call.mutates = true → grant.mutates = true) "auth_token_id does not authorize mutation"

def JobCall.checkLease (call : JobCall) (state : ControlState) (now : ℤ) : Except RemoteError Lease :=
  match state.leases.get? call.leaseId with
  | none => .error (.value "lease_id is not active or registered")
  | some lease => do
    check (leaseStatus lease now = .active) "lease is not active"
    check (call.jobType ∈ lease.jobTypes) "job_type is not allowed by lease"
    check (call.mutates = true → fixtureAllowsMutation call.params = true)
      "mutating remote test jobs require an explicit disposable fixture"
    check (call.jobType ∈ scopedTokenRequiredJobTypes → (given call.authTokenId).isSome = true)
      (call.jobType ++ " requires a Quark-issued auth_token_id")
    match given call.authTokenId with
    | none => pure lease
    | some tokenId => do
      call.checkToken state tokenId
      pure lease

def JobCall.jobId (host : RemoteHost) (call : JobCall) (createdAt : ℤ) : String :=
  "job-" ++ host.strftime createdAt ++ "-" ++ safeId call.jobType ++ "-" ++
    String.ofList ((safeId (call.leaseId ++ "-" ++ call.jobType)).toList.take 40)

/-- The lease is filed under the id the call gave. -/
def enqueueRemoteTestJobStatus (host : RemoteHost) (call : JobCall) : RemoteProg Reply := do
  require (call.jobType ∈ supportedJobTypes) (.value "unsupported job_type")
  liftExcept (assertRedactedSafe host "params" (.obj call.params.entries))
  let state ← loadControlState
  let now ← clock
  let lease ← liftExcept (call.checkLease state now)
  let createdAt ← clock
  let jobId := call.jobId host createdAt
  saveControlState { copy := some state }
    { state with leases := state.leases.set call.leaseId { lease with jobIds := lease.jobIds ++ [jobId] } }
  pure (.enqueued jobId)

/-! ### Tokens -/

structure TokenCall where
  accountId : String := "tank-msi-gateway-test"
  leaseId : Option String := none
  jobId : Option String := none
  project : String := "Overseer"
  threadId : Option String := none
  servicePaths : List String := ["/Overseer"]
  gatewayOrigins : List String := ["https://roadex.home.arpa:9443"]
  allowedMethods : List String := readMethods
  allowedRoutes : List String := ["*"]
  ttlMinutes : ℤ := 30
  mutates : Bool := false
  mutationScope : Option MutationScope := none

def TokenCall.ttl (call : TokenCall) : ℤ := min call.ttlMinutes maxTestTokenTtlMinutes
def TokenCall.methods (host : RemoteHost) (call : TokenCall) : List String := call.allowedMethods.map host.upper

def TokenCall.checkAccount (call : TokenCall) (state : ControlState) : Except RemoteError Unit :=
  check ((state.accounts.get? call.accountId).any (·.enabled) = true) "remote testing account is disabled"

def TokenCall.checkLease (call : TokenCall) (state : ControlState) (now : ℤ) : Except RemoteError Unit :=
  match given call.leaseId with
  | none => .ok ()
  | some leaseId => do
    match state.leases.get? leaseId with
    | none => .error (.value "lease_id is not active")
    | some lease => do
      check (leaseStatus lease now = .active) "lease_id is not active"
      check ((given call.jobId).all (· ∈ lease.jobIds) = true) "job_id is not registered on the lease"

def TokenCall.checkMutation (host : RemoteHost) (call : TokenCall) : Except RemoteError Unit := do
  if call.mutates then
    match call.mutationScope with
    | none => .error (.value "mutating test tokens require an exact mutation_scope")
    | some scope => do
      let _ ← normalizedScopeList scope.methodList false
      let _ ← normalizedRoutes scope.routeList
      pure ()
  else check (∀ method ∈ call.methods host, method ∈ readMethods) "read-only test tokens may only allow GET, HEAD, or OPTIONS"

/-- The grant that an issue writes; `drawn` is the random part of its id and of the token. -/
def TokenCall.grant (host : RemoteHost) (call : TokenCall) (namedAt now : ℤ) (drawn : String × String) :
    Except RemoteError TestToken := do
  let expiresAt ← expiry now call.ttl
  let servicePaths ← normalizedServicePaths call.servicePaths true
  let gatewayOrigins ← normalizedScopeList call.gatewayOrigins true
  let allowedRoutes ← normalizedRoutes call.allowedRoutes
  pure { tokenId := "rtt." ++ safeId call.accountId ++ "." ++ host.strftime namedAt ++ "." ++ drawn.1,
         tokenHash := "sha256:" ++ host.sha256 (testTokenPrefix ++ drawn.2), accountId := call.accountId,
         leaseId := call.leaseId, jobId := call.jobId, project := call.project, threadId := call.threadId,
         servicePaths := servicePaths, gatewayOrigins := gatewayOrigins, allowedMethods := call.methods host,
         allowedRoutes := allowedRoutes, mutates := call.mutates, mutationScope := call.mutationScope, expiresAt := expiresAt }

def ControlState.setToken (state : ControlState) (token : TestToken) : ControlState :=
  { state with tokens := state.tokens.set token.tokenId token }

/-- An account that is not registered is recorded first, with the defaults. -/
def accountRegistered (accountId : String) : RemoteProg ControlState := do
  let state ← loadControlState
  if (state.accounts.get? accountId).isSome then pure state else do
    let _recorded ← recordRemoteTestingAccountStatus { accountId := accountId }
    loadControlState

/-- The rest of an issue, from the copy of the file it works on. -/
def issueFrom (host : RemoteHost) (call : TokenCall) (state : ControlState) : RemoteProg Reply := do
  liftExcept (call.checkAccount state)
  let checkedAt ← clock
  liftExcept (call.checkLease state checkedAt)
  liftExcept (call.checkMutation host)
  let namedAt ← clock
  let drawn ← Prog.ask RemoteQuery.drawn
  let now ← clock
  let grant ← liftExcept (call.grant host namedAt now drawn)
  saveControlState { copy := some state, issuing := some grant.tokenId } (state.setToken grant)
  pure (.issued grant.tokenId)

def issueRemoteTestingTokenStatus (host : RemoteHost) (call : TokenCall) : RemoteProg Reply := do
  require (0 < call.ttlMinutes) (.value "ttl_minutes must be positive")
  let state ← accountRegistered call.accountId
  issueFrom host call state

def revokeRemoteTestingTokenStatus (tokenId : String) : RemoteProg Reply := do
  let state ← loadControlState
  let grant ← orRaise (state.tokens.get? tokenId) (.value "token_id is not registered")
  saveControlState { copy := some state } { state with tokens := state.tokens.set tokenId { grant with status := .revoked } }
  pure (.revoked tokenId)

/-! ### Validating -/

def scopeViolations : List String := ["service_path_not_allowed","route_not_allowed","method_not_allowed","mutation_not_allowed",
  "mutation_scope_not_allowed"]

/-- `_auth_denied`: a scope violation disables the account. -/
def authDenied (state : ControlState) (accountId tokenId : Option String) (reason : String) : Reply × ControlState :=
  (.denied accountId tokenId reason,
    match given accountId with
    | none => state
    | some id =>
      match state.accounts.get? id with
      | none => state
      | some account =>
        if reason ∈ scopeViolations ∧ account.autoDisableOnScopeViolation = true then
          { state with accounts := state.accounts.set id { account with enabled := false } }
        else state)

/-- A request as the gateway passes it on. -/
structure Request where
  method : String
  rawPath : String
  normalizedPath : String

/-- The first grant with a digest; the file is written with its keys sorted. -/
def grantWithHash (state : ControlState) (tokenHash : String) : Option TestToken :=
  (state.tokens.keys.insertionSort fun a b => a.toList ≤ b.toList).findSome? fun id =>
    (state.tokens.get? id).filter fun grant => grant.tokenHash = tokenHash

/-- The scopes of a grant, in the order they are checked; the reason for a denial. -/
def scopeViolation (host : RemoteHost) (grant : TestToken) (request : Request) : Except RemoteError (Option String) :=
  let method := host.upper request.method
  if method ∉ grant.allowedMethods then pure (some "method_not_allowed")
  else if method ∉ readMethods ∧ grant.mutates = false then pure (some "mutation_not_allowed")
  else if pathMatchesServiceScope request.rawPath grant.servicePaths = false then pure (some "service_path_not_allowed")
  else if routeAllowed request.normalizedPath grant.allowedRoutes = false then pure (some "route_not_allowed")
  else if method ∈ readMethods then pure none
  else do
    let allowed ← mutationScopeAllowed host grant method request.rawPath request.normalizedPath
    pure (if allowed then none else some "mutation_scope_not_allowed")

/-- What a validation answers, and the file it writes. -/
def validated (host : RemoteHost) (state : ControlState) (rawToken : String) (request : Request) (now : ℤ) :
    Except RemoteError (Reply × ControlState) :=
  match grantWithHash state ("sha256:" ++ host.sha256 rawToken) with
  | none => pure (authDenied state none none "unknown_token")
  | some grant =>
    let account := (state.accounts.get? grant.accountId).filter (·.enabled)
    match account with
    | none => pure (authDenied state (some grant.accountId) (some grant.tokenId) "account_disabled")
    | some account =>
      if grant.status ≠ .active then
        pure (authDenied state (some grant.accountId) (some grant.tokenId) ("token_" ++ grant.status.value))
      else if grant.expiresAt ≤ now then
        pure (authDenied (state.setToken { grant with status := .expired }) (some grant.accountId) (some grant.tokenId) "token_expired")
      else do
        match ← scopeViolation host grant request with
        | some reason => pure (authDenied state (some grant.accountId) (some grant.tokenId) reason)
        | none => pure (.authorized grant.accountId grant.tokenId grant.project grant.threadId grant.mutates account.gatewayPrincipal,state)

def validateRemoteTestingToken (host : RemoteHost) (rawToken : String) (request : Request) : RemoteProg Reply :=
  if hasPrefix rawToken testTokenPrefix = false then pure .unrelated else do
    let state ← loadControlState
    let now ← clock
    let (reply,state') ← liftExcept (validated host state rawToken request now)
    saveControlState { copy := some state } state'
    pure reply

end Overseer.Remote
