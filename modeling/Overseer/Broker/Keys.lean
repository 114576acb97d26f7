import Overseer.Core.Claim
import Overseer.Library.Runs
import Overseer.Library.Text

/-! # The key broker

`key_broker.py`: providers of keys, requests for tokens and the grants that were issued. Each
operation is a few loads and saves of single rows, every one committed by itself; a saved row
replaces the one with its id.
-/
namespace Overseer.Broker
open Overseer.Library Overseer.Core

inductive KeyProviderKind where
  | staticToken | githubApp | breakGlass
  deriving DecidableEq

def KeyProviderKind.ofValue? : String → Option KeyProviderKind
  | "static_token" => some .staticToken
  | "github_app" => some .githubApp
  | "break_glass" => some .breakGlass
  | _ => none

inductive KeyBrokerRequestStatus where
  | pendingApproval | approved | issued | denied | canceled
  deriving DecidableEq

inductive KeyBrokerGrantStatus where
  | active | revoked | expired
  deriving DecidableEq

structure KeyProviderRecord where
  id : String
  providerKind : KeyProviderKind
  enabled : Bool
  secretRef : String
  allowedSubjects : List String
  allowedScopes : List String
  deriving DecidableEq

structure KeyBrokerTokenRequest where
  id : String
  providerId : String
  subject : String
  requestedScopes : List String
  ttlMinutes : ℤ
  status : KeyBrokerRequestStatus
  riskLevel : RiskLevel
  approvalId : Option String := none
  approvedBy : Option String := none
  deriving DecidableEq

structure KeyBrokerTokenGrant where
  id : String
  requestId : String
  providerId : String
  subject : String
  scopes : List String
  tokenHash : String
  status : KeyBrokerGrantStatus
  expiresAt : ℤ
  deriving DecidableEq

structure BrokerStore where
  providers : Dict KeyProviderRecord := .empty
  requests : Dict KeyBrokerTokenRequest := .empty
  grants : Dict KeyBrokerTokenGrant := .empty

inductive BrokerError where
  | value (message : String)
  | key (id : String)
  | mint
  | file

/-- The digest, the printed time and Unicode's lower case. -/
structure BrokerHost where
  sha256 : String → String
  strftime : ℤ → String
  lower : String → String

/-- The clock, a random suffix, a token minted for a request, and the file the token goes to. -/
inductive BrokerQuery where
  | clock
  | hex
  | mint (provider : KeyProviderRecord) (request : KeyBrokerTokenRequest)
  | tokenFile (grantId token : String)

abbrev BrokerAnswer : BrokerQuery → Type
  | .clock => ℤ
  | .hex => String
  | .mint _ _ => Option String
  | .tokenFile _ _ => Bool

/-- What a save works from: the request or the provider as it was loaded, and what is new in it. -/
structure Held where
  request : Option KeyBrokerTokenRequest := none
  provider : Option KeyProviderRecord := none
  recorded : Option KeyProviderRecord := none
  newRequest : Option KeyBrokerTokenRequest := none
  newGrant : Option KeyBrokerTokenGrant := none

instance : Inhabited Held := ⟨{}⟩

abbrev BrokerProg := Prog BrokerStore Held BrokerAnswer BrokerError

def liftExcept {α : Type} : Except BrokerError α → BrokerProg α
  | .ok a => pure a
  | .error e => raise e

@[simp] theorem liftExcept_ok {α : Type} (a : α) : liftExcept (.ok a) = (pure a : BrokerProg α) := rfl

@[simp] theorem liftExcept_error {α : Type} (e : BrokerError) : liftExcept (.error e) = (raise e : BrokerProg α) := rfl

-- sealed, so that no unifier runs the checks of a request to see whether they pass
attribute [irreducible] liftExcept

def check (c : Prop) [Decidable c] (message : String) : Except BrokerError Unit := if c then .ok () else .error (.value message)

def maxTokenTtlMinutes : ℤ := 60

/-! ### Rows -/

def loadKeyProvider (id : String) : BrokerProg KeyProviderRecord := do
  let row ← atomically (Tx.read (·.providers.get? id))
  orRaise row (.key id)

def loadKeyBrokerTokenRequest (id : String) : BrokerProg KeyBrokerTokenRequest := do
  let row ← atomically (Tx.read (·.requests.get? id))
  orRaise row (.key id)

def loadKeyBrokerTokenGrant (id : String) : BrokerProg KeyBrokerTokenGrant := do
  let row ← atomically (Tx.read (·.grants.get? id))
  orRaise row (.key id)

def BrokerStore.setProvider (s : BrokerStore) (p : KeyProviderRecord) : BrokerStore := { s with providers := s.providers.set p.id p }
def BrokerStore.setRequest (s : BrokerStore) (r : KeyBrokerTokenRequest) : BrokerStore := { s with requests := s.requests.set r.id r }
def BrokerStore.setGrant (s : BrokerStore) (g : KeyBrokerTokenGrant) : BrokerStore := { s with grants := s.grants.set g.id g }

def saveKeyProvider (held : Held) (p : KeyProviderRecord) : BrokerProg Unit :=
  Prog.transaction held (Tx.write (·.setProvider p))

def saveKeyBrokerTokenRequest (held : Held) (r : KeyBrokerTokenRequest) : BrokerProg Unit :=
  Prog.transaction held (Tx.write (·.setRequest r))

def saveKeyBrokerTokenGrant (held : Held) (g : KeyBrokerTokenGrant) : BrokerProg Unit :=
  Prog.transaction held (Tx.write (·.setGrant g))

/-! ### Checks -/

/-- `[A-Za-z0-9_.:-]{1,160}`, after stripping. -/
def safeId (value field : String) : Except BrokerError String := do
  let cleaned := strip value
  check (1 ≤ cleaned.length ∧ cleaned.length ≤ 160 ∧
      (cleaned.toList.all fun c => c.isAlphanum || c = '_' || c = '.' || c = ':' || c = '-') = true)
    (field ++ " must contain only letters, numbers, underscore, dash, dot, or colon")
  pure cleaned

def safeSubject (host : BrokerHost) (value : String) : Except BrokerError String := do
  let cleaned := strip value
  check (cleaned ≠ "" ∧ (["token","secret","password"].all fun part => !hasPart (host.lower cleaned) part) = true) "invalid subject"
  pure cleaned

def normalizedValues (values : List String) (allowWildcard : Bool) : Except BrokerError (List String) := do
  let items := (values.map strip).filter (· ≠ "")
  check (allowWildcard = true ∨ "*" ∉ items) "wildcard is not allowed here"
  check (items ≠ []) "at least one value is required"
  pure items.eraseDups

/-- What `_assert_allowed` lets pass. -/
def isAllowed (value : String) (allowed : List String) : Prop := "*" ∈ allowed ∨ value ∈ allowed

instance (value : String) (allowed : List String) : Decidable (isAllowed value allowed) := inferInstanceAs (Decidable (_ ∨ _))

def assertAllowed (value : String) (allowed : List String) (label : String) : Except BrokerError Unit :=
  check (isAllowed value allowed) (label ++ " is outside provider allowlist")

def assertScopesAllowed (allowed : List String) : List String → Except BrokerError Unit
  | [] => .ok ()
  | scope :: rest => do
    assertAllowed scope allowed "scope"
    assertScopesAllowed allowed rest

def requestRisk (provider : KeyProviderRecord) (scopes : List String) : RiskLevel :=
  if provider.providerKind = .breakGlass ∨ "*" ∈ scopes then .critical
  else if provider.providerKind = .githubApp then .high else .low

/-! ### Operations -/

structure ProviderCall where
  providerId : String
  providerKind : String
  secretRef : String
  allowedSubjects : List String
  allowedScopes : List String
  enabled : Bool := true

def ProviderCall.provider (call : ProviderCall) : Except BrokerError KeyProviderRecord := do
  let id ← safeId call.providerId "provider_id"
  match KeyProviderKind.ofValue? call.providerKind with
  | none => .error (.value ("'" ++ call.providerKind ++ "' is not a valid KeyProviderKind"))
  | some kind => do
    let allowedSubjects ← normalizedValues call.allowedSubjects true
    let allowedScopes ← normalizedValues call.allowedScopes true
    pure ⟨id,kind,call.enabled,call.secretRef,allowedSubjects,allowedScopes⟩

/-- The provider there was gives no more than the time it was created. -/
def recordKeyProviderStatus (call : ProviderCall) : BrokerProg String := do
  let _existing ← atomically (Tx.read (·.providers.get? call.providerId))
  let provider ← liftExcept call.provider
  saveKeyProvider { recorded := some provider } provider
  pure provider.id

structure RequestCall where
  providerId : String
  subject : String
  requestedScopes : List String
  ttlMinutes : ℤ := 15

/-- The request that is saved; `now` and `hex` make its id. -/
def RequestCall.request (host : BrokerHost) (call : RequestCall) (provider : KeyProviderRecord) (now : ℤ) (hex : String) :
    Except BrokerError KeyBrokerTokenRequest := do
  let subject ← safeSubject host call.subject
  let scopes ← normalizedValues call.requestedScopes false
  assertAllowed subject provider.allowedSubjects "subject"
  assertScopesAllowed provider.allowedScopes scopes
  let id ← safeId call.providerId "provider_id"
  let risk := requestRisk provider scopes
  pure { id := "kbr." ++ id ++ "." ++ host.strftime now ++ "." ++ hex, providerId := provider.id, subject := subject,
         requestedScopes := scopes, ttlMinutes := max 1 (min call.ttlMinutes maxTokenTtlMinutes),
         status := if risk = .low then .approved else .pendingApproval, riskLevel := risk }

def requestKeyBrokerTokenStatus (host : BrokerHost) (call : RequestCall) : BrokerProg String := do
  let provider ← loadKeyProvider call.providerId
  require (provider.enabled = true) (.value "key provider is disabled")
  let now ← Prog.ask BrokerQuery.clock
  let hex ← Prog.ask BrokerQuery.hex
  let request ← liftExcept (call.request host provider now hex)
  saveKeyBrokerTokenRequest { provider := some provider, newRequest := some request } request
  pure request.id

def approveKeyBrokerTokenRequestStatus (requestId approvedBy approvalId : String) : BrokerProg String := do
  let request ← loadKeyBrokerTokenRequest requestId
  require (request.status = .pendingApproval ∨ request.status = .approved) (.value "request is not approvable")
  saveKeyBrokerTokenRequest { request := some request }
    { request with status := .approved, approvalId := some approvalId, approvedBy := some approvedBy }
  pure request.id

def grantOf (host : BrokerHost) (request : KeyBrokerTokenRequest) (provider : KeyProviderRecord) (id token : String) (now : ℤ) :
    KeyBrokerTokenGrant where
  id := id
  requestId := request.id
  providerId := provider.id
  subject := request.subject
  scopes := request.requestedScopes
  tokenHash := "sha256:" ++ host.sha256 token
  status := .active
  expiresAt := now + request.ttlMinutes * 60000000

/-- The grant and the mark on its request are two saves. -/
def issueKeyBrokerTokenStatus (host : BrokerHost) (requestId : String) : BrokerProg String := do
  let request ← loadKeyBrokerTokenRequest requestId
  require (request.status = .approved) (.value "request must be approved before issuance")
  let provider ← loadKeyProvider request.providerId
  require (provider.enabled = true) (.value "key provider is disabled")
  let minted ← Prog.ask (BrokerQuery.mint provider request)
  let token ← orRaise minted .mint
  let now ← Prog.ask BrokerQuery.clock
  let id ← liftExcept (safeId provider.id "provider_id")
  let hex ← Prog.ask BrokerQuery.hex
  let grant := grantOf host request provider ("kbg." ++ id ++ "." ++ host.strftime now ++ "." ++ hex) token now
  let written ← Prog.ask (BrokerQuery.tokenFile grant.id token)
  require (written = true) .file
  saveKeyBrokerTokenGrant { request := some request, newGrant := some grant } grant
  saveKeyBrokerTokenRequest { request := some request } { request with status := .issued }
  pure grant.id

def revokeKeyBrokerTokenStatus (grantId : String) : BrokerProg String := do
  let grant ← loadKeyBrokerTokenGrant grantId
  saveKeyBrokerTokenGrant {} { grant with status := .revoked }
  pure grant.id

inductive BrokerCall where
  | record (call : ProviderCall)
  | request (call : RequestCall)
  | approve (requestId approvedBy approvalId : String)
  | issue (requestId : String)
  | revoke (grantId : String)

def BrokerCall.program (host : BrokerHost) : BrokerCall → BrokerProg String
  | .record call => recordKeyProviderStatus call
  | .request call => requestKeyBrokerTokenStatus host call
  | .approve requestId approvedBy approvalId => approveKeyBrokerTokenRequestStatus requestId approvedBy approvalId
  | .issue requestId => issueKeyBrokerTokenStatus host requestId
  | .revoke grantId => revokeKeyBrokerTokenStatus grantId

def brokerSystem (host : BrokerHost) (guard : BrokerStore → Held → BrokerStore → Prop) :
    System BrokerStore Held BrokerAnswer BrokerError String where
  start p := ∃ call : BrokerCall, p = call.program host
  valid _ _ _ := True
  guard := guard

end Overseer.Broker
