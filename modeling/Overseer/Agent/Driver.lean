import Overseer.Agent.Store
import Overseer.Library.Schedule

/-! # The outside of the agent manager

What the manager asks of its surroundings: the clock, fresh ids, the policy
callback, the adapter factories and the providers' drivers. A driver call that
raises answers `none`. Adapter lookup follows `agent_registry.py`.
-/
namespace Overseer.Agent
open Overseer.Library

/-- The questions of the manager. `polls` is how often a wait finds its deadline
still ahead, `readiness` the installed executables by provider. -/
inductive AgentQuery where
  | clock
  | newId (tag : String)
  | authorize (operation : String) (context : List (String × String))
  | adapter (adapterId instanceId : String)
  | readiness
  | polls
  | discover (provider : AgentProvider) (workspace : Option String)
  | start (provider : AgentProvider) (profile : AgentInstanceProfile)
  | resume (provider : AgentProvider) (session : AgentSession)
  | recover (provider : AgentProvider) (request : AgentRecoveryRequest) (session : AgentSession)
  | dispatch (provider : AgentProvider) (request : AgentDispatchRequest)
  | inspect (provider : AgentProvider) (session : AgentSession)
  | checkpoint (provider : AgentProvider) (session : AgentSession)
  | cancel (provider : AgentProvider) (session : AgentSession)
  | importHandoff (provider : AgentProvider) (profile : AgentInstanceProfile) (package : AgentHandoffPackage)

@[reducible] def Answer : AgentQuery → Type
  | .clock => Timestamp
  | .newId _ => String
  | .authorize _ _ => Bool
  | .adapter _ _ => Bool
  | .readiness => String → Option String
  | .polls => ℕ
  | .discover _ _ => Option (List AgentSession)
  | .checkpoint _ _ => Option AgentCheckpoint
  | .start _ _ | .resume _ _ | .recover _ _ _ | .dispatch _ _ | .inspect _ _ | .cancel _ _
  | .importHandoff _ _ _ => Option AgentDispatchResult

/-- The copies of stored records a transaction was prepared from, and the ids drawn for
the records it inserts. `epochs` are the copies it stores again as open or closed as
they were read, `otherEpochs` those it closes or only relies on. -/
structure Held where
  epochs : List DriverEpoch := []
  otherEpochs : List DriverEpoch := []
  dispatches : List AgentDispatchRequest := []
  fresh : List String := []
  deriving Inhabited

abbrev AgentProg := Prog AgentStore Held Answer AgentError

def ask (q : AgentQuery) : AgentProg (Answer q) := Prog.ask q
def clock : AgentProg Timestamp := ask .clock
def newId (tag : String) : AgentProg String := ask (.newId tag)

/-- The ids in use: those of the rows and the owner tokens of the fences. -/
def AgentStore.ids (s : AgentStore) : List String :=
  s.dispatches.keys ++ s.epochs.keys ++ s.handoffs.keys ++ s.results.keys ++ s.checkpoints.keys ++
  s.decisions.keys ++ s.executions.keys ++ s.attempts.keys ++ s.outcomes.keys ++
  s.operations.values.filterMap (·.ownerToken)

abbrev AgentTrace := Trace AgentStore Answer

/-- The id a log entry issued. -/
def issuedId : (Σ q, Answer q) → Option String
  | ⟨.newId _,id⟩ => some id
  | _ => none

def issuedIds (log : List (ℕ × Σ q, Answer q)) : List String := log.filterMap fun e => issuedId e.2

/-- The id factory gives an id that was never given out and is not in use; every
other question may be answered in any way. -/
def validAnswer (t : AgentTrace) : (q : AgentQuery) → Answer q → Bool
  | .newId _, id => decide (id ∉ issuedIds t.log ∧ id ∉ t.store.ids)
  | _, _ => true

/-- A table of answers: the time, ids with a suffix of their own, every permission,
ready adapters, and drivers that raise. -/
def plainAnswers (now : Timestamp) (suffix : String) : (q : AgentQuery) → Answer q
  | .clock => now
  | .newId tag => tag ++ "." ++ suffix
  | .authorize _ _ => true
  | .adapter _ _ => true
  | .readiness => fun _ => none
  | .polls => (0 : ℕ)
  | .discover _ _ => none
  | .checkpoint _ _ => none
  | .start _ _ | .resume _ _ | .recover _ _ _ | .dispatch _ _ | .inspect _ _ | .cancel _ _
  | .importHandoff _ _ _ => none

/-- The configuration a manager runs with. The digests, the patterns that mark
sensitive text and `str.isalnum` are parameters. -/
structure Config where
  providers : Dict AgentProvider
  profiles : Dict AgentInstanceProfile
  adapterFactories : List String
  activationOwnerId : String
  activationLease : Timestamp
  hmac : AgentHandoffPackage → String
  sha256 : String → String
  sensitiveKey : String → Bool
  sensitiveValue : String → Bool
  secretLike : String → Bool
  isAlnum : Char → Bool

namespace Config
variable {m : Type → Type} [MonadStore AgentStore AgentError m] (cfg : Config)

def profile (instanceId : String) : m AgentInstanceProfile :=
  orRaise (cfg.profiles.get? instanceId) (keyError s!"unknown agent instance: {instanceId}")

def provider (providerId : String) : m AgentProvider :=
  orRaise (cfg.providers.get? providerId) (keyError providerId)

def profileForProvider (instanceId providerId : String) : m AgentInstanceProfile := do
  let profile ← cfg.profile instanceId
  let alternates := profile.primaryProviderId :: profile.approvedFallbackProviderIds
  require (providerId ∈ alternates)
    (valueError s!"provider {providerId} is not approved for instance {instanceId}")
  let provider ← cfg.provider providerId
  let transport ← orRaise provider.transports.head? ⟨.index,"tuple index out of range"⟩
  return { profile with
    primaryProviderId := provider.id
    transport
    primaryAdapterId := some provider.adapterId
    externalSessionId := none
    declaredCapabilities := provider.capabilities
    approvedFallbackProviderIds := alternates.filter (· ≠ providerId) }

/-- `_driver_for`: the driver is known by its provider. -/
def driverFor (profile : AgentInstanceProfile) : AgentProg AgentProvider := do
  let provider ← cfg.provider profile.primaryProviderId
  require (provider.adapterId ∈ cfg.adapterFactories)
    ⟨.adapterUnavailable,s!"no registered adapter factory for {provider.adapterId}"⟩
  let ready ← ask (.adapter provider.adapterId profile.id)
  require (ready = true) ⟨.adapterUnavailable,s!"adapter factory for {provider.adapterId} is not ready"⟩
  return provider

def driver (instanceId : String) : AgentProg AgentProvider := do
  let profile ← cfg.profile instanceId
  cfg.driverFor profile

def driverForProvider (providerId instanceId : String) : AgentProg AgentProvider := do
  let profile ← cfg.profileForProvider instanceId providerId
  cfg.driverFor profile

end Config

def requireAuthorized (operation : String) (context : List (String × String)) : AgentProg Unit := do
  let allowed ← ask (.authorize operation context)
  require (allowed = true) ⟨.authorization,s!"{operation} rejected by Overseer policy callback"⟩

/-- `_require_identifier` on each value with its label. -/
def requireIdentifiers {m : Type → Type} [MonadStore AgentStore AgentError m] :
    List (String × String) → m Unit
  | [] => pure ()
  | (value,label) :: rest => do
    require (isBlank value = false) (valueError s!"{label} must be a stable non-empty identifier")
    requireIdentifiers rest

/-- `_require_safe_identifier` on each value with its label. -/
def requireSafeIdentifiers {m : Type → Type} [MonadStore AgentStore AgentError m] (cfg : Config) :
    List (String × String) → m Unit
  | [] => pure ()
  | (value,label) :: rest => do
    require (isBlank value = false) (valueError s!"{label} must be a stable non-empty identifier")
    require (cfg.secretLike value = false) (valueError s!"{label} cannot contain secret-like material")
    requireSafeIdentifiers cfg rest

end Overseer.Agent
