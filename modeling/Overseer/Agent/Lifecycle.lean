import Overseer.Agent.Dispatch

/-! # Discovery, activation, recovery and checkpoints

The lifecycle operations of `AgentManager` outside handoffs. Times and ids a
transaction stores are drawn before it.
-/
namespace Overseer.Agent
open Overseer.Library

/-- Run the last part after the body, also when the body raises. -/
def withFinally {α : Type} (body : AgentProg α) (last : AgentProg Unit) : AgentProg α := do
  let a ← rescue body fun e => do
    last
    raise e
  last
  return a

/-- The exceptions of one class, raised again under another. -/
def reraise {α : Type} (kind : ErrorKind) (as : String → AgentError) (p : AgentProg α) : AgentProg α :=
  rescue p fun e => if e.kind = kind then raise (as e.message) else raise e

section Epochs
variable {m : Type → Type} [MonadStore AgentStore AgentError m]

def identifierFragment (cfg : Config) (value : String) : String :=
  String.ofList (value.toList.map fun c => if cfg.isAlnum c then c else '-')

/-- What opening an epoch draws from the clock and the id factory. -/
structure EpochDraws where
  discoveredAt : Timestamp
  lastObservedAt : Timestamp
  id : String
  openedAt : Timestamp

def nextOrdinal (epochs : List DriverEpoch) (instanceId : String) : ℕ :=
  1 + ((epochs.filter (·.instanceId = instanceId)).map (·.ordinal)).foldl max 0

/-- The session a new epoch of a provider gets when none is named. -/
def ordinalSessionId (cfg : Config) (instanceId providerId : String) (ordinal : ℕ) : String :=
  s!"session.{identifierFragment cfg instanceId}.{identifierFragment cfg providerId}.{ordinal}"

/-- The session of a new epoch is stored unless it is there. -/
def ensureEpochSession (cfg : Config) (profile : AgentInstanceProfile) (instanceId providerId selected : String)
    (externalSessionId : Option String) (reason initiatedBy : String) (state : AgentOperationState)
    (draws : EpochDraws) : m Unit := do
  match ← unlessMissing (loadAgentSession selected) with
  | some _ => pure ()
  | none => do
    let provider ← cfg.provider providerId
    saveAgentSession {
      id := selected, providerId, externalSessionId, workspace := profile.workspace
      transport := profile.transport, capabilities := provider.capabilities
      instanceId := some instanceId, modelProfileId := profile.modelProfileId
      legacyReferences := ((Dict.empty.set "status" (.str state.value)).set "reason" (.str reason)).set
        "initiated_by_ref" (.str initiatedBy)
      discoveredAt := some (.instant draws.discoveredAt)
      lastObservedAt := some (.instant draws.lastObservedAt) }

/-- Store a new epoch of an instance that has no open one. -/
def persistOpened (epoch : DriverEpoch) : m DriverEpoch := do
  let opened ← openEpochs epoch.instanceId
  require (opened = []) (managerError s!"instance {epoch.instanceId} already has an open driver epoch")
  saveDriverEpoch epoch
  return epoch

/-- `_open_epoch`. An identifier is never empty, so `or` takes the named session. -/
def openEpoch (cfg : Config) (instanceId providerId : String) (sessionId externalSessionId : Option String)
    (reason initiatedBy : String) (state : AgentOperationState) (persistEpoch : Bool) (draws : EpochDraws) :
    m DriverEpoch := do
  let profile ← cfg.profileForProvider instanceId providerId
  let ordinal := nextOrdinal (← listDriverEpochs) instanceId
  let selected := sessionId.getD (ordinalSessionId cfg instanceId providerId ordinal)
  ensureEpochSession cfg profile instanceId providerId selected externalSessionId reason initiatedBy state draws
  let epoch : DriverEpoch := {
    id := draws.id, instanceId, sessionId := selected, providerId, ordinal, state
    openedAt := some draws.openedAt, reason := some reason }
  if persistEpoch then persistOpened epoch else return epoch

def closeEpoch (epoch : DriverEpoch) (replacementEpochId : String) (closedAt : Timestamp) : m DriverEpoch := do
  let closed := { epoch with
    state := .succeeded, closedAt := some closedAt, replacementEpochId := some replacementEpochId }
  saveDriverEpoch closed
  return closed

/-- The discovered sessions under the identity of the instance. -/
def bindDiscovered (profile : AgentInstanceProfile) (provider : AgentProvider) (instanceId providerId : String) :
    List AgentSession → m (List AgentSession)
  | [] => pure []
  | session :: rest => do
    require (session.providerId = providerId) (managerError "discovered session provider binding mismatch")
    require (session.instanceId = none ∨ session.instanceId = some instanceId)
      (managerError "discovered session instance binding mismatch")
    let bound ← bindDiscovered profile provider instanceId providerId rest
    return { session with
      instanceId := some instanceId, transport := profile.transport
      capabilities := provider.capabilities, modelProfileId := profile.modelProfileId } :: bound

def saveSessions : List AgentSession → m Unit
  | [] => pure ()
  | session :: rest => do
    saveAgentSession session
    saveSessions rest

/-- The sessions of a discovery, stored while its reservation stands. -/
def discoverTx (reservation : AgentOperationReservation) (sessions : List AgentSession) : m Unit := atomically do
  verifyOwned reservation
  saveSessions sessions

/-- The epoch of an activation, opened with its reservation finished. -/
def activateTx (cfg : Config) (instanceId initiatedBy providerId externalSessionId reservationId : String)
    (generation : ℕ) (updatedAt : Timestamp) (draws : EpochDraws) : AgentTx DriverEpoch := do
  let _ ← ensureAgentOperation instanceId updatedAt
  let epoch ← openEpoch cfg instanceId providerId none (some externalSessionId) "activate" initiatedBy .running
    true draws
  finishAgentActivation instanceId reservationId cfg.activationOwnerId generation .active (some epoch.id) none
  return epoch

end Epochs

def drawEpoch : AgentProg EpochDraws := do
  let discoveredAt ← clock
  let lastObservedAt ← clock
  let id ← newId "epoch"
  let openedAt ← clock
  return { discoveredAt, lastObservedAt, id, openedAt }

def driverRaised : AgentError := ⟨.provider,"provider driver raised"⟩

def discover (cfg : Config) (instanceId providerId : String) (workspace : Option String) :
    AgentProg (List AgentSession) := do
  requireAuthorized "discover" [("instance_id",instanceId),("provider_id",providerId)]
  let token ← newId "operation.discovery"
  let ensuredAt ← clock
  let reservedAt ← clock
  let reservation ← reraise .operationBlocked pausedError (reserve instanceId token ensuredAt reservedAt)
  withFinally (do
      let profile ← cfg.profileForProvider instanceId providerId
      let driver ← cfg.driverForProvider providerId instanceId
      let discovered ← orRaise (← ask (.discover driver workspace)) driverRaised
      let sessions ← bindDiscovered profile driver instanceId providerId discovered
      reraise .operationBlocked pausedError (discoverTx reservation sessions)
      return sessions) do
    let _ ← releaseIfOwned reservation (← clock)
    return ()

/-- `_await_activation_winner`, with the number of polls before the deadline. -/
def awaitActivationWinner (instanceId : String) : ℕ → AgentProg DriverEpoch
  | 0 => raise (managerError "activation reservation did not complete")
  | polls + 1 => do
    let reservation ← loadAgentActivation instanceId
    match reservation.state,reservation.epochId with
    | .active,some epochId => loadDriverEpoch epochId
    | .blocked,_ => do
      let reason := reservation.reason.getD "unknown"
      raise (managerError s!"activation blocked: {reason}")
    | _,_ => awaitActivationWinner instanceId polls

/-- The start was acknowledged for this instance by this provider. -/
def startAccepted (instanceId providerId : String) (result : AgentDispatchResult) : Bool :=
  result.state ∈ acknowledgedStates && result.instanceId = instanceId && result.providerId = providerId

def activate (cfg : Config) (instanceId initiatedBy : String) (retryBlocked : Bool) : AgentProg DriverEpoch := do
  requireAuthorized "activate" [("instance_id",instanceId),("initiated_by",initiatedBy)]
  raiseTransitionRequired instanceId none
  match ← authoritativeEpochs instanceId with
  | [epoch] => return epoch
  | _ :: _ :: _ => raise (managerError s!"multiple open driver epochs require recovery for {instanceId}")
  | [] => do
    let profile ← cfg.profile instanceId
    let driver ← cfg.driver instanceId
    let reservationId ← newId "activation"
    let startedAt ← clock
    let reserved ← reserveAgentActivation instanceId reservationId cfg.activationOwnerId startedAt
      (startedAt + cfg.activationLease) retryBlocked startedAt
    if reserved = false then awaitActivationWinner instanceId (← ask .polls)
    else do
      let activation ← loadAgentActivation instanceId
      let blockWith (category : AgentErrorCategory) : AgentProg Unit :=
        finishAgentActivation instanceId reservationId cfg.activationOwnerId activation.generation .blocked none
          (some category.value)
      match ← ask (.start driver profile) with
      | none => do
        blockWith .providerUnavailable
        raise driverRaised
      | some result =>
        if startAccepted instanceId driver.id result then do
          let updatedAt ← clock
          let draws ← drawEpoch
          Prog.transaction { fresh := [draws.id] } (activateTx cfg instanceId initiatedBy driver.id
            ((result.externalSessionId.filter (· ≠ "")).getD result.sessionId) reservationId activation.generation
            updatedAt draws)
        else do
          let category := result.errorCategory.getD .dispatchRejected
          blockWith category
          raise (managerError s!"activation failed: {category.value}")

/-- The first of the epochs with the largest ordinal. -/
def latestEpoch (first : DriverEpoch) (rest : List DriverEpoch) : DriverEpoch :=
  rest.foldl (fun best e => if best.ordinal < e.ordinal then e else best) first

/-- Close every epoch but the active one, one statement after another. -/
def closeStale (activeId : String) : List DriverEpoch → AgentProg Unit
  | [] => pure ()
  | stale :: rest => do
    if stale.id ≠ activeId then do
      let closedAt ← clock
      Prog.holding { otherEpochs := [stale] } (saveDriverEpoch { stale with
        state := .quarantined, closedAt := some closedAt, replacementEpochId := some activeId })
      closeStale activeId rest
    else closeStale activeId rest

def recoveredState (result : AgentDispatchResult) : AgentOperationState :=
  if result.state ∈ acknowledgedStates then .running else .blocked

def recoveredReason (result : AgentDispatchResult) : String :=
  if result.state ∈ acknowledgedStates then "recover"
  else s!"recovery_failed:{(result.errorCategory.getD .dispatchRejected).value}"

/-- Resume the session of a recovery and store the epoch it leaves. -/
def resumeEpoch (cfg : Config) (driver : AgentProvider) (session : AgentSession) (instanceId initiatedBy : String)
    (active : Option DriverEpoch) : AgentProg DriverEpoch := do
  let result ← orRaise (← ask (.resume driver session)) driverRaised
  require (result.instanceId = instanceId ∧ result.providerId = session.providerId ∧
    some result.sessionId = session.externalSessionId) (managerError "recovery result binding mismatch")
  match active with
  | some active => do
    let reconciled := { active with state := recoveredState result, reason := some (recoveredReason result) }
    Prog.holding { epochs := [active] } (saveDriverEpoch reconciled)
    return reconciled
  | none => do
    let draws ← drawEpoch
    Prog.holding { fresh := [draws.id] } (openEpoch cfg instanceId session.providerId (some session.id)
      session.externalSessionId (recoveredReason result) initiatedBy (recoveredState result) true draws)

def recover (cfg : Config) (sessionId initiatedBy : String) : AgentProg DriverEpoch := do
  let session ← loadAgentSession sessionId
  let instanceId ← orRaise session.instanceId (managerError "persisted session has no instance identity")
  requireAuthorized "recover" [("instance_id",instanceId),("session_id",session.id),
    ("provider_id",session.providerId),("initiated_by",initiatedBy)]
  raiseTransitionRequired instanceId none
  let driver ← cfg.driverForProvider session.providerId instanceId
  match ← openEpochs instanceId with
  | [] => resumeEpoch cfg driver session instanceId initiatedBy none
  | first :: rest => do
    let active := latestEpoch first rest
    if rest ≠ [] then closeStale active.id (first :: rest) else pure ()
    if active.state ∈ dispatchableStates then return active
    else if active.sessionId ≠ session.id then return active
    else resumeEpoch cfg driver session instanceId initiatedBy (some active)

/-- `_collect_checkpoint` for a given epoch. -/
def collectCheckpoint (cfg : Config) (instanceId : String) (epoch : DriverEpoch) : AgentProg AgentCheckpoint := do
  require (epoch.state ∈ dispatchableStates)
    (pausedError s!"agent instance {instanceId} is paused in epoch {epoch.id}")
  requireAuthorized "checkpoint" [("instance_id",instanceId),("driver_epoch_id",epoch.id),
    ("provider_id",epoch.providerId)]
  let driver ← cfg.driverForProvider epoch.providerId instanceId
  let session ← sessionForEpoch epoch
  let collected ← orRaise (← ask (.checkpoint driver session)) driverRaised
  let id ← newId "checkpoint"
  return { id, instanceId, sessionId := epoch.sessionId, driverEpochId := epoch.id
           evidence := collected.evidence, createdAt := collected.createdAt, expiresAt := collected.expiresAt }

def checkpoint (cfg : Config) (instanceId : String) : AgentProg AgentCheckpoint := do
  raiseTransitionRequired instanceId (some .paused)
  let epoch ← activeEpoch instanceId
  let collected ← collectCheckpoint cfg instanceId epoch
  saveAgentCheckpoint collected
  return collected

end Overseer.Agent
