import Overseer.Quark.Cycle
import Overseer.Library.Answered
import Overseer.Library.Text

/-! # The executor

`ProviderWorkExecutor` of `quark_scheduler.py`. It reads the work store before it calls the agent
manager, and predicts the binding that its result has to find there. A call to the agent manager
or to the Codex command that raises answers `none`.
-/
namespace Overseer.Quark
open Overseer.Library Overseer.Agent

/-! ### What the agent manager returns -/

structure PersistedSession where
  id : String
  providerId : String

structure RecoveredEpoch where
  id : String
  instanceId : String
  sessionId : String
  providerId : String

structure DispatchResult where
  id : String
  requestId : String
  sessionId : String
  driverEpochId : String
  providerId : String
  state : AgentOperationState
  providerReference : Option String := none

structure CompletedProcess where
  returncode : ℤ
  stdout : Option String := none
  stderr : Option String := none

/-- What is asked of the usage source, the clock, the agent manager and the command runner. -/
inductive ExecutorQuery where
  | refresh
  | timestamp
  /-- The manager has a store that loads sessions. -/
  | managerStore
  | loadAgentSession (sessionId : String)
  | recover (sessionId initiatedBy : String)
  | dispatch (instanceId prompt idempotencyKey requestedBy : String)
  | run (command : List String)

/-- Loading a session may raise `KeyError` or `ValueError` with a text of its own. -/
@[reducible] def ExecutorAnswer : ExecutorQuery → Type
  | .refresh => Option UsageSnapshot
  | .timestamp => String
  | .managerStore => Bool
  | .loadAgentSession _ => Option (Except String PersistedSession)
  | .recover _ _ => Option RecoveredEpoch
  | .dispatch _ _ _ _ => Option DispatchResult
  | .run _ => Option CompletedProcess

abbrev ExecutorProg := Prog QuarkStore Held ExecutorAnswer QuarkError

/-! ### Texts -/

/-- The line boundaries of `str.splitlines`. -/
def isLineBreak (c : Char) : Bool := c.toNat ∈ [10,11,12,13,28,29,30,133,8232,8233]

/-- `text.splitlines()`; a line feed after a carriage return belongs to the same boundary. -/
def splitLines (text : String) : List String := (go text.toList [] false).map String.ofList
where
  go : List Char → List Char → Bool → List (List Char)
    | [], line, _ => if line = [] then [] else [line.reverse]
    | c :: rest, line, afterReturn =>
      if afterReturn = true ∧ c.toNat = 10 then go rest line false
      else if isLineBreak c then line.reverse :: go rest [] (c.toNat = 13)
      else go rest (c :: line) false

/-- What follows the first `part` of a text. -/
def afterPart (text part : String) : Option String :=
  (text.toList.tails.find? part.toList.isPrefixOf).map fun rest => String.ofList (rest.drop part.toList.length)

/-- The checkpoint that the last marked line of an output names. -/
def checkpointNamed (output : String) : Option String :=
  (splitLines output).foldl (fun found line => match afterPart line "QUARK_CHECKPOINT:" with
    | some rest => some (trim (fun c => c.toNat = 34) (strip rest))
    | none => found) none

/-- `repr(text)`, for texts of printable characters. -/
def reprText (text : String) : String :=
  let codes := text.toList.map Char.toNat
  let mark := if 39 ∈ codes ∧ 34 ∉ codes then Char.ofNat 34 else Char.ofNat 39
  String.ofList (mark :: (text.toList.flatMap fun c => if c.toNat = 92 ∨ c = mark then [Char.ofNat 92,c] else [c]) ++ [mark])

/-! ### Results that stop a slice -/

/-- `_policy_block`, for a result that may be stored. -/
def policyBlock (item : AgentWorkItem) (reason : String) : SliceResult where
  status := some "policy_blocked"
  terminal := some true
  successful := some false
  checkpointRef := item.providerReference
  exitCode := some 1
  allocatedUnits := some item.reservedUnits
  driverEpochId := item.driverEpochId
  providerDispatchId := item.providerDispatchId
  providerResultId := item.providerResultId
  providerReference := item.providerReference
  idempotencyKey := item.providerIdempotencyKey
  errorReason := some reason

/-- `_policy_block` with `persistence_allowed=False`. -/
def policyRefusal (item : AgentWorkItem) (reason scope : String) : SliceResult := { policyBlock item reason with
  persistenceAllowed := some false
  rejectionScope := some scope
  rejectedGeneration := some (some item.generation)
  rejectedProviderDispatchId := item.providerDispatchId
  rejectedProviderResultId := item.providerResultId
  rejectedIdempotencyKey := item.providerIdempotencyKey }

/-- `_with_expected_work_binding`. -/
def SliceResult.expecting (result : SliceResult) (expected : WorkBinding) : SliceResult := { result with
  expectedWorkBinding := some (.binding expected) }

/-- The names of the fields that differ. -/
def differing (fields : List (String × Bool)) : List String := (fields.filter (·.2)).map Prod.fst

/-- `", ".join(sorted(set(mismatches)))`. -/
def joinedFields (mismatches : List String) : String := ", ".intercalate (mismatches.dedup.insertionSort textLe)

def initialMismatches (persisted item : AgentWorkItem) (allocatedUnits : ℚ) : List String :=
  differing [
    ("project_id",persisted.projectId ≠ item.projectId),
    ("agent_session_id",persisted.agentSessionId ≠ item.agentSessionId),
    ("provider_id",persisted.providerId ≠ item.providerId),
    ("limit_id",persisted.limitId ≠ item.limitId),
    ("usage_unit",persisted.usageUnit ≠ item.usageUnit),
    ("owner_thread",persisted.ownerThread ≠ item.ownerThread),
    ("driver_epoch_id",persisted.driverEpochId ≠ item.driverEpochId),
    ("provider_dispatch_id",persisted.providerDispatchId ≠ item.providerDispatchId),
    ("provider_result_id",persisted.providerResultId ≠ item.providerResultId),
    ("provider_reference",persisted.providerReference ≠ item.providerReference),
    ("provider_idempotency_key",persisted.providerIdempotencyKey ≠ item.providerIdempotencyKey),
    ("provider_dispatch_state",persisted.providerDispatchState ≠ item.providerDispatchState),
    ("source_state",item.state ∉ eligibleStates),
    ("state",persisted.state ≠ .running),
    ("generation",persisted.generation ≠ item.generation + 1),
    ("reserved_units",persisted.reservedUnits ≠ allocatedUnits)]

def reconcileMismatches (persisted item : AgentWorkItem) : List String :=
  differing [
    ("project_id",persisted.projectId ≠ item.projectId),
    ("agent_session_id",persisted.agentSessionId ≠ item.agentSessionId),
    ("provider_id",persisted.providerId ≠ item.providerId),
    ("limit_id",persisted.limitId ≠ item.limitId),
    ("usage_unit",persisted.usageUnit ≠ item.usageUnit),
    ("owner_thread",persisted.ownerThread ≠ item.ownerThread),
    ("generation",persisted.generation ≠ item.generation),
    ("state",persisted.state ≠ item.state),
    ("reserved_units",persisted.reservedUnits ≠ item.reservedUnits),
    ("driver_epoch_id",persisted.driverEpochId ≠ item.driverEpochId),
    ("provider_dispatch_id",persisted.providerDispatchId ≠ item.providerDispatchId),
    ("provider_result_id",persisted.providerResultId ≠ item.providerResultId),
    ("provider_reference",persisted.providerReference ≠ item.providerReference),
    ("provider_idempotency_key",persisted.providerIdempotencyKey ≠ item.providerIdempotencyKey),
    ("provider_dispatch_state",persisted.providerDispatchState ≠ item.providerDispatchState),
    ("pause_reason",persisted.pauseReason ≠ item.pauseReason),
    ("resume_at",persisted.resumeAt ≠ item.resumeAt),
    ("lifecycle_state",persisted.state ≠ .running)]

def validateEpoch (item : AgentWorkItem) (sessionId : String) (epoch : RecoveredEpoch) : Option SliceResult :=
  if epoch.providerId ≠ item.providerId then
    some (policyBlock item "recovered epoch provider does not match work provider")
  else if epoch.sessionId ≠ sessionId then
    some (policyBlock item "recovered epoch session does not match work session")
  else if item.driverEpochId.getD "" ≠ "" ∧ some epoch.id ≠ item.driverEpochId then
    some (policyBlock item "recovered driver epoch does not match dispatched work")
  else none

def AgentOperationState.isTerminal (state : AgentOperationState) : Bool :=
  state ∈ [.succeeded,.failed,.blocked,.cancelled,.quarantined]

def providerResult (item : AgentWorkItem) (sessionId : String) (epoch : RecoveredEpoch) (result : DispatchResult) (allocatedUnits : ℚ)
    (idempotencyKey : String) (expectedDispatchId : Option String) (expected : WorkBinding) : SliceResult :=
  let mismatches := differing [
    ("provider_id",result.providerId ≠ item.providerId),
    ("session_id",result.sessionId ≠ sessionId),
    ("driver_epoch_id",result.driverEpochId ≠ epoch.id),
    ("request_id",expectedDispatchId.any (· ≠ result.requestId))]
  if mismatches ≠ [] then
    (policyBlock item ("provider result binding mismatch: " ++ ", ".intercalate (mismatches.insertionSort textLe))).expecting expected
  else {
    status := some result.state.value
    completed := result.state = .succeeded
    terminal := some (AgentOperationState.isTerminal result.state)
    successful := some (result.state = .succeeded)
    checkpointRef := result.providerReference
    exitCode := if result.state = .succeeded then some 0 else if AgentOperationState.isTerminal result.state then some 1 else none
    allocatedUnits := some allocatedUnits
    driverEpochId := some epoch.id
    providerDispatchId := some result.requestId
    providerResultId := some result.id
    providerReference := result.providerReference
    idempotencyKey := some idempotencyKey
    expectedWorkBinding := some (.binding expected) }

/-- The binding of an item whose slice has been started. -/
def startedBinding (item : AgentWorkItem) (allocatedUnits : ℚ) : WorkBinding :=
  AgentWorkItem.durableBinding { item with state := .running, generation := item.generation + 1, reservedUnits := allocatedUnits }

/-! ### The executor -/

structure ProviderWorkExecutor where
  /-- An agent manager was given. -/
  agentManager : Bool := true
  /-- The work store was given. -/
  workStore : Bool := true
  codexPath : String := "codex"

namespace ProviderWorkExecutor

/-- `_load_persisted_work`: the stored item, or the result that stops the slice. -/
def loadPersistedWork (executor : ProviderWorkExecutor) (item : AgentWorkItem) : ExecutorProg (Option AgentWorkItem ⊕ SliceResult) :=
  let blocked := fun text => policyRefusal item ("persisted work could not be loaded: " ++ text) "persisted_work_load"
  if executor.workStore = false then pure (.inl none)
  else rescue (do
    let persisted ← (loadWork item.id : ExecutorProg AgentWorkItem)
    return .inl (some persisted)) fun e => match e with
      | .key workId => pure (.inr (blocked (reprText workId)))
      | .value message => pure (.inr (blocked message))
      | e => raise e

/-- The stored item is checked for mismatches, when there is a work store. -/
def validateWork (executor : ProviderWorkExecutor) (item : AgentWorkItem) (mismatches : AgentWorkItem → List String)
    (what scope : String) : ExecutorProg (Option SliceResult) := do
  let loaded ← executor.loadPersistedWork item
  match loaded with
  | .inr blocked => pure (some blocked)
  | .inl none => pure none
  | .inl (some persisted) =>
    if mismatches persisted = [] then pure none
    else pure (some (policyRefusal item (what ++ joinedFields (mismatches persisted)) scope))

def validateInitialWorkTransition (executor : ProviderWorkExecutor) (item : AgentWorkItem) (allocatedUnits : ℚ) :
    ExecutorProg (Option SliceResult) :=
  executor.validateWork item (initialMismatches · item allocatedUnits) "persisted work transition mismatch: " "initial_transition"

def validateReconcileWorkBinding (executor : ProviderWorkExecutor) (item : AgentWorkItem) : ExecutorProg (Option SliceResult) :=
  executor.validateWork item (reconcileMismatches · item) "persisted work binding mismatch: " "reconcile_binding"

def validatePersistedSession (item : AgentWorkItem) (sessionId : String) : ExecutorProg (Option SliceResult) := do
  let hasStore ← (Prog.ask ExecutorQuery.managerStore : ExecutorProg Bool)
  if hasStore = false then pure (some (policyBlock item "agent manager cannot reload persisted work session"))
  else do
    let loaded ← (Prog.ask (ExecutorQuery.loadAgentSession sessionId) : ExecutorProg (Option (Except String PersistedSession)))
    let session ← orRaise loaded .outside
    match session with
    | .error text => pure (some (policyBlock item ("persisted work session could not be loaded: " ++ text)))
    | .ok session =>
      if session.id ≠ sessionId then pure (some (policyBlock item "persisted session id does not match work session"))
      else if session.providerId ≠ item.providerId then
        pure (some (policyBlock item "persisted session provider does not match work provider"))
      else pure none

/-- From the session to the result, for a slice whose stored item was found as it should be. -/
def dispatchSlice (item : AgentWorkItem) (sessionId prompt : String) (allocatedUnits : ℚ) (idempotencyKey : String)
    (expectedDispatchId : Option String) (expected : WorkBinding) : ExecutorProg SliceResult := do
  let blocked ← validatePersistedSession item sessionId
  match blocked with
  | some blocked => pure (blocked.expecting expected)
  | none =>
    let recovered ← (Prog.ask (ExecutorQuery.recover sessionId "quark") : ExecutorProg (Option RecoveredEpoch))
    let epoch ← orRaise recovered .outside
    match validateEpoch item sessionId epoch with
    | some blocked => pure (blocked.expecting expected)
    | none =>
      let dispatched ← (Prog.ask (ExecutorQuery.dispatch epoch.instanceId prompt idempotencyKey "quark") :
        ExecutorProg (Option DispatchResult))
      let result ← orRaise dispatched .outside
      return providerResult item sessionId epoch result allocatedUnits idempotencyKey expectedDispatchId expected

/-- The slice of legacy work resumes its thread on the command line. -/
def runCodex (executor : ProviderWorkExecutor) (item : AgentWorkItem) (prompt : String) : ExecutorProg SliceResult := do
  let ownerThread ← orRaise (item.ownerThread.filter (· ≠ "")) (.value "legacy Codex execution requires owner_thread")
  let ran ← (Prog.ask (ExecutorQuery.run [executor.codexPath,"exec","resume",ownerThread,prompt,"--json"]) :
    ExecutorProg (Option CompletedProcess))
  let completed ← orRaise ran .outside
  let output := completed.stdout.getD ""
  let workCompleted := hasPart output "QUARK_WORK_COMPLETED"
  return {
    status := some (if workCompleted then "completed" else "checkpointed")
    completed := workCompleted
    terminal := some true
    successful := some (completed.returncode = 0)
    checkpointRef := checkpointNamed output
    exitCode := some completed.returncode }

def runSlice (executor : ProviderWorkExecutor) (item : AgentWorkItem) (allocatedUnits : ℚ) (prompt : String) : ExecutorProg SliceResult :=
  match executor.agentManager,item.agentSessionId with
  | true,some sessionId => do
    let blocked ← executor.validateInitialWorkTransition item allocatedUnits
    match blocked with
    | some blocked => pure blocked
    | none =>
      let idempotencyKey := s!"quark:{item.id}:{item.generation + 1}"
      dispatchSlice item sessionId prompt allocatedUnits idempotencyKey none (startedBinding item allocatedUnits)
  | _,_ => executor.runCodex item prompt

def reconcileSlice (executor : ProviderWorkExecutor) (item : AgentWorkItem) (prompt : String) : ExecutorProg SliceResult :=
  match executor.agentManager,item.agentSessionId with
  | true,some sessionId => do
    let idempotencyKey ← orRaise (item.providerIdempotencyKey.filter (· ≠ "")) (.value "provider reconciliation requires idempotency key")
    let blocked ← executor.validateReconcileWorkBinding item
    match blocked with
    | some blocked => pure blocked
    | none => dispatchSlice item sessionId prompt item.reservedUnits idempotencyKey item.providerDispatchId item.durableBinding
  | _,_ => raise (.value "provider reconciliation requires agent manager and session id")

/-- The outside of a cycle that is given this executor. -/
def serve (executor : ProviderWorkExecutor) : (q : QuarkQuery) → ExecutorProg (QuarkAnswer q)
  | .refresh => Prog.ask ExecutorQuery.refresh
  | .timestamp => Prog.ask ExecutorQuery.timestamp
  | .runSlice item allocation prompt => some <$> executor.runSlice item allocation.allocatedUnits prompt
  | .reconcileSlice item prompt => some <$> executor.reconcileSlice item prompt

end ProviderWorkExecutor
end Overseer.Quark
