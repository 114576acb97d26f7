import Overseer.Quark.Store

/-! # Scheduling cycles

`QuarkSchedulerService.run_cycle` of `quark_scheduler.py` and the commands that register
work. A call to the usage source or the executor that raises answers `none`.
-/
namespace Overseer.Quark
open Overseer.Library Overseer.Agent

/-! ### Usage -/

/-- A usage window. `remainingPercent` tells a missing key from one that holds no number. -/
structure UsageWindow where
  name : String
  remainingUnits : Option ℚ := none
  remaining : Option ℚ := none
  remainingPercent : Option (Option ℚ) := none
  usageUnit : Option String := none
  resetsAt : Option String := none

structure UsageLimit where
  limitId : String
  windows : List UsageWindow

structure UsageSnapshot where
  rateLimits : List UsageLimit
  observedAt : Option String := none
  lifetimeTokens : Option ℤ := none

def usageWindow (snapshot : UsageSnapshot) (limitId : String) : Option UsageWindow :=
  ((snapshot.rateLimits.filter (·.limitId = limitId)).flatMap (·.windows)).find? (·.name = "primary")

def windowRemainingCapacity (window : UsageWindow) : Option ℚ :=
  window.remainingUnits <|> window.remaining <|> window.remainingPercent.join

def legacyCodexWork (items : List AgentWorkItem) : Bool :=
  items.all fun item => item.agentSessionId = none ∧ item.providerId = "codex" ∧ item.usageUnit = "quota_points"

/-- The unit of the window; a window of percentages counts the quota points of Codex work. -/
def windowUnit (window : UsageWindow) (relevantWork : List AgentWorkItem) : Option String :=
  match window.usageUnit with
  | some unit => some unit
  | none => if legacyCodexWork relevantWork ∧ window.remainingPercent.isSome then some "quota_points" else none

def usageUnitMismatchReason (window : UsageWindow) (work : List AgentWorkItem) (limitId : String) : Option String :=
  let relevantWork := work.filter (·.state ∈ WorkState.running :: eligibleStates)
  let workUnits := (relevantWork.map (·.usageUnit)).dedup
  if relevantWork = [] then none
  else if workUnits.length ≠ 1 ∨ ¬ (windowUnit window relevantWork).any (· ∈ workUnits) then
    let expected := ", ".intercalate (workUnits.insertionSort textLe)
    let observed := (windowUnit window relevantWork).getD "missing"
    some s!"usage unit mismatch for {limitId}: queued work requires {expected}; usage window reports {observed}"
  else none

/-! ### The executor -/

/-- What an executor says of a slice. -/
structure SliceResult where
  persistenceAllowed : Option Bool := none
  expectedWorkBinding : Option ExpectedBinding := none
  terminal : Option Bool := none
  successful : Option Bool := none
  exitCode : Option ℤ := none
  completed : Bool := false
  status : Option String := none
  checkpointRef : Option String := none
  allocatedUnits : Option ℚ := none
  providerDispatchId : Option String := none
  providerResultId : Option String := none
  providerReference : Option String := none
  idempotencyKey : Option String := none
  driverEpochId : Option String := none
  rejectionScope : Option String := none
  errorReason : Option String := none
  rejectedGeneration : Option (Option ℕ) := none
  rejectedProviderDispatchId : Option String := none
  rejectedProviderResultId : Option String := none
  rejectedIdempotencyKey : Option String := none

def SliceResult.isTerminal (r : SliceResult) : Bool := r.terminal.getD r.exitCode.isSome
def SliceResult.isSuccessful (r : SliceResult) : Bool := r.successful.getD (r.exitCode = none || r.exitCode = some 0)

/-- What a cycle reports of a slice. -/
structure ExecutionPayload where
  workId : String
  generation : Option ℕ
  durableGeneration : Option ℕ := none
  allocatedUnits : ℚ
  allocatedQuotaPoints : Option ℚ
  usageUnit : String
  providerId : String
  limitId : String
  status : Option String
  exitCode : Option ℤ
  checkpointRef : Option String
  providerDispatchId : Option String
  providerResultId : Option String
  providerReference : Option String
  capacityConfidence : String
  persistencePerformed : Bool
  rejectionScope : Option String := none
  errorReason : Option String := none
  rejectedIdempotencyKey : Option String := none

def checkpointPrompt (item : AgentWorkItem) (allocation : WorkAllocation) : String :=
  s!"Quark work slice {item.id} generation {allocation.generation}. " ++
  s!"Continue this durable project work: {item.intent}. " ++
  "Work only through one bounded, coherent step. Before ending, create a durable checkpoint " ++
  "(commit when appropriate, otherwise preserve a clean status and exact next action). " ++
  "End with `QUARK_CHECKPOINT: <reference>` when more work remains, or " ++
  "`QUARK_WORK_COMPLETED` when the requested work is genuinely finished. " ++
  "Do not start another broad step after the checkpoint."

/-- The questions of a cycle. A slice is started for an allocation, whose generation the
prompt names. -/
inductive QuarkQuery where
  | refresh
  | timestamp
  | runSlice (item : AgentWorkItem) (allocation : WorkAllocation) (prompt : String)
  | reconcileSlice (item : AgentWorkItem) (prompt : String)

@[reducible] def QuarkAnswer : QuarkQuery → Type
  | .refresh => Option UsageSnapshot
  | .timestamp => String
  | .runSlice _ _ _ | .reconcileSlice _ _ => Option SliceResult

/-! ### The service -/

structure QuarkSchedulerService where
  policy : QuarkUsagePolicy := .standard
  workFilter : AgentWorkItem → Bool := fun _ => true
  /-- The executor has `reconcile_slice`. -/
  canReconcile : Bool := true

/-- What a cycle plans from the rows it lists. -/
structure Planning where
  service : QuarkSchedulerService
  limitId : String
  window : UsageWindow
  /-- The rows are also checked for the unit of the window. -/
  checksUnit : Bool

/-- What a transaction is about to do with rows that were read before. -/
inductive Held where
  | plain
  | registering (workId : String)
  | planning (p : Planning)
  | reserving (allocation : WorkAllocation)
  | sweeping (workId : String)
  | settling (item : AgentWorkItem)

instance : Inhabited Held := ⟨.plain⟩

abbrev QuarkProg := Prog QuarkStore Held QuarkAnswer QuarkError
abbrev QuarkWorld := World QuarkStore Held QuarkAnswer QuarkError Unit
abbrev QuarkSystem := System QuarkStore Held QuarkAnswer QuarkError Unit

def QuarkSchedulerService.workForLimit (service : QuarkSchedulerService) (limitId : String) (s : QuarkStore) :
    List AgentWorkItem := s.listed.filter fun item => item.limitId = limitId ∧ service.workFilter item = true

/-- The capacity handed to the planner: a scalar for the work of Codex alone. -/
def capacityArgument (limitId : String) (remaining : Option ℚ) (work : List AgentWorkItem) : Capacity :=
  match remaining with
  | some points =>
    if limitId = "codex" ∧ ∀ item ∈ work, item.providerId = "codex" ∧ item.usageUnit = "quota_points" then .scalar points
    else .byLimit (Dict.empty.set limitId (some points))
  | none => .byLimit (Dict.empty.set limitId none)

def Planning.plan (p : Planning) (work : List AgentWorkItem) : ExceptT PlanError Option QuarkWorkPlan :=
  planQuarkWork p.service.policy (capacityArgument p.limitId (windowRemainingCapacity p.window) work) work

/-- The allocations the cycle starts. -/
def Planning.selection (p : Planning) (plan : QuarkWorkPlan) : List WorkAllocation :=
  plan.allocations.take p.service.policy.maxConcurrentWork

/-- The allocations that a cycle which lists the rows of `s` selects. -/
def Planning.selected (p : Planning) (s : QuarkStore) : List WorkAllocation :=
  let work := p.service.workForLimit p.limitId s
  if p.checksUnit ∧ (usageUnitMismatchReason p.window work p.limitId).isSome then []
  else match p.plan work with
    | some (.ok plan) => p.selection plan
    | _ => []

namespace Cycle

def refresh : QuarkProg UsageSnapshot := do
  let snapshot ← (Prog.ask QuarkQuery.refresh : QuarkProg (Option UsageSnapshot))
  orRaise snapshot .outside

/-- The time of a snapshot, or now. -/
def observedAt (snapshot : UsageSnapshot) : QuarkProg String :=
  match snapshot.observedAt with
  | some t => if t = "" then Prog.ask QuarkQuery.timestamp else pure t
  | none => Prog.ask QuarkQuery.timestamp

def window (snapshot : UsageSnapshot) (limitId : String) : QuarkProg UsageWindow :=
  orRaise (usageWindow snapshot limitId) (.value s!"usage snapshot does not include a primary window for {limitId}")

def workForLimit (service : QuarkSchedulerService) (limitId : String) (held : Held) : QuarkProg (List AgentWorkItem) := do
  let rows ← (listWork : QuarkProg _).holding held
  return rows.filter fun item => item.limitId = limitId ∧ service.workFilter item = true

/-! ### Results -/

def withResult (item : AgentWorkItem) (result : SliceResult) (observedAt : String) : AgentWorkItem := { item with
  providerDispatchId := result.providerDispatchId
  providerResultId := result.providerResultId
  providerReference := result.providerReference
  providerIdempotencyKey := result.idempotencyKey
  providerDispatchState := result.status
  driverEpochId := result.driverEpochId
  updatedAt := some observedAt }

/-- The item as a result leaves it, the checkpoint of a successful slice apart. -/
def recordedWork (item : AgentWorkItem) (result : SliceResult) (capacityAfter : Option ℚ) (observedAt : String) : AgentWorkItem :=
  let changed := withResult item result observedAt
  if ¬ result.isTerminal then { changed with state := .running }
  else if result.isSuccessful then
    if capacityAfter.isSome then changed
    else { changed with
      state := .reconcileRequired
      pauseReason := some "provider completed but post-dispatch capacity is unknown; reconcile usage before resuming" }
  else { changed with
    state := if result.status = some "blocked" then .blocked else .reconcileRequired
    reservedUnits := 0
    pauseReason := some ("provider dispatch ended without success: " ++ result.status.getD "unknown") }

/-- The checkpoint of a slice that ended well under a known capacity. -/
def checkpointOf (result : SliceResult) (capacityAfter : Option ℚ) (lifetimeTokens : Option ℤ) (observedAt : String) :
    Option Checkpoint :=
  if result.isTerminal ∧ result.isSuccessful then
    capacityAfter.map fun quotaAfter => ⟨quotaAfter,lifetimeTokens,observedAt,result.completed,result.checkpointRef⟩
  else none

def quotaPoints (item : AgentWorkItem) (units : ℚ) : Option ℚ :=
  if item.providerId = "codex" ∧ item.usageUnit = "quota_points" then some units else none

def confidence (capacityAfter : Option ℚ) : String := if capacityAfter.isSome then "observed" else "unknown"

def recordedPayload (item : AgentWorkItem) (result : SliceResult) (capacityAfter : Option ℚ) : ExecutionPayload where
  workId := item.id
  generation := some item.generation
  allocatedUnits := item.reservedUnits
  allocatedQuotaPoints := quotaPoints item item.reservedUnits
  usageUnit := item.usageUnit
  providerId := item.providerId
  limitId := item.limitId
  status := result.status
  exitCode := result.exitCode
  checkpointRef := result.checkpointRef
  providerDispatchId := result.providerDispatchId
  providerResultId := result.providerResultId
  providerReference := result.providerReference
  capacityConfidence := confidence capacityAfter
  persistencePerformed := true

def checkpointIfAny {m : Type → Type} [MonadStore QuarkStore QuarkError m] (workId : String) (generation : ℕ)
    (c : Option Checkpoint) : m Unit :=
  match c with
  | some c => recordSliceCheckpoint workId generation c
  | none => pure ()

def observation (result : SliceResult) (capacityAfter : Option ℚ) (lifetimeTokens : Option ℤ) (observedAt : String) :
    Observation where
  capacityAfter := capacityAfter
  lifetimeTokensAfter := lifetimeTokens
  observedAt := observedAt
  capacityConfidence := confidence capacityAfter
  providerDispatchId := result.providerDispatchId
  providerResultId := result.providerResultId
  providerReference := result.providerReference

/-- The writes of `_persist_execution_result_unchecked`. -/
def recordResult {m : Type → Type} [MonadStore QuarkStore QuarkError m] (item : AgentWorkItem) (result : SliceResult)
    (capacityAfter : Option ℚ) (lifetimeTokens : Option ℤ) (observedAt : String) : m ExecutionPayload := do
  recordSliceObservation item.id item.generation (observation result capacityAfter lifetimeTokens observedAt)
  saveWork (recordedWork item result capacityAfter observedAt)
  checkpointIfAny item.id item.generation (checkpointOf result capacityAfter lifetimeTokens observedAt)
  return recordedPayload item result capacityAfter

/-- A result that must not be stored. -/
def rejectResult (item : AgentWorkItem) (result : SliceResult) : QuarkProg ExecutionPayload := do
  let durableItem ← rescue (loadWork item.id : QuarkProg AgentWorkItem) fun e => match e with
    | .key _ => pure item
    | e => raise e
  return {
    workId := item.id, generation := result.rejectedGeneration.getD (some item.generation)
    durableGeneration := some durableItem.generation, allocatedUnits := result.allocatedUnits.getD item.reservedUnits
    allocatedQuotaPoints := quotaPoints item (result.allocatedUnits.getD item.reservedUnits)
    usageUnit := item.usageUnit, providerId := item.providerId, limitId := item.limitId
    status := result.status, exitCode := result.exitCode, checkpointRef := result.checkpointRef
    providerDispatchId := result.rejectedProviderDispatchId, providerResultId := result.rejectedProviderResultId
    providerReference := result.providerReference, capacityConfidence := "not_recorded", persistencePerformed := false
    rejectionScope := result.rejectionScope, errorReason := result.errorReason
    rejectedIdempotencyKey := result.rejectedIdempotencyKey }

/-- The result of a slice whose row moved on under it. -/
def conflictResult (result : SliceResult) (expected : ExpectedBinding) : SliceResult := { result with
  persistenceAllowed := some false
  rejectionScope := some "persistence_compare_and_swap"
  errorReason := some "durable work binding advanced after provider validation; result was not persisted"
  rejectedGeneration := some expected.generation
  rejectedProviderDispatchId := result.providerDispatchId
  rejectedProviderResultId := result.providerResultId
  rejectedIdempotencyKey := result.idempotencyKey }

/-- `_persist_execution_result`. The clock is read before the transaction begins. -/
def persistExecutionResult (held : Held) (item : AgentWorkItem) (result : SliceResult) (capacityAfter : Option ℚ)
    (snapshot : UsageSnapshot) : QuarkProg ExecutionPayload :=
  if result.persistenceAllowed = some false then rejectResult item result
  else do
    let observedAt ← observedAt snapshot
    match result.expectedWorkBinding with
    | none => (recordResult item result capacityAfter snapshot.lifetimeTokens observedAt : QuarkProg _).holding held
    | some expected => do
      let outcome ← Prog.transaction held (underWorkBinding item.id expected
        (recordResult item result capacityAfter snapshot.lifetimeTokens observedAt))
      match outcome with
      | .done payload => pure payload
      | .refused current => rejectResult (current.getD item) (conflictResult result expected)

/-! ### One cycle -/

/-- A running item that the executor can be asked about. -/
def reconcilable (item : AgentWorkItem) : Bool :=
  item.state = .running ∧ item.agentSessionId ≠ none ∧ item.providerDispatchId ≠ none

/-- The allocation a running item holds. -/
def runningAllocation (item : AgentWorkItem) : WorkAllocation := { workAllocation item item.reservedUnits with
  generation := item.generation }

def reconcileSlice (running : AgentWorkItem) : QuarkProg SliceResult := do
  let result ← (Prog.ask (QuarkQuery.reconcileSlice running (checkpointPrompt running (runningAllocation running))) :
    QuarkProg (Option SliceResult))
  orRaise result .outside

def reconcileAll (remainingCapacity : Option ℚ) (before : UsageSnapshot) : List AgentWorkItem → QuarkProg (List ExecutionPayload)
  | [] => pure []
  | running :: rest => do
    let result ← reconcileSlice running
    let payload ← persistExecutionResult (.settling running) running result remainingCapacity before
    let payloads ← reconcileAll remainingCapacity before rest
    return payload :: payloads

def reserved (item : AgentWorkItem) (allocation : WorkAllocation) (startedAt : String) : AgentWorkItem := { item with
  state := .running
  reservedUnits := allocation.allocatedUnits
  generation := allocation.generation
  updatedAt := some startedAt }

def runSlice (item : AgentWorkItem) (allocation : WorkAllocation) : QuarkProg SliceResult := do
  let result ← (Prog.ask (QuarkQuery.runSlice item allocation (checkpointPrompt item allocation)) : QuarkProg (Option SliceResult))
  orRaise result .outside

/-- One pass of the loop over the selected allocations. -/
def executeSlice (limitId : String) (remainingCapacity : Option ℚ) (before : UsageSnapshot) (allocation : WorkAllocation) :
    QuarkProg ExecutionPayload := do
  let item ← (loadWork allocation.workId : QuarkProg _)
  let startedAt ← observedAt before
  (saveWork (reserved item allocation startedAt) : QuarkProg Unit).holding (.reserving allocation)
  recordSliceStart item.id allocation.generation remainingCapacity before.lifetimeTokens startedAt
  let result ← runSlice item allocation
  let after ← refresh
  let afterWindow ← window after limitId
  let current ← loadWork item.id
  persistExecutionResult .plain current result (windowRemainingCapacity afterWindow) after

def executeAll (limitId : String) (remainingCapacity : Option ℚ) (before : UsageSnapshot) :
    List WorkAllocation → QuarkProg (List ExecutionPayload)
  | [] => pure []
  | allocation :: rest => do
    let payload ← executeSlice limitId remainingCapacity before allocation
    let payloads ← executeAll limitId remainingCapacity before rest
    return payload :: payloads

/-- The items of the listing that wait for capacity are marked so. -/
def sweepAll (resumeAt : Option String) (reason : String) : List AgentWorkItem → QuarkProg Unit
  | [] => pure ()
  | item :: rest => do
    (markWaitingCapacity item.id resumeAt reason : QuarkProg Unit).holding (.sweeping item.id)
    sweepAll resumeAt reason rest

structure CycleResult where
  planned : ℕ
  executed : ℕ
  reconciled : ℕ
  reconcileResults : List ExecutionPayload
  allocations : List WorkAllocation := []
  results : List ExecutionPayload := []
  plan : QuarkWorkPlan
  resumeAt : Option String := none
  reason : String

def liftPlan (plan : ExceptT PlanError Option QuarkWorkPlan) : QuarkProg QuarkWorkPlan :=
  match plan with
  | some (.ok plan) => pure plan
  | some (.error e) => raise (.plan e)
  | none => raise .unending

/-- The cycle of a window that counts other units than the work. -/
def blockedCycle (p : Planning) (work : List AgentWorkItem) (reason : String) : QuarkProg CycleResult := do
  let plan ← liftPlan (planQuarkWork p.service.policy (.byLimit (Dict.empty.set p.limitId none)) work)
  return {
    planned := 0, executed := 0, reconciled := 0, reconcileResults := []
    plan := { plan with reason }, resumeAt := p.window.resetsAt, reason }

def sweepCycle (p : Planning) (work : List AgentWorkItem) (plan : QuarkWorkPlan) (reconcileResults : List ExecutionPayload) :
    QuarkProg CycleResult := do
  sweepAll p.window.resetsAt plan.reason (work.filter (·.state ∈ eligibleStates))
  return {
    planned := 0, executed := 0, reconciled := reconcileResults.length, reconcileResults
    plan, resumeAt := p.window.resetsAt, reason := plan.reason }

def executeCycle (p : Planning) (before : UsageSnapshot) (plan : QuarkWorkPlan) (reconcileResults : List ExecutionPayload) :
    QuarkProg CycleResult := do
  let selected := p.selection plan
  let results ← executeAll p.limitId (windowRemainingCapacity p.window) before selected
  return {
    planned := selected.length, executed := results.length, reconciled := reconcileResults.length, reconcileResults
    results, plan, reason := "bounded agent slices reached a natural turn checkpoint" }

def dryCycle (p : Planning) (plan : QuarkWorkPlan) (reconcileResults : List ExecutionPayload) : CycleResult where
  planned := (p.selection plan).length
  executed := 0
  reconciled := reconcileResults.length
  reconcileResults := reconcileResults
  allocations := p.selection plan
  plan := plan
  reason := "dry-run plan; no agent work was started"

/-- The cycle from the listing it plans on. -/
def planCycle (execute : Bool) (p : Planning) (before : UsageSnapshot) (work : List AgentWorkItem)
    (reconcileResults : List ExecutionPayload) : QuarkProg CycleResult := do
  let plan ← liftPlan (p.plan work)
  if plan.allocations = [] then sweepCycle p work plan reconcileResults
  else if execute then executeCycle p before plan reconcileResults
  else pure (dryCycle p plan reconcileResults)

/-- The cycle that first asks about the running items and lists the work again. -/
def reconcileCycle (p : Planning) (before : UsageSnapshot) (work : List AgentWorkItem) : QuarkProg CycleResult := do
  let reconcileResults ← reconcileAll (windowRemainingCapacity p.window) before (work.filter reconcilable)
  let work ← workForLimit p.service p.limitId (.planning { p with checksUnit := false })
  planCycle true p before work reconcileResults

/-- The first listing is the one planned on when nothing is reconciled. -/
def firstListing (execute : Bool) (p : Planning) : Held :=
  if execute = true ∧ p.service.canReconcile = false then .planning p else .plain

def listedCycle (execute : Bool) (p : Planning) (before : UsageSnapshot) (work : List AgentWorkItem) : QuarkProg CycleResult :=
  match usageUnitMismatchReason p.window work p.limitId with
  | some reason => blockedCycle p work reason
  | none => if execute = true ∧ p.service.canReconcile = true then reconcileCycle p before work
    else planCycle execute p before work []

def runCycle (service : QuarkSchedulerService) (execute : Bool) (limitId : String) : QuarkProg CycleResult := do
  let before ← refresh
  let window ← window before limitId
  let p : Planning := ⟨service,limitId,window,true⟩
  let work ← workForLimit service limitId (firstListing execute p)
  listedCycle execute p before work

end Cycle

/-! ### Registration -/

def registerWork (f : WorkFields) : QuarkProg Unit :=
  match agentWorkItem f with
  | .ok item => (saveWork item : QuarkProg Unit).holding (.registering item.id)
  | .error e => raise e

def registerAgentWork (f : WorkFields) (usageUnit : Option String) : QuarkProg Unit :=
  if usageUnit.getD "" = "" then raise (.value "--usage-unit is required for provider-native work")
  else registerWork { f with usageUnit := usageUnit.getD "" }

end Overseer.Quark
