import Overseer.Quark.Plan
import Overseer.Library.Schedule

/-! # The work store of the scheduler

`QuarkWorkStore` of `quark_scheduler.py`: one row for each work item and one for each slice,
which is named by its item and its generation. A store method commits by itself in a
program; between `begin_work_binding_cas` and `finish_work_binding_cas` it joins the
transaction.
-/
namespace Overseer.Quark
open Overseer.Library Overseer.Agent

inductive QuarkError where
  | value (message : String)
  | key (workId : String)
  | sliceKey (workId : String) (generation : ℕ)
  | type
  | plan (e : PlanError)
  | unending
  | outside
  deriving DecidableEq

structure SliceRow where
  workId : String
  projectId : String
  providerId : String
  limitId : String
  usageUnit : String
  generation : ℕ
  quotaBefore : Option ℚ
  quotaAfter : Option ℚ := none
  actualUnits : Option ℚ := none
  capacityConfidence : String := "observed"
  lifetimeTokensBefore : Option ℤ
  lifetimeTokensAfter : Option ℤ := none
  actualQuotaPoints : Option ℚ := none
  actualTokens : Option ℤ := none
  startedAt : String
  checkpointedAt : Option String := none
  checkpointRef : Option String := none
  completed : Bool := false
  attributionConfidence : String := "shared"
  providerDispatchId : Option String
  providerResultId : Option String
  providerReference : Option String
  lastObservedAt : Option String := none

/-- The two tables. Every item is filed under its id. -/
structure QuarkStore where
  work : Dict AgentWorkItem := .empty
  slices : String → ℕ → Option SliceRow := fun _ _ => none
  keyed : ∀ workId item, work.get? workId = some item → item.id = workId := by simp

namespace QuarkStore

def empty : QuarkStore := {}

/-- `INSERT OR REPLACE INTO quark_work_items`. -/
def putWork (s : QuarkStore) (item : AgentWorkItem) : QuarkStore where
  work := s.work.set item.id item
  slices := s.slices
  keyed workId row h := by
    rw [Dict.get?_set] at h
    split at h
    · next hid =>
      cases h
      exact hid.symm
    · exact s.keyed workId row h

/-- `INSERT OR REPLACE INTO quark_work_slices`. -/
def putSlice (s : QuarkStore) (workId : String) (generation : ℕ) (row : SliceRow) : QuarkStore where
  work := s.work
  slices id g := if id = workId ∧ g = generation then some row else s.slices id g
  keyed := s.keyed

@[simp] theorem putWork_work (s : QuarkStore) (item : AgentWorkItem) (workId : String) :
    (s.putWork item).work.get? workId = if workId = item.id then some item else s.work.get? workId :=
  Dict.get?_set _ _ _ _

@[simp] theorem putWork_slices (s : QuarkStore) (item : AgentWorkItem) : (s.putWork item).slices = s.slices := rfl

@[simp] theorem putSlice_work (s : QuarkStore) (workId : String) (generation : ℕ) (row : SliceRow) :
    (s.putSlice workId generation row).work = s.work := rfl

@[simp] theorem putSlice_slices (s : QuarkStore) (workId id : String) (generation g : ℕ) (row : SliceRow) :
    (s.putSlice workId generation row).slices id g = if id = workId ∧ g = generation then some row else s.slices id g := rfl

end QuarkStore

abbrev QuarkTx := Tx QuarkStore QuarkError

/-- `(project_id, id)` in order. -/
def listedBefore (a b : AgentWorkItem) : Prop := a.projectId ≠ b.projectId ∧ textLe a.projectId b.projectId ∨
  a.projectId = b.projectId ∧ textLe a.id b.id
instance : DecidableRel listedBefore := fun a b => inferInstanceAs (Decidable (a.projectId ≠ b.projectId ∧
  textLe a.projectId b.projectId ∨ a.projectId = b.projectId ∧ textLe a.id b.id))

/-- The rows in the order of `list_work`. -/
def QuarkStore.listed (s : QuarkStore) : List AgentWorkItem := s.work.values.insertionSort listedBefore

/-- `max(0, after - before)` when both are known. -/
def tokensBetween (before after : Option ℤ) : Option ℤ := do return max 0 ((← after) - (← before))

/-- The units in quota points, for the rows that Codex callers read. -/
def SliceRow.quotaPoints (row : SliceRow) (units : Option ℚ) : Option ℚ :=
  if row.providerId = "codex" ∧ row.usageUnit = "quota_points" then units else none

/-- What an observation writes into a slice. -/
structure Observation where
  capacityAfter : Option ℚ
  lifetimeTokensAfter : Option ℤ
  observedAt : String
  capacityConfidence : String
  providerDispatchId : Option String
  providerResultId : Option String
  providerReference : Option String

def SliceRow.observed (row : SliceRow) (o : Observation) (units : Option ℚ) : SliceRow := { row with
  quotaAfter := o.capacityAfter
  capacityConfidence := o.capacityConfidence
  lifetimeTokensAfter := o.lifetimeTokensAfter
  actualUnits := units
  actualQuotaPoints := row.quotaPoints units
  actualTokens := tokensBetween row.lifetimeTokensBefore o.lifetimeTokensAfter
  lastObservedAt := some o.observedAt
  providerDispatchId := o.providerDispatchId
  providerResultId := o.providerResultId
  providerReference := o.providerReference }

/-- What a checkpoint writes into a slice. -/
structure Checkpoint where
  quotaAfter : ℚ
  lifetimeTokensAfter : Option ℤ
  observedAt : String
  completed : Bool
  checkpointRef : Option String

def SliceRow.checkpointed (row : SliceRow) (c : Checkpoint) (units : ℚ) : SliceRow := { row with
  quotaAfter := some c.quotaAfter
  capacityConfidence := "observed"
  lifetimeTokensAfter := c.lifetimeTokensAfter
  actualUnits := some units
  actualQuotaPoints := row.quotaPoints (some units)
  actualTokens := tokensBetween row.lifetimeTokensBefore c.lifetimeTokensAfter
  checkpointedAt := some c.observedAt
  checkpointRef := c.checkpointRef
  completed := c.completed }

/-- What the slice used: the capacity before it less the capacity after it. -/
def SliceRow.used (row : SliceRow) (after : ℚ) : Except QuarkError ℚ :=
  match row.quotaBefore with
  | some before => .ok (max 0 (before - after))
  | none => .error .type

def SliceRow.usedIfKnown (row : SliceRow) (after : Option ℚ) : Except QuarkError (Option ℚ) :=
  match after with
  | some after => row.used after |>.map some
  | none => .ok none

/-- The item as a checkpoint leaves it. -/
def AgentWorkItem.checkpointed (item : AgentWorkItem) (c : Checkpoint) : AgentWorkItem := { item with
  state := if c.completed then .completed else .checkpointed
  reservedUnits := 0
  checkpointRef := c.checkpointRef
  pauseReason := none
  resumeAt := none
  updatedAt := some c.observedAt }

def AgentWorkItem.waitingCapacity (item : AgentWorkItem) (resumeAt : Option String) (reason : String) : AgentWorkItem :=
  { item with state := .waitingCapacity, reservedUnits := 0, pauseReason := some reason, resumeAt }

/-- A new slice of an item. -/
def startedSlice (item : AgentWorkItem) (generation : ℕ) (quotaBefore : Option ℚ) (lifetimeTokensBefore : Option ℤ)
    (observedAt : String) : SliceRow where
  workId := item.id
  projectId := item.projectId
  providerId := item.providerId
  limitId := item.limitId
  usageUnit := item.usageUnit
  generation := generation
  quotaBefore := quotaBefore
  lifetimeTokensBefore := lifetimeTokensBefore
  startedAt := observedAt
  providerDispatchId := item.providerDispatchId
  providerResultId := item.providerResultId
  providerReference := item.providerReference

def liftTx {α : Type} (r : Except QuarkError α) : QuarkTx α :=
  match r with
  | .ok a => pure a
  | .error e => raise e

/-! ### Statements -/

namespace QuarkTx

def loadWork (workId : String) : QuarkTx AgentWorkItem := do
  let row ← Tx.read (·.work.get? workId)
  orRaise row (.key workId)

def loadSlice (workId : String) (generation : ℕ) : QuarkTx SliceRow := do
  let row ← Tx.read (·.slices workId generation)
  orRaise row (.sliceKey workId generation)

def saveWork (item : AgentWorkItem) : QuarkTx Unit := Tx.write (·.putWork item)

def recordSliceStart (workId : String) (generation : ℕ) (quotaBefore : Option ℚ) (lifetimeTokensBefore : Option ℤ)
    (observedAt : String) : QuarkTx Unit := do
  let item ← loadWork workId
  Tx.write (·.putSlice workId generation (startedSlice item generation quotaBefore lifetimeTokensBefore observedAt))
  saveWork { item with state := .running, generation, updatedAt := some observedAt }

def recordSliceCheckpoint (workId : String) (generation : ℕ) (c : Checkpoint) : QuarkTx Unit := do
  let row ← loadSlice workId generation
  let units ← liftTx (row.used c.quotaAfter)
  Tx.write (·.putSlice workId generation (row.checkpointed c units))
  let item ← loadWork workId
  saveWork (item.checkpointed c)

def recordSliceObservation (workId : String) (generation : ℕ) (o : Observation) : QuarkTx Unit := do
  let row ← loadSlice workId generation
  let units ← liftTx (row.usedIfKnown o.capacityAfter)
  Tx.write (·.putSlice workId generation (row.observed o units))

def markWaitingCapacity (workId : String) (resumeAt : Option String) (reason : String) : QuarkTx Unit := do
  let item ← loadWork workId
  saveWork (item.waitingCapacity resumeAt reason)

end QuarkTx

/-! ### Methods -/

section Methods
variable {m : Type → Type} [MonadStore QuarkStore QuarkError m]

def saveWork (item : AgentWorkItem) : m Unit := atomically (QuarkTx.saveWork item)
def loadWork (workId : String) : m AgentWorkItem := atomically (QuarkTx.loadWork workId)
def listWork : m (List AgentWorkItem) := atomically (Tx.read QuarkStore.listed)
def recordSliceStart (workId : String) (generation : ℕ) (quotaBefore : Option ℚ) (lifetimeTokensBefore : Option ℤ)
    (observedAt : String) : m Unit :=
  atomically (QuarkTx.recordSliceStart workId generation quotaBefore lifetimeTokensBefore observedAt)
def recordSliceCheckpoint (workId : String) (generation : ℕ) (c : Checkpoint) : m Unit :=
  atomically (QuarkTx.recordSliceCheckpoint workId generation c)
def recordSliceObservation (workId : String) (generation : ℕ) (o : Observation) : m Unit :=
  atomically (QuarkTx.recordSliceObservation workId generation o)
def markWaitingCapacity (workId : String) (resumeAt : Option String) (reason : String) : m Unit :=
  atomically (QuarkTx.markWaitingCapacity workId resumeAt reason)

end Methods

/-- `_durable_work_binding`. -/
structure WorkBinding where
  projectId : String
  agentSessionId : Option String
  providerId : String
  limitId : String
  usageUnit : String
  ownerThread : Option String
  generation : ℕ
  state : WorkState
  reservedUnits : ℚ
  driverEpochId : Option String
  providerDispatchId : Option String
  providerResultId : Option String
  providerReference : Option String
  providerIdempotencyKey : Option String
  providerDispatchState : Option String
  pauseReason : Option String
  resumeAt : Option String
  deriving DecidableEq

def AgentWorkItem.durableBinding (item : AgentWorkItem) : WorkBinding where
  projectId := item.projectId
  agentSessionId := item.agentSessionId
  providerId := item.providerId
  limitId := item.limitId
  usageUnit := item.usageUnit
  ownerThread := item.ownerThread
  generation := item.generation
  state := item.state
  reservedUnits := item.reservedUnits
  driverEpochId := item.driverEpochId
  providerDispatchId := item.providerDispatchId
  providerResultId := item.providerResultId
  providerReference := item.providerReference
  providerIdempotencyKey := item.providerIdempotencyKey
  providerDispatchState := item.providerDispatchState
  pauseReason := item.pauseReason
  resumeAt := item.resumeAt

/-- The `expected_work_binding` of a result; a mapping of other keys equals no binding. -/
inductive ExpectedBinding where
  | binding (b : WorkBinding)
  | mapping (generation : Option ℕ)
  deriving DecidableEq

def ExpectedBinding.generation : ExpectedBinding → Option ℕ
  | .binding b => some b.generation
  | .mapping g => g

/-- What a transaction under a work binding came to. -/
inductive CasOutcome (α : Type) where
  | done (a : α)
  | refused (current : Option AgentWorkItem)

/-- `begin_work_binding_cas` to `finish_work_binding_cas`: the body runs when the stored item
has the expected binding, and what it wrote is rolled back when it raises. -/
def underWorkBinding {α : Type} (workId : String) (expected : ExpectedBinding) (body : QuarkTx α) :
    QuarkTx (CasOutcome α) := do
  let current ← Tx.read (·.work.get? workId)
  match current with
  | none => pure (.refused none)
  | some item => if .binding item.durableBinding = expected then .done <$> body else pure (.refused (some item))

/-! ### Registration -/

/-- The arguments of `register-work` and `register-agent-work`. -/
structure WorkFields where
  id : String
  projectId : String
  ownerThread : Option String := none
  agentSessionId : Option String := none
  providerId : String := "codex"
  limitId : String := "codex"
  intent : String
  estimatedUnits : ℚ
  usageUnit : String := "quota_points"
  estimatedTokens : Option ℤ := none
  priority : ℤ := 50

/-- The constructor of `AgentWorkItem`, for an item not worked on yet. -/
def agentWorkItem (f : WorkFields) : Except QuarkError AgentWorkItem :=
  if isBlank f.id ∨ isBlank f.projectId then .error (.value "work id and project id are required")
  else if isBlank f.providerId ∨ isBlank f.limitId then .error (.value "provider id and limit id are required")
  else if isBlank f.usageUnit then .error (.value "usage unit is required")
  else if f.agentSessionId.getD "" = "" ∧ f.ownerThread.getD "" = "" then
    .error (.value "agent session id or owner thread is required")
  else if h : f.estimatedUnits ≤ 0 then .error (.value "estimated units must be positive")
  else if f.priority < 0 ∨ 100 < f.priority then .error (.value "priority must be between 0 and 100")
  else .ok {
    id := f.id, projectId := f.projectId, agentSessionId := f.agentSessionId, providerId := f.providerId
    limitId := f.limitId, intent := f.intent, estimatedUnits := f.estimatedUnits, usageUnit := f.usageUnit
    ownerThread := f.ownerThread, priority := f.priority.toNat, estimatedTokens := f.estimatedTokens, estimate_pos := not_le.mp h }

theorem agentWorkItem_fresh {f : WorkFields} {item : AgentWorkItem} (h : agentWorkItem f = .ok item) :
    item.id = f.id ∧ item.state = .queued ∧ item.generation = 0 ∧ item.reservedUnits = 0 := by
  unfold agentWorkItem at h
  split at h <;> try contradiction
  split at h <;> try contradiction
  split at h <;> try contradiction
  split at h <;> try contradiction
  split at h <;> try contradiction
  split at h <;> try contradiction
  cases h
  exact ⟨rfl,rfl,rfl,rfl⟩

end Overseer.Quark
