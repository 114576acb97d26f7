import Overseer.Agent.Store
import Overseer.Library.Loop
import Mathlib.Data.Rat.Floor
import Mathlib.Algebra.Order.BigOperators.Group.List

/-! # Planning usage-aware work

`plan_quark_work` of `quark_scheduler.py`, over exact rationals: the spendable capacity of
each limit is handed out in bounded slices, round-robin over the projects.
-/
namespace Overseer.Quark
open Overseer.Library Overseer.Agent

inductive WorkState where
  | queued | running | checkpointed | waitingCapacity | completed | blocked | reconcileRequired
  deriving DecidableEq

/-- A policy that `__post_init__` accepts. -/
structure QuarkUsagePolicy where
  hardReservePoints : ℚ := 15
  uncertaintyPoints : ℚ := 2
  maxSlicePoints : ℚ := 5
  maxConcurrentWork : ℕ := 1
  emergencyFloorPoints : ℚ := 5
  reserve_floor : emergencyFloorPoints ≤ hardReservePoints := by norm_num
  uncertainty_nonneg : 0 ≤ uncertaintyPoints := by norm_num
  slice_pos : 0 < maxSlicePoints := by norm_num
  concurrent_pos : 1 ≤ maxConcurrentWork := by norm_num

/-- `QuarkUsagePolicy()`. -/
def QuarkUsagePolicy.standard : QuarkUsagePolicy := {}

/-- A work item that the constructor accepts. -/
structure AgentWorkItem where
  id : String
  projectId : String
  agentSessionId : Option String := none
  providerId : String := "codex"
  limitId : String := "codex"
  intent : String := ""
  estimatedUnits : ℚ
  usageUnit : String := "quota_points"
  ownerThread : Option String := none
  priority : ℕ := 50
  state : WorkState := .queued
  reservedUnits : ℚ := 0
  generation : ℕ := 0
  checkpointRef : Option String := none
  driverEpochId : Option String := none
  pauseReason : Option String := none
  resumeAt : Option String := none
  updatedAt : Option String := none
  providerDispatchId : Option String := none
  providerResultId : Option String := none
  providerReference : Option String := none
  providerIdempotencyKey : Option String := none
  providerDispatchState : Option String := none
  estimatedTokens : Option ℤ := none
  estimate_pos : 0 < estimatedUnits := by norm_num
  deriving DecidableEq

/-- A queued item of five points. -/
def AgentWorkItem.small (id projectId : String) : AgentWorkItem := { id, projectId, estimatedUnits := 5 }

structure WorkAllocation where
  workId : String
  projectId : String
  agentSessionId : Option String
  providerId : String
  limitId : String
  usageUnit : String
  ownerThread : Option String
  generation : ℕ
  allocatedUnits : ℚ
  deriving DecidableEq

/-- A field of a plan: one value for a scalar capacity, else one for each limit. -/
inductive PlanField (α : Type) where
  | scalar (a : α)
  | byLimit (d : Dict α)

def PlanField.at {α : Type} (f : PlanField α) (limitId : String) : Option α :=
  match f with
  | .scalar a => some a
  | .byLimit d => d.get? limitId

structure QuarkWorkPlan where
  allocations : List WorkAllocation
  remainingBeforePlan : PlanField (Option ℚ)
  activeReservations : PlanField ℚ
  guardrailFloor : PlanField ℚ
  spendableCapacity : PlanField ℚ
  remainingAfterPlan : PlanField (Option ℚ)
  reason : String

inductive PlanError where
  | value (message : String)
  | key (k : String)
  | index
  deriving DecidableEq

/-- The `remaining_points` argument. -/
inductive Capacity where
  | scalar (points : ℚ)
  | byLimit (d : Dict (Option ℚ))

def eligibleStates : List WorkState := [.queued,.checkpointed,.waitingCapacity]

/-- The capacity of each limit, checked. The work of a scalar capacity is of one limit. -/
def capacityByLimit (remainingPoints : Capacity) (work : List AgentWorkItem) : Except PlanError (Dict (Option ℚ)) :=
  match remainingPoints with
  | .scalar points =>
    if points < 0 ∨ 100 < points then .error (.value "remaining points must be between 0 and 100")
    else match (work.map (·.limitId)).dedup with
      | [] => .ok (Dict.empty.set "codex" (some points))
      | [limitId] => .ok (Dict.empty.set limitId (some points))
      | _ => .error (.value "mixed-provider work requires capacity by limit id")
  | .byLimit d =>
    if d.values.any (fun v => v.any (· < 0)) then
      .error (.value "provider capacity must be non-negative or unknown")
    else .ok (work.foldl (fun d item => if (d.get? item.limitId).isSome then d else d.set item.limitId none) d)

/-! ### One limit -/

/-- The loop over the projects of one limit. -/
structure Round where
  available : ℚ
  projectOrder : List String
  byProject : Dict (List AgentWorkItem)
  allocatedByWork : Dict ℚ := .empty
  allocations : List WorkAllocation := []

def Round.allocated (r : Round) (workId : String) : ℚ := (r.allocatedByWork.get? workId).getD 0

def workAllocation (item : AgentWorkItem) (units : ℚ) : WorkAllocation where
  workId := item.id
  projectId := item.projectId
  agentSessionId := item.agentSessionId
  providerId := item.providerId
  limitId := item.limitId
  usageUnit := item.usageUnit
  ownerThread := item.ownerThread
  generation := item.generation + 1
  allocatedUnits := units

/-- Give the item a slice when there is one to give. -/
def Round.give (r : Round) (item : AgentWorkItem) (units : ℚ) : Round :=
  if 0 < units then { r with
    available := r.available - units
    allocatedByWork := r.allocatedByWork.set item.id (r.allocated item.id + units)
    allocations := r.allocations ++ [workAllocation item units] }
  else r

/-- One pass of the `while` loop. -/
def allocateNext (maxSlicePoints : ℚ) (r : Round) : Except PlanError Round :=
  match r.projectOrder with
  | [] => .error .index
  | projectId :: rest =>
    match r.byProject.get? projectId with
    | none => .error (.key projectId)
    | some [] => .error .index
    | some (item :: waiting) =>
      let remainingEstimate := item.estimatedUnits - r.allocated item.id
      let given := r.give item (min maxSlicePoints (min remainingEstimate r.available))
      let queue := if item.estimatedUnits ≤ given.allocated item.id then waiting else item :: waiting
      .ok { given with
        byProject := r.byProject.set projectId queue
        projectOrder := if queue = [] then rest else rest ++ [projectId] }

/-- The loop goes on. -/
def Round.more (r : Round) : Bool := 0 < r.available ∧ r.projectOrder ≠ []

/-- The items still queued. -/
def Round.queued (r : Round) : ℕ := (r.projectOrder.map fun p => ((r.byProject.get? p).getD []).length).sum

/-- As many passes as the loop can take. -/
def Round.size (maxSlicePoints : ℚ) (r : Round) : ℕ := r.queued + ⌈r.available / maxSlicePoints⌉₊

/-- `(-priority, id)` in order. -/
def higherPriority (a b : AgentWorkItem) : Prop := b.priority < a.priority ∨ a.priority = b.priority ∧ textLe a.id b.id
instance : DecidableRel higherPriority := fun a b =>
  inferInstanceAs (Decidable (b.priority < a.priority ∨ a.priority = b.priority ∧ textLe a.id b.id))

def groupByProject (items : List AgentWorkItem) : Dict (List AgentWorkItem) :=
  items.foldl (fun d item => d.set item.projectId ((d.get? item.projectId).getD [] ++ [item])) .empty

def startRound (spendable : ℚ) (eligible : List AgentWorkItem) : Round :=
  let byProject := groupByProject (eligible.insertionSort higherPriority)
  { available := spendable, byProject, projectOrder := byProject.keys.insertionSort textLe }

/-- What the plan says of one limit. -/
structure LimitPlan where
  active : ℚ
  spendable : ℚ := 0
  remainingAfter : Option ℚ
  allocations : List WorkAllocation := []
  unknown : Bool := false
  exhausted : Bool := false
  unused : Bool := false

def QuarkUsagePolicy.guardrail (policy : QuarkUsagePolicy) : ℚ := policy.hardReservePoints + policy.uncertaintyPoints

def activeUnits (limitWork : List AgentWorkItem) : ℚ := ((limitWork.filter (·.state = .running)).map (·.reservedUnits)).sum

def spendableUnits (policy : QuarkUsagePolicy) (capacity active : ℚ) : ℚ := max 0 (capacity - policy.guardrail - active)

def eligibleWork (limitWork : List AgentWorkItem) : List AgentWorkItem := limitWork.filter (·.state ∈ eligibleStates)

def planLimit (policy : QuarkUsagePolicy) (capacity : Option ℚ) (limitWork : List AgentWorkItem) :
    ExceptT PlanError Option LimitPlan :=
  let active := activeUnits limitWork
  match capacity with
  | none => pure { active, remainingAfter := none, unknown := true }
  | some capacity =>
    let spendable := spendableUnits policy capacity active
    if spendable ≤ 0 then pure { active, spendable, remainingAfter := some capacity, exhausted := true }
    else do
      let start := startRound spendable (eligibleWork limitWork)
      let last ← whileLoop Round.more (allocateNext policy.maxSlicePoints) (start.size policy.maxSlicePoints + 1) start
      return {
        active, spendable, remainingAfter := some (capacity - active - (spendable - last.available))
        allocations := last.allocations, unused := decide (0 < last.available) }

/-! ### The plan -/

def planReason (limits : List (String × LimitPlan)) : String :=
  let unknown := (limits.filter (·.2.unknown)).map Prod.fst
  if unknown ≠ [] then "unknown capacity blocks provider work for " ++ ", ".intercalate unknown
  else if (limits.flatMap (·.2.allocations)) = [] ∧ limits.any (·.2.exhausted) then
    "capacity is at the reserve and uncertainty floor"
  else if limits.any (·.2.unused) then "all queued estimated work is allocated and unused capacity remains"
  else "allocated all spendable capacity while preserving reserve"

/-- One field of the plan, from what the limits say. -/
def planField {α : Type} (remainingPoints : Capacity) (limits : List (String × LimitPlan)) (f : LimitPlan → α)
    (none_ : α) : PlanField α :=
  match remainingPoints with
  | .scalar _ => .scalar ((limits.head?.map fun l => f l.2).getD none_)
  | .byLimit _ => .byLimit (Dict.empty.merge (limits.map fun l => (l.1,f l.2)))

def planQuarkWork (policy : QuarkUsagePolicy) (remainingPoints : Capacity) (work : List AgentWorkItem) :
    ExceptT PlanError Option QuarkWorkPlan := do
  let capacity ← (liftExcept (capacityByLimit remainingPoints work))
  let limits ← (capacity.keys.insertionSort textLe).mapM fun limitId => do
    return (limitId,← planLimit policy ((capacity.get? limitId).getD none) (work.filter (·.limitId = limitId)))
  return {
    allocations := limits.flatMap (·.2.allocations)
    remainingBeforePlan := match remainingPoints with
      | .scalar points => .scalar (some points)
      | .byLimit _ => .byLimit capacity
    activeReservations := planField remainingPoints limits (·.active) 0
    guardrailFloor := match remainingPoints with
      | .scalar _ => .scalar policy.guardrail
      | .byLimit _ => .byLimit (Dict.empty.merge (capacity.keys.map fun limitId => (limitId,policy.guardrail)))
    spendableCapacity := planField remainingPoints limits (·.spendable) 0
    remainingAfterPlan := planField remainingPoints limits (·.remainingAfter) none
    reason := planReason limits }
where
  liftExcept (e : Except PlanError (Dict (Option ℚ))) : ExceptT PlanError Option (Dict (Option ℚ)) := some e

end Overseer.Quark
