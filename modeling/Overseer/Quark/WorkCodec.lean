import Overseer.Quark.Store
import Overseer.Library.JsonRoundTrip
import Overseer.Library.Stored
import Overseer.Library.Fallible

/-! # Work items as they are stored

The constructor, `with_state`, `_work_payload` and `_work_from_payload` of `quark_scheduler.py`,
with all fields of an item. The figures stand twice, in the units of the provider and, for the
points of Codex, under the names of older rows; the constructor reads both and keeps them alike.
-/
namespace Overseer.Quark
open Overseer.Library Overseer.Agent Json

def WorkState.value : WorkState → String
  | .queued => "queued"
  | .running => "running"
  | .checkpointed => "checkpointed"
  | .waitingCapacity => "waiting_capacity"
  | .completed => "completed"
  | .blocked => "blocked"
  | .reconcileRequired => "reconcile_required"

instance : Stored WorkState :=
  .ofEnum [.queued,.running,.checkpointed,.waitingCapacity,.completed,.blocked,.reconcileRequired] WorkState.value
    fun s => by cases s <;> decide

namespace WorkCodec

/-! ### Numbers -/

/-- A float that is not above zero, by its text. -/
def notPositive (t : String) : Bool := t = "0.0" || t.toList.head? = some '-'

/-- A float below zero, by its text. -/
def negative (t : String) : Bool := t ≠ "-0.0" && t.toList.head? = some '-'

/-- A text that a float prints as. -/
def printedFloat (floatText : String → String) (t : String) : Bool := isFloatText t && isReadBack floatText t

/-- What a float's text is read and printed as, and the float of an integer; one that is too large has none. -/
structure FloatHost where
  floatText : String → String
  ofInt : ℤ → Option {t : String // printedFloat floatText t = true}
  ofInt_pos : ∀ n x, ofInt n = some x → 0 < n → notPositive x.val = false
  ofInt_nonneg : ∀ n x, ofInt n = some x → 0 ≤ n → negative x.val = false

abbrev FloatHost.Float (host : FloatHost) : Type := {t : String // printedFloat host.floatText t = true}

/-- A number, as it may be given. -/
inductive Number (host : FloatHost) where
  | int (n : ℤ)
  | float (x : host.Float)
  deriving DecidableEq

inductive WorkError where
  | value (message : String)
  | type
  | overflow
  deriving DecidableEq

section Host
variable {host : FloatHost}

def Number.notPositive : Number host → Bool
  | .int n => n ≤ 0
  | .float x => WorkCodec.notPositive x.val

def Number.negative : Number host → Bool
  | .int n => n < 0
  | .float x => WorkCodec.negative x.val

def Number.truthy : Number host → Bool
  | .int n => n ≠ 0
  | .float x => x.val ∉ ["0.0","-0.0"]

/-- `float(number)`. -/
def Number.toFloat : Number host → Except WorkError host.Float
  | .int n =>
    match host.ofInt n with
    | some x => .ok x
    | none => .error .overflow
  | .float x => .ok x

instance : Stored (Option ℤ) where
  toJsonable o := o.elim .null .int
  coerceValue v := match v with
    | .null => some none
    | .int n => some (some n)
    | _ => none
  coerce_toJsonable o := by cases o <;> rfl

def numberJson : Option (Number host) → Json
  | none => .null
  | some (.int n) => .int n
  | some (.float x) => .float x.val

def numberOf : Json → Option (Option (Number host))
  | .null => some none
  | .int n => some (some (.int n))
  | .float t => if h : printedFloat host.floatText t = true then some (some (.float ⟨t,h⟩)) else none
  | _ => none

theorem numberOf_json (o : Option (Number host)) : numberOf (numberJson o) = some o := by
  rcases o with _ | n | x
  · rfl
  · rfl
  · exact dif_pos x.2

instance : Stored (Option (Number host)) where
  toJsonable := numberJson
  coerceValue := numberOf
  coerce_toJsonable o := by
    have hsame : (numberJson o).sortKeys = numberJson o := by rcases o with _ | n | x <;> rfl
    rw [hsame,numberOf_json]

/-- A type whose values are stored as scalars, each value as one. -/
class Scalar (α : Type) [Stored α] : Prop where
  coerce : ∀ a : α, coerceValue (toJsonable a) = some a
  exact : ∀ (v : Json) (a : α), coerceValue v = some a → v = toJsonable a

instance : Scalar String where
  coerce _ := rfl
  exact v a h := by cases v <;> cases h; rfl

instance : Scalar (Option String) where
  coerce o := by cases o <;> rfl
  exact v a h := by cases v <;> cases h <;> rfl

instance : Scalar ℤ where
  coerce _ := rfl
  exact v a h := by cases v <;> cases h; rfl

instance : Scalar (Option ℤ) where
  coerce o := by cases o <;> rfl
  exact v a h := by cases v <;> cases h <;> rfl

instance : Scalar WorkState where
  coerce s := by cases s <;> decide
  exact v s h := by
    obtain ⟨text,htext,hfind⟩ := Option.bind_eq_some_iff.mp h
    have hvalue : s.value = text := by simpa using List.find?_some hfind
    cases v <;> cases htext
    exact congrArg Json.str hvalue.symm

instance : Scalar (Option (Number host)) where
  coerce := numberOf_json
  exact v o h := by
    cases v with
    | null =>
      cases h
      rfl
    | int n =>
      cases h
      rfl
    | float t =>
      change (if h : printedFloat host.floatText t = true then some (some (.float ⟨t,h⟩)) else none) = some o at h
      split at h
      · cases h
        rfl
      · cases h
    | bool b => cases h
    | str text => cases h
    | arr items => cases h
    | obj members => cases h

/-! ### Items -/

/-- The fields that the constructor takes over. -/
structure WorkRecord where
  id : String
  projectId : String
  ownerThread : Option String := none
  limitId : String := "codex"
  intent : String := ""
  estimatedTokens : Option ℤ := none
  priority : ℤ := 50
  state : WorkState := .queued
  generation : ℤ := 0
  checkpointRef : Option String := none
  pauseReason : Option String := none
  resumeAt : Option String := none
  createdAt : Option String := none
  updatedAt : Option String := none
  agentSessionId : Option String := none
  providerId : String := "codex"
  usageUnit : String := "quota_points"
  driverEpochId : Option String := none
  providerDispatchId : Option String := none
  providerResultId : Option String := none
  providerReference : Option String := none
  providerIdempotencyKey : Option String := none
  providerDispatchState : Option String := none
  deriving DecidableEq

/-- The arguments of the constructor. -/
structure WorkArguments (host : FloatHost) extends WorkRecord where
  estimatedQuotaPoints : Option (Number host) := none
  reservedQuotaPoints : Option (Number host) := some (.int 0)
  estimatedUnits : Option (Number host) := none
  reservedUnits : Option (Number host) := none
  deriving DecidableEq

/-- `AgentWorkItem`, under its older name, with all its fields. -/
structure CodexWorkItem (host : FloatHost) extends WorkRecord where
  estimatedUnits : host.Float
  reservedUnits : host.Float
  estimatedQuotaPoints : Option (Number host)
  reservedQuotaPoints : Option (Number host)
  deriving DecidableEq

def check (c : Prop) [Decidable c] (message : String) : Except WorkError Unit := if c then .ok () else .error (.value message)

/-- The figures that stand twice. -/
def WorkRecord.mirrors (r : WorkRecord) : Prop := r.providerId = "codex" ∧ r.usageUnit = "quota_points"

instance (r : WorkRecord) : Decidable r.mirrors := inferInstanceAs (Decidable (_ ∧ _))

/-- The estimate in units, else in points. -/
def WorkArguments.estimate (a : WorkArguments host) : Option (Number host) := a.estimatedUnits <|> a.estimatedQuotaPoints

/-- The reservation in units, else in points, else none. -/
def WorkArguments.reserved (a : WorkArguments host) : Number host :=
  a.reservedUnits.getD ((a.reservedQuotaPoints.filter Number.truthy).getD (.int 0))

def WorkArguments.init (a : WorkArguments host) : Except WorkError (CodexWorkItem host) := do
  check (¬ (isBlank a.id = true ∨ isBlank a.projectId = true)) "work id and project id are required"
  check (¬ (isBlank a.providerId = true ∨ isBlank a.limitId = true)) "provider id and limit id are required"
  check (¬ isBlank a.usageUnit = true) "usage unit is required"
  check (¬ (a.agentSessionId.getD "" = "" ∧ a.ownerThread.getD "" = "")) "agent session id or owner thread is required"
  match a.estimate with
  | none => .error (.value "estimated units must be positive")
  | some estimate => do
    check (estimate.notPositive = false) "estimated units must be positive"
    check (a.reserved.negative = false) "reserved units cannot be negative"
    check (¬ (a.priority < 0 ∨ 100 < a.priority)) "priority must be between 0 and 100"
    let estimatedUnits ← estimate.toFloat
    let reservedUnits ← a.reserved.toFloat
    pure { a.toWorkRecord with
      estimatedUnits
      reservedUnits
      estimatedQuotaPoints := if a.mirrors then some (.float estimatedUnits) else a.estimatedQuotaPoints
      reservedQuotaPoints := if a.mirrors then some (.float reservedUnits) else a.reservedQuotaPoints }

/-! ### Payloads -/

def WorkRecord.members (r : WorkRecord) : List (String × Json) :=
  [("id",toJsonable r.id),("project_id",toJsonable r.projectId),("owner_thread",toJsonable r.ownerThread),("limit_id",toJsonable r.limitId),
    ("intent",toJsonable r.intent),("estimated_tokens",toJsonable r.estimatedTokens),("priority",toJsonable r.priority),
    ("state",toJsonable r.state),("generation",toJsonable r.generation),("checkpoint_ref",toJsonable r.checkpointRef),
    ("pause_reason",toJsonable r.pauseReason),("resume_at",toJsonable r.resumeAt),("created_at",toJsonable r.createdAt),
    ("updated_at",toJsonable r.updatedAt),("agent_session_id",toJsonable r.agentSessionId),("provider_id",toJsonable r.providerId),
    ("usage_unit",toJsonable r.usageUnit),("driver_epoch_id",toJsonable r.driverEpochId),
    ("provider_dispatch_id",toJsonable r.providerDispatchId),("provider_result_id",toJsonable r.providerResultId),
    ("provider_reference",toJsonable r.providerReference),("provider_idempotency_key",toJsonable r.providerIdempotencyKey),
    ("provider_dispatch_state",toJsonable r.providerDispatchState)]

def recordNames : List String :=
  ["id","project_id","owner_thread","limit_id","intent","estimated_tokens","priority","state","generation","checkpoint_ref",
    "pause_reason","resume_at","created_at","updated_at","agent_session_id","provider_id","usage_unit","driver_epoch_id",
    "provider_dispatch_id","provider_result_id","provider_reference","provider_idempotency_key","provider_dispatch_state"]

def figureNames : List String := ["estimated_units","reserved_units","estimated_quota_points","reserved_quota_points"]

def workPayload (x : CodexWorkItem host) : List (String × Json) :=
  x.members ++ [("estimated_units",.float x.estimatedUnits.val),("reserved_units",.float x.reservedUnits.val),
    ("estimated_quota_points",toJsonable x.estimatedQuotaPoints),("reserved_quota_points",toJsonable x.reservedQuotaPoints)]

/-- A keyword argument, or its default. -/
def argument {α : Type} [Stored α] (p : Payload) (name : String) (default_ : Option α) : Except WorkError α :=
  match p.get? name with
  | some v =>
    match coerceValue v with
    | some a => .ok a
    | none => .error .type
  | none =>
    match default_ with
    | some a => .ok a
    | none => .error .type

def readRecord (p : Payload) : Except WorkError WorkRecord := do
  return {
    id := ← argument p "id" none
    projectId := ← argument p "project_id" none
    ownerThread := ← argument p "owner_thread" (some none)
    limitId := ← argument p "limit_id" (some "codex")
    intent := ← argument p "intent" (some "")
    estimatedTokens := ← argument p "estimated_tokens" (some none)
    priority := ← argument p "priority" (some 50)
    state := ← argument p "state" (some .queued)
    generation := ← argument p "generation" (some 0)
    checkpointRef := ← argument p "checkpoint_ref" (some none)
    pauseReason := ← argument p "pause_reason" (some none)
    resumeAt := ← argument p "resume_at" (some none)
    createdAt := ← argument p "created_at" (some none)
    updatedAt := ← argument p "updated_at" (some none)
    agentSessionId := ← argument p "agent_session_id" (some none)
    providerId := ← argument p "provider_id" (some "codex")
    usageUnit := ← argument p "usage_unit" (some "quota_points")
    driverEpochId := ← argument p "driver_epoch_id" (some none)
    providerDispatchId := ← argument p "provider_dispatch_id" (some none)
    providerResultId := ← argument p "provider_result_id" (some none)
    providerReference := ← argument p "provider_reference" (some none)
    providerIdempotencyKey := ← argument p "provider_idempotency_key" (some none)
    providerDispatchState := ← argument p "provider_dispatch_state" (some none) }

/-- The arguments of a call by keywords; another keyword is refused. -/
def readArguments (p : Payload) : Except WorkError (WorkArguments host) :=
  if p.keys.all (· ∈ recordNames ++ figureNames) = true then do
    let record ← readRecord p
    let estimatedUnits ← argument p "estimated_units" (some none)
    let reservedUnits ← argument p "reserved_units" (some none)
    let estimatedQuotaPoints ← argument p "estimated_quota_points" (some none)
    let reservedQuotaPoints ← argument p "reserved_quota_points" (some (some (.int 0)))
    pure { record with estimatedUnits, reservedUnits, estimatedQuotaPoints, reservedQuotaPoints }
  else .error .type

/-- `AgentWorkItem(**payload)`. -/
def agentWorkItem (p : Payload) : Except WorkError (CodexWorkItem host) := do
  let a ← readArguments p
  a.init

/-- `_work_from_payload`, of a parsed text. -/
def workFromPayload (v : Json) : Except WorkError (CodexWorkItem host) :=
  match v with
  | .obj members => agentWorkItem (.ofList members)
  | _ => .error .type

/-- The changes with the other reservation beside the one that is named. -/
def CodexWorkItem.inStep (x : CodexWorkItem host) (changes : Payload) : Payload :=
  match changes.get? "reserved_quota_points",changes.get? "reserved_units" with
  | some points,none => changes.set "reserved_units" points
  | none,some units => changes.set "reserved_quota_points" (if x.mirrors then units else .null)
  | _,_ => changes

/-- `with_state`; the changes are keyword arguments besides the state. -/
def CodexWorkItem.withState (x : CodexWorkItem host) (state : WorkState) (changes : Payload) : Except WorkError (CodexWorkItem host) :=
  if "state" ∈ changes.keys then .error .type
  else agentWorkItem ((Payload.ofList (workPayload x)).merge (("state",toJsonable state) :: (x.inStep changes).entries))

def durableWorkBindingFields : List String :=
  ["project_id","agent_session_id","provider_id","limit_id","usage_unit","owner_thread","generation","state","reserved_units",
    "driver_epoch_id","provider_dispatch_id","provider_result_id","provider_reference","provider_idempotency_key",
    "provider_dispatch_state","pause_reason","resume_at"]

def durableWorkBinding (x : CodexWorkItem host) : List (String × Json) :=
  (Payload.ofList (workPayload x)).select durableWorkBindingFields

/-! ### Reading what was written -/

theorem argument_of {α : Type} [Stored α] [Scalar α] {p : Payload} {name : String} {a : α} (default_ : Option α)
    (h : p.get? name = some (toJsonable a)) : argument p name default_ = .ok a := by
  unfold argument
  rw [h]
  dsimp only
  rw [Scalar.coerce a]

theorem argument_ok {α : Type} [Stored α] [Scalar α] {p : Payload} {name : String} {default_ : Option α} {a : α}
    (h : argument p name default_ = .ok a) : p.get? name = some (toJsonable a) ∨ p.get? name = none := by
  unfold argument at h
  split at h
  · next v hv =>
    split at h
    · next b hb =>
      cases h
      exact .inl (hv.trans (congrArg some (Scalar.exact v _ hb)))
    · cases h
  · next hnone => exact .inr hnone

theorem readRecord_of {p : Payload} {r : WorkRecord} (h : ∀ m ∈ r.members, p.get? m.1 = some m.2) : readRecord p = .ok r := by
  unfold readRecord
  have hread : ∀ {α : Type} [Stored α] [Scalar α] (name : String) (a : α) (default_ : Option α), (name,toJsonable a) ∈ r.members →
      argument p name default_ = .ok a := fun name a default_ hmem => argument_of default_ (h _ hmem)
  rw [hread "id" r.id _ (by simp [WorkRecord.members]),
    hread "project_id" r.projectId _ (by simp [WorkRecord.members]),
    hread "owner_thread" r.ownerThread _ (by simp [WorkRecord.members]),
    hread "limit_id" r.limitId _ (by simp [WorkRecord.members]),
    hread "intent" r.intent _ (by simp [WorkRecord.members]),
    hread "estimated_tokens" r.estimatedTokens _ (by simp [WorkRecord.members]),
    hread "priority" r.priority _ (by simp [WorkRecord.members]),
    hread "state" r.state _ (by simp [WorkRecord.members]),
    hread "generation" r.generation _ (by simp [WorkRecord.members]),
    hread "checkpoint_ref" r.checkpointRef _ (by simp [WorkRecord.members]),
    hread "pause_reason" r.pauseReason _ (by simp [WorkRecord.members]),
    hread "resume_at" r.resumeAt _ (by simp [WorkRecord.members]),
    hread "created_at" r.createdAt _ (by simp [WorkRecord.members]),
    hread "updated_at" r.updatedAt _ (by simp [WorkRecord.members]),
    hread "agent_session_id" r.agentSessionId _ (by simp [WorkRecord.members]),
    hread "provider_id" r.providerId _ (by simp [WorkRecord.members]),
    hread "usage_unit" r.usageUnit _ (by simp [WorkRecord.members]),
    hread "driver_epoch_id" r.driverEpochId _ (by simp [WorkRecord.members]),
    hread "provider_dispatch_id" r.providerDispatchId _ (by simp [WorkRecord.members]),
    hread "provider_result_id" r.providerResultId _ (by simp [WorkRecord.members]),
    hread "provider_reference" r.providerReference _ (by simp [WorkRecord.members]),
    hread "provider_idempotency_key" r.providerIdempotencyKey _ (by simp [WorkRecord.members]),
    hread "provider_dispatch_state" r.providerDispatchState _ (by simp [WorkRecord.members])]
  rfl

/-- Every field that is read stands there, or has its default. -/
theorem readRecord_ok {p : Payload} {r : WorkRecord} (h : readRecord p = .ok r) :
    ∀ m ∈ r.members, p.get? m.1 = some m.2 ∨ p.get? m.1 = none := by
  unfold readRecord at h
  obtain ⟨_,h1,h⟩ := except_bind_ok h
  obtain ⟨_,h2,h⟩ := except_bind_ok h
  obtain ⟨_,h3,h⟩ := except_bind_ok h
  obtain ⟨_,h4,h⟩ := except_bind_ok h
  obtain ⟨_,h5,h⟩ := except_bind_ok h
  obtain ⟨_,h6,h⟩ := except_bind_ok h
  obtain ⟨_,h7,h⟩ := except_bind_ok h
  obtain ⟨_,h8,h⟩ := except_bind_ok h
  obtain ⟨_,h9,h⟩ := except_bind_ok h
  obtain ⟨_,h10,h⟩ := except_bind_ok h
  obtain ⟨_,h11,h⟩ := except_bind_ok h
  obtain ⟨_,h12,h⟩ := except_bind_ok h
  obtain ⟨_,h13,h⟩ := except_bind_ok h
  obtain ⟨_,h14,h⟩ := except_bind_ok h
  obtain ⟨_,h15,h⟩ := except_bind_ok h
  obtain ⟨_,h16,h⟩ := except_bind_ok h
  obtain ⟨_,h17,h⟩ := except_bind_ok h
  obtain ⟨_,h18,h⟩ := except_bind_ok h
  obtain ⟨_,h19,h⟩ := except_bind_ok h
  obtain ⟨_,h20,h⟩ := except_bind_ok h
  obtain ⟨_,h21,h⟩ := except_bind_ok h
  obtain ⟨_,h22,h⟩ := except_bind_ok h
  obtain ⟨_,h23,h⟩ := except_bind_ok h
  cases h
  intro m hm
  simp only [WorkRecord.members,List.mem_cons,List.not_mem_nil,or_false] at hm
  rcases hm with rfl | rfl | rfl | rfl | rfl | rfl | rfl | rfl | rfl | rfl | rfl | rfl | rfl | rfl | rfl | rfl | rfl | rfl | rfl | rfl | rfl | rfl | rfl
  · exact argument_ok h1
  · exact argument_ok h2
  · exact argument_ok h3
  · exact argument_ok h4
  · exact argument_ok h5
  · exact argument_ok h6
  · exact argument_ok h7
  · exact argument_ok h8
  · exact argument_ok h9
  · exact argument_ok h10
  · exact argument_ok h11
  · exact argument_ok h12
  · exact argument_ok h13
  · exact argument_ok h14
  · exact argument_ok h15
  · exact argument_ok h16
  · exact argument_ok h17
  · exact argument_ok h18
  · exact argument_ok h19
  · exact argument_ok h20
  · exact argument_ok h21
  · exact argument_ok h22
  · exact argument_ok h23

theorem readArguments_ok {p : Payload} {a : WorkArguments host} (h : readArguments p = .ok a) :
    (∀ m ∈ a.members, p.get? m.1 = some m.2 ∨ p.get? m.1 = none) ∧
      argument p "estimated_units" (some none) = .ok a.estimatedUnits ∧ argument p "reserved_units" (some none) = .ok a.reservedUnits ∧
      argument p "estimated_quota_points" (some none) = .ok a.estimatedQuotaPoints ∧
      argument p "reserved_quota_points" (some (some (.int 0))) = .ok a.reservedQuotaPoints := by
  unfold readArguments at h
  split at h
  · obtain ⟨record,hrecord,h⟩ := except_bind_ok h
    obtain ⟨_,hunits,h⟩ := except_bind_ok h
    obtain ⟨_,hreserved,h⟩ := except_bind_ok h
    obtain ⟨_,hpoints,h⟩ := except_bind_ok h
    obtain ⟨_,hreservedPoints,h⟩ := except_bind_ok h
    cases h
    exact ⟨readRecord_ok hrecord,hunits,hreserved,hpoints,hreservedPoints⟩
  · cases h

/-! ### The constructor -/

theorem check_ok {c : Prop} [Decidable c] {message : String} {u : Unit} (h : check c message = .ok u) : c := by
  unfold check at h
  split at h
  · assumption
  · cases h

theorem check_of {c : Prop} [Decidable c] (message : String) (h : c) : check c message = .ok () := if_pos h

/-- What an item has passed. -/
structure Accepted (x : CodexWorkItem host) : Prop where
  named : ¬ (isBlank x.id = true ∨ isBlank x.projectId = true)
  provided : ¬ (isBlank x.providerId = true ∨ isBlank x.limitId = true)
  unit : ¬ isBlank x.usageUnit = true
  owned : ¬ (x.agentSessionId.getD "" = "" ∧ x.ownerThread.getD "" = "")
  estimated : notPositive x.estimatedUnits.val = false
  reserved : negative x.reservedUnits.val = false
  priority : ¬ (x.priority < 0 ∨ 100 < x.priority)
  mirrored : x.mirrors → x.estimatedQuotaPoints = some (.float x.estimatedUnits) ∧ x.reservedQuotaPoints = some (.float x.reservedUnits)

theorem toFloat_positive {n : Number host} {x : host.Float} (h : n.toFloat = .ok x) (hn : n.notPositive = false) : notPositive x.val = false := by
  cases n with
  | int n =>
    unfold Number.toFloat at h
    dsimp only at h
    split at h
    · next hx =>
      cases h
      exact host.ofInt_pos n _ hx (not_le.mp (of_decide_eq_false hn))
    · cases h
  | float y =>
    cases h
    exact hn

theorem toFloat_nonneg {n : Number host} {x : host.Float} (h : n.toFloat = .ok x) (hn : n.negative = false) : negative x.val = false := by
  cases n with
  | int n =>
    unfold Number.toFloat at h
    dsimp only at h
    split at h
    · next hx =>
      cases h
      exact host.ofInt_nonneg n _ hx (not_lt.mp (of_decide_eq_false hn))
    · cases h
  | float y =>
    cases h
    exact hn

/-- An item that is made has its record, the floats of its figures, and the points where they are mirrored. -/
theorem init_ok {a : WorkArguments host} {x : CodexWorkItem host} (h : a.init = .ok x) :
    x.toWorkRecord = a.toWorkRecord ∧ (∃ estimate, a.estimate = some estimate ∧ estimate.toFloat = .ok x.estimatedUnits) ∧
      a.reserved.toFloat = .ok x.reservedUnits ∧
      (¬ x.mirrors → x.estimatedQuotaPoints = a.estimatedQuotaPoints ∧ x.reservedQuotaPoints = a.reservedQuotaPoints) ∧ Accepted x := by
  unfold WorkArguments.init at h
  obtain ⟨_,hnamed,h⟩ := except_bind_ok h
  obtain ⟨_,hprovided,h⟩ := except_bind_ok h
  obtain ⟨_,hunit,h⟩ := except_bind_ok h
  obtain ⟨_,howned,h⟩ := except_bind_ok h
  split at h
  · cases h
  · next estimate hestimate =>
    obtain ⟨_,hpositive,h⟩ := except_bind_ok h
    obtain ⟨_,hnonneg,h⟩ := except_bind_ok h
    obtain ⟨_,hpriority,h⟩ := except_bind_ok h
    obtain ⟨estimatedUnits,hestimated,h⟩ := except_bind_ok h
    obtain ⟨reservedUnits,hreserved,h⟩ := except_bind_ok h
    cases h
    refine ⟨rfl,⟨estimate,hestimate,hestimated⟩,hreserved,fun hnot => ⟨if_neg hnot,if_neg hnot⟩,?_⟩
    exact ⟨check_ok hnamed,check_ok hprovided,check_ok hunit,check_ok howned,toFloat_positive hestimated (check_ok hpositive),
      toFloat_nonneg hreserved (check_ok hnonneg),check_ok hpriority,fun hmirrors => ⟨if_pos hmirrors,if_pos hmirrors⟩⟩

/-- The fields of an item as arguments. -/
def CodexWorkItem.arguments (x : CodexWorkItem host) : WorkArguments host :=
  { x.toWorkRecord with
    estimatedQuotaPoints := x.estimatedQuotaPoints
    reservedQuotaPoints := x.reservedQuotaPoints
    estimatedUnits := some (.float x.estimatedUnits)
    reservedUnits := some (.float x.reservedUnits) }

theorem init_arguments {x : CodexWorkItem host} (h : Accepted x) : x.arguments.init = .ok x := by
  have hmade : x.arguments.init = .ok { x.toWorkRecord with
      estimatedUnits := x.estimatedUnits
      reservedUnits := x.reservedUnits
      estimatedQuotaPoints := if x.mirrors then some (.float x.estimatedUnits) else x.estimatedQuotaPoints
      reservedQuotaPoints := if x.mirrors then some (.float x.reservedUnits) else x.reservedQuotaPoints } := by
    have hnamed : ¬ (isBlank x.arguments.id = true ∨ isBlank x.arguments.projectId = true) := h.named
    have hprovided : ¬ (isBlank x.arguments.providerId = true ∨ isBlank x.arguments.limitId = true) := h.provided
    have hunit : ¬ isBlank x.arguments.usageUnit = true := h.unit
    have howned : ¬ (x.arguments.agentSessionId.getD "" = "" ∧ x.arguments.ownerThread.getD "" = "") := h.owned
    have hestimate : x.arguments.estimate = some (.float x.estimatedUnits) := rfl
    have hpositive : (Number.float x.estimatedUnits).notPositive = false := h.estimated
    have hnonneg : x.arguments.reserved.negative = false := h.reserved
    have hpriority : ¬ (x.arguments.priority < 0 ∨ 100 < x.arguments.priority) := h.priority
    unfold WorkArguments.init
    rw [check_of _ hnamed,check_of _ hprovided,check_of _ hunit,check_of _ howned,hestimate]
    dsimp only
    rw [check_of _ hpositive,check_of _ hnonneg,check_of _ hpriority]
    rfl
  rw [hmade]
  by_cases hmirrors : x.mirrors
  · rw [if_pos hmirrors,if_pos hmirrors,← (h.mirrored hmirrors).1,← (h.mirrored hmirrors).2]
  · rw [if_neg hmirrors,if_neg hmirrors]

/-! ### The payload of an item -/

theorem workPayload_nodup (x : CodexWorkItem host) : ((workPayload x).map Prod.fst).Nodup := by
  change (recordNames ++ figureNames).Nodup
  decide +kernel

theorem readArguments_of {p : Payload} {x : CodexWorkItem host} (hkeys : p.keys.all (· ∈ recordNames ++ figureNames) = true)
    (h : ∀ m ∈ workPayload x, p.get? m.1 = some m.2) : readArguments p = .ok x.arguments := by
  have hfigure : ∀ (name : String) (o : Option (Number host)) (default_ : Option (Option (Number host))), (name,toJsonable o) ∈ workPayload x →
      argument p name default_ = .ok o := fun name o default_ hmem => argument_of default_ (h _ hmem)
  unfold readArguments
  rw [if_pos hkeys,readRecord_of (r := x.toWorkRecord) fun m hm => h m (List.mem_append_left _ hm),
    hfigure "estimated_units" (some (.float x.estimatedUnits)) _ (List.mem_append_right _ List.mem_cons_self),
    hfigure "reserved_units" (some (.float x.reservedUnits)) _ (List.mem_append_right _ (List.mem_cons_of_mem _ List.mem_cons_self)),
    hfigure "estimated_quota_points" x.estimatedQuotaPoints _ (by simp [workPayload]),
    hfigure "reserved_quota_points" x.reservedQuotaPoints _ (by simp [workPayload])]
  rfl

theorem printed_payload (x : CodexWorkItem host) : Printed host.floatText (.obj (workPayload x)) := by
  have hoptional : ∀ o : Option String, Printed host.floatText (toJsonable o) := fun o => by cases o <;> exact ⟨rfl,rfl⟩
  have hinteger : ∀ o : Option ℤ, Printed host.floatText (toJsonable o) := fun o => by cases o <;> exact ⟨rfl,rfl⟩
  have hfloat : ∀ y : host.Float, Printed host.floatText (.float y.val) := fun y => (Bool.and_eq_true _ _).mp y.2
  have hnumber : ∀ o : Option (Number host), Printed host.floatText (toJsonable o) := by
    rintro (_ | n | y)
    · exact ⟨rfl,rfl⟩
    · exact ⟨rfl,rfl⟩
    · exact hfloat y
  refine printed_obj.mpr ⟨workPayload_nodup x,fun e he => ?_⟩
  rcases List.mem_append.mp he with he | he
  · simp only [WorkRecord.members,List.mem_cons,List.not_mem_nil,or_false] at he
    rcases he with rfl | rfl | rfl | rfl | rfl | rfl | rfl | rfl | rfl | rfl | rfl | rfl |
        rfl | rfl | rfl | rfl | rfl | rfl | rfl | rfl | rfl | rfl | rfl
    all_goals first | exact ⟨rfl,rfl⟩ | exact hoptional _ | exact hinteger _
  · simp only [List.mem_cons,List.not_mem_nil,or_false] at he
    rcases he with rfl | rfl | rfl | rfl
    · exact hfloat _
    · exact hfloat _
    · exact hnumber _
    · exact hnumber _

theorem payload_scalar (x : CodexWorkItem host) : ∀ m ∈ workPayload x, m.2.sortKeys = m.2 := by
  have hoptional : ∀ o : Option String, (toJsonable o).sortKeys = toJsonable o := fun o => by cases o <;> rfl
  have hinteger : ∀ o : Option ℤ, (toJsonable o).sortKeys = toJsonable o := fun o => by cases o <;> rfl
  have hnumber : ∀ o : Option (Number host), (toJsonable o).sortKeys = toJsonable o := by rintro (_ | n | y) <;> rfl
  intro m hm
  rcases List.mem_append.mp hm with hm | hm
  · simp only [WorkRecord.members,List.mem_cons,List.not_mem_nil,or_false] at hm
    rcases hm with rfl | rfl | rfl | rfl | rfl | rfl | rfl | rfl | rfl | rfl | rfl | rfl |
        rfl | rfl | rfl | rfl | rfl | rfl | rfl | rfl | rfl | rfl | rfl
    all_goals first | rfl | exact hoptional _ | exact hinteger _
  · simp only [List.mem_cons,List.not_mem_nil,or_false] at hm
    rcases hm with rfl | rfl | rfl | rfl
    · rfl
    · rfl
    · exact hnumber _
    · exact hnumber _

theorem workFromPayload_loads {x : CodexWorkItem host} (h : Accepted x) :
    (loads host.floatText (dumps true (sortKeys (.obj (workPayload x))))).map workFromPayload = some (.ok x) := by
  rw [loads_dumps true (printed_sortKeys _ (printed_payload x)),Option.map_some,sortKeys_obj]
  have hnodup : ((sortedMembers (workPayload x)).map Prod.fst).Nodup := (sortedMembers_keys_perm _).nodup_iff.mpr (workPayload_nodup x)
  have hget : ∀ m ∈ workPayload x, (Payload.ofList (sortedMembers (workPayload x))).get? m.1 = some m.2 := by
    intro m hm
    refine Payload.get?_ofList hnodup ((sortedMembers_perm _).mem_iff.mpr (List.mem_map.mpr ⟨m,hm,?_⟩))
    rw [payload_scalar x m hm]
  have hkeys : (Payload.ofList (sortedMembers (workPayload x))).keys.all (· ∈ recordNames ++ figureNames) = true := by
    refine List.all_eq_true.mpr fun k hk => decide_eq_true ?_
    unfold Dict.keys at hk
    rw [Payload.entries_ofList hnodup] at hk
    exact (sortedMembers_keys_perm (workPayload x)).mem_iff.mp hk
  change some (agentWorkItem (Payload.ofList (sortedMembers (workPayload x)))) = _
  unfold agentWorkItem
  rw [readArguments_of hkeys hget]
  change some x.arguments.init = _
  rw [init_arguments h]

/-! ### Changing the state -/

/-- What may differ between an item and the one that `with_state` makes of it. -/
structure Changed (x y : CodexWorkItem host) (state : WorkState) (changes : Payload) : Prop where
  record : ∀ m ∈ y.members, m.1 ≠ "state" → changes.get? m.1 = some m.2 ∨ changes.get? m.1 = none ∧ m ∈ x.members
  state : y.state = state
  estimatedUnits : changes.get? "estimated_units" = none → y.estimatedUnits = x.estimatedUnits
  reservedUnits : changes.get? "reserved_units" = none → changes.get? "reserved_quota_points" = none → y.reservedUnits = x.reservedUnits
  estimatedPoints : ¬ y.mirrors → changes.get? "estimated_quota_points" = none → y.estimatedQuotaPoints = x.estimatedQuotaPoints
  reservedPoints : ¬ y.mirrors → changes.get? "reserved_units" = none → changes.get? "reserved_quota_points" = none →
    y.reservedQuotaPoints = x.reservedQuotaPoints
  mirrored : y.mirrors → y.estimatedQuotaPoints = some (.float y.estimatedUnits) ∧ y.reservedQuotaPoints = some (.float y.reservedUnits)

theorem inStep_get? (x : CodexWorkItem host) (changes : Payload) {k : String} (h : k ≠ "reserved_units") (h' : k ≠ "reserved_quota_points") :
    (x.inStep changes).get? k = changes.get? k := by
  unfold CodexWorkItem.inStep
  split
  · rw [Dict.get?_set,if_neg h]
  · rw [Dict.get?_set,if_neg h']
  · rfl

theorem inStep_eq (x : CodexWorkItem host) {changes : Payload} (h : changes.get? "reserved_units" = none)
    (h' : changes.get? "reserved_quota_points" = none) : x.inStep changes = changes := by
  unfold CodexWorkItem.inStep
  rw [h,h']

theorem argument_get {α : Type} [Stored α] [Scalar α] {p : Payload} {name : String} {default_ : Option α} {a b : α}
    (h : argument p name default_ = .ok a) (hget : p.get? name = some (toJsonable b)) : a = b := by
  rw [argument_of default_ hget] at h
  exact (Except.ok.inj h).symm

theorem withState_changed {x y : CodexWorkItem host} {state : WorkState} {changes : Payload} (h : x.withState state changes = .ok y) :
    Changed x y state changes := by
  unfold CodexWorkItem.withState at h
  split at h
  · cases h
  · next hstate =>
    have hnostate : changes.get? "state" = none := by
      cases hget : changes.get? "state" with
      | none => rfl
      | some v => exact absurd ((Dict.mem_keys_iff _ _).mpr ⟨v,hget⟩) hstate
    obtain ⟨a,hread,hinit⟩ := except_bind_ok h
    obtain ⟨hmembers,hunits,hreserved,hpoints,hreservedPoints⟩ := readArguments_ok hread
    obtain ⟨hrecord,⟨estimate,hestimate,hestimated⟩,hreservation,hunmirrored,haccepted⟩ := init_ok hinit
    have hinStep : (x.inStep changes).get? "state" = none := by
      rw [inStep_get? x changes (by decide) (by decide),hnostate]
    have hnodup : ((("state",toJsonable state) :: (x.inStep changes).entries).map Prod.fst).Nodup := by
      refine List.nodup_cons.mpr ⟨fun hmem => ?_,(x.inStep changes).nodup⟩
      obtain ⟨v,hv⟩ := (Dict.mem_keys_iff _ _).mp hmem
      rw [hinStep] at hv
      cases hv
    -- what stands under a keyword: the change, or the field of the item
    have hnamed : ∀ k v, (x.inStep changes).get? k = some v →
        ((Payload.ofList (workPayload x)).merge (("state",toJsonable state) :: (x.inStep changes).entries)).get? k = some v :=
      fun k v hv => Dict.get?_merge_of_mem _ hnodup (List.mem_cons_of_mem _ ((Dict.mem_entries_iff _ _ _).mpr hv))
    have hkept : ∀ m ∈ workPayload x, m.1 ≠ "state" → (x.inStep changes).get? m.1 = none →
        ((Payload.ofList (workPayload x)).merge (("state",toJsonable state) :: (x.inStep changes).entries)).get? m.1 = some m.2 := by
      intro m hm hne hnone
      rw [Dict.get?_merge_of_notMem]
      · exact Payload.get?_ofList (workPayload_nodup x) hm
      · intro hmem
        rcases List.mem_cons.mp hmem with heq | hmem
        · exact hne heq
        · obtain ⟨v,hv⟩ := (Dict.mem_keys_iff _ _).mp hmem
          rw [hnone] at hv
          cases hv
    have hfigure : ∀ {name : String} {o o' : Option (Number host)} {default_ : Option (Option (Number host))},
        argument ((Payload.ofList (workPayload x)).merge (("state",toJsonable state) :: (x.inStep changes).entries)) name default_ = .ok o →
          (name,toJsonable o') ∈ workPayload x → name ≠ "state" → (x.inStep changes).get? name = none → o = o' :=
      fun hargument hmem hne hnone => argument_get hargument (hkept _ hmem hne hnone)
    constructor
    · intro m hm hne
      rw [hrecord] at hm
      have hname : m.1 ∈ recordNames := List.mem_map_of_mem hm
      have hsame : (x.inStep changes).get? m.1 = changes.get? m.1 :=
        inStep_get? x changes (fun heq => absurd (heq ▸ hname) (by decide)) (fun heq => absurd (heq ▸ hname) (by decide))
      cases hchange : changes.get? m.1 with
      | some v =>
        have hget := hnamed m.1 v (hsame.trans hchange)
        rcases hmembers m hm with hm | hm
        · exact .inl (hget.symm.trans hm)
        · rw [hget] at hm
          cases hm
      | none =>
        obtain ⟨m',hm',hkey⟩ : ∃ m' ∈ x.members, m'.1 = m.1 := List.mem_map.mp hname
        have hget := hkept m' (List.mem_append_left _ hm') (hkey ▸ hne) (by rw [hkey,hsame,hchange])
        rw [hkey] at hget
        rcases hmembers m hm with hread | hread
        · rw [hget] at hread
          exact .inr ⟨rfl,Prod.ext hkey (Option.some.inj hread) ▸ hm'⟩
        · rw [hget] at hread
          cases hread
    · have hget : ((Payload.ofList (workPayload x)).merge (("state",toJsonable state) :: (x.inStep changes).entries)).get? "state" =
          some (toJsonable state) := Dict.get?_merge_of_mem _ hnodup List.mem_cons_self
      rw [hrecord]
      rcases hmembers ("state",toJsonable a.state) (by simp [WorkRecord.members]) with hread | hread
      · rw [hget] at hread
        have hcoerce := congrArg (fun v => (coerceValue v : Option WorkState)) (Option.some.inj hread)
        rw [Scalar.coerce state,Scalar.coerce a.state] at hcoerce
        exact (Option.some.inj hcoerce).symm
      · rw [hget] at hread
        cases hread
    · intro hnone
      have hgiven : a.estimatedUnits = some (.float x.estimatedUnits) := hfigure hunits
        (List.mem_append_right _ List.mem_cons_self) (by decide)
        (by rw [inStep_get? x changes (by decide) (by decide),hnone])
      unfold WorkArguments.estimate at hestimate
      rw [hgiven] at hestimate
      cases hestimate
      exact (Except.ok.inj hestimated).symm
    · intro hnone hnone'
      have hgiven : a.reservedUnits = some (.float x.reservedUnits) := hfigure hreserved
        (List.mem_append_right _ (List.mem_cons_of_mem _ List.mem_cons_self)) (by decide)
        (by rw [inStep_eq x hnone hnone',hnone])
      unfold WorkArguments.reserved at hreservation
      rw [hgiven] at hreservation
      exact (Except.ok.inj hreservation).symm
    · intro hnot hnone
      rw [(hunmirrored hnot).1]
      exact hfigure hpoints (by simp [workPayload]) (by decide) (by rw [inStep_get? x changes (by decide) (by decide),hnone])
    · intro hnot hnone hnone'
      rw [(hunmirrored hnot).2]
      exact hfigure hreservedPoints (by simp [workPayload]) (by decide) (by rw [inStep_eq x hnone hnone',hnone'])
    · exact haccepted.mirrored

/-- What holds of an item that the constructor makes. -/
structure Survives (x : CodexWorkItem host) : Prop where
  roundTrip : (loads host.floatText (dumps true (sortKeys (.obj (workPayload x))))).map workFromPayload = some (.ok x)
  changed : ∀ state changes y, x.withState state changes = .ok y → Changed x y state changes
  binding : ∀ y : CodexWorkItem host, (loads host.floatText (dumps true (sortKeys (.obj (workPayload x))))).map workFromPayload = some (.ok y) →
    durableWorkBinding y = durableWorkBinding x

/-- An item is read back from its text, and `with_state` changes what it names, with the figures that are mirrored. -/
theorem work_items_survive {p : Payload} {x : CodexWorkItem host} (h : agentWorkItem p = .ok x) : Survives x := by
  obtain ⟨a,-,hinit⟩ := except_bind_ok h
  have hread := workFromPayload_loads (init_ok hinit).2.2.2.2
  refine ⟨hread,fun state changes y => withState_changed,fun y hy => ?_⟩
  rw [hread] at hy
  cases hy
  rfl

end Host

/-! ### An estimate in points -/

/-- Floats of two integers. -/
def plainHost : FloatHost where
  floatText := id
  ofInt n := if n = 5 then some ⟨"5.0",by decide +kernel⟩ else if n = 0 then some ⟨"0.0",by decide +kernel⟩ else none
  ofInt_pos n x h hn := by
    split at h
    · cases h
      decide
    · split at h
      · next hzero => omega
      · cases h
  ofInt_nonneg n x h _ := by
    split at h
    · cases h
      decide
    · split at h
      · cases h
        decide
      · cases h

def fivePoints : CodexWorkItem plainHost where
  id := "work-1"
  projectId := "project-1"
  ownerThread := some "thread-1"
  estimatedUnits := ⟨"5.0",by decide +kernel⟩
  reservedUnits := ⟨"0.0",by decide +kernel⟩
  estimatedQuotaPoints := some (.float ⟨"5.0",by decide +kernel⟩)
  reservedQuotaPoints := some (.float ⟨"0.0",by decide +kernel⟩)

def fivePointsPayload : Payload :=
  .ofList [("id",.str "work-1"),("project_id",.str "project-1"),("owner_thread",.str "thread-1"),("estimated_quota_points",.int 5)]

theorem work_items_survive_points : agentWorkItem fivePointsPayload = .ok fivePoints ∧ Survives fivePoints := by
  have hmade : agentWorkItem fivePointsPayload = .ok fivePoints := by decide +kernel
  exact ⟨hmade,work_items_survive hmade⟩

def eightPoints : CodexWorkItem plainHost :=
  { fivePoints with
    estimatedUnits := ⟨"8.0",by decide +kernel⟩
    estimatedQuotaPoints := some (.float ⟨"8.0",by decide +kernel⟩) }

/-- Another estimate in units changes the estimate in points, which is not named. -/
theorem estimate_changes_points : fivePoints.withState .queued (.ofList [("estimated_units",.float "8.0")]) = .ok eightPoints ∧
    eightPoints.estimatedQuotaPoints ≠ fivePoints.estimatedQuotaPoints := by
  refine ⟨?_,?_⟩
  · decide +kernel
  · decide

end WorkCodec
end Overseer.Quark
