import Overseer.Core.RequestCodec
import Overseer.Roadex.AdminPlans
import Overseer.Agent.Contracts
import Overseer.Library.JsonEquality

/-! # Records and their rows

`_dump` and `_load_dataclass` of `store.py` for the records that the operations centre keeps. What
is read back is what was written, the order of keys apart, and what is the same is written alike.
-/
namespace Overseer.Roadex
open Overseer.Library Overseer.Core Overseer.Agent Json

/-! ### Driver epochs -/

/-- A `DriverEpoch` as it is stored, with the texts of its times. -/
structure EpochFields where
  id : String
  instanceId : String
  sessionId : String
  providerId : String
  ordinal : ℤ
  state : AgentOperationState
  openedAt : Option String := none
  closedAt : Option String := none
  reason : Option String := none
  replacementEpochId : Option String := none
  deriving DecidableEq

/-- What `__post_init__` asks. -/
def EpochFields.valid (e : EpochFields) : Bool :=
  !isBlank e.id && !isBlank e.instanceId && !isBlank e.sessionId && !isBlank e.providerId && 1 ≤ e.ordinal &&
    e.replacementEpochId.all fun id => !Library.isBlank id

/-- A `DriverEpoch`. -/
structure StoredEpoch extends EpochFields where
  valid : toEpochFields.valid = true

instance : Stored AgentOperationState :=
  .ofEnum [.queued,.acknowledged,.running,.succeeded,.failed,.blocked,.cancelled,.quarantined] AgentOperationState.value
    fun s => by cases s <;> decide

namespace StoredEpoch

def members (e : StoredEpoch) : List (String × Json) :=
  [("id",toJsonable e.id),("instance_id",toJsonable e.instanceId),("session_id",toJsonable e.sessionId),
    ("provider_id",toJsonable e.providerId),("ordinal",toJsonable e.ordinal),("state",toJsonable e.state),
    ("opened_at",toJsonable e.openedAt),("closed_at",toJsonable e.closedAt),("reason",toJsonable e.reason),
    ("replacement_epoch_id",toJsonable e.replacementEpochId)]

def fieldsOf (v : Json) : Option EpochFields := do
  return {
    id := ← readField v "id" none
    instanceId := ← readField v "instance_id" none
    sessionId := ← readField v "session_id" none
    providerId := ← readField v "provider_id" none
    ordinal := ← readField v "ordinal" none
    state := ← readField v "state" none
    openedAt := ← readField v "opened_at" (some none)
    closedAt := ← readField v "closed_at" (some none)
    reason := ← readField v "reason" (some none)
    replacementEpochId := ← readField v "replacement_epoch_id" (some none) }

def ofJsonable (v : Json) : Option StoredEpoch :=
  (fieldsOf v).bind fun e => if h : e.valid = true then some ⟨e,h⟩ else none

theorem members_nodup (e : StoredEpoch) : (e.members.map Prod.fst).Nodup := by
  change ["id","instance_id","session_id","provider_id","ordinal","state","opened_at","closed_at","reason","replacement_epoch_id"].Nodup
  decide

theorem ofJsonable_members (e : StoredEpoch) : ofJsonable (Json.obj e.members).sortKeys = some e := by
  have hread : ∀ {α : Type} [Stored α] {name : String} (a : α) (default_ : Option α), Dict.find name e.members = some (toJsonable a) →
      readField (Json.obj e.members).sortKeys name default_ = some a := fun a default_ h => readField_sortKeys e.members_nodup h default_
  have hfields : fieldsOf (Json.obj e.members).sortKeys = some e.toEpochFields := by
    unfold fieldsOf
    rw [hread e.id _ rfl,hread e.instanceId _ rfl,hread e.sessionId _ rfl,hread e.providerId _ rfl,hread e.ordinal _ rfl,
      hread e.state _ rfl,hread e.openedAt _ rfl,hread e.closedAt _ rfl,hread e.reason _ rfl,hread e.replacementEpochId _ rfl]
    rfl
  unfold ofJsonable
  rw [hfields,Option.bind_some,dif_pos e.valid]

end StoredEpoch

/-! ### What is read back from its text -/

/-- A type whose stored values are read back from their text. -/
class Plain (α : Type) [Stored α] : Prop where
  printed : ∀ (floatText : String → String) (a : α), Printed floatText (toJsonable a)

instance : Plain String := ⟨fun _ _ => ⟨rfl,rfl⟩⟩
instance : Plain ℤ := ⟨fun _ _ => ⟨rfl,rfl⟩⟩
instance : Plain Bool := ⟨fun _ _ => ⟨rfl,rfl⟩⟩
instance : Plain (Option String) := ⟨fun _ o => by cases o <;> exact ⟨rfl,rfl⟩⟩
instance : Plain OwnerDomain := ⟨fun _ _ => ⟨rfl,rfl⟩⟩
instance : Plain ResourceType := ⟨fun _ _ => ⟨rfl,rfl⟩⟩
instance : Plain RiskLevel := ⟨fun _ _ => ⟨rfl,rfl⟩⟩
instance : Plain ResourceState := ⟨fun _ _ => ⟨rfl,rfl⟩⟩
instance : Plain ClaimType := ⟨fun _ _ => ⟨rfl,rfl⟩⟩
instance : Plain ClaimStatus := ⟨fun _ _ => ⟨rfl,rfl⟩⟩
instance : Plain ApprovalLevel := ⟨fun _ _ => ⟨rfl,rfl⟩⟩
instance : Plain ConflictOutcome := ⟨fun _ _ => ⟨rfl,rfl⟩⟩
instance : Plain AdminChangeKind := ⟨fun _ _ => ⟨rfl,rfl⟩⟩
instance : Plain AgentOperationState := ⟨fun _ _ => ⟨rfl,rfl⟩⟩

instance {α : Type} [Stored α] [Plain α] : Plain (List α) where
  printed floatText as := printed_arr.mpr fun v hv => by
    obtain ⟨a,-,rfl⟩ := List.mem_map.mp hv
    exact Plain.printed floatText a

instance {α : Type} [LinearOrder α] [Stored α] [Plain α] : Plain (Finset α) where
  printed floatText s := Plain.printed floatText (s.sort (· ≤ ·))

instance : Plain AdminCommandStep where
  printed floatText step := by
    refine printed_obj.mpr ⟨stepMembers_nodup step,fun e he => ?_⟩
    simp only [stepMembers,List.mem_cons,List.not_mem_nil,or_false] at he
    rcases he with rfl | rfl | rfl
    all_goals exact Plain.printed floatText _

section Printed
variable (floatText : String → String)

theorem printed_claim (c : Claim) : Printed floatText (.obj c.members) := by
  refine printed_obj.mpr ⟨c.members_nodup,fun e he => ?_⟩
  simp only [Claim.members,List.mem_cons,List.not_mem_nil,or_false] at he
  rcases he with rfl | rfl | rfl | rfl | rfl | rfl | rfl | rfl | rfl | rfl | rfl | rfl | rfl | rfl | rfl | rfl | rfl | rfl | rfl
  all_goals exact Plain.printed floatText _

theorem printed_decision (d : ConflictDecision) : Printed floatText (.obj d.members) := by
  refine printed_obj.mpr ⟨d.members_nodup,fun e he => ?_⟩
  simp only [ConflictDecision.members,List.mem_cons,List.not_mem_nil,or_false] at he
  rcases he with rfl | rfl | rfl | rfl
  all_goals exact Plain.printed floatText _

theorem printed_resource {r : Resource} (hidentifiers : Printed floatText (.obj r.identifiers.entries)) :
    Printed floatText (.obj r.members) := by
  refine printed_obj.mpr ⟨r.members_nodup,fun e he => ?_⟩
  simp only [Resource.members,List.mem_cons,List.not_mem_nil,or_false] at he
  rcases he with rfl | rfl | rfl | rfl | rfl | rfl | rfl | rfl | rfl | rfl | rfl | rfl
  all_goals first | exact hidentifiers | exact Plain.printed floatText _

theorem printed_plan (p : AdminPlanRecord) : Printed floatText (.obj p.members) := by
  refine printed_obj.mpr ⟨p.members_nodup,fun e he => ?_⟩
  simp only [AdminPlanRecord.members,AdminPlanRecord.fixedMembers,AdminPlanRecord.mutableMembers,List.mem_append,List.mem_cons,
    List.not_mem_nil,or_false] at he
  rcases he with (rfl | rfl | rfl | rfl | rfl | rfl | rfl | rfl | rfl | rfl | rfl | rfl | rfl | rfl) |
    (rfl | rfl | rfl | rfl | rfl | rfl | rfl | rfl | rfl | rfl | rfl)
  all_goals exact Plain.printed floatText _

theorem printed_epoch (e : StoredEpoch) : Printed floatText (.obj e.members) := by
  refine printed_obj.mpr ⟨e.members_nodup,fun m hm => ?_⟩
  simp only [StoredEpoch.members,List.mem_cons,List.not_mem_nil,or_false] at hm
  rcases hm with rfl | rfl | rfl | rfl | rfl | rfl | rfl | rfl | rfl | rfl
  all_goals exact Plain.printed floatText _

end Printed

/-! ### The codec -/

/-- `_dump`, of the fields of a record. -/
def dumpMembers (members : List (String × Json)) : String := dumps true (sortKeys (.obj members))

/-- The resources are the same, the order of keys in their identifiers apart. -/
def SameRecord (r r' : Resource) : Prop :=
  SameMapping r.identifiers r'.identifiers ∧ { r with identifiers := .empty } = { r' with identifiers := .empty }

/-- The records of a type survive: one whose JSON values are printed is read back, and the same ones have one text. -/
structure Survive {T : Type} (members : T → List (String × Json)) (ofJsonable : Json → Option T) (printed : (String → String) → T → Prop)
    (Same : T → T → Prop) : Prop where
  read : ∀ floatText x, printed floatText x → ∃ y, (loads floatText (dumpMembers (members x))).bind ofJsonable = some y ∧ Same y x
  alike : ∀ x y, Same x y → dumpMembers (members x) = dumpMembers (members y)

theorem survive_plain {T : Type} {members : T → List (String × Json)} {ofJsonable : Json → Option T}
    (hprinted : ∀ floatText x, Printed floatText (.obj (members x))) (hread : ∀ x, ofJsonable (Json.obj (members x)).sortKeys = some x) :
    Survive members ofJsonable (fun _ _ => True) (· = ·) := by
  refine ⟨fun floatText x _ => ⟨x,?_,rfl⟩,fun x y h => h ▸ rfl⟩
  unfold dumpMembers
  rw [loads_dumps true (printed_sortKeys _ (hprinted floatText x)),Option.bind_some,hread]

theorem dumpMembers_congr {es fs : List (String × Json)} (h : sortMembers es = sortMembers fs) : dumpMembers es = dumpMembers fs := by
  unfold dumpMembers
  rw [sortKeys_obj,sortKeys_obj,sortedMembers,sortedMembers,h]

/-- The records of the six types. -/
structure RecordsSurvive : Prop where
  claim : Survive Claim.members Claim.ofJsonable (fun _ _ => True) (· = ·)
  decision : Survive ConflictDecision.members ConflictDecision.ofJsonable (fun _ _ => True) (· = ·)
  plan : Survive AdminPlanRecord.members AdminPlanRecord.ofJsonable (fun _ _ => True) (· = ·)
  epoch : Survive StoredEpoch.members StoredEpoch.ofJsonable (fun _ _ => True) (· = ·)
  resource : Survive Resource.members Resource.ofJsonable (fun floatText r => Printed floatText (.obj r.identifiers.entries)) SameRecord
  request : Survive StorageExecutionRequest.members StorageExecutionRequest.ofJsonable
    (fun floatText r => Printed floatText (.obj r.parameters.entries) ∧ Printed floatText (.obj r.limits.entries)) SameRequest

theorem records_survive : RecordsSurvive := by
  constructor
  · exact survive_plain printed_claim Claim.ofJsonable_members
  · exact survive_plain printed_decision ConflictDecision.ofJsonable_members
  · exact survive_plain printed_plan AdminPlanRecord.ofJsonable_members
  · exact survive_plain printed_epoch StoredEpoch.ofJsonable_members
  · constructor
    · intro floatText r hprinted
      refine ⟨r.restored,?_,StorageExecutionRequest.sameMapping_inOrder r.identifiers,rfl⟩
      unfold dumpMembers
      rw [loads_dumps true (printed_sortKeys _ (printed_resource floatText hprinted)),Option.bind_some,Resource.ofJsonable_members]
    · rintro r r' ⟨hmapping,hrest⟩
      cases r
      cases r'
      cases hrest
      refine dumpMembers_congr ?_
      unfold SameMapping at hmapping
      simp only [Resource.members,sortMembers,hmapping]
  · constructor
    · rintro floatText r ⟨hparameters,hlimits⟩
      refine ⟨r.restored,?_,StorageExecutionRequest.sameRequest_restored r⟩
      unfold dumpMembers
      rw [loads_dumps true (printed_sortKeys _ (StorageExecutionRequest.printed_members hparameters hlimits)),Option.bind_some,
        StorageExecutionRequest.ofJsonable_members]
    · rintro r r' ⟨hparameters,hlimits,hrest⟩
      cases r
      cases r'
      cases hrest
      refine dumpMembers_congr ?_
      unfold SameMapping at hparameters hlimits
      simp only [StorageExecutionRequest.members,sortMembers,hparameters,hlimits]

/-- A resource with a port. -/
def dock (port : Json) : Resource where
  id := "dock-1"
  name := "Dock"
  type := .physicalAsset
  ownerDomain := .obrien
  riskLevel := .low
  identifiers := Payload.ofList [("port",port)]

/-- An integer and a boolean of the same value are equal and are not written alike. -/
theorem equal_ports_written_apart :
    equals (fun _ _ => false) (.obj (dock (.int 1)).identifiers.entries) (.obj (dock (.bool true)).identifiers.entries) = true ∧
      { dock (.int 1) with identifiers := .empty } = { dock (.bool true) with identifiers := .empty } ∧
      dumpMembers (dock (.int 1)).members ≠ dumpMembers (dock (.bool true)).members := by
  refine ⟨by decide +kernel,rfl,fun h => ?_⟩
  have hport : ∀ port, Printed id (.obj [("port",port)]) → Printed id (.obj (dock port).members) := fun port h => printed_resource id h
  have hsame := dumps_injective true (printed_sortKeys _ (hport (.int 1) ⟨rfl,rfl⟩)) (printed_sortKeys _ (hport (.bool true) ⟨rfl,rfl⟩)) h
  have hread := congrArg (fun v => (Resource.readIdentifiers v).bind fun identifiers => identifiers.get? "port") hsame
  simp only [Resource.readIdentifiers_members] at hread
  exact absurd hread (by decide +kernel)

end Overseer.Roadex
