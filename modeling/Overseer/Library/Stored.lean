import Overseer.Library.JsonText
import Mathlib.Data.Finset.Sort

/-! # Values kept as JSON

A stored value is written with the keys of its mappings in order and read back as it was.
A record is written as a mapping of its fields, in any order of its keys.
-/
namespace Overseer.Library
namespace Json

theorem sortItems_eq_map (items : List Json) : sortItems items = items.map sortKeys := by
  induction items with
  | nil => rfl
  | cons a as ih => rw [sortItems,ih,List.map_cons]

theorem sortMembers_eq_map (members : List (String × Json)) :
    sortMembers members = members.map fun e => (e.1,sortKeys e.2) := by
  induction members with
  | nil => rfl
  | cons e as ih => rw [sortMembers,ih,List.map_cons]

/-- The members of a mapping with sorted keys. -/
def sortedMembers (members : List (String × Json)) : List (String × Json) :=
  (sortMembers members).insertionSort fun a b => a.1.toList ≤ b.1.toList

theorem sortKeys_obj (members : List (String × Json)) : sortKeys (obj members) = obj (sortedMembers members) := rfl

theorem sortedMembers_perm (members : List (String × Json)) :
    (sortedMembers members).Perm (members.map fun e => (e.1,sortKeys e.2)) := by
  rw [← sortMembers_eq_map]
  exact List.perm_insertionSort _ _

theorem sortedMembers_keys_perm (members : List (String × Json)) :
    ((sortedMembers members).map Prod.fst).Perm (members.map Prod.fst) := by
  have hkeys := (sortedMembers_perm members).map Prod.fst
  rwa [List.map_map] at hkeys

theorem sortedMembers_of_perm {es fs : List (String × Json)} (h : es.Perm fs) (hes : (es.map Prod.fst).Nodup) :
    sortedMembers es = sortedMembers fs := by
  let before : String × Json → String × Json → Prop := fun a b => a.1.toList ≤ b.1.toList
  have : IsTrans _ before := ⟨fun a b c (hab : a.1.toList ≤ b.1.toList) hbc => le_trans hab hbc⟩
  have : Std.Total before := ⟨fun a b => le_total a.1.toList b.1.toList⟩
  have hperm : (sortedMembers es).Perm (sortedMembers fs) :=
    (sortedMembers_perm es).trans ((h.map _).trans (sortedMembers_perm fs).symm)
  have hkeys : ((sortedMembers es).map Prod.fst).Nodup := (sortedMembers_keys_perm es).nodup_iff.mpr hes
  refine hperm.eq_of_pairwise ?_ (List.pairwise_insertionSort before _) (List.pairwise_insertionSort before _)
  intro a c ha hc hac hca
  have hkey : a.1 = c.1 := String.toList_inj.mp (le_antisymm hac hca)
  exact List.inj_on_of_nodup_map hkeys ha (hperm.mem_iff.mpr hc) hkey

/-! ### Sorting keys is not seen by `==` -/

theorem alikeMembers_of_forall {as b : List (String × Json)}
    (h : ∀ e ∈ as, ∃ e' ∈ b, e'.1 = e.1 ∧ alike e.2 e'.2 = true) : alikeMembers as b = true := by
  induction as with
  | nil => rfl
  | cons e as ih =>
    obtain ⟨k,a⟩ := e
    rw [alikeMembers,Bool.and_eq_true]
    constructor
    · obtain ⟨e',he',hkey,halike⟩ := h (k,a) List.mem_cons_self
      exact List.any_eq_true.mpr ⟨e',he',by simp [hkey,halike]⟩
    · exact ih fun e he => h e (List.mem_cons_of_mem _ he)

mutual
theorem sortKeys_alike : ∀ v : Json, alike (sortKeys v) v = true
  | null => rfl
  | bool b => alike_refl (bool b)
  | int n => alike_refl (int n)
  | float t => alike_refl (float t)
  | str s => alike_refl (str s)
  | arr items => by
    rw [sortKeys,alike]
    exact sortItems_alike items
  | obj members => by
    rw [sortKeys_obj,alike,Bool.and_eq_true]
    constructor
    · simp [(sortedMembers_perm members).length_eq]
    · refine alikeMembers_of_forall fun e he => ?_
      obtain ⟨e₀,he₀,rfl⟩ := List.mem_map.mp ((sortedMembers_perm members).mem_iff.mp he)
      exact ⟨e₀,he₀,rfl,sortMembers_alike members e₀ he₀⟩
theorem sortItems_alike : ∀ items : List Json, alikeItems (sortItems items) items = true
  | [] => rfl
  | a :: as => by
    rw [sortItems,alikeItems,sortKeys_alike a,sortItems_alike as]
    rfl
theorem sortMembers_alike : ∀ (members : List (String × Json)) (e : String × Json), e ∈ members → alike (sortKeys e.2) e.2 = true
  | [], _, h => by cases h
  | (k,a) :: as, e, h => by
    rcases List.mem_cons.mp h with rfl | h
    · exact sortKeys_alike a
    · exact sortMembers_alike as e h
end

/-! ### Members -/

/-- The member of a mapping at a key. -/
def member? (v : Json) (k : String) : Option Json :=
  match v with
  | obj members => Dict.find k members
  | _ => none

theorem find_eq_of_perm {α : Type} {es fs : List (String × α)} (h : es.Perm fs) (hes : (es.map Prod.fst).Nodup) (k : String) :
    Dict.find k es = Dict.find k fs := by
  have hfs : (fs.map Prod.fst).Nodup := (h.map Prod.fst).nodup_iff.mp hes
  refine Option.ext fun v => ?_
  rw [← Dict.mem_iff_find hes,← Dict.mem_iff_find hfs,h.mem_iff]

theorem find_map_snd (f : Json → Json) (k : String) (members : List (String × Json)) :
    Dict.find k (members.map fun e => (e.1,f e.2)) = (Dict.find k members).map f := by
  induction members with
  | nil => rfl
  | cons e rest ih =>
    simp only [List.map_cons,Dict.find]
    split
    · rfl
    · exact ih

theorem member?_sortKeys {members : List (String × Json)} (h : (members.map Prod.fst).Nodup) (k : String) :
    (sortKeys (obj members)).member? k = (Dict.find k members).map sortKeys := by
  have hsorted : ((sortedMembers members).map Prod.fst).Nodup := (sortedMembers_keys_perm members).nodup_iff.mpr h
  rw [sortKeys_obj,member?,find_eq_of_perm (sortedMembers_perm members) hsorted,find_map_snd]

end Json

/-- A type with its stored form. -/
class Stored (α : Type) where
  toJsonable : α → Json
  coerceValue : Json → Option α
  coerce_toJsonable : ∀ a, coerceValue (toJsonable a).sortKeys = some a

export Stored (toJsonable coerceValue)

namespace Stored

instance : Stored String where
  toJsonable := .str
  coerceValue := Json.asStr?
  coerce_toJsonable _ := rfl

instance : Stored (Option String) where
  toJsonable o := o.elim .null .str
  coerceValue v := match v with
    | .null => some none
    | .str s => some (some s)
    | _ => none
  coerce_toJsonable o := by cases o <;> rfl

/-- The items of a sequence. -/
def coerceItems {α : Type} [Stored α] (v : Json) : Option (List α) :=
  match v with
  | .arr items => items.mapM coerceValue
  | _ => none

theorem coerceItems_arr {α : Type} [Stored α] (as : List α) : coerceItems (Json.arr (as.map toJsonable)).sortKeys = some as := by
  rw [Json.sortKeys,Json.sortItems_eq_map]
  unfold coerceItems
  induction as with
  | nil => rfl
  | cons a as ih =>
    simp only [List.map_cons,List.mapM_cons,coerce_toJsonable]
    dsimp only at ih
    rw [ih]
    rfl

instance {α : Type} [Stored α] : Stored (List α) where
  toJsonable as := .arr (as.map toJsonable)
  coerceValue := coerceItems
  coerce_toJsonable := coerceItems_arr

instance : Stored ℤ where
  toJsonable := .int
  coerceValue v := match v with
    | .int n => some n
    | _ => none
  coerce_toJsonable _ := rfl

/-- A set is written in order. -/
instance {α : Type} [LinearOrder α] [Stored α] : Stored (Finset α) where
  toJsonable s := toJsonable (s.sort (· ≤ ·))
  coerceValue v := (coerceItems v).map List.toFinset
  coerce_toJsonable s := by
    change (coerceItems (Json.arr ((s.sort (· ≤ ·)).map toJsonable)).sortKeys).map List.toFinset = some s
    rw [coerceItems_arr,Option.map_some,Finset.sort_toFinset]

/-- An enumeration is written by its values. -/
@[reducible] def ofEnum {α : Type} (members : List α) (value : α → String)
    (h : ∀ a, members.find? (fun b => decide (value b = value a)) = some a) : Stored α where
  toJsonable a := .str (value a)
  coerceValue v := v.asStr?.bind fun s => members.find? fun b => decide (value b = s)
  coerce_toJsonable a := h a

end Stored

/-- A field of a record, with its default when it is missing. -/
def readField {α : Type} [Stored α] (v : Json) (name : String) (default_ : Option α) : Option α :=
  match v.member? name with
  | some member => coerceValue member
  | none => default_

theorem readField_sortKeys {α : Type} [Stored α] {members : List (String × Json)} (hkeys : (members.map Prod.fst).Nodup)
    {name : String} {a : α} (h : Dict.find name members = some (toJsonable a)) (default_ : Option α) :
    readField (Json.obj members).sortKeys name default_ = some a := by
  unfold readField
  rw [Json.member?_sortKeys hkeys,h]
  exact Stored.coerce_toJsonable a

end Overseer.Library
