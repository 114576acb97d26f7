import Overseer.Library.Stored

/-! # Canonical values

A value whose mappings have their keys in order is dumped as it stands. A row is read
strictly when it is canonical and has exactly the fields of its record.
-/
namespace Overseer.Library
namespace Json

instance : Std.Total fun a b : String × Json => a.1.toList ≤ b.1.toList := ⟨fun a b => le_total a.1.toList b.1.toList⟩
instance : IsTrans (String × Json) fun a b => a.1.toList ≤ b.1.toList := ⟨fun _ _ _ h h' => le_trans h h'⟩

theorem sortedMembers_of_fixed {members : List (String × Json)} (h : ∀ e ∈ members, (sortKeys e.2).sortKeys = sortKeys e.2) :
    sortedMembers (sortedMembers members) = sortedMembers members := by
  have hfix : sortMembers (sortedMembers members) = sortedMembers members := by
    rw [sortMembers_eq_map]
    refine (List.map_congr_left fun e he => ?_).trans (List.map_id _)
    obtain ⟨e₀,he₀,rfl⟩ := List.mem_map.mp ((sortedMembers_perm members).mem_iff.mp he)
    exact Prod.ext rfl (h e₀ he₀)
  have hsorted := List.pairwise_insertionSort (fun a b : String × Json => a.1.toList ≤ b.1.toList) (sortMembers members)
  calc sortedMembers (sortedMembers members)
      = (sortedMembers members).insertionSort (fun a b => a.1.toList ≤ b.1.toList) := by
        rw [sortedMembers,hfix]
    _ = sortedMembers members := hsorted.insertionSort_eq

mutual
/-- Sorting twice is sorting once. -/
theorem sortKeys_sortKeys : ∀ v : Json, (sortKeys v).sortKeys = sortKeys v
  | null => rfl
  | bool _ => rfl
  | int _ => rfl
  | float _ => rfl
  | str _ => rfl
  | arr items => by
    rw [sortKeys,sortKeys,sortItems_sortItems items]
  | obj members => by
    rw [sortKeys_obj,sortKeys_obj,sortedMembers_of_fixed (sortMembers_fixed members)]
theorem sortItems_sortItems : ∀ items : List Json, sortItems (sortItems items) = sortItems items
  | [] => rfl
  | a :: as => by
    rw [sortItems,sortItems,sortKeys_sortKeys a,sortItems_sortItems as]
theorem sortMembers_fixed : ∀ (members : List (String × Json)) (e : String × Json), e ∈ members →
    (sortKeys e.2).sortKeys = sortKeys e.2
  | [], _, h => by cases h
  | (k,a) :: as, e, h => by
    rcases List.mem_cons.mp h with rfl | h
    · exact sortKeys_sortKeys a
    · exact sortMembers_fixed as e h
end

/-- The keys of a mapping. -/
def keys : Json → List String
  | obj members => members.map Prod.fst
  | _ => []

/-- The value is a mapping that is dumped as it stands. -/
def isCanonical : Json → Bool
  | obj members => (obj members).sortKeys = obj members
  | _ => false

theorem isCanonical_sortKeys (members : List (String × Json)) : isCanonical (obj members).sortKeys = true := by
  have hsorted := sortKeys_sortKeys (obj members)
  rw [sortKeys_obj] at hsorted ⊢
  exact decide_eq_true hsorted

theorem mem_keys_sortKeys {members : List (String × Json)} {k : String} :
    k ∈ (obj members).sortKeys.keys ↔ k ∈ members.map Prod.fst :=
  (sortedMembers_keys_perm members).mem_iff

end Json
end Overseer.Library
