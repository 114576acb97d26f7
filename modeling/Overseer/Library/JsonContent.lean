import Overseer.Library.JsonReading
import Overseer.Library.Stored

/-! # The content of a JSON value

Two values have the same content when they differ in no more than the order of the members of
their mappings. Integers, floats and booleans are kept apart.
-/
namespace Overseer.Library.Json

mutual
/-- Equal up to the order of members, at every level. -/
def sameContent : Json → Json → Bool
  | arr a,arr b => sameContentItems a b
  | obj a,obj b => a.length == b.length && sameContentMembers a b
  | a,b => same a b
def sameContentItems : List Json → List Json → Bool
  | [],[] => true
  | a :: as,b :: bs => sameContent a b && sameContentItems as bs
  | _,_ => false
def sameContentMembers : List (String × Json) → List (String × Json) → Bool
  | [],_ => true
  | (k,a) :: as,b => b.any (fun e => e.1 == k && sameContent a e.2) && sameContentMembers as b
end

theorem sameContentItems_iff (as bs : List Json) : sameContentItems as bs = true ↔ List.Forall₂ (fun a b => sameContent a b = true) as bs := by
  induction as generalizing bs with
  | nil => cases bs <;> simp [sameContentItems]
  | cons a as ih => cases bs <;> simp [sameContentItems,ih]

theorem sameContentMembers_iff (as bs : List (String × Json)) :
    sameContentMembers as bs = true ↔ ∀ e ∈ as, ∃ v, (e.1,v) ∈ bs ∧ sameContent e.2 v = true := by
  induction as with
  | nil => simp [sameContentMembers]
  | cons e as ih =>
    obtain ⟨k,a⟩ := e
    rw [sameContentMembers,Bool.and_eq_true,ih,List.forall_mem_cons]
    refine and_congr_left fun _ => ?_
    rw [List.any_eq_true]
    constructor
    · rintro ⟨⟨k',v⟩,hmem,hv⟩
      rw [Bool.and_eq_true,beq_iff_eq] at hv
      obtain ⟨rfl,hv⟩ := hv
      exact ⟨v,hmem,hv⟩
    · rintro ⟨v,hmem,hv⟩
      exact ⟨(k,v),hmem,by simp [hv]⟩

theorem sameContent_iff_eq {v : Json} (harr : ∀ items, v ≠ arr items) (hobj : ∀ members, v ≠ obj members) (w : Json) :
    sameContent v w = true ↔ v = w := by
  rw [← same_iff]
  cases v with
  | arr items => exact absurd rfl (harr items)
  | obj members => exact absurd rfl (hobj members)
  | _ => rw [sameContent] <;> nofun

theorem sameContent_refl (v : Json) : sameContent v v = true := by
  refine of_parts (P := fun v => sameContent v v = true) ?_ ?_ ?_ v
  · exact fun v harr hobj => (sameContent_iff_eq harr hobj v).mpr rfl
  · intro vs ih
    rw [sameContent,sameContentItems_iff]
    exact List.forall₂_same.mpr ih
  · intro es ih
    rw [sameContent,beq_self_eq_true,Bool.true_and,sameContentMembers_iff]
    exact fun e he => ⟨e.2,he,ih e he⟩

theorem sameContent_sortKeys (v : Json) : sameContent (sortKeys v) v = true := by
  refine of_parts (P := fun v => sameContent (sortKeys v) v = true) ?_ ?_ ?_ v
  · intro v harr hobj
    cases v with
    | arr items => exact absurd rfl (harr items)
    | obj members => exact absurd rfl (hobj members)
    | _ => exact sameContent_refl _
  · intro vs ih
    rw [sortKeys,sameContent,sameContentItems_iff,sortItems_eq_map,List.forall₂_map_left_iff]
    exact List.forall₂_same.mpr ih
  · intro es ih
    rw [sortKeys_obj,sameContent,Bool.and_eq_true,beq_iff_eq,sameContentMembers_iff]
    constructor
    · simp [(sortedMembers_perm es).length_eq]
    · intro e he
      obtain ⟨e₀,he₀,rfl⟩ := List.mem_map.mp ((sortedMembers_perm es).mem_iff.mp he)
      exact ⟨e₀.2,he₀,ih e₀ he₀⟩

end Overseer.Library.Json
