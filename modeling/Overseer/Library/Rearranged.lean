import Mathlib.Data.List.Sort
import Mathlib.Data.List.Perm.Subperm

/-! # Lists in another order

Insertion sort by a key keeps the order of what has the same key, so lists that differ in no
more than the order of different keys sort alike.
-/
namespace Overseer.Library

section Sorting
variable {α : Type} {key : α → Int}

theorem filter_orderedInsert (a : α) (l : List α) (t : Int) :
    (l.orderedInsert (fun x y => key x ≤ key y) a).filter (key · = t) = (a :: l).filter (key · = t) := by
  induction l with
  | nil => rfl
  | cons b rest ih =>
    rw [List.orderedInsert]
    split
    · rfl
    · next hlt =>
      -- `b` is earlier than `a`, so they are not both kept
      have hne : key b = t → ¬ key a = t := by omega
      rw [List.filter_cons,ih]
      by_cases hb : key b = t
      · simp [hb,hne hb]
      · simp [List.filter_cons,hb]

theorem filter_insertionSort (l : List α) (t : Int) :
    (l.insertionSort fun x y => key x ≤ key y).filter (key · = t) = l.filter (key · = t) := by
  induction l with
  | nil => rfl
  | cons a rest ih =>
    rw [List.insertionSort_cons,filter_orderedInsert,List.filter_cons,List.filter_cons,ih]

theorem eq_of_sorted_filter {l l' : List α} (hl : l.Pairwise fun x y => key x ≤ key y) (hl' : l'.Pairwise fun x y => key x ≤ key y)
    (h : ∀ t, l.filter (key · = t) = l'.filter (key · = t)) : l = l' := by
  induction l generalizing l' with
  | nil =>
    cases l' with
    | nil => rfl
    | cons b rest =>
      have hb := h (key b)
      simp at hb
  | cons a rest ih =>
    cases l' with
    | nil =>
      have ha := h (key a)
      simp at ha
    | cons b rest' =>
      rw [List.pairwise_cons] at hl hl'
      -- each of the two heads is among the other list
      have hba : key b ≤ key a := by
        have hmem : a ∈ (b :: rest').filter (key · = key a) := by
          rw [← h (key a)]
          simp
        rcases List.mem_cons.mp (List.mem_filter.mp hmem).1 with rfl | hrest
        · exact le_rfl
        · exact hl'.1 a hrest
      have hab : key a ≤ key b := by
        have hmem : b ∈ (a :: rest).filter (key · = key b) := by
          rw [h (key b)]
          simp
        rcases List.mem_cons.mp (List.mem_filter.mp hmem).1 with rfl | hrest
        · exact le_rfl
        · exact hl.1 b hrest
      have hkey : key a = key b := le_antisymm hab hba
      have hhead := h (key a)
      simp only [List.filter_cons,hkey,decide_true,↓reduceIte,List.cons.injEq] at hhead
      obtain ⟨rfl,-⟩ := hhead
      refine congrArg (a :: ·) (ih hl.2 hl'.2 fun t => ?_)
      have ht := h t
      by_cases hat : key a = t
      · simpa [List.filter_cons,hat] using ht
      · simpa [List.filter_cons,hat] using ht

end Sorting

/-! ### Rearranged lists -/

theorem eq_of_perm_short {α : Type} {l l' : List α} (h : l'.Perm l) (hl : l.length ≤ 1) : l' = l := by
  match l,hl with
  | [],_ => exact List.perm_nil.mp h
  | [a],_ => exact List.perm_singleton.mp h
  | a :: b :: rest,hl => simp at hl

theorem any_perm {α : Type} {l l' : List α} (h : l'.Perm l) (p : α → Bool) : l'.any p = l.any p := by
  rw [Bool.eq_iff_iff,List.any_eq_true,List.any_eq_true]
  simp only [h.mem_iff]

theorem all_perm {α : Type} {l l' : List α} (h : l'.Perm l) (p : α → Bool) : l'.all p = l.all p := by
  rw [Bool.eq_iff_iff,List.all_eq_true,List.all_eq_true]
  simp only [h.mem_iff]

theorem filter_mem_of_sublist {α : Type} [DecidableEq α] {l v : List α} (h : l.Sublist v) (hv : v.Nodup) : v.filter (· ∈ l) = l := by
  have hsub : (l.filter (· ∈ l)).Sublist (v.filter (· ∈ l)) := h.filter _
  have hself : l.filter (· ∈ l) = l := List.filter_eq_self.mpr fun a ha => decide_eq_true ha
  rw [hself] at hsub
  refine (hsub.eq_of_length_le ?_).symm
  have hperm : (v.filter (· ∈ l)).Subperm l :=
    List.subperm_of_subset (hv.filter _) fun a ha => of_decide_eq_true (List.mem_filter.mp ha).2
  exact hperm.length_le

end Overseer.Library
