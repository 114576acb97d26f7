import Mathlib.Data.List.Basic

/-! # Parts between separators

A text made of parts with a separator between each two. The number of parts, and one text whose parts are free of
the separator, determine the parts, even when nothing is known of the parts of the other text.
-/
namespace Overseer.Library
variable {α : Type} [DecidableEq α] {x : α}

theorem count_intercalate (x : α) (l : List α) (ls : List (List α)) :
    ([x].intercalate (l :: ls)).count x = ls.length + (l :: ls).flatten.count x := by
  induction ls generalizing l with
  | nil => simp
  | cons l' ls ih =>
    rw [List.intercalate_cons_cons,List.count_append,List.count_append,ih,List.flatten_cons (l := l),List.count_append,
      List.count_singleton_self,List.length_cons]
    omega

theorem intercalate_inj {ls ms : List (List α)} (hfree : ∀ l ∈ ls, x ∉ l) (hlength : ls.length = ms.length)
    (h : [x].intercalate ls = [x].intercalate ms) : ls = ms := by
  cases ls with
  | nil => exact (List.eq_nil_of_length_eq_zero hlength.symm).symm
  | cons l ls =>
    cases ms with
    | nil => cases hlength
    | cons m ms =>
      -- as many separators as there are between the parts, so none inside a part of the other text
      have hnone : (l :: ls).flatten.count x = 0 := by
        rw [List.count_eq_zero,List.mem_flatten]
        rintro ⟨part,hpart,hx⟩
        exact hfree part hpart hx
      have hnone' : (m :: ms).flatten.count x = 0 := by
        have hcount := congrArg (List.count x) h
        rw [count_intercalate,count_intercalate,hnone] at hcount
        simp only [List.length_cons] at hlength
        omega
      have hfree' : ∀ part ∈ m :: ms, x ∉ part :=
        fun part hpart hx => List.count_eq_zero.mp hnone' (List.mem_flatten.mpr ⟨part,hpart,hx⟩)
      have hsplit := congrArg (List.splitOn x) h
      rwa [List.splitOn_intercalate x hfree (List.cons_ne_nil _ _),List.splitOn_intercalate x hfree' (List.cons_ne_nil _ _)] at hsplit

end Overseer.Library
