import Mathlib.Data.List.Basic
import Mathlib.Data.List.Forall2
import Mathlib.Data.List.Infix

/-! # Patterns

`LIKE` of SQLite: `%` stands for any text, `_` for any character, and the case of ASCII letters
does not count. No character takes these meanings away.
-/
namespace Overseer.Library
namespace Like

def matchesOne (p c : Char) : Bool := p = '_' || p.toLower = c.toLower

/-- `text LIKE pattern`. -/
def like : List Char → List Char → Bool
  | [], text => text.isEmpty
  | p :: ps, text =>
    if p = '%' then text.tails.any (like ps)
    else match text with
      | [] => false
      | c :: text => matchesOne p c && like ps text

/-- A text of the length of the pattern that matches it character by character. -/
def Alike (pattern text : List Char) : Prop := List.Forall₂ (fun p c => matchesOne p c = true) pattern text

/-- A part of the text matches. -/
def Occurs (pattern text : List Char) : Prop := ∃ a m b, text = a ++ (m ++ b) ∧ Alike pattern m

variable {p c : Char} {ps pattern text a b : List Char}

theorem matchesOne_self (c : Char) : matchesOne c c = true := by
  unfold matchesOne
  simp

theorem eq_of_matchesOne {z : Char} (hz : z.val.toNat < 65) (hne : z ≠ '_') (h : matchesOne z c = true) : c = z := by
  have hA : 'A'.val.toNat = 65 := rfl
  have hZ : 'Z'.val.toNat = 90 := rfl
  have hsmall : ¬ (z.val ≥ 'A'.val ∧ z.val ≤ 'Z'.val) := fun hcase => by
    have hge := UInt32.le_iff_toNat_le.mp hcase.1
    omega
  unfold matchesOne at h
  rw [Bool.or_eq_true,decide_eq_true_eq,decide_eq_true_eq] at h
  have hlower := h.resolve_left hne
  unfold Char.toLower at hlower
  rw [dif_neg hsmall] at hlower
  split at hlower
  · next hc =>
    have hge := UInt32.le_iff_toNat_le.mp hc.1
    have hle := UInt32.le_iff_toNat_le.mp hc.2
    have hadd : (c.val + ('a'.val - 'A'.val)).toNat = c.val.toNat + 32 := by
      rw [UInt32.toNat_add]
      refine Nat.mod_eq_of_lt ?_
      have hdiff : ('a'.val - 'A'.val).toNat = 32 := rfl
      omega
    have hsum := congrArg (fun d : Char => d.val.toNat) hlower
    simp only [hadd] at hsum
    omega
  · exact hlower.symm

theorem alike_self (text : List Char) : Alike text text := List.forall₂_same.mpr fun c _ => matchesOne_self c

theorem like_percent : like ('%' :: ps) text = true ↔ ∃ a b, text = a ++ b ∧ like ps b = true := by
  rw [like.eq_def]
  simp only [if_true,List.any_eq_true,List.mem_tails]
  constructor
  · rintro ⟨b,⟨a,rfl⟩,h⟩
    exact ⟨a,b,rfl,h⟩
  · rintro ⟨a,b,rfl,h⟩
    exact ⟨b,⟨a,rfl⟩,h⟩

theorem like_cons (hp : p ≠ '%') : like (p :: ps) text = true ↔ ∃ c rest, text = c :: rest ∧ matchesOne p c = true ∧ like ps rest = true := by
  rw [like.eq_def]
  simp only [if_neg hp]
  cases text with
  | nil => simp
  | cons c rest => simp

theorem like_any (text : List Char) : like ['%'] text = true := like_percent.mpr ⟨text,[],by rw [List.append_nil],rfl⟩

theorem like_of_prefix (pattern rest : List Char) : like (pattern ++ ['%']) (pattern ++ rest) = true := by
  induction pattern with
  | nil => exact like_any rest
  | cons p ps ih =>
    by_cases hp : p = '%'
    · rw [hp]
      exact like_percent.mpr ⟨['%'],ps ++ rest,rfl,ih⟩
    · exact (like_cons hp).mpr ⟨p,ps ++ rest,rfl,matchesOne_self p,ih⟩

theorem like_append (hpattern : '%' ∉ pattern) : like (pattern ++ ps) text = true ↔ ∃ m b, text = m ++ b ∧ Alike pattern m ∧ like ps b = true := by
  induction pattern generalizing text with
  | nil =>
    constructor
    · exact fun h => ⟨[],text,rfl,.nil,h⟩
    · rintro ⟨m,b,rfl,hm,h⟩
      cases hm
      exact h
  | cons p pattern ih =>
    rw [List.mem_cons,not_or] at hpattern
    obtain ⟨hp,hrest⟩ := hpattern
    rw [List.cons_append,like_cons (Ne.symm hp)]
    constructor
    · rintro ⟨c,rest,rfl,hc,h⟩
      obtain ⟨m,b,rfl,hm,hb⟩ := (ih hrest).mp h
      exact ⟨c :: m,b,rfl,.cons hc hm,hb⟩
    · rintro ⟨m,b,rfl,hm,hb⟩
      cases hm with
      | cons hc hm => exact ⟨_,_,rfl,hc,(ih hrest).mpr ⟨_,b,rfl,hm,hb⟩⟩

theorem like_iff_alike (hpattern : '%' ∉ pattern) : like pattern text = true ↔ Alike pattern text := by
  have happend := @like_append [] pattern text hpattern
  rw [List.append_nil] at happend
  rw [happend]
  constructor
  · rintro ⟨m,b,rfl,hm,hb⟩
    rw [List.isEmpty_iff.mp hb,List.append_nil]
    exact hm
  · exact fun h => ⟨text,[],(List.append_nil text).symm,h,rfl⟩

theorem like_occurs (hpattern : '%' ∉ pattern) : like ('%' :: (pattern ++ ['%'])) text = true ↔ Occurs pattern text := by
  rw [like_percent]
  constructor
  · rintro ⟨a,b,rfl,h⟩
    obtain ⟨m,rest,rfl,hm,-⟩ := (like_append hpattern).mp h
    exact ⟨a,m,rest,rfl,hm⟩
  · rintro ⟨a,m,rest,rfl,hm⟩
    exact ⟨a,m ++ rest,rfl,(like_append hpattern).mpr ⟨m,rest,rfl,hm,like_any rest⟩⟩

theorem Occurs.of_cons (h : Occurs (p :: ps) (c :: text)) (hc : matchesOne p c = false) : Occurs (p :: ps) text := by
  obtain ⟨a,m,b,htext,hm⟩ := h
  cases a with
  | nil =>
    cases hm with
    | cons hhead hm =>
      cases htext
      rw [hc] at hhead
      cases hhead
  | cons c' a =>
    cases htext
    exact ⟨a,m,b,rfl,hm⟩

end Like
end Overseer.Library
