import Mathlib.Data.List.Basic

/-! # Texts

Blank texts, and texts joined by a dot: the last part can be told from the rest when it has
no dot itself.
-/
namespace Overseer.Library

/-- The characters that `str.strip` takes off. -/
def isSpace (c : Char) : Bool :=
  let n := c.toNat
  (9 ≤ n && n ≤ 13) || (28 ≤ n && n ≤ 32) || (8192 ≤ n && n ≤ 8202) || n ∈ [133,160,5760,8232,8233,8239,8287,12288]

/-- `text.strip()` is empty. -/
def isBlank (text : String) : Bool := text.toList.all isSpace

/-- The text without the characters of a class at its two ends. -/
def trim (p : Char → Bool) (text : String) : String :=
  String.ofList ((text.toList.dropWhile p).reverse.dropWhile p).reverse

/-- `text.strip()`. -/
def strip (text : String) : String := trim isSpace text

/-- `text.startswith(start)`. -/
def hasPrefix (text start : String) : Bool := start.toList.isPrefixOf text.toList

theorem hasPrefix_iff {text start : String} : hasPrefix text start = true ↔ start.toList <+: text.toList := List.isPrefixOf_iff_prefix

/-- `text.endswith(suffix)`. -/
def hasSuffix (text suffix : String) : Bool := suffix.toList.isSuffixOf text.toList

/-- `part in text`. -/
def hasPart (text part : String) : Bool := text.toList.tails.any fun rest => part.toList.isPrefixOf rest

variable {α : Type}

theorem append_cons_inj_of_notMem_right {a : α} {l m s t : List α} (hs : a ∉ s) (ht : a ∉ t) (h : l ++ a :: s = m ++ a :: t) :
    l = m ∧ s = t := by
  induction l generalizing m with
  | nil =>
    cases m with
    | nil => exact ⟨rfl,(List.cons.inj h).2⟩
    | cons b m =>
      have hmem : a ∈ s := by
        rw [(List.cons.inj h).2]
        exact List.mem_append_right _ List.mem_cons_self
      exact absurd hmem hs
  | cons b l ih =>
    cases m with
    | nil =>
      have hmem : a ∈ t := by
        rw [← (List.cons.inj h).2]
        exact List.mem_append_right _ List.mem_cons_self
      exact absurd hmem ht
    | cons c m =>
      obtain ⟨hbc,hrest⟩ := List.cons.inj h
      obtain ⟨hlm,hst⟩ := ih hrest
      exact ⟨by rw [hbc,hlm],hst⟩

theorem dotted_inj {x y s t : String} (hs : '.' ∉ s.toList) (ht : '.' ∉ t.toList) (h : x ++ "." ++ s = y ++ "." ++ t) :
    x = y ∧ s = t := by
  have hlist := congrArg String.toList h
  simp only [String.toList_append,List.append_assoc] at hlist
  obtain ⟨hx,hst⟩ := append_cons_inj_of_notMem_right hs ht hlist
  exact ⟨String.ext hx,String.ext hst⟩

end Overseer.Library
