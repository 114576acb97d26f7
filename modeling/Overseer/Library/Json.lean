import Overseer.Library.Dict

/-! # JSON values

Scalars, sequences and mappings as a JSON payload carries them. A float is kept
as its printed text: nothing here computes with one.
-/
namespace Overseer.Library

inductive Json where
  | null
  | bool (b : Bool)
  | int (n : Int)
  | float (text : String)
  | str (s : String)
  | arr (items : List Json)
  | obj (members : List (String × Json))

namespace Json

mutual
/-- Structural equality of values. -/
def same : Json → Json → Bool
  | null, null => true
  | bool a, bool b => a == b
  | int a, int b => a == b
  | float a, float b => a == b
  | str a, str b => a == b
  | arr a, arr b => sameItems a b
  | obj a, obj b => sameMembers a b
  | _, _ => false
def sameItems : List Json → List Json → Bool
  | [], [] => true
  | a :: as, b :: bs => same a b && sameItems as bs
  | _, _ => false
def sameMembers : List (String × Json) → List (String × Json) → Bool
  | [], [] => true
  | (j,a) :: as, (k,b) :: bs => j == k && same a b && sameMembers as bs
  | _, _ => false
end

mutual
theorem same_iff : ∀ a b : Json, same a b = true ↔ a = b
  | null, b => by cases b <;> simp [same]
  | bool a, b => by cases b <;> simp [same]
  | int a, b => by cases b <;> simp [same]
  | float a, b => by cases b <;> simp [same]
  | str a, b => by cases b <;> simp [same]
  | arr a, b => by cases b <;> simp [same,sameItems_iff]
  | obj a, b => by cases b <;> simp [same,sameMembers_iff]
theorem sameItems_iff : ∀ a b : List Json, sameItems a b = true ↔ a = b
  | [], b => by cases b <;> simp [sameItems]
  | a :: as, b => by cases b <;> simp [sameItems,same_iff,sameItems_iff]
theorem sameMembers_iff : ∀ a b : List (String × Json), sameMembers a b = true ↔ a = b
  | [], b => by cases b <;> simp [sameMembers]
  | (j,a) :: as, b => by
    rcases b with _ | ⟨⟨k,b⟩,bs⟩
    · simp [sameMembers]
    · simp [sameMembers,same_iff,sameMembers_iff,Prod.ext_iff,and_assoc]
end

instance : DecidableEq Json := fun a b => decidable_of_iff _ (same_iff a b)

/-- The integer a value is, counting a boolean as Python's `isinstance(v, int)` does. -/
def asInt? : Json → Option Int
  | int n => some n
  | bool b => some (if b then 1 else 0)
  | _ => none

def asStr? : Json → Option String
  | str s => some s
  | _ => none

def isNumber : Json → Bool
  | bool _ | int _ | float _ => true
  | _ => false

/-- The text of a scalar; the text of a container is left abstract. -/
def text : Json → String
  | null => "None"
  | bool b => if b then "True" else "False"
  | int n => toString n
  | float t => t
  | str s => s
  | arr _ => "[...]"
  | obj _ => "\x7b...\x7d"

theorem text_of_asStr? {j : Json} {s : String} (h : j.asStr? = some s) : j.text = s := by
  cases j <;> simp only [asStr?,Option.some.injEq,reduceCtorEq] at h
  exact h

end Json

/-- A record's mapping of evidence. -/
abbrev Evidence := Dict Json

end Overseer.Library
