import Overseer.Library.Json
import Mathlib.Data.List.Sort
import Mathlib.Data.List.Lex
import Mathlib.Data.Char

/-! # Comparing and printing JSON values

Mappings are compared without regard to the order of their keys. `dumps` is the compact
text of a value, with or without escapes for characters outside ASCII.
-/
namespace Overseer.Library
namespace Json

mutual
/-- `==` on parsed values. A float is compared by its text. -/
def alike : Json → Json → Bool
  | arr a, arr b => alikeItems a b
  | obj a, obj b => a.length == b.length && alikeMembers a b
  | null, null => true
  | str a, str b => a == b
  | float a, float b => a == b
  | a, b => match a.asInt?, b.asInt? with
    | some m, some n => m == n
    | _, _ => false
def alikeItems : List Json → List Json → Bool
  | [], [] => true
  | a :: as, b :: bs => alike a b && alikeItems as bs
  | _, _ => false
def alikeMembers : List (String × Json) → List (String × Json) → Bool
  | [], _ => true
  | (k,a) :: as, b => b.any (fun e => e.1 == k && alike a e.2) && alikeMembers as b
end

mutual
theorem alike_refl : ∀ a : Json, alike a a = true
  | null => rfl
  | bool b => by simp [alike,asInt?]
  | int n => by simp [alike,asInt?]
  | float t => by simp [alike]
  | str s => by simp [alike]
  | arr items => by simp [alike,alikeItems_refl items]
  | obj members => by simp [alike,alikeMembers_of_subset members members fun _ h => h]
theorem alikeItems_refl : ∀ items : List Json, alikeItems items items = true
  | [] => rfl
  | a :: as => by simp [alikeItems,alike_refl a,alikeItems_refl as]
theorem alikeMembers_of_subset : ∀ as b : List (String × Json), as ⊆ b → alikeMembers as b = true
  | [], _, _ => rfl
  | (k,a) :: as, b, h => by
    rw [alikeMembers,Bool.and_eq_true]
    constructor
    · refine List.any_eq_true.mpr ⟨(k,a),h List.mem_cons_self,?_⟩
      simp [alike_refl a]
    · exact alikeMembers_of_subset as b fun e he => h (List.mem_cons_of_mem _ he)
end

@[simp] theorem alike_str (a b : String) : alike (str a) (str b) = (a == b) := by simp only [alike]

theorem eq_str_of_alike {j : Json} {s : String} (h : alike j (str s) = true) : j = str s := by
  cases j <;> simp_all [alike,asInt?]

/-- A value that Python can put into a set. -/
def hashable : Json → Bool
  | arr _ | obj _ => false
  | _ => true

/-- Truth of a value. -/
def truthy : Json → Bool
  | null => false
  | bool b => b
  | int n => n != 0
  | float t => t != "0.0" && t != "-0.0"
  | str s => s != ""
  | arr items => !items.isEmpty
  | obj members => !members.isEmpty

/-- `\uXXXX`. -/
def unicodeEscape (n : ℕ) : List Char :=
  let digits := Nat.toDigits 16 n
  ['\\','u'] ++ List.replicate (4 - digits.length) '0' ++ digits

def escapeChar (ensureAscii : Bool) (c : Char) : List Char :=
  if c = '"' then ['\\','"'] else if c = '\\' then ['\\','\\'] else if c = '\n' then ['\\','n']
  else if c = '\r' then ['\\','r'] else if c = '\t' then ['\\','t'] else if c.toNat = 8 then ['\\','b']
  else if c.toNat = 12 then ['\\','f'] else if c.toNat < 32 then unicodeEscape c.toNat
  else if ensureAscii ∧ 126 < c.toNat then
    if c.toNat < 65536 then unicodeEscape c.toNat
    -- a surrogate pair
    else unicodeEscape (55296 + (c.toNat - 65536) / 1024) ++ unicodeEscape (56320 + (c.toNat - 65536) % 1024)
  else [c]

def quoteChars (ensureAscii : Bool) (s : String) : List Char :=
  '"' :: (s.toList.flatMap (escapeChar ensureAscii) ++ ['"'])

def quote (ensureAscii : Bool) (s : String) : String := String.ofList (quoteChars ensureAscii s)

/-- The separators of items and of keys. -/
structure Separators where
  item : List Char := [',']
  key : List Char := [':']

mutual
def dumpsChars (seps : Separators) (ensureAscii : Bool) : Json → List Char
  | null => "null".toList
  | bool b => (if b then "true" else "false").toList
  | int n => (toString n).toList
  | float t => t.toList
  | str s => quoteChars ensureAscii s
  | arr items => '[' :: (seps.item.intercalate (dumpsItems seps ensureAscii items) ++ [']'])
  | obj members => '\x7b' :: (seps.item.intercalate (dumpsMembers seps ensureAscii members) ++ ['\x7d'])
def dumpsItems (seps : Separators) (ensureAscii : Bool) : List Json → List (List Char)
  | [] => []
  | a :: as => dumpsChars seps ensureAscii a :: dumpsItems seps ensureAscii as
def dumpsMembers (seps : Separators) (ensureAscii : Bool) : List (String × Json) → List (List Char)
  | [] => []
  | (k,a) :: as => (quoteChars ensureAscii k ++ (seps.key ++ dumpsChars seps ensureAscii a)) :: dumpsMembers seps ensureAscii as
end

/-- `json.dumps(value)`. -/
def dumpsWith (seps : Separators) (ensureAscii : Bool) (v : Json) : String := String.ofList (dumpsChars seps ensureAscii v)

/-- `json.dumps(value, separators=(",", ":"))`. -/
def dumps (ensureAscii : Bool) (v : Json) : String := dumpsWith {} ensureAscii v

mutual
/-- The value with the members of every mapping in the order of their keys. -/
def sortKeys : Json → Json
  | obj members => obj ((sortMembers members).insertionSort fun a b => a.1.toList ≤ b.1.toList)
  | arr items => arr (sortItems items)
  | v => v
def sortItems : List Json → List Json
  | [] => []
  | a :: as => sortKeys a :: sortItems as
def sortMembers : List (String × Json) → List (String × Json)
  | [] => []
  | (k,a) :: as => (k,sortKeys a) :: sortMembers as
end

end Json

/-- A parsed mapping. -/
abbrev Payload := Dict Json

namespace Payload

/-- `==` on mappings. -/
def alike (p q : Payload) : Bool := (Json.obj p.entries).alike (.obj q.entries)

theorem alike_refl (p : Payload) : alike p p = true := Json.alike_refl _

/-- `p.get(k)`, where a missing member counts as null. -/
def get (p : Payload) (k : String) : Json := (p.get? k).getD .null

/-- The text at a key. -/
def str? (p : Payload) (k : String) : Option String := (p.get? k).bind Json.asStr?

def ofList (members : List (String × Json)) : Payload := Dict.empty.merge members

theorem entries_ofList {members : List (String × Json)} (h : (members.map Prod.fst).Nodup) :
    (ofList members).entries = members := Dict.entries_merge (d := Dict.empty) h

/-- The mapping has exactly the given keys. -/
def hasKeys (p : Payload) (keys : List String) : Bool := p.keys.all (· ∈ keys) && keys.all (· ∈ p.keys)

/-- The members of the given keys, in their order. -/
def select (p : Payload) (keys : List String) : List (String × Json) :=
  keys.filterMap fun k => (p.get? k).map fun v => (k,v)

/-- A parsed value that is a mapping. -/
def ofJson? : Json → Option Payload
  | .obj members => some (ofList members)
  | _ => none

@[simp] theorem ofJson?_entries (p : Payload) : ofJson? (.obj p.entries) = some p :=
  congrArg some (Dict.ext_entries (entries_ofList p.nodup))

theorem get?_ofList {members : List (String × Json)} {k : String} {v : Json} (h : (members.map Prod.fst).Nodup)
    (hv : (k,v) ∈ members) : (ofList members).get? k = some v := Dict.get?_merge_of_mem _ h hv

end Payload
end Overseer.Library
