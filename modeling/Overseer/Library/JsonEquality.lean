import Overseer.Library.JsonReading
import Overseer.Library.Stored

/-! # Python's equality of JSON values

Numbers are compared by value and mappings key by key. A number that is not one equals nothing
but the constant that `json` reads for it, which containers take for itself.
-/
namespace Overseer.Library.Json

/-- `==` on two floats. `nan` is a float of the caller's own, `NaN` the constant of `json`. -/
def sameFloat (a b : String) : Bool := a ≠ "nan" && (a = b || (a ∈ ["0.0","-0.0"] && b ∈ ["0.0","-0.0"]))

section Equality
variable (floatIsInt : String → ℤ → Bool)

mutual
/-- `==` inside a container; `floatIsInt` compares a float with an integer. -/
def equals : Json → Json → Bool
  | arr a,arr b => equalsItems a b
  | obj a,obj b => a.length == b.length && equalsMembers a b
  | null,null => true
  | str a,str b => a == b
  | float a,float b => sameFloat a b
  | float a,b => b.asInt?.any (floatIsInt a)
  | a,float b => a.asInt?.any (floatIsInt b)
  | a,b => match a.asInt?,b.asInt? with
    | some m,some n => m == n
    | _,_ => false
def equalsItems : List Json → List Json → Bool
  | [],[] => true
  | a :: as,b :: bs => equals a b && equalsItems as bs
  | _,_ => false
def equalsMembers : List (String × Json) → List (String × Json) → Bool
  | [],_ => true
  | (k,a) :: as,b => b.any (fun e => e.1 == k && equals a e.2) && equalsMembers as b
end

end Equality

mutual
/-- What `json.loads` gives for the text of a value, the order of keys apart. -/
def decoded : Json → Json
  | float t => float (if t = "nan" then "NaN" else t)
  | arr items => arr (decodedItems items)
  | obj members => obj (decodedMembers members)
  | v => v
def decodedItems : List Json → List Json
  | [] => []
  | v :: rest => decoded v :: decodedItems rest
def decodedMembers : List (String × Json) → List (String × Json)
  | [] => []
  | (k,v) :: rest => (k,decoded v) :: decodedMembers rest
end

/-- `json.loads(json.dumps(value, sort_keys=True))`. -/
def reread (v : Json) : Json := v.decoded.sortKeys

mutual
/-- The mappings of the value name a key once. -/
def uniqueKeys : Json → Bool
  | arr items => uniqueKeysItems items
  | obj members => decide (members.map Prod.fst).Nodup && uniqueKeysMembers members
  | _ => true
def uniqueKeysItems : List Json → Bool
  | [] => true
  | v :: rest => uniqueKeys v && uniqueKeysItems rest
def uniqueKeysMembers : List (String × Json) → Bool
  | [] => true
  | (_,v) :: rest => uniqueKeys v && uniqueKeysMembers rest
end

theorem uniqueKeysItems_iff (items : List Json) : uniqueKeysItems items = true ↔ ∀ v ∈ items, uniqueKeys v = true := by
  induction items with
  | nil => simp [uniqueKeysItems]
  | cons v rest ih => simp [uniqueKeysItems,ih]

theorem uniqueKeysMembers_iff (members : List (String × Json)) :
    uniqueKeysMembers members = true ↔ ∀ e ∈ members, uniqueKeys e.2 = true := by
  induction members with
  | nil => simp [uniqueKeysMembers]
  | cons e rest ih => simp [uniqueKeysMembers,ih]

theorem uniqueKeys_obj {members : List (String × Json)} :
    uniqueKeys (obj members) = true ↔ (members.map Prod.fst).Nodup ∧ ∀ e ∈ members, uniqueKeys e.2 = true := by
  simp [uniqueKeys,uniqueKeysMembers_iff]

/-! ### Reading back -/

theorem decodedItems_eq_map (items : List Json) : decodedItems items = items.map decoded := by
  induction items with
  | nil => rfl
  | cons v rest ih => rw [decodedItems,ih,List.map_cons]

theorem decodedMembers_eq_map (members : List (String × Json)) :
    decodedMembers members = members.map fun e => (e.1,decoded e.2) := by
  induction members with
  | nil => rfl
  | cons e rest ih => rw [decodedMembers,ih,List.map_cons]

@[simp] theorem reread_str (s : String) : reread (str s) = str s := rfl

theorem reread_arr (items : List Json) : reread (arr items) = arr (items.map reread) := by
  rw [reread,decoded,sortKeys,decodedItems_eq_map,sortItems_eq_map,List.map_map]
  rfl

/-- The members of a mapping that is read back. -/
def rereadMembers (members : List (String × Json)) : List (String × Json) := sortedMembers (decodedMembers members)

theorem reread_obj (members : List (String × Json)) : reread (obj members) = obj (rereadMembers members) := rfl

theorem rereadMembers_perm (members : List (String × Json)) :
    (rereadMembers members).Perm (members.map fun e => (e.1,reread e.2)) := by
  have hperm := sortedMembers_perm (decodedMembers members)
  rw [decodedMembers_eq_map,List.map_map] at hperm
  rw [rereadMembers,decodedMembers_eq_map]
  exact hperm

theorem member?_reread {members : List (String × Json)} (h : (members.map Prod.fst).Nodup) (k : String) :
    (reread (obj members)).member? k = (Dict.find k members).map reread := by
  have hkeys : ((members.map fun e => (e.1,reread e.2)).map Prod.fst) = members.map Prod.fst := by simp
  have hread : ((rereadMembers members).map Prod.fst).Nodup :=
    ((rereadMembers_perm members).map Prod.fst).nodup_iff.mpr (hkeys ▸ h)
  rw [reread_obj,member?,find_eq_of_perm (rereadMembers_perm members) hread,find_map_snd]

/-! ### Comparing -/

section Equality
variable {floatIsInt : String → ℤ → Bool}

theorem equals_str {s : String} {v : Json} : equals floatIsInt (str s) v = true ↔ v = str s := by
  cases v with
  | str t =>
    rw [equals,beq_iff_eq,str.injEq]
    exact eq_comm
  | _ => simp [equals,asInt?]

theorem equalsMembers_iff (as bs : List (String × Json)) : equalsMembers floatIsInt as bs = true ↔
    ∀ e ∈ as, ∃ f ∈ bs, f.1 = e.1 ∧ equals floatIsInt e.2 f.2 = true := by
  induction as with
  | nil => simp [equalsMembers]
  | cons e as ih => simp [equalsMembers,ih]

theorem equals_obj (as bs : List (String × Json)) : equals floatIsInt (obj as) (obj bs) = true ↔
    as.length = bs.length ∧ ∀ e ∈ as, ∃ f ∈ bs, f.1 = e.1 ∧ equals floatIsInt e.2 f.2 = true := by
  rw [equals,Bool.and_eq_true,equalsMembers_iff,beq_iff_eq]

theorem equals_reread_obj (as bs : List (String × Json)) : equals floatIsInt (reread (obj as)) (obj bs) = true ↔
    as.length = bs.length ∧ ∀ e ∈ as, ∃ f ∈ bs, f.1 = e.1 ∧ equals floatIsInt (reread e.2) f.2 = true := by
  have hperm := rereadMembers_perm as
  have hlength : (rereadMembers as).length = as.length := by simp [hperm.length_eq]
  rw [reread_obj,equals_obj,hlength]
  refine and_congr_right fun _ => ⟨fun h e he => ?_,fun h e he => ?_⟩
  · exact h _ (hperm.mem_iff.mpr (List.mem_map.mpr ⟨e,he,rfl⟩))
  · obtain ⟨e₀,he₀,rfl⟩ := List.mem_map.mp (hperm.mem_iff.mp he)
    exact h e₀ he₀

end Equality
end Overseer.Library.Json
