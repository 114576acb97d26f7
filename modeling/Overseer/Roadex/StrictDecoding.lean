import Overseer.Roadex.Reading
import Overseer.Library.JsonRoundTrip

/-! # Strict decoding of stored records

`serialization.py` makes JSON of records and records of JSON, led by the annotations of their
fields. `_decode_dataclass_payload` reads a stored text strictly: the text has to be canonical, its
fields exact, the type of every value the annotated one, and the record has to make the text again.
-/
namespace Overseer.Roadex
open Overseer.Library Overseer.Core

/-- A type annotation, as `get_type_hints` resolves it; a tuple is of any length. -/
inductive Hint where
  | str | bool | int | float | object | noneType
  | union (parts : List Hint)
  | literal (values : List String)
  | list (item : Hint)
  | tuple (item : Hint)
  | mapping (key item : Hint)
  | enum (values : List String)
  | dataclass (fields : List (String × Hint))

/-- A Python value, as far as records hold it. -/
inductive Value where
  | null
  | bool (b : Bool)
  | int (n : ℤ)
  | float (text : String)
  | str (s : String)
  | member (value : String)
  | list (items : List Value)
  | tuple (items : List Value)
  | mapping (entries : List (String × Value))
  | record (fields : List (String × Value))

namespace Value

mutual
def toJsonable : Value → Json
  | .null => .null
  | .bool b => .bool b
  | .int n => .int n
  | .float text => .float text
  | .str s => .str s
  | .member value => .str value
  | .list items => .arr (toJsonableItems items)
  | .tuple items => .arr (toJsonableItems items)
  | .mapping entries => .obj (toJsonableEntries entries)
  | .record fields => .obj (toJsonableEntries fields)
def toJsonableItems : List Value → List Json
  | [] => []
  | v :: rest => toJsonable v :: toJsonableItems rest
def toJsonableEntries : List (String × Value) → List (String × Json)
  | [] => []
  | (k,v) :: rest => (k,toJsonable v) :: toJsonableEntries rest
end

mutual
/-- A parsed value, taken as it is. -/
def ofJson : Json → Value
  | .null => .null
  | .bool b => .bool b
  | .int n => .int n
  | .float text => .float text
  | .str s => .str s
  | .arr items => .list (ofJsonItems items)
  | .obj members => .mapping (ofJsonMembers members)
def ofJsonItems : List Json → List Value
  | [] => []
  | v :: rest => ofJson v :: ofJsonItems rest
def ofJsonMembers : List (String × Json) → List (String × Value)
  | [] => []
  | (k,v) :: rest => (k,ofJson v) :: ofJsonMembers rest
end

theorem toJsonableItems_eq_map (items : List Value) : toJsonableItems items = items.map toJsonable := by
  induction items with
  | nil => rfl
  | cons v rest ih => rw [toJsonableItems,ih,List.map_cons]

theorem toJsonableEntries_eq_map (entries : List (String × Value)) :
    toJsonableEntries entries = entries.map fun e => (e.1,toJsonable e.2) := by
  induction entries with
  | nil => rfl
  | cons e rest ih => rw [toJsonableEntries,ih,List.map_cons]

end Value

namespace Hint

/-- What a loop over a parsed value goes through, when it can be looped over. -/
def iterate : Json → Option (List Json)
  | .arr items => some items
  | .str s => some (s.toList.map fun c => .str (String.singleton c))
  | .obj members => some (members.map fun e => .str e.1)
  | _ => none

/-- The text of a key. -/
def keyText : Value → Option String
  | .str s => some s
  | .member s => some s
  | _ => none

mutual
/-- `_coerce_value`, where none is a type or a value error. A record is only made of all of its fields. -/
def coerceValue : Hint → Json → Option Value
  | _,.null => some .null
  | .union parts,v => coerceParts parts v
  | .tuple item,v => (iterate v).bind fun items => (items.mapM (coerceValue item)).map .tuple
  | .mapping key item,v =>
    match v with
    | .obj members => (members.mapM fun e : String × Json => do
        let k ← (coerceValue key (.str e.1)).bind keyText
        let w ← coerceValue item e.2
        some (k,w)).map .mapping
    | _ => none
  | .enum values,v =>
    match v with
    | .str s => if s ∈ values then some (.member s) else none
    | _ => none
  | .dataclass fields,v =>
    match v with
    | .obj members => (dataclassFromJsonable fields members).map .record
    | _ => none
  | _,v => some (.ofJson v)
/-- The first part of a union that takes the value, or the value as it is. -/
def coerceParts : List Hint → Json → Option Value
  | [],v => some (.ofJson v)
  | part :: rest,v =>
    match part with
    | .noneType => coerceParts rest v
    | part => (coerceValue part v).or (coerceParts rest v)
def dataclassFromJsonable : List (String × Hint) → List (String × Json) → Option (List (String × Value))
  | [],_ => some []
  | (name,hint) :: rest,data => do
    let v ← Dict.find name data
    let w ← coerceValue hint v
    let fields ← dataclassFromJsonable rest data
    some ((name,w) :: fields)
end

def requireAll {α : Type} (f : α → Check Unit) : List α → Check Unit
  | [] => .ok ()
  | a :: rest => do
    f a
    requireAll f rest

mutual
def checkStrictTypes : Hint → Json → String → Check Unit
  | .str,v,field => match v with
    | .str _ => .ok ()
    | _ => .error (.value (field ++ " must be a string"))
  | .bool,v,field => match v with
    | .bool _ => .ok ()
    | _ => .error (.value (field ++ " must be a boolean"))
  | .int,v,field => match v with
    | .int _ => .ok ()
    | _ => .error (.value (field ++ " must be an int"))
  | .float,v,field => match v with
    | .float _ => .ok ()
    | _ => .error (.value (field ++ " must be a float"))
  | .object,_,_ => .ok ()
  | .noneType,v,field => match v with
    | .null => .ok ()
    | _ => .error (.value (field ++ " must be null"))
  | .union parts,v,field => if checkParts parts v field then .ok () else .error (.value (field ++ " has invalid value type"))
  | .literal values,v,field =>
    if values.any (fun s => v = .str s) then .ok () else .error (.value (field ++ " must be one of: " ++ ",".intercalate values))
  | .list item,v,field => match v with
    | .arr items => requireAll (fun i => checkStrictTypes item i (field ++ " item")) items
    | _ => .error (.value (field ++ " must be a list"))
  | .tuple item,v,field => match v with
    | .arr items => requireAll (fun i => checkStrictTypes item i (field ++ " item")) items
    | _ => .error (.value (field ++ " must be a list"))
  | .mapping key item,v,field => match v with
    | .obj members => requireAll (fun e : String × Json => do
        checkStrictTypes key (.str e.1) (field ++ " key")
        checkStrictTypes item e.2 (field ++ " value")) members
    | _ => .error (.value (field ++ " must be an object"))
  | .enum values,v,field => match v with
    | .str s =>
      if s ∈ values then .ok ()
      else .error (.value (field ++ " must be one of: " ++ ",".intercalate (values.insertionSort fun a b => a.toList ≤ b.toList)))
    | _ => .error (.value (field ++ " must be a string"))
  | .dataclass fields,v,field => match v with
    | .obj members => do
      checkExactFields (.obj members) (fields.map Prod.fst) field
      checkFields fields members field
    | _ => .error (.value (field ++ " must be an object"))
/-- Whether a part of a union accepts the value. -/
def checkParts : List Hint → Json → String → Bool
  | [],_,_ => false
  | part :: rest,v,field => (checkStrictTypes part v field).toBool || checkParts rest v field
/-- The fields of a record, each under the name of the record and its own. -/
def checkFields : List (String × Hint) → List (String × Json) → String → Check Unit
  | [],_,_ => .ok ()
  | (name,hint) :: rest,data,field => do
    checkStrictTypes hint ((Dict.find name data).getD .null) (field ++ "::" ++ name)
    checkFields rest data field
end

end Hint

open Hint

def requireCanonicalJson (floatText : String → String) (payload label : String) : Check (List (String × Json)) :=
  match Json.loads floatText payload with
  | none => .error (.value (label ++ " payload must be valid JSON"))
  | some (.obj data) => do
    check (payload = Json.dumps true (Json.obj data).sortKeys) (label ++ " payload is not canonical JSON")
    return data
  | some _ => .error (.value (label ++ " payload must be a JSON object"))

/-- `json.dumps(to_jsonable(value), sort_keys=True, separators=(",", ":"))`. -/
def encode (v : Value) : String := Json.dumps true v.toJsonable.sortKeys

/-- `_decode_dataclass_payload`, of a class with the fields. -/
def decodeDataclassPayload (floatText : String → String) (payload : String) (fields : List (String × Hint)) (label : String) :
    Check Value := do
  let data ← requireCanonicalJson floatText payload label
  checkExactFields (.obj data) (fields.map Prod.fst) label
  checkFields fields data label
  match dataclassFromJsonable fields data with
  | none => .error (.value (label ++ " payload is invalid"))
  | some decoded => do
    check (encode (.record decoded) = payload) (label ++ " payload is malformed after reserialization")
    return .record decoded

end Overseer.Roadex
