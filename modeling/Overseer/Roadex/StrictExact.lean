import Overseer.Roadex.StrictDecoding

/-! # What strict decoding accepts

For the annotations that the strictly read classes use, the type of a value is told by what is stored
of it: the decoder accepts the texts of the records of a class, each as its record, and no other text.
-/
namespace Overseer.Roadex
open Overseer.Library Overseer.Core Hint

/-! ### Values of a type -/

namespace Hint

mutual
/-- The value is one of the annotated type. -/
def typed : Hint → Value → Bool
  | .str,.str _ => true
  | .bool,.bool _ => true
  | .int,.int _ => true
  | .float,.float _ => true
  | .noneType,.null => true
  | .object,_ => true
  | .union parts,v => typedParts parts v
  | .literal values,.str s => s ∈ values
  | .enum values,.member s => s ∈ values
  | .list item,.list items => items.all (typed item)
  | .tuple item,.tuple items => items.all (typed item)
  | .mapping key item,.mapping entries => decide (entries.map Prod.fst).Nodup &&
      entries.all fun e => (typed key (.str e.1) || typed key (.member e.1)) && typed item e.2
  | .dataclass fields,.record values => typedFields fields values
  | _,_ => false
def typedParts : List Hint → Value → Bool
  | [],_ => false
  | part :: rest,v => typed part v || typedParts rest v
/-- The record has the fields, in their order, each of its type. -/
def typedFields : List (String × Hint) → List (String × Value) → Bool
  | [],[] => true
  | (name,hint) :: rest,(k,v) :: values => k = name && typed hint v && typedFields rest values
  | _,_ => false
end

/-- A value of the annotation is stored as a text, a number or a truth value. -/
def isText : Hint → Bool
  | .str | .bool | .int | .literal _ | .enum _ => true
  | _ => false

mutual
/-- The annotations that a decoding is exact for: the type of a value is told by what is stored of it. -/
def exact : Hint → Bool
  | .str | .bool | .int | .literal _ | .enum _ => true
  | .union parts => match parts with
    | [part,.noneType] => part.isText
    | _ => false
  | .tuple item => exact item
  | .dataclass fields => decide (fields.map Prod.fst).Nodup && exactFields fields
  | _ => false
def exactFields : List (String × Hint) → Bool
  | [] => true
  | (_,hint) :: rest => exact hint && exactFields rest
end

end Hint

/-! ### A record is read back -/

theorem ok_bind {α β : Type} {a : α} {f : α → Check β} : (Except.ok a >>= f) = f a := rfl

theorem checkExactFields_sortKeys {members : List (String × Json)} {names : List String} {label : String}
    (h : members.map Prod.fst = names) : checkExactFields (Json.obj (Json.sortedMembers members)) names label = .ok () := by
  refine checkExactFields_of fun k => ?_
  rw [← h]
  exact (Json.sortedMembers_keys_perm members).mem_iff

theorem typedFields_names {fields : List (String × Hint)} {values : List (String × Value)} (h : typedFields fields values = true) :
    values.map Prod.fst = fields.map Prod.fst := by
  induction fields generalizing values with
  | nil =>
    cases values with
    | nil => rfl
    | cons e rest => cases h
  | cons f fields ih =>
    obtain ⟨name,hint⟩ := f
    cases values with
    | nil => cases h
    | cons e values =>
      obtain ⟨k,v⟩ := e
      rw [typedFields,Bool.and_eq_true,Bool.and_eq_true] at h
      rw [List.map_cons,List.map_cons,ih h.2,of_decide_eq_true h.1.1]

theorem find_sortedMembers {entries : List (String × Value)} (h : (entries.map Prod.fst).Nodup) {k : String} {v : Value}
    (hv : (k,v) ∈ entries) :
    Dict.find k (Json.sortedMembers (Value.toJsonableEntries entries)) = some v.toJsonable.sortKeys := by
  have hkeys : ((Value.toJsonableEntries entries).map Prod.fst).Nodup := by
    rw [Value.toJsonableEntries_eq_map,List.map_map]
    exact h
  have hmem : (k,v.toJsonable) ∈ Value.toJsonableEntries entries := by
    rw [Value.toJsonableEntries_eq_map]
    exact List.mem_map_of_mem (f := fun e : String × Value => (e.1,e.2.toJsonable)) hv
  have hmember := Json.member?_sortKeys hkeys k
  rw [Json.sortKeys_obj,(Dict.mem_iff_find hkeys k v.toJsonable).mp hmem] at hmember
  exact hmember

/-- A value of the type is accepted as what is stored of it, and made again. -/
def ReadBack (hint : Hint) : Prop := ∀ v field, typed hint v = true →
  checkStrictTypes hint v.toJsonable.sortKeys field = .ok () ∧ coerceValue hint v.toJsonable.sortKeys = some v

theorem readBack_tuple {item : Hint} (h : ReadBack item) : ReadBack (.tuple item) := by
  intro v field hv
  cases v with
  | tuple items =>
    rw [typed,List.all_eq_true] at hv
    have hjson : (Value.tuple items).toJsonable.sortKeys = .arr (items.map fun v => v.toJsonable.sortKeys) := by
      rw [Value.toJsonable,Json.sortKeys,Json.sortItems_eq_map,Value.toJsonableItems_eq_map,List.map_map]
      rfl
    rw [hjson]
    constructor
    · rw [checkStrictTypes]
      induction items with
      | nil => rfl
      | cons v rest ih =>
        rw [List.map_cons,requireAll,(h v _ (hv v List.mem_cons_self)).1]
        refine ih (fun w hw => hv w (List.mem_cons_of_mem _ hw)) ?_
        rw [Value.toJsonable,Json.sortKeys,Json.sortItems_eq_map,Value.toJsonableItems_eq_map,List.map_map]
        rfl
    · have hitems : (items.map fun v => v.toJsonable.sortKeys).mapM (coerceValue item) = some items := by
        clear hjson
        induction items with
        | nil => rfl
        | cons v rest ih =>
          rw [List.map_cons,List.mapM_cons,(h v field (hv v List.mem_cons_self)).2,ih fun w hw => hv w (List.mem_cons_of_mem _ hw)]
          rfl
      change ((items.map fun v => v.toJsonable.sortKeys).mapM (coerceValue item)).map Value.tuple = _
      rw [hitems]
      rfl
  | _ => cases hv

theorem readBack_text {hint : Hint} (h : hint.isText = true) : ReadBack hint := by
  intro v field hv
  cases hint with
  | str =>
    cases v with
    | str s => exact ⟨rfl,rfl⟩
    | _ => cases hv
  | bool =>
    cases v with
    | bool b => exact ⟨rfl,rfl⟩
    | _ => cases hv
  | int =>
    cases v with
    | int n => exact ⟨rfl,rfl⟩
    | _ => cases hv
  | literal values =>
    cases v with
    | str s =>
      rw [typed,decide_eq_true_eq] at hv
      have hany : values.any (fun t => Json.str s = .str t) = true := List.any_eq_true.mpr ⟨s,hv,decide_eq_true rfl⟩
      refine ⟨?_,rfl⟩
      change checkStrictTypes (.literal values) (.str s) field = _
      rw [checkStrictTypes,if_pos hany]
    | _ => cases hv
  | enum values =>
    cases v with
    | member s =>
      rw [typed,decide_eq_true_eq] at hv
      constructor
      · change (if s ∈ values then Except.ok () else _) = _
        rw [if_pos hv]
      · change (if s ∈ values then some (Value.member s) else none) = _
        rw [if_pos hv]
    | _ => cases hv
  | _ => cases h

theorem toJsonable_ne_null {hint : Hint} (h : hint.isText = true) {v : Value} (hv : typed hint v = true) : v ≠ .null := by
  rintro rfl
  cases hint <;> first | (cases h; done) | cases hv

theorem readBack_optional {part : Hint} (h : part.isText = true) : ReadBack (.union [part,.noneType]) := by
  intro v field hv
  rw [typed,typedParts,typedParts,typedParts,Bool.or_false,Bool.or_eq_true] at hv
  rcases hv with hv | hv
  · obtain ⟨hcheck,hcoerce⟩ := readBack_text h v field hv
    constructor
    · rw [checkStrictTypes,checkParts,hcheck]
      rfl
    · have hne : v.toJsonable.sortKeys ≠ .null := by
        intro hnull
        cases v <;> first | (cases hnull; done) | exact toJsonable_ne_null h hv rfl
      have hpart : part ≠ .noneType := by
        rintro rfl
        cases h
      rw [Hint.coerceValue]
      · rw [coerceParts]
        · rw [hcoerce]
          rfl
        · exact hpart
      · exact hne
  · cases v with
    | null =>
      refine ⟨?_,rfl⟩
      have hnull : checkParts [part,.noneType] .null field = true := by
        change ((checkStrictTypes part .null field).toBool || (true || false)) = true
        exact Bool.or_true _
      exact if_pos hnull
    | _ => cases hv

mutual
theorem readBack : ∀ hint : Hint, hint.exact = true → ReadBack hint
  | .str,_ => readBack_text rfl
  | .bool,_ => readBack_text rfl
  | .int,_ => readBack_text rfl
  | .literal _,_ => readBack_text rfl
  | .enum _,_ => readBack_text rfl
  | .union [part,.noneType],h => readBack_optional h
  | .tuple item,h => readBack_tuple (readBack item h)
  | .dataclass fields,h => by
    rw [exact,Bool.and_eq_true,decide_eq_true_eq] at h
    intro v field hv
    cases v with
    | record values =>
      rw [typed] at hv
      have hnames := typedFields_names hv
      have hkeys : (values.map Prod.fst).Nodup := hnames ▸ h.1
      obtain ⟨hcheck,hcoerce⟩ := readBackFields fields h.2 values hv (Json.sortedMembers (Value.toJsonableEntries values)) field
        fun k v hmem => find_sortedMembers hkeys hmem
      have hentries : (Value.toJsonableEntries values).map Prod.fst = fields.map Prod.fst := by
        rw [Value.toJsonableEntries_eq_map,List.map_map,← hnames]
        rfl
      constructor
      · change (checkExactFields (Json.obj (Json.sortedMembers (Value.toJsonableEntries values))) (fields.map Prod.fst) field >>= fun _ =>
          checkFields fields (Json.sortedMembers (Value.toJsonableEntries values)) field) = _
        rw [checkExactFields_sortKeys hentries]
        exact hcheck
      · change (dataclassFromJsonable fields (Json.sortedMembers (Value.toJsonableEntries values))).map Value.record = _
        rw [hcoerce]
        rfl
    | _ => cases hv
theorem readBackFields : ∀ (fields : List (String × Hint)), exactFields fields = true → ∀ values, typedFields fields values = true →
    ∀ (data : List (String × Json)) (field : String), (∀ k v, (k,v) ∈ values → Dict.find k data = some v.toJsonable.sortKeys) →
    checkFields fields data field = .ok () ∧ dataclassFromJsonable fields data = some values
  | [],_,values,hv,data,field,_ => by
    cases values with
    | nil => exact ⟨rfl,rfl⟩
    | cons e rest => cases hv
  | (name,hint) :: fields,h,values,hv,data,field,hdata => by
    rw [exactFields,Bool.and_eq_true] at h
    cases values with
    | nil => cases hv
    | cons e rest =>
      obtain ⟨k,v⟩ := e
      rw [typedFields,Bool.and_eq_true,Bool.and_eq_true] at hv
      obtain ⟨⟨hname,hv⟩,hrest⟩ := hv
      obtain rfl : k = name := of_decide_eq_true hname
      have hfound := hdata k v List.mem_cons_self
      obtain ⟨hcheck,hcoerce⟩ := readBack hint h.1 v (field ++ "::" ++ k) hv
      obtain ⟨hchecks,hcoerces⟩ := readBackFields fields h.2 rest hrest data field fun k v hmem => hdata k v (List.mem_cons_of_mem _ hmem)
      constructor
      · rw [checkFields,hfound,Option.getD_some,hcheck]
        exact hchecks
      · rw [dataclassFromJsonable,hfound]
        simp only [bind,Option.bind,hcoerce,hcoerces]
end

/-! ### What is accepted is of its type -/

/-- What is accepted for the type is made a value of the type. -/
def Accepts (hint : Hint) : Prop := ∀ j field, checkStrictTypes hint j field = .ok () →
  ∃ v, hint.coerceValue j = some v ∧ typed hint v = true

theorem accepts_text {hint : Hint} (h : hint.isText = true) : Accepts hint := by
  intro j field hj
  cases hint with
  | str =>
    cases j with
    | str s => exact ⟨.str s,rfl,rfl⟩
    | _ => cases hj
  | bool =>
    cases j with
    | bool b => exact ⟨.bool b,rfl,rfl⟩
    | _ => cases hj
  | int =>
    cases j with
    | int n => exact ⟨.int n,rfl,rfl⟩
    | _ => cases hj
  | literal values =>
    have hany : values.any (fun t => j = .str t) = true := by
      by_contra hnone
      rw [checkStrictTypes,if_neg hnone] at hj
      cases hj
    obtain ⟨s,hs,heq⟩ := List.any_eq_true.mp hany
    obtain rfl : j = .str s := of_decide_eq_true heq
    exact ⟨.str s,rfl,decide_eq_true hs⟩
  | enum values =>
    cases j with
    | str s =>
      by_cases hs : s ∈ values
      · refine ⟨.member s,?_,decide_eq_true hs⟩
        change (if s ∈ values then some (Value.member s) else none) = _
        rw [if_pos hs]
      · change (if s ∈ values then Except.ok () else Except.error _) = Except.ok () at hj
        rw [if_neg hs] at hj
        cases hj
    | _ => cases hj
  | _ => cases h

theorem accepts_optional {part : Hint} (h : part.isText = true) : Accepts (.union [part,.noneType]) := by
  intro j field hj
  by_cases hnull : j = .null
  · subst hnull
    refine ⟨.null,rfl,?_⟩
    change (typed part .null || (true || false)) = true
    exact Bool.or_true _
  · have hparts : checkParts [part,.noneType] j field = true := by
      by_contra hnone
      rw [checkStrictTypes,if_neg hnone] at hj
      cases hj
    have hpart : checkStrictTypes part j field = .ok () := by
      change ((checkStrictTypes part j field).toBool || ((checkStrictTypes .noneType j field).toBool || false)) = true at hparts
      rw [Bool.or_false,Bool.or_eq_true] at hparts
      rcases hparts with hok | hok
      · cases hcheck : checkStrictTypes part j field with
        | ok u => rfl
        | error e =>
          rw [hcheck] at hok
          cases hok
      · cases j <;> first | exact absurd rfl hnull | cases hok
    obtain ⟨v,hcoerce,hv⟩ := accepts_text h j field hpart
    refine ⟨v,?_,?_⟩
    · rw [Hint.coerceValue]
      · rw [coerceParts]
        · rw [hcoerce]
          rfl
        · rintro rfl
          cases h
      · exact hnull
    · change (typed part v || _) = true
      rw [hv]
      rfl

theorem accepts_tuple {item : Hint} (h : Accepts item) : Accepts (.tuple item) := by
  intro j field hj
  cases j with
  | arr items =>
    have hitems : ∃ vs, items.mapM item.coerceValue = some vs ∧ vs.all (typed item) = true := by
      change requireAll (fun i => checkStrictTypes item i (field ++ " item")) items = .ok () at hj
      induction items with
      | nil => exact ⟨[],rfl,rfl⟩
      | cons i rest ih =>
        obtain ⟨_,hitem,hrest⟩ := except_bind_ok hj
        obtain ⟨v,hcoerce,hv⟩ := h i _ hitem
        obtain ⟨vs,hcoerces,hvs⟩ := ih hrest
        refine ⟨v :: vs,?_,by rw [List.all_cons,hv,hvs]; rfl⟩
        rw [List.mapM_cons,hcoerce,hcoerces]
        rfl
    obtain ⟨vs,hcoerce,hvs⟩ := hitems
    refine ⟨.tuple vs,?_,hvs⟩
    change (items.mapM item.coerceValue).map Value.tuple = _
    rw [hcoerce]
    rfl
  | _ => cases hj

theorem find_of_mem_keys {data : List (String × Json)} {name : String} (h : name ∈ data.map Prod.fst) :
    ∃ j, Dict.find name data = some j := by
  induction data with
  | nil => cases h
  | cons e rest ih =>
    rw [Dict.find]
    split
    · exact ⟨_,rfl⟩
    · next hne =>
      rcases List.mem_cons.mp h with heq | hrest
      · exact absurd heq.symm hne
      · exact ih hrest

theorem found_of_exactFields {data : List (String × Json)} {names : List String} {label : String}
    (h : checkExactFields (.obj data) names label = .ok ()) : ∀ name ∈ names, ∃ j, Dict.find name data = some j := by
  obtain ⟨_,_,h⟩ := except_bind_ok h
  obtain ⟨_,hmissing,-⟩ := except_bind_ok h
  have hnone := check_ok hmissing
  intro name hname
  have hkey : name ∈ data.map Prod.fst := by
    by_contra habsent
    have hmem : name ∈ names.filter (· ∉ (Json.obj data).keys) := List.mem_filter.mpr ⟨hname,decide_eq_true habsent⟩
    rw [hnone] at hmem
    cases hmem
  exact find_of_mem_keys hkey

mutual
theorem accepts : ∀ hint : Hint, hint.exact = true → Accepts hint
  | .str,_ => accepts_text rfl
  | .bool,_ => accepts_text rfl
  | .int,_ => accepts_text rfl
  | .literal _,_ => accepts_text rfl
  | .enum _,_ => accepts_text rfl
  | .union [part,.noneType],h => accepts_optional h
  | .tuple item,h => accepts_tuple (accepts item h)
  | .dataclass fields,h => by
    rw [exact,Bool.and_eq_true] at h
    intro j field hj
    cases j with
    | obj members =>
      obtain ⟨_,hexact,hfields⟩ := except_bind_ok hj
      obtain ⟨values,hcoerce,hvalues⟩ := acceptsFields fields h.2 members field (found_of_exactFields hexact) hfields
      refine ⟨.record values,?_,hvalues⟩
      change (dataclassFromJsonable fields members).map Value.record = _
      rw [hcoerce]
      rfl
    | _ => cases hj
theorem acceptsFields : ∀ fields : List (String × Hint), exactFields fields = true → ∀ (data : List (String × Json)) (field : String),
    (∀ name ∈ fields.map Prod.fst, ∃ j, Dict.find name data = some j) → checkFields fields data field = .ok () →
    ∃ values, dataclassFromJsonable fields data = some values ∧ typedFields fields values = true
  | [],_,data,field,_,_ => ⟨[],rfl,rfl⟩
  | (name,hint) :: fields,h,data,field,hfound,hchecks => by
    rw [exactFields,Bool.and_eq_true] at h
    obtain ⟨j,hj⟩ := hfound name List.mem_cons_self
    rw [checkFields,hj,Option.getD_some] at hchecks
    obtain ⟨_,hcheck,hchecks⟩ := except_bind_ok hchecks
    obtain ⟨v,hcoerce,hv⟩ := accepts hint h.1 j _ hcheck
    obtain ⟨values,hcoerces,hvalues⟩ := acceptsFields fields h.2 data field (fun n hn => hfound n (List.mem_cons_of_mem _ hn)) hchecks
    refine ⟨(name,v) :: values,?_,?_⟩
    · rw [dataclassFromJsonable,hj]
      simp only [bind,Option.bind,hcoerce,hcoerces]
    · rw [typedFields,hv,hvalues]
      simp
end

/-! ### Texts -/

section Texts
variable {floatText : String → String}

mutual
theorem printed_typed : ∀ hint : Hint, hint.exact = true → ∀ v, typed hint v = true → Json.Printed floatText v.toJsonable
  | .str,_,.str _,_ => ⟨rfl,rfl⟩
  | .bool,_,.bool _,_ => ⟨rfl,rfl⟩
  | .int,_,.int _,_ => ⟨rfl,rfl⟩
  | .literal _,_,.str _,_ => ⟨rfl,rfl⟩
  | .enum _,_,.member _,_ => ⟨rfl,rfl⟩
  | .union [part,.noneType],h,v,hv => by
    by_cases hnull : v = .null
    · subst hnull
      exact ⟨rfl,rfl⟩
    · have hpart : typed part v = true := by
        change (typed part v || (typed .noneType v || false)) = true at hv
        rw [Bool.or_false,Bool.or_eq_true] at hv
        rcases hv with hv | hv
        · exact hv
        · cases v <;> first | exact absurd rfl hnull | cases hv
      have htext : part.isText = true := h
      cases part <;> first | (cases htext; done) | cases v <;> first | (cases hpart; done) | exact ⟨rfl,rfl⟩
  | .tuple item,h,.tuple items,hv => by
    rw [Value.toJsonable,Value.toJsonableItems_eq_map,Json.printed_arr]
    intro j hj
    obtain ⟨v,hmem,rfl⟩ := List.mem_map.mp hj
    exact printed_typed item h v (List.all_eq_true.mp hv v hmem)
  | .dataclass fields,h,.record values,hv => by
    rw [exact,Bool.and_eq_true,decide_eq_true_eq] at h
    rw [Value.toJsonable,Json.printed_obj,Value.toJsonableEntries_eq_map]
    constructor
    · rw [List.map_map]
      exact (typedFields_names hv).symm ▸ h.1
    · intro e he
      obtain ⟨f,hf,rfl⟩ := List.mem_map.mp he
      exact printed_typedFields fields h.2 values hv f hf
theorem printed_typedFields : ∀ fields : List (String × Hint), exactFields fields = true → ∀ values, typedFields fields values = true →
    ∀ e ∈ values, Json.Printed floatText e.2.toJsonable
  | [],_,[],_,e,he => absurd he List.not_mem_nil
  | (name,hint) :: fields,h,(k,v) :: values,hv,e,he => by
    rw [exactFields,Bool.and_eq_true] at h
    rw [typedFields,Bool.and_eq_true,Bool.and_eq_true] at hv
    rcases List.mem_cons.mp he with rfl | he
    · exact printed_typed hint h.1 v hv.1.2
    · exact printed_typedFields fields h.2 values hv.2 e he
end

/-- The text of a record is canonical. -/
theorem requireCanonicalJson_encode {fields : List (String × Hint)} (h : exact (.dataclass fields) = true)
    {values : List (String × Value)} (hv : typedFields fields values = true) (label : String) :
    requireCanonicalJson floatText (encode (.record values)) label =
      .ok (Json.sortedMembers (Value.toJsonableEntries values)) := by
  have htyped : Json.Printed floatText (Value.record values).toJsonable := printed_typed (.dataclass fields) h (.record values) hv
  have hprinted := Json.printed_sortKeys _ htyped
  have hsorted := Json.sortKeys_sortKeys (Value.record values).toJsonable
  have hobj : (Value.record values).toJsonable.sortKeys = .obj (Json.sortedMembers (Value.toJsonableEntries values)) := rfl
  rw [requireCanonicalJson,encode,Json.loads_dumps true hprinted]
  rw [hobj] at hsorted ⊢
  simp only [hsorted]
  rw [check_of trivial]
  rfl

/-- The decoder accepts the texts of the records of its type, each as its record, and no other text. -/
theorem decodeDataclassPayload_iff {fields : List (String × Hint)} (h : exact (.dataclass fields) = true) (payload label : String)
    (v : Value) : decodeDataclassPayload floatText payload fields label = .ok v ↔ typed (.dataclass fields) v = true ∧ encode v = payload := by
  constructor
  · intro hdecode
    obtain ⟨data,-,hdecode⟩ := except_bind_ok hdecode
    obtain ⟨_,hfields,hdecode⟩ := except_bind_ok hdecode
    obtain ⟨_,htypes,hdecode⟩ := except_bind_ok hdecode
    rw [exact,Bool.and_eq_true] at h
    obtain ⟨values,hcoerce,hvalues⟩ := acceptsFields fields h.2 data label (found_of_exactFields hfields) htypes
    rw [hcoerce] at hdecode
    obtain ⟨_,hsame,hdecode⟩ := except_bind_ok hdecode
    cases hdecode
    exact ⟨hvalues,check_ok hsame⟩
  · rintro ⟨hv,rfl⟩
    cases v with
    | record values =>
      have hcanonical : requireCanonicalJson floatText (encode (.record values)) label = _ := requireCanonicalJson_encode h hv label
      have hexact := h
      rw [exact,Bool.and_eq_true,decide_eq_true_eq] at hexact
      have hnames := typedFields_names hv
      have hkeys : (values.map Prod.fst).Nodup := hnames ▸ hexact.1
      have hentries : (Value.toJsonableEntries values).map Prod.fst = fields.map Prod.fst := by
        rw [Value.toJsonableEntries_eq_map,List.map_map,← hnames]
        rfl
      obtain ⟨hchecks,hcoerce⟩ := readBackFields fields hexact.2 values hv _ label fun k w hmem => find_sortedMembers hkeys hmem
      unfold decodeDataclassPayload
      simp only [hcanonical,ok_bind,checkExactFields_sortKeys hentries,hchecks,hcoerce]
      rw [check_of trivial]
      rfl
    | _ => cases hv

end Texts

/-! ### Admin plans and fixtures -/

def adminChangeKinds : List String := ["user_service_restart","apt_install","apt_update","apt_upgrade","firmware_update",
  "flatpak_install","npm_global_install","docker_compose_update","storage_mount_test","firewall_allow_tcp","firewall_deny_tcp","block_ip"]

def ownerDomains : List String := ["sisko","kira","obrien","odo","odo_ids","odo_firewall","quark","dax","julian","ezri"]

/-- `str | None`. -/
def optionalStr : Hint := .union [.str,.noneType]

/-- `AdminCommandStep`. -/
def commandStep : Hint := .dataclass [("title",.str),("command",.tuple .str),("reason",.str)]

/-- The fields of an `AdminChangePlan`. -/
def adminPlanFields : List (String × Hint) :=
  [("id",.str),("kind",.enum adminChangeKinds),("owner_domain",.enum ownerDomains),
    ("risk_level",.enum ["low","medium","high","critical"]),("approval_level",.enum ["none","role","sisko","human"]),
    ("target",.str),("reason",.str),("current_state",.str),("proposed_state",.str),("steps",.tuple commandStep),
    ("rollback_steps",.tuple commandStep),("risks",.tuple .str),("verification_steps",.tuple commandStep),
    ("residual_scan_findings",.tuple .str),("approved",.bool),("approved_by",optionalStr),("approved_at",optionalStr),
    ("canceled",.bool),("canceled_by",optionalStr),("canceled_at",optionalStr),("cancellation_reason",optionalStr),
    ("archived",.bool),("archived_by",optionalStr),("archived_at",optionalStr),("archive_record_id",optionalStr)]

/-- The fields of a `RoadexApprovalFixture`. -/
def fixtureFields : List (String × Hint) :=
  [("id",.str),("status",.literal ["pending","approved"]),("created_at",.str),("approved_at",optionalStr),("approved_by",optionalStr)]

/-- The classes whose stored records are read strictly. -/
inductive StoredClass where
  | adminChangePlan | roadexApprovalFixture

namespace StoredClass

def fields : StoredClass → List (String × Hint)
  | adminChangePlan => adminPlanFields
  | roadexApprovalFixture => fixtureFields

def label : StoredClass → String
  | adminChangePlan => "admin source"
  | roadexApprovalFixture => "fixture source"

/-- The value is a record of the class. -/
def holds (c : StoredClass) (v : Value) : Bool := typed (.dataclass c.fields) v

def decode (floatText : String → String) (c : StoredClass) (payload : String) : Check Value :=
  decodeDataclassPayload floatText payload c.fields c.label

theorem exact_fields (c : StoredClass) : exact (.dataclass c.fields) = true := by
  cases c <;> decide

end StoredClass

/-! ### Exactness -/

/-- A stored text is accepted just when it is the canonical text of a record of the class, and then as that record; no two
texts are accepted as one record. -/
theorem strict_decoding_exact (floatText : String → String) (c : StoredClass) :
    (∀ payload v, c.decode floatText payload = .ok v ↔ c.holds v = true ∧ encode v = payload) ∧
    ∀ payload payload' v, c.decode floatText payload = .ok v → c.decode floatText payload' = .ok v → payload = payload' := by
  have hexact : ∀ payload v, c.decode floatText payload = .ok v ↔ c.holds v = true ∧ encode v = payload :=
    fun payload v => decodeDataclassPayload_iff c.exact_fields payload c.label v
  refine ⟨hexact,fun payload payload' v h h' => ?_⟩
  rw [← ((hexact payload v).mp h).2,((hexact payload' v).mp h').2]

/-- A fixture that waits for its approval. -/
theorem strict_decoding_exact_fixture :
    StoredClass.roadexApprovalFixture.decode id "\x7b\"approved_at\":null,\"approved_by\":null,\"created_at\":\"t\",\"id\":\"f\",\"status\":\"pending\"\x7d" =
      .ok (.record [("id",.str "f"),("status",.str "pending"),("created_at",.str "t"),("approved_at",.null),("approved_by",.null)]) :=
  ((strict_decoding_exact id .roadexApprovalFixture).1 _ _).mpr ⟨by decide,by decide +kernel⟩

end Overseer.Roadex
