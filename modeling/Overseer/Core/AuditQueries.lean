import Overseer.Core.Codec
import Overseer.Library.JsonLike
import Overseer.Library.JsonRoundTrip
import Overseer.Library.Canonical
import Mathlib.Data.List.Lex
import Mathlib.Data.Char

/-! # Audit queries

`save_audit_event`, `list_audit_events` and `count_audit_events` of `store.py`. The filters are `LIKE`
patterns: on the subject, and on the text of the event as it was dumped.
-/
namespace Overseer.Core
open Overseer.Library Json

def AuditEventType.value : AuditEventType → String
  | .requested => "requested"
  | .alert => "alert"
  | .allowed => "allowed"
  | .queued => "queued"
  | .blocked => "blocked"
  | .escalated => "escalated"
  | .quarantined => "quarantined"
  | .approved => "approved"
  | .rejected => "rejected"
  | .executed => "executed"
  | .verified => "verified"
  | .released => "released"

instance : Stored AuditEventType := .ofEnum [.requested,.alert,.allowed,.queued,.blocked,.escalated,.quarantined,.approved,.rejected,
  .executed,.verified,.released] AuditEventType.value fun t => by cases t <;> decide

namespace AuditEvent

def members (e : AuditEvent) : List (String × Json) :=
  [("id",toJsonable e.id),("event_type",toJsonable e.eventType),("owner_domain",toJsonable e.ownerDomain),
    ("subject_id",toJsonable e.subjectId),("summary",toJsonable e.summary),("risk_level",toJsonable e.riskLevel),
    ("evidence_ids",toJsonable e.evidenceIds),("occurred_at",toJsonable e.occurredAt)]

def ofJsonable (v : Json) : Option AuditEvent := do
  return {
    id := ← readField v "id" none
    eventType := ← readField v "event_type" none
    ownerDomain := ← readField v "owner_domain" none
    subjectId := ← readField v "subject_id" none
    summary := ← readField v "summary" none
    riskLevel := ← readField v "risk_level" none
    evidenceIds := ← readField v "evidence_ids" (some [])
    occurredAt := ← readField v "occurred_at" (some none) }

theorem members_nodup (e : AuditEvent) : (e.members.map Prod.fst).Nodup := by
  change ["id","event_type","owner_domain","subject_id","summary","risk_level","evidence_ids","occurred_at"].Nodup
  decide +kernel

theorem ofJsonable_members (e : AuditEvent) : ofJsonable (Json.obj e.members).sortKeys = some e := by
  unfold ofJsonable
  rw [readField_sortKeys e.members_nodup (a := e.id) rfl,readField_sortKeys e.members_nodup (a := e.eventType) rfl,
    readField_sortKeys e.members_nodup (a := e.ownerDomain) rfl,readField_sortKeys e.members_nodup (a := e.subjectId) rfl,
    readField_sortKeys e.members_nodup (a := e.summary) rfl,readField_sortKeys e.members_nodup (a := e.riskLevel) rfl,
    readField_sortKeys e.members_nodup (a := e.evidenceIds) rfl,readField_sortKeys e.members_nodup (a := e.occurredAt) rfl]
  rfl

theorem printed_members (floatText : String → String) (e : AuditEvent) : Printed floatText (.obj e.members) := by
  have hevidence : Printed floatText (toJsonable e.evidenceIds) := printed_arr.mpr fun v hv => by
    obtain ⟨id,-,rfl⟩ := List.mem_map.mp hv
    exact ⟨rfl,rfl⟩
  have hoccurred : Printed floatText (toJsonable e.occurredAt) := by cases e.occurredAt <;> exact ⟨rfl,rfl⟩
  refine printed_obj.mpr ⟨e.members_nodup,fun m hm => ?_⟩
  simp only [members,List.mem_cons,List.not_mem_nil,or_false] at hm
  rcases hm with rfl | rfl | rfl | rfl | rfl | rfl | rfl | rfl
  all_goals first | exact ⟨rfl,rfl⟩ | exact hevidence | exact hoccurred

def dump (e : AuditEvent) : String := dumps true (sortKeys (.obj e.members))

/-- `_load_dataclass`. -/
def load (floatText : String → String) (text : String) : Option AuditEvent := (loads floatText text).bind ofJsonable

theorem load_dump (floatText : String → String) (e : AuditEvent) : load floatText e.dump = some e := by
  unfold load dump
  rw [loads_dumps true (printed_sortKeys _ (printed_members floatText e)),Option.bind_some,ofJsonable_members]

/-! ### Patterns on the text -/

theorem mem_sorted_iff (e : AuditEvent) (m : String × Json) : m ∈ sortedMembers e.members ↔ m ∈ e.members := by
  have hsame : (e.members.map fun m => (m.1,sortKeys m.2)) = e.members := by
    have hids : ∀ ids : List String, sortItems (ids.map .str) = ids.map .str := by
      intro ids
      induction ids with
      | nil => rfl
      | cons id ids ih =>
        rw [List.map_cons,sortItems,ih]
        rfl
    have hevidence : sortKeys (toJsonable e.evidenceIds) = toJsonable e.evidenceIds := congrArg Json.arr (hids e.evidenceIds)
    have hoccurred : sortKeys (toJsonable e.occurredAt) = toJsonable e.occurredAt := by cases e.occurredAt <;> rfl
    unfold members
    simp only [List.map_cons,List.map_nil,hevidence,hoccurred]
    rfl
  have hperm := (sortedMembers_perm e.members).mem_iff (a := m)
  rwa [hsame] at hperm

theorem isFlat_members (e : AuditEvent) : ∀ m ∈ sortedMembers e.members, Like.isFlat m.2 = true := by
  intro m hm
  rw [mem_sorted_iff] at hm
  have hevidence : Like.isFlat (toJsonable e.evidenceIds) = true := List.all_eq_true.mpr fun v hv => by
    obtain ⟨id,-,rfl⟩ := List.mem_map.mp hv
    rfl
  have hoccurred : Like.isFlat (toJsonable e.occurredAt) = true := by cases e.occurredAt <;> rfl
  simp only [members,List.mem_cons,List.not_mem_nil,or_false] at hm
  rcases hm with rfl | rfl | rfl | rfl | rfl | rfl | rfl | rfl
  all_goals first | rfl | exact hevidence | exact hoccurred

/-- The names of the fields. -/
def fieldNames : List String := ["id","event_type","owner_domain","subject_id","summary","risk_level","evidence_ids","occurred_at"]

theorem dump_toList (e : AuditEvent) : e.dump.toList = dumpsChars {} true (.obj (sortedMembers e.members)) := by
  unfold dump dumps dumpsWith
  rw [sortKeys_obj,String.toList_ofList]

/-- The pattern that a filter looks for in the text of an event. -/
def memberText (name value : String) : String := "%\"" ++ name ++ "\":\"" ++ value ++ "\"%"

theorem memberText_toList (name value : String) :
    (memberText name value).toList = '%' :: (Like.memberPattern name.toList value.toList ++ ['%']) := by
  unfold memberText Like.memberPattern
  simp

end AuditEvent

/-- `text LIKE pattern`. -/
def likeText (text pattern : String) : Bool := Like.like pattern.toList text.toList

namespace AuditEvent

/-- A name among the fields and a value are found in the text of an event just where the field has the value. -/
theorem like_dump_iff {e : AuditEvent} {name t value : String} (hname : Like.isWord name.toList = true)
    (hfirst : ∃ p w, name.toList = p :: w ∧ Like.isPlain p = true) (hvalue : Like.isWord value.toList = true)
    (hescaped : Like.escaped name.toList = name.toList) (htext : Like.escaped t.toList = t.toList)
    (hkeys : ∀ k ∈ fieldNames, ∀ suf ∈ k.toList.tails, Like.like name.toList (Like.escaped suf) = true → k = name)
    (hvalues : Like.like value.toList (Like.escaped t.toList) = true → value = t) (hmem : (name,Json.str t) ∈ e.members) :
    likeText e.dump (memberText name value) = true ↔ t = value := by
  have hnone : ∀ {w : List Char}, Like.isWord w = true → '%' ∉ w := Like.isWord_noPercent
  have hpattern : '%' ∉ Like.memberPattern name.toList value.toList := by
    unfold Like.memberPattern
    simp [hnone hname,hnone hvalue]
  unfold likeText
  rw [memberText_toList,Like.like_occurs hpattern,dump_toList]
  constructor
  · intro h
    obtain ⟨m,hm,⟨pre,suf,hsplit,halike⟩,t',ht',halike'⟩ := Like.member_of_occurs hname hfirst hvalue (isFlat_members e) h
    rw [mem_sorted_iff] at hm
    have hkey : m.1 ∈ fieldNames := by
      have hmap := List.mem_map_of_mem (f := Prod.fst) hm
      exact hmap
    have hnamed : m.1 = name :=
      hkeys m.1 hkey suf ((List.mem_tails _ _).mpr ⟨pre,hsplit.symm⟩) ((Like.like_iff_alike (hnone hname)).mpr halike)
    have hsame : m.2 = .str t := by
      have hfind := (Dict.mem_iff_find e.members_nodup m.1 m.2).mp hm
      have hfind' := (Dict.mem_iff_find e.members_nodup name (.str t)).mp hmem
      rw [hnamed,hfind'] at hfind
      exact (Option.some.inj hfind).symm
    rw [ht'] at hsame
    cases hsame
    exact (hvalues ((Like.like_iff_alike (hnone hvalue)).mpr halike')).symm
  · rintro rfl
    exact Like.occurs_member ((mem_sorted_iff e _).mpr hmem) hescaped htext

def eventTypes : List String := ["requested","alert","allowed","queued","blocked","escalated","quarantined","approved","rejected",
  "executed","verified","released"]

def ownerDomains : List String := ["sisko","kira","obrien","odo","odo_ids","odo_firewall","quark","dax","julian","ezri"]

theorem value_mem_eventTypes (t : AuditEventType) : t.value ∈ eventTypes := by cases t <;> decide

theorem value_mem_ownerDomains (d : OwnerDomain) : d.value ∈ ownerDomains := by cases d <;> decide

/-- The values of a filter are words, and none is taken for another one. -/
def Distinguished (values : List String) : Prop := ∀ v ∈ values, Like.isWord v.toList = true ∧ Like.escaped v.toList = v.toList ∧
  ∀ t ∈ values, Like.like v.toList (Like.escaped t.toList) = true → v = t

instance (values : List String) : Decidable (Distinguished values) := inferInstanceAs (Decidable (∀ v ∈ values, _))

theorem distinguished_eventTypes : Distinguished eventTypes := by decide +kernel

theorem distinguished_ownerDomains : Distinguished ownerDomains := by decide +kernel

theorem value_injective_eventType {t u : AuditEventType} (h : t.value = u.value) : t = u := by
  have hread := Stored.coerce_toJsonable t
  have hread' := Stored.coerce_toJsonable u
  have hsame : (toJsonable t : Json) = toJsonable u := congrArg Json.str h
  rw [hsame,hread'] at hread
  exact (Option.some.inj hread).symm

theorem value_injective_ownerDomain {d u : OwnerDomain} (h : d.value = u.value) : d = u := by
  have hread := Stored.coerce_toJsonable d
  have hread' := Stored.coerce_toJsonable u
  have hsame : (toJsonable d : Json) = toJsonable u := congrArg Json.str h
  rw [hsame,hread'] at hread
  exact (Option.some.inj hread).symm

theorem like_eventType (e : AuditEvent) (t : AuditEventType) : likeText e.dump (memberText "event_type" t.value) = decide (e.eventType = t) := by
  obtain ⟨hword,-,hvalues⟩ := distinguished_eventTypes t.value (value_mem_eventTypes t)
  obtain ⟨-,hescaped,-⟩ := distinguished_eventTypes e.eventType.value (value_mem_eventTypes e.eventType)
  have hiff : likeText e.dump (memberText "event_type" t.value) = true ↔ e.eventType.value = t.value :=
    like_dump_iff (by decide +kernel) ⟨'e',_,rfl,by decide +kernel⟩ hword (by decide +kernel) hescaped
    (by decide +kernel) (hvalues _ (value_mem_eventTypes e.eventType)) (List.mem_cons_of_mem _ List.mem_cons_self)
  rw [Bool.eq_iff_iff,hiff,decide_eq_true_eq]
  exact ⟨value_injective_eventType,fun h => by rw [h]⟩

theorem like_ownerDomain (e : AuditEvent) (d : OwnerDomain) : likeText e.dump (memberText "owner_domain" d.value) = decide (e.ownerDomain = d) := by
  obtain ⟨hword,-,hvalues⟩ := distinguished_ownerDomains d.value (value_mem_ownerDomains d)
  obtain ⟨-,hescaped,-⟩ := distinguished_ownerDomains e.ownerDomain.value (value_mem_ownerDomains e.ownerDomain)
  have hiff : likeText e.dump (memberText "owner_domain" d.value) = true ↔ e.ownerDomain.value = d.value :=
    like_dump_iff (by decide +kernel) ⟨'o',_,rfl,by decide +kernel⟩ hword (by decide +kernel) hescaped
    (by decide +kernel) (hvalues _ (value_mem_ownerDomains e.ownerDomain))
    (List.mem_cons_of_mem _ (List.mem_cons_of_mem _ List.mem_cons_self))
  rw [Bool.eq_iff_iff,hiff,decide_eq_true_eq]
  exact ⟨value_injective_ownerDomain,fun h => by rw [h]⟩

end AuditEvent

/-! ### Queries -/

structure AuditRow where
  subjectId : String
  payload : String

/-- The filters of a query; an event type and an owner that are given are among the values of their enumerations. -/
structure AuditFilter where
  subjectPrefix : Option String := none
  eventType : Option AuditEventType := none
  ownerDomain : Option OwnerDomain := none

namespace AuditQueries
open AuditEvent

def rowOf (event : AuditEvent) : AuditRow := ⟨event.subjectId,event.dump⟩

/-- `INSERT OR REPLACE`. -/
def saveAuditEvent (table : Dict AuditRow) (event : AuditEvent) : Dict AuditRow := table.set event.id (rowOf event)

/-- The clauses of a query; an empty prefix adds none. -/
def clauses (f : AuditFilter) (row : AuditRow) : Bool :=
  f.subjectPrefix.all (fun p => p = "" || likeText row.subjectId (p ++ "%")) &&
    f.eventType.all (fun t => likeText row.payload (memberText "event_type" t.value)) &&
    f.ownerDomain.all (fun d => likeText row.payload (memberText "owner_domain" d.value))

/-- The rows of a query in the order of their ids. -/
def selected (f : AuditFilter) (table : Dict AuditRow) : List (String × AuditRow) :=
  (table.entries.filter fun e => clauses f e.2).insertionSort fun a b => a.1.toList ≤ b.1.toList

def listAuditEvents (floatText : String → String) (f : AuditFilter) (limit : Option ℤ) (table : Dict AuditRow) : Option (List AuditEvent) :=
  let rows := selected f table
  (limit.elim rows fun n => rows.take (max 0 n).toNat).mapM fun e => AuditEvent.load floatText e.2.payload

def countAuditEvents (f : AuditFilter) (riskLevel : Option RiskLevel) (table : Dict AuditRow) : ℕ :=
  (table.entries.filter fun e => clauses f e.2 &&
    riskLevel.all fun r => likeText e.2.payload (memberText "risk_level" r.value)).length

/-! ### What a query is for -/

/-- The events that are saved, the last one of each id. -/
def saved (events : List AuditEvent) : Dict AuditEvent := events.foldl (fun d e => d.set e.id e) .empty

def savedTable (events : List AuditEvent) : Dict AuditRow := events.foldl saveAuditEvent .empty

/-- The filters other than the prefix. -/
def describes (f : AuditFilter) (e : AuditEvent) : Bool :=
  f.eventType.all (fun t => e.eventType = t) && f.ownerDomain.all fun d => e.ownerDomain = d

/-- The events that a query asks for. -/
def asked (f : AuditFilter) (e : AuditEvent) : Bool :=
  f.subjectPrefix.all (fun p => p.toList.isPrefixOf e.subjectId.toList) && describes f e

def exact (f : AuditFilter) (events : List AuditEvent) : List AuditEvent :=
  ((saved events).values.filter (asked f)).insertionSort fun a b => a.id.toList ≤ b.id.toList

/-- The query lists what it is for, and counts it. -/
def ExactQuery (floatText : String → String) (f : AuditFilter) (events : List AuditEvent) : Prop :=
  listAuditEvents floatText f none (savedTable events) = some (exact f events) ∧
    countAuditEvents f none (savedTable events) = (exact f events).length

/-! ### The table -/

theorem assign_map {α β : Type} (g : α → β) (k : String) (v : α) (es : List (String × α)) :
    Dict.assign k (g v) (es.map fun e => (e.1,g e.2)) = (Dict.assign k v es).map fun e => (e.1,g e.2) := by
  induction es with
  | nil => rfl
  | cons e es ih =>
    rw [List.map_cons,Dict.assign,Dict.assign]
    split
    · rfl
    · rw [ih]
      rfl

theorem entries_savedTable (events : List AuditEvent) :
    (savedTable events).entries = (saved events).entries.map fun e => (e.1,rowOf e.2) := by
  unfold savedTable saved
  have hfold : ∀ (table : Dict AuditRow) (d : Dict AuditEvent), table.entries = d.entries.map (fun e => (e.1,rowOf e.2)) →
      (events.foldl saveAuditEvent table).entries =
        (events.foldl (fun d e => d.set e.id e) d).entries.map fun e => (e.1,rowOf e.2) := by
    induction events with
    | nil => exact fun _ _ h => h
    | cons event events ih =>
      intro table d h
      refine ih _ _ ?_
      change Dict.assign event.id (rowOf event) table.entries = _
      rw [h]
      exact assign_map rowOf event.id event d.entries
  exact hfold _ _ rfl

theorem filed_saved (events : List AuditEvent) : Dict.Filed AuditEvent.id (saved events) := by
  unfold saved
  have hfold : ∀ d : Dict AuditEvent, Dict.Filed AuditEvent.id d → Dict.Filed AuditEvent.id (events.foldl (fun d e => d.set e.id e) d) := by
    induction events with
    | nil => exact fun _ h => h
    | cons event events ih => exact fun d h => ih _ (h.set event)
  exact hfold _ (Dict.Filed.empty _)

theorem entries_saved (events : List AuditEvent) : (saved events).entries = (saved events).values.map fun e => (e.id,e) := by
  unfold Dict.values
  rw [List.map_map]
  refine (List.map_id _).symm.trans (List.map_congr_left fun e he => ?_)
  have hid := filed_saved events e.1 e.2 ((Dict.mem_entries_iff _ _ _).mp he)
  exact Prod.ext hid.symm rfl

/-! ### The clauses -/

/-- What the clauses let through. -/
def likeAsked (f : AuditFilter) (e : AuditEvent) : Bool :=
  f.subjectPrefix.all (fun p => p = "" || likeText e.subjectId (p ++ "%")) && describes f e

theorem clauses_rowOf (f : AuditFilter) (e : AuditEvent) : clauses f (rowOf e) = likeAsked f e := by
  unfold clauses likeAsked describes rowOf
  simp only [like_eventType,like_ownerDomain,Bool.and_assoc]

theorem like_of_isPrefixOf {p subject : String} (h : p.toList.isPrefixOf subject.toList = true) : likeText subject (p ++ "%") = true := by
  obtain ⟨rest,hrest⟩ := List.isPrefixOf_iff_prefix.mp h
  unfold likeText
  rw [String.toList_append,← hrest]
  exact Like.like_of_prefix p.toList rest

theorem likeAsked_of_asked {f : AuditFilter} {e : AuditEvent} (h : asked f e = true) : likeAsked f e = true := by
  unfold asked at h
  unfold likeAsked
  rw [Bool.and_eq_true] at h ⊢
  refine ⟨?_,h.2⟩
  cases hp : f.subjectPrefix with
  | none => rfl
  | some p =>
    rw [hp] at h
    change (decide (p = "") || likeText e.subjectId (p ++ "%")) = true
    rw [like_of_isPrefixOf h.1,Bool.or_true]

theorem selected_savedTable (f : AuditFilter) (events : List AuditEvent) :
    selected f (savedTable events) =
      (((saved events).values.filter (likeAsked f)).insertionSort fun a b => a.id.toList ≤ b.id.toList).map fun e => (e.id,rowOf e) := by
  unfold selected
  rw [entries_savedTable,entries_saved,List.map_map,List.filter_map]
  have hfilter : ((fun e : String × AuditRow => clauses f e.2) ∘ ((fun e : String × AuditEvent => (e.1,rowOf e.2)) ∘ fun e => (e.id,e))) =
      likeAsked f := funext fun e => clauses_rowOf f e
  rw [hfilter]
  exact (List.map_insertionSort (fun a b : AuditEvent => a.id.toList ≤ b.id.toList)
    (fun a b : String × AuditRow => a.1.toList ≤ b.1.toList) _ _ fun _ _ _ _ => Iff.rfl).symm

theorem listAuditEvents_savedTable (floatText : String → String) (f : AuditFilter) (events : List AuditEvent) :
    listAuditEvents floatText f none (savedTable events) =
      some (((saved events).values.filter (likeAsked f)).insertionSort fun a b => a.id.toList ≤ b.id.toList) := by
  unfold listAuditEvents
  rw [selected_savedTable]
  change ((List.insertionSort _ _).map fun e => (e.id,rowOf e)).mapM _ = _
  have hload : ∀ es : List AuditEvent, (es.map fun e => (e.id,rowOf e)).mapM (fun e => AuditEvent.load floatText e.2.payload) = some es := by
    intro es
    induction es with
    | nil => rfl
    | cons e es ih =>
      rw [List.map_cons,List.mapM_cons,ih]
      change (AuditEvent.load floatText e.dump).bind _ = _
      rw [load_dump]
      rfl
  exact hload _

theorem countAuditEvents_savedTable (f : AuditFilter) (events : List AuditEvent) :
    countAuditEvents f none (savedTable events) = ((saved events).values.filter (likeAsked f)).length := by
  unfold countAuditEvents
  rw [entries_savedTable,entries_saved,List.map_map,List.filter_map,List.length_map]
  congr 1
  refine List.filter_congr fun e _ => ?_
  exact (Bool.and_true _).trans (clauses_rowOf f e)

/-- A query is exact just when every event that fits its other filters, and whose subject its prefix matches as a pattern, has a
subject that begins with the prefix. -/
theorem exactQuery_iff (floatText : String → String) (f : AuditFilter) (events : List AuditEvent) :
    ExactQuery floatText f events ↔ ∀ e ∈ (saved events).values, describes f e = true → ∀ p, f.subjectPrefix = some p →
      likeText e.subjectId (p ++ "%") = true → p.toList <+: e.subjectId.toList := by
  unfold ExactQuery
  rw [listAuditEvents_savedTable,countAuditEvents_savedTable]
  constructor
  · rintro ⟨hlist,-⟩ e he hdescribes p hp hlike
    have hmem : e ∈ ((saved events).values.filter (likeAsked f)).insertionSort fun a b => a.id.toList ≤ b.id.toList := by
      rw [List.mem_insertionSort,List.mem_filter]
      refine ⟨he,?_⟩
      unfold likeAsked
      rw [hdescribes,hp,Bool.and_true]
      change (decide (p = "") || likeText e.subjectId (p ++ "%")) = true
      rw [hlike,Bool.or_true]
    rw [Option.some.inj hlist,exact,List.mem_insertionSort,List.mem_filter] at hmem
    have hasked := (Bool.and_eq_true_iff.mp hmem.2).1
    rw [hp] at hasked
    exact List.isPrefixOf_iff_prefix.mp hasked
  · intro h
    have hsame : (saved events).values.filter (likeAsked f) = (saved events).values.filter (asked f) := by
      refine List.filter_congr fun e he => Bool.eq_iff_iff.mpr ⟨fun hlike => ?_,likeAsked_of_asked⟩
      unfold likeAsked at hlike
      rw [Bool.and_eq_true] at hlike
      unfold asked
      rw [Bool.and_eq_true]
      refine ⟨?_,hlike.2⟩
      cases hp : f.subjectPrefix with
      | none => rfl
      | some p =>
        rw [hp] at hlike
        have hclause : (decide (p = "") || likeText e.subjectId (p ++ "%")) = true := hlike.1
        change p.toList.isPrefixOf e.subjectId.toList = true
        rw [Bool.or_eq_true,decide_eq_true_eq] at hclause
        rcases hclause with rfl | hpattern
        · rfl
        · exact List.isPrefixOf_iff_prefix.mpr (h e he hlike.2 p hp hpattern)
    rw [hsame]
    exact ⟨rfl,(List.length_insertionSort _ _).symm⟩

/-! ### A subject in capitals -/

def adminEvent : AuditEvent where
  id := "audit-1"
  eventType := .executed
  ownerDomain := .obrien
  subjectId := "ADMIN.1"
  summary := "restart"
  riskLevel := .low

/-- A prefix in small letters finds a subject in capitals. -/
theorem capitals_listed : ∃ f : AuditFilter, f.subjectPrefix = some "admin." ∧ listAuditEvents id f none (savedTable [adminEvent]) = some [adminEvent] ∧
    exact f [adminEvent] = [] ∧ ¬ ExactQuery id f [adminEvent] := by
  have hexact : exact { subjectPrefix := some "admin." } [adminEvent] = [] := by decide +kernel
  have hlisted : listAuditEvents id { subjectPrefix := some "admin." } none (savedTable [adminEvent]) = some [adminEvent] := by
    rw [listAuditEvents_savedTable]
    decide +kernel
  refine ⟨_,rfl,hlisted,hexact,fun h => ?_⟩
  have hlist := h.1
  rw [hlisted,hexact] at hlist
  cases hlist

end AuditQueries
end Overseer.Core
