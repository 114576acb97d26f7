import Overseer.Psychlo.LearningExact
import Overseer.Psychlo.ContentDigest

/-! # What the digests of an observation tell apart

The wire digest is of a normal form: texts and truth values as they are, numbers by the bits of their
doubles. Two observations of one wire digest have one normal form, and the digests of the earlier wire
contracts agree with it only where the normal form is the same.
-/
namespace Overseer.Psychlo
open Overseer.Library Overseer.Library.Json Overseer.Agent

/-! ### Normal forms -/

section Normal
variable {host : Host} {floatText : String → String}

theorem normalizeMembers_ok {es cs : List (String × Json)} : host.normalizeMembers es = .ok cs ↔
    List.Forall₂ (fun e c => c.1 = e.1 ∧ host.normalize e.2 = .ok c.2) es cs := by
  induction es generalizing cs with
  | nil =>
    rw [Host.normalizeMembers,List.forall₂_nil_left_iff]
    exact ⟨fun h => (Except.ok.inj h).symm,fun h => h ▸ rfl⟩
  | cons e rest ih =>
    rw [Host.normalizeMembers,List.forall₂_cons_left_iff]
    constructor
    · intro h
      obtain ⟨c,hc,h⟩ := check_bind h
      obtain ⟨cs',hcs',h⟩ := check_bind h
      cases h
      exact ⟨(e.1,c),cs',⟨rfl,hc⟩,ih.mp hcs',rfl⟩
    · rintro ⟨c,cs',⟨hkey,hc⟩,hcs',rfl⟩
      rw [bind_of_passed hc,bind_of_passed (ih.mpr hcs'),← hkey]
      rfl

theorem normalize_obj_ok {es : List (String × Json)} {v : Json} : host.normalize (.obj es) = .ok v ↔
    ∃ cs, v = .obj cs ∧ List.Forall₂ (fun e c => c.1 = e.1 ∧ host.normalize e.2 = .ok c.2) es cs := by
  rw [Host.normalize]
  constructor
  · intro h
    obtain ⟨cs,hcs,h⟩ := check_bind h
    cases h
    exact ⟨cs,rfl,normalizeMembers_ok.mp hcs⟩
  · rintro ⟨cs,rfl,hcs⟩
    rw [bind_of_passed (normalizeMembers_ok.mpr hcs)]
    rfl

theorem normalizeNumber_ok {v c : Json} (h : host.normalizeNumber v = .ok c) : ∃ bits, c = .obj [("$f64",.str bits)] := by
  unfold Host.normalizeNumber at h
  obtain ⟨_,-,h⟩ := check_bind h
  dsimp only at h
  split at h
  · cases h
    exact ⟨_,rfl⟩
  · obtain ⟨bits,-,h⟩ := check_bind h
    cases h
    exact ⟨bits,rfl⟩

theorem keys_of_normal {es cs : List (String × Json)}
    (h : List.Forall₂ (fun e c => c.1 = e.1 ∧ host.normalize e.2 = .ok c.2) es cs) : cs.map Prod.fst = es.map Prod.fst := by
  induction h with
  | nil => rfl
  | cons hhead _ ih => rw [List.map_cons,List.map_cons,hhead.1,ih]

theorem mem_of_normal {es cs : List (String × Json)}
    (h : List.Forall₂ (fun e c => c.1 = e.1 ∧ host.normalize e.2 = .ok c.2) es cs) : ∀ c ∈ cs, ∃ e ∈ es, host.normalize e.2 = .ok c.2 := by
  induction h with
  | nil => exact nofun
  | cons hhead _ ih =>
    intro c hc
    rcases List.mem_cons.mp hc with rfl | hc
    · exact ⟨_,List.mem_cons_self,hhead.2⟩
    · obtain ⟨e,he,hec⟩ := ih c hc
      exact ⟨e,List.mem_cons_of_mem _ he,hec⟩

theorem value_of_normal {es cs : List (String × Json)}
    (h : List.Forall₂ (fun e c => c.1 = e.1 ∧ host.normalize e.2 = .ok c.2) es cs) : ∀ e ∈ es, ∃ c, host.normalize e.2 = .ok c := by
  induction h with
  | nil => exact nofun
  | cons hhead _ ih => exact List.forall_mem_cons.mpr ⟨⟨_,hhead.2⟩,ih⟩

theorem normalize_tag (bits : String) : host.normalize (.obj [("$f64",.str bits)]) = .ok (.obj [("$f64",.str bits)]) :=
  normalize_obj_ok.mpr ⟨_,rfl,.cons ⟨rfl,rfl⟩ .nil⟩

/-- A normal form is its own, and its text is read back. -/
theorem normal_of_normalize (v : Json) : ∀ c, host.normalize v = .ok c →
    host.normalize c = .ok c ∧ (written v = true → Printed floatText c) := by
  have hnumber : ∀ v c, host.normalizeNumber v = .ok c → host.normalize c = .ok c ∧ Printed floatText c := by
    intro v c h
    obtain ⟨bits,rfl⟩ := normalizeNumber_ok h
    exact ⟨normalize_tag bits,by constructor <;> rfl⟩
  refine of_parts (P := fun v => ∀ c, host.normalize v = .ok c → host.normalize c = .ok c ∧ (written v = true → Printed floatText c))
    ?_ ?_ ?_ v
  · intro v harr hobj c h
    cases v with
    | arr items => exact absurd rfl (harr items)
    | obj members => exact absurd rfl (hobj members)
    | null => cases h
    | bool b =>
      cases h
      exact ⟨rfl,fun _ => ⟨rfl,rfl⟩⟩
    | str s =>
      cases h
      exact ⟨rfl,fun _ => ⟨rfl,rfl⟩⟩
    | int n => exact ⟨(hnumber _ c h).1,fun _ => (hnumber _ c h).2⟩
    | float t => exact ⟨(hnumber _ c h).1,fun _ => (hnumber _ c h).2⟩
  · intro vs _ c h
    cases h
  · intro es ih c h
    obtain ⟨cs,rfl,hcs⟩ := normalize_obj_ok.mp h
    have heach := mem_of_normal hcs
    constructor
    · refine normalize_obj_ok.mpr ⟨cs,rfl,List.forall₂_same.mpr fun c hc => ⟨rfl,?_⟩⟩
      obtain ⟨e,he,hec⟩ := heach c hc
      exact (ih e he c.2 hec).1
    · intro hwritten
      rw [written,Bool.and_eq_true,writtenMembers_iff,decide_eq_true_eq] at hwritten
      rw [printed_obj,keys_of_normal hcs]
      refine ⟨hwritten.1,fun c hc => ?_⟩
      obtain ⟨e,he,hec⟩ := heach c hc
      exact (ih e he c.2 hec).2 (hwritten.2 e he)

/-- Whether a value is a normal form does not depend on the order of its members. -/
theorem normal_sortKeys (v : Json) : host.normalize v.sortKeys = .ok v.sortKeys ↔ host.normalize v = .ok v := by
  refine of_parts (P := fun v => host.normalize v.sortKeys = .ok v.sortKeys ↔ host.normalize v = .ok v) ?_ ?_ ?_ v
  · intro v harr hobj
    cases v with
    | arr items => exact absurd rfl (harr items)
    | obj members => exact absurd rfl (hobj members)
    | _ => exact Iff.rfl
  · intro vs _
    exact ⟨nofun,nofun⟩
  · intro es ih
    have hmembers : ∀ fs : List (String × Json), host.normalize (.obj fs) = .ok (.obj fs) ↔ ∀ e ∈ fs, host.normalize e.2 = .ok e.2 := by
      intro fs
      rw [normalize_obj_ok]
      constructor
      · rintro ⟨cs,hcs,h⟩
        cases hcs
        exact fun e he => (List.forall₂_same.mp h e he).2
      · exact fun h => ⟨fs,rfl,List.forall₂_same.mpr fun e he => ⟨rfl,h e he⟩⟩
    rw [sortKeys_obj,hmembers,hmembers]
    constructor
    · intro h e he
      exact (ih e he).mp (h (e.1,sortKeys e.2) ((sortedMembers_perm es).mem_iff.mpr (List.mem_map_of_mem he)))
    · intro h f hf
      obtain ⟨e,he,rfl⟩ := List.mem_map.mp ((sortedMembers_perm es).mem_iff.mp hf)
      exact (ih e he).mpr (h e he)

/-- What the wire digest sees of the value at a key. -/
def Host.wireMember (host : Host) (p : Payload) (part k : String) : Option Json :=
  ((p.get part).member? k).bind fun v => (host.normalize v).toOption.map sortKeys

theorem member?_of_normal {es : List (String × Json)} (hkeys : (es.map Prod.fst).Nodup) {c : Json}
    (h : host.normalize (.obj es) = .ok c) (k : String) :
    c.sortKeys.member? k = (Dict.find k es).bind fun v => (host.normalize v).toOption.map sortKeys := by
  obtain ⟨cs,rfl,hcs⟩ := normalize_obj_ok.mp h
  rw [member?_sortKeys (keys_of_normal hcs ▸ hkeys)]
  clear h hkeys
  induction hcs with
  | nil => rfl
  | @cons e c es cs hhead _ ih =>
    rw [Dict.find,Dict.find,hhead.1]
    split
    · rw [Option.bind_some,hhead.2]
      rfl
    · exact ih

/-- Digests of the parts of an observation: both are mappings. -/
def HasParts (p : Payload) : Prop := ∀ part ∈ ["featureProfile","outcome"], ∃ es, p.get part = .obj es ∧ (es.map Prod.fst).Nodup

theorem wireMember_eq {p : Payload} (hp : HasParts p) {c : Json} (hc : host.normalize (Host.learningContent p) = .ok c)
    {part : String} (hpart : part ∈ ["featureProfile","outcome"]) (k : String) :
    host.wireMember p part k = (c.sortKeys.member? part).bind (·.member? k) := by
  obtain ⟨es,hes,hkeys⟩ := hp part hpart
  let parts := [("id",p.get "id"),("featureProfile",p.get "featureProfile"),("outcome",p.get "outcome")]
  have hparts : (parts.map Prod.fst).Nodup := by simp [parts]
  have hmem : (part,Json.obj es) ∈ parts := by
    rw [← hes]
    simp only [List.mem_cons,List.not_mem_nil,or_false] at hpart
    rcases hpart with rfl | rfl <;> simp [parts]
  obtain ⟨cs,-,hcs⟩ := normalize_obj_ok.mp hc
  obtain ⟨f,hnormal⟩ := value_of_normal hcs _ hmem
  rw [member?_of_normal hparts hc part,(Dict.mem_iff_find hparts _ _).mp hmem,Option.bind_some,hnormal]
  change _ = f.sortKeys.member? k
  rw [member?_of_normal hkeys hnormal,Host.wireMember,hes]
  rfl

/-- A normal form fails for a value that has none, or for a number too large. -/
theorem normalize_error (v : Json) : ∀ e, host.normalize v = .error e → e.kind = .value ∨ e.kind = .overflow := by
  have hnumber : ∀ v e, host.normalizeNumber v = .error e → e.kind = .value ∨ e.kind = .overflow := by
    intro v e h
    unfold Host.normalizeNumber check found at h
    split at h
    · dsimp only at h
      split at h
      · cases h
      · split at h
        · cases h
        · cases h
          exact .inr rfl
    · cases h
      exact .inl rfl
  refine of_parts (P := fun v => ∀ e, host.normalize v = .error e → e.kind = .value ∨ e.kind = .overflow) ?_ ?_ ?_ v
  · intro v harr hobj e h
    cases v with
    | arr items => exact absurd rfl (harr items)
    | obj members => exact absurd rfl (hobj members)
    | bool b => cases h
    | str s => cases h
    | null =>
      cases h
      exact .inl rfl
    | int n => exact hnumber _ e h
    | float t => exact hnumber _ e h
  · intro vs _ e h
    cases h
    exact .inl rfl
  · intro es ih e h
    rw [Host.normalize] at h
    have hmembers : ∀ e, host.normalizeMembers es = .error e → e.kind = .value ∨ e.kind = .overflow := by
      clear h
      induction es with
      | nil => exact nofun
      | cons m rest ihrest =>
        intro e h
        rw [Host.normalizeMembers] at h
        cases hvalue : host.normalize m.2 with
        | error e' =>
          rw [hvalue] at h
          cases h
          exact ih m List.mem_cons_self _ hvalue
        | ok c =>
          rw [bind_of_passed hvalue] at h
          cases hrest : host.normalizeMembers rest with
          | error e' =>
            rw [hrest] at h
            cases h
            exact ihrest (fun m' hm' => ih m' (List.mem_cons_of_mem _ hm')) _ hrest
          | ok cs =>
            rw [bind_of_passed hrest] at h
            cases h
    cases hcs : host.normalizeMembers es with
    | error e' =>
      rw [hcs] at h
      cases h
      exact hmembers _ hcs
    | ok cs =>
      rw [bind_of_passed hcs] at h
      cases h

end Normal

/-! ### Errors of the contract -/

/-- Whatever goes wrong is an error that the readers of the store catch. -/
def Caught {α : Type} (c : Check α) : Prop := ∀ e, c = .error e → e.kind = .value ∨ e.kind = .type

section Caught
variable {α β : Type}

theorem caught_ok (a : α) : Caught (.ok a : Check α) := nofun

theorem caught_error {e : AgentError} (h : e.kind = .value ∨ e.kind = .type) : Caught (.error e : Check α) := by
  rintro _ ⟨rfl⟩
  exact h

theorem caught_check (c : Prop) [Decidable c] (message : String) : Caught (check c (valueError message)) := by
  unfold check
  split
  · exact caught_ok _
  · exact caught_error (.inl rfl)

theorem Caught.bind {x : Check α} {f : α → Check β} (hx : Caught x) (hf : ∀ a, Caught (f a)) : Caught (x >>= f) := by
  cases x with
  | ok a => exact hf a
  | error e => exact caught_error (hx e rfl)

theorem Caught.bind_ok {x : Check α} {f : α → Check β} (hx : Caught x) (hf : ∀ a, x = .ok a → Caught (f a)) : Caught (x >>= f) := by
  cases x with
  | ok a => exact hf a rfl
  | error e => exact caught_error (hx e rfl)

theorem Caught.discard {x : Check α} (hx : Caught x) : Caught (discard x) := by
  cases x with
  | ok a => exact caught_ok _
  | error e => exact caught_error (hx e rfl)

theorem caught_forM {f : α → Check Unit} (l : List α) (h : ∀ a, Caught (f a)) : Caught (l.forM f) := by
  induction l with
  | nil => exact caught_ok _
  | cons a rest ih => exact (h a).bind fun _ => ih

theorem caught_optionally (value : Payload) (k : String) {test : Json → Check Unit} (h : ∀ v, Caught (test v)) :
    Caught (Host.optionally value k test) := by
  unfold Host.optionally
  split
  · exact h _
  · exact caught_ok _

theorem caught_textField (test : String → Bool) (v : Json) (name : String) : Caught (textField test v name) := by
  unfold textField
  split
  · split
    · exact caught_ok _
    · exact caught_error (.inl rfl)
  · exact caught_error (.inl rfl)

theorem caught_memberField (choices : List String) (name : String) (v : Json) : Caught (Host.memberField choices name v) := by
  refine Caught.bind ?_ fun known => caught_check _ _
  unfold memberOf
  split
  · exact caught_ok _
  · exact caught_error (.inr rfl)

theorem caught_object (v : Json) (name : String) : Caught (object v name) := by
  unfold object
  split
  · exact caught_ok _
  · exact caught_error (.inl rfl)

end Caught

section Contract
variable {host : Host}

theorem caught_common (value : Payload) (schema : String) (required allowed : List String) (name : String) :
    Caught (host.common value schema required allowed name) :=
  (caught_check _ _).bind fun _ => (caught_check _ _).bind fun _ => (caught_check _ _).bind fun _ =>
    (caught_textField _ _ _).discard.bind fun _ => (caught_textField _ _ _).discard.bind fun _ =>
    (caught_textField _ _ _).discard.bind fun _ => caught_check _ _

theorem caught_learningProfile (profile : Payload) : Caught (Host.learningProfile profile) := by
  refine (caught_forM _ fun c => caught_optionally _ _ fun v => caught_check _ _).bind fun _ =>
    (caught_optionally _ _ fun v => caught_check _ _).bind fun _ => caught_forM _ fun k => caught_optionally _ _ fun v => caught_check _ _

theorem caught_learningOutcome (outcome : Payload) : Caught (host.learningOutcome outcome) := by
  refine (caught_optionally _ _ fun v => caught_memberField _ _ v).bind fun _ =>
    (caught_optionally _ _ fun v => (caught_textField _ _ _).discard).bind fun _ =>
    (caught_forM _ fun k => caught_optionally _ _ fun v => caught_check _ _).bind fun _ =>
    (caught_forM _ fun k => caught_optionally _ _ fun v => caught_check _ _).bind fun _ =>
    (caught_optionally _ _ fun v => caught_check _ _).bind fun _ => caught_optionally _ _ fun v => caught_memberField _ _ v

theorem caught_parseLearningObservation (payload : Payload) : Caught (host.parseLearningObservation payload) := by
  refine (caught_common _ _ _ _ _).bind fun _ => (caught_check _ _).bind fun _ => (caught_object _ _).bind fun profile =>
    (caught_object _ _).bind fun outcome => (caught_check _ _).bind fun _ => (caught_check _ _).bind fun _ =>
    (caught_learningProfile _).bind fun _ => (caught_learningOutcome _).bind fun _ => caught_ok _

theorem parts_of_parsed {p q : Payload} (h : host.parseLearningObservation p = .ok q) :
    (∀ part ∈ ["featureProfile","outcome"], ∃ es, p.get part = .obj es) ∧ p.get "sourceId" = .str "overseer" := by
  unfold Host.parseLearningObservation at h
  obtain ⟨_,hcommon,h⟩ := check_bind h
  obtain ⟨_,-,h⟩ := check_bind h
  obtain ⟨profile,hprofile,h⟩ := check_bind h
  obtain ⟨outcome,houtcome,h⟩ := check_bind h
  have hobject : ∀ {v : Json} {name : String} {o : Payload}, object v name = .ok o → ∃ es, v = .obj es := by
    intro v name o ho
    cases v with
    | obj es => exact ⟨es,rfl⟩
    | _ => cases ho
  constructor
  · intro part hpart
    simp only [List.mem_cons,List.not_mem_nil,or_false] at hpart
    rcases hpart with rfl | rfl
    · exact hobject hprofile
    · exact hobject houtcome
  · unfold Host.common at hcommon
    obtain ⟨_,-,hcommon⟩ := check_bind hcommon
    obtain ⟨_,-,hcommon⟩ := check_bind hcommon
    obtain ⟨_,hsource,-⟩ := check_bind hcommon
    exact check_ok.mp hsource

end Contract

/-! ### Altered rows -/

/-- The stored payload is not one the contract accepts, or a value differs for the wire digest. -/
def Altered (host : Host) (recorded stored : Payload) : Prop := (∃ e, host.parseLearningObservation stored = .error e) ∨
  ∃ part ∈ ["featureProfile","outcome"], ∃ k, host.wireMember stored part k ≠ host.wireMember recorded part k

section Altered
variable {host : Host} {floatText : String → String}

theorem hasParts_of_written {p : Payload} (hp : Payload.written p)
    (hobj : ∀ part ∈ ["featureProfile","outcome"], ∃ es, p.get part = .obj es) : HasParts p := by
  intro part hpart
  obtain ⟨es,hes⟩ := hobj part hpart
  refine ⟨es,hes,?_⟩
  unfold Payload.written at hp
  rw [written,Bool.and_eq_true,writtenMembers_iff] at hp
  have hmem : (part,Json.obj es) ∈ p.entries := by
    refine (p.mem_entries_iff _ _).mpr ?_
    cases hget : p.get? part with
    | none =>
      rw [Payload.get,hget] at hes
      cases hes
    | some v =>
      rw [Payload.get,hget] at hes
      exact congrArg some hes
  have hwritten := hp.2 _ hmem
  rw [written,Bool.and_eq_true,decide_eq_true_eq] at hwritten
  exact hwritten.1

theorem written_learningContent {p : Payload} (h : Printed floatText (.obj p.entries)) : Printed floatText (Host.learningContent p) := by
  obtain ⟨-,hvalues⟩ := printed_obj.mp h
  have hget : ∀ k, Printed floatText (p.get k) := by
    intro k
    cases hk : p.get? k with
    | none =>
      rw [Payload.get,hk]
      exact ⟨rfl,rfl⟩
    | some v =>
      rw [Payload.get,hk]
      exact hvalues (k,v) ((p.mem_entries_iff k v).mpr hk)
  refine printed_obj.mpr ⟨by simp,?_⟩
  simp only [List.mem_cons,List.not_mem_nil,or_false]
  rintro _ (rfl | rfl | rfl) <;> exact hget _

/-- Where an accepted payload has the digest, by any of the wire contracts, that was recorded of another one, the values are
the same for the wire digest. -/
theorem wireMember_of_digest (hinj : Function.Injective host.sha256) {recorded stored q : Payload} {digest : String}
    (hrecorded : host.learningObservationDigest recorded = .ok digest) (hparts : ∀ part ∈ ["featureProfile","outcome"], ∃ es, recorded.get part = .obj es)
    (hprinted : Printed floatText (.obj recorded.entries)) (hparsed : host.parseLearningObservation stored = .ok q)
    (hprinted' : Printed floatText (.obj stored.entries)) {wire : String} (hwire : host.learningObservationDigest stored = .ok wire)
    (hdigest : digest ∈ [wire,host.learningObservationLegacySelectedDigest stored,host.canonicalDigest stored])
    {part : String} (hpart : part ∈ ["featureProfile","outcome"]) (k : String) :
    host.wireMember stored part k = host.wireMember recorded part k := by
  obtain ⟨c,hc,hsha⟩ := check_bind hrecorded
  obtain ⟨c',hc',hsha'⟩ := check_bind hwire
  cases hsha
  cases hsha'
  obtain ⟨hobj,hsource⟩ := parts_of_parsed hparsed
  have hcontent := written_learningContent hprinted
  have hcontent' := written_learningContent hprinted'
  have hnormal : host.normalize c = .ok c ∧ (_ → Printed floatText c) := normal_of_normalize _ c hc
  have hnormal' : host.normalize c' = .ok c' ∧ (_ → Printed floatText c') := normal_of_normalize _ c' hc'
  have hloads := loads_dumps false (printed_sortKeys c (hnormal.2 hcontent.1))
  have hsame : c'.sortKeys = c.sortKeys := by
    simp only [List.mem_cons,List.not_mem_nil,or_false] at hdigest
    rcases hdigest with hdigest | hdigest | hdigest
    · exact (dumps_injective false (printed_sortKeys c (hnormal.2 hcontent.1)) (printed_sortKeys c' (hnormal'.2 hcontent'.1)) (hinj hdigest)).symm
    · -- the selected members are a normal form, so that their own normal form is the same
      have htext : dumps false c.sortKeys = Host.canonical (Host.learningContent stored) := hinj hdigest
      rw [htext,loads_of_reads (reads_canonical _ hcontent')] at hloads
      have hsorted := Option.some.inj hloads
      have hown := (normal_sortKeys _).mp (hsorted ▸ (normal_sortKeys c).mpr hnormal.1)
      rw [hc'] at hown
      cases hown
      exact hsorted
    · -- the whole payload has a source, which the normal form has not
      have htext : dumps false c.sortKeys = Host.canonical (.obj (stored.erase "digest").entries) := hinj hdigest
      have herased : Printed floatText (.obj (stored.erase "digest").entries) :=
        printed_obj.mpr ⟨(stored.erase "digest").nodup,fun e he => (printed_obj.mp hprinted').2 e (List.mem_filter.mp he).1⟩
      rw [htext,loads_of_reads (reads_canonical _ herased)] at hloads
      have hmember := congrArg (member? · "sourceId") (Option.some.inj hloads)
      have hfind : Dict.find "sourceId" (stored.erase "digest").entries = some (.str "overseer") := by
        change (stored.erase "digest").get? "sourceId" = _
        rw [Dict.get?_erase,if_neg (by decide)]
        cases hget : stored.get? "sourceId" with
        | none =>
          rw [Payload.get,hget] at hsource
          cases hsource
        | some v =>
          rw [Payload.get,hget] at hsource
          exact congrArg some hsource
      have hnone : c.sortKeys.member? "sourceId" = none := by
        rw [Host.learningContent] at hc
        rw [member?_of_normal (by simp) hc]
        rfl
      rw [hnone] at hmember
      rw [member?_sortKeys (stored.erase "digest").nodup,hfind] at hmember
      cases hmember
  rw [wireMember_eq (hasParts_of_written hprinted'.1 hobj) hc' hpart,wireMember_eq (hasParts_of_written hprinted.1 hparts) hc hpart,hsame]

/-- Whatever is wrong with an altered row, a read catches it: no number of the row is too large for a double. -/
theorem verifyLearning_altered (hinj : Function.Injective host.sha256) {recorded : Payload} {row : LearningRow}
    (hrecorded : host.learningObservationDigest recorded = .ok row.digest)
    (hparts : ∀ part ∈ ["featureProfile","outcome"], ∃ es, recorded.get part = .obj es)
    (hprinted : Printed floatText (.obj recorded.entries)) (hprinted' : Printed floatText (.obj row.payload.entries))
    (hfits : ∀ e, host.learningObservationDigest row.payload = .error e → e.kind ≠ .overflow) (h : Altered host recorded row.payload)
    (observationId : String) : ∃ e, host.verifyLearning observationId row = .error e ∧ (e.kind = .value ∨ e.kind = .type) := by
  have hcaught : Caught (host.verifyLearning observationId row) := by
    refine (caught_parseLearningObservation _).bind_ok fun q hq => (caught_check _ _).bind fun _ => Caught.bind ?_ fun wire => caught_check _ _
    intro e he
    rw [parseLearningObservation_eq hq] at he
    have hkind : e.kind = .value ∨ e.kind = .overflow := by
      refine normalize_error (Host.learningContent row.payload) e (?_ : host.normalize _ = _)
      cases hc : host.normalize (Host.learningContent row.payload) with
      | error e' =>
        rw [Host.learningObservationDigest,hc] at he
        cases he
        rfl
      | ok c =>
        rw [Host.learningObservationDigest,hc] at he
        cases he
    exact .inl (hkind.resolve_right (hfits e he))
  cases hverify : host.verifyLearning observationId row with
  | error e => exact ⟨e,rfl,hcaught e hverify⟩
  | ok v =>
    exfalso
    obtain ⟨q,hparsed,hverify⟩ := check_bind hverify
    obtain ⟨_,-,hverify⟩ := check_bind hverify
    obtain ⟨wire,hwire,hverify⟩ := check_bind hverify
    have heq := parseLearningObservation_eq hparsed
    subst heq
    rcases h with ⟨e,he⟩ | ⟨part,hpart,k,hne⟩
    · rw [hparsed] at he
      cases he
    · exact hne (wireMember_of_digest hinj hrecorded hparts hprinted hparsed hprinted' hwire (check_ok.mp hverify) hpart k)

end Altered
end Overseer.Psychlo
