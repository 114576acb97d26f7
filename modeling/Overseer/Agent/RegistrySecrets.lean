import Overseer.Agent.Registry

/-! # No secret in the configuration

What `_reject_inline_secrets` accepts, and that merging what a machine overrides into the committed
configuration brings no secret into it: the merged configuration is not looked through again.
-/
namespace Overseer.Agent.Registry
open Overseer.Library Json

/-! ### What is accepted -/

def IsReference (v : Json) : Prop := ∃ id, v = .str id ∧ isLocator id = true

/-- The entry is written somewhere in the value, under no key that looks like a secret's. -/
inductive Written : Json → String → Json → Prop
  | member {members : List (String × Json)} {k : String} {v : Json} : (k,v) ∈ members → Written (.obj members) k v
  | under {members : List (String × Json)} {k k' : String} {v v' : Json} : (k',v') ∈ members → isSecretKey k' = false →
      Written v' k v → Written (.obj members) k v
  | item {items : List Json} {k : String} {v v' : Json} : v' ∈ items → Written v' k v → Written (.arr items) k v

/-- What a key that looks like a secret's may hold: references to secrets, and names of references. -/
inductive Referenced (k : String) (v : Json) : Prop
  | references (refs : List (String × Json)) : k = "credential_references" → v = .obj refs → (∀ e ∈ refs, IsReference e.2) → Referenced k v
  | names (names : List Json) : k = "required_secret_references" → v = .arr names → (∀ name ∈ names, ∃ s, name = .str s ∧ s ≠ "") →
      Referenced k v
  | reference : k ∉ ["credential_references","required_secret_references"] → isSecretRef k = true → IsReference v → Referenced k v

/-- Whatever is written under a key that looks like a secret's is as `R` says. -/
def Guarded (R : String → Json → Prop) (v : Json) : Prop := ∀ k w, Written v k w → isSecretKey k = true → R k w

/-- An entry of a guarded mapping. -/
def GuardedEntry (R : String → Json → Prop) (k : String) (v : Json) : Prop :=
  (isSecretKey k = true → R k v) ∧ (isSecretKey k = false → Guarded R v)

section Guarded
variable {R : String → Json → Prop}

theorem guarded_obj (members : List (String × Json)) : Guarded R (.obj members) ↔ ∀ e ∈ members, GuardedEntry R e.1 e.2 := by
  constructor
  · intro h e he
    refine ⟨fun hkey => h e.1 e.2 (.member he) hkey,fun hkey k w hw => ?_⟩
    exact h k w (.under he hkey hw)
  · intro h k w hw hkey
    cases hw with
    | member hmem => exact (h _ hmem).1 hkey
    | under hmem hplain hw => exact (h _ hmem).2 hplain k w hw hkey

theorem guarded_arr (items : List Json) : Guarded R (.arr items) ↔ ∀ v ∈ items, Guarded R v := by
  constructor
  · intro h v hv k w hw
    exact h k w (.item hv hw)
  · intro h k w hw
    cases hw with
    | item hmem hw => exact h _ hmem k w hw

theorem guarded_str (s : String) : Guarded R (.str s) := by
  intro k w hw
  cases hw

theorem Guarded.mono {R' : String → Json → Prop} (hR : ∀ k w, R k w → R' k w) {v : Json} (h : Guarded R v) : Guarded R' v :=
  fun k w hw hkey => hR k w (h k w hw hkey)

end Guarded

theorem secretReference_iff (v : Json) : (∃ r, secretReference v = .ok r) ↔ IsReference v := by
  constructor
  · rintro ⟨r,h⟩
    cases v with
    | str id =>
      unfold secretReference at h
      dsimp only at h
      split at h
      · next hid => exact ⟨id,rfl,hid⟩
      · cases h
    | _ => cases h
  · rintro ⟨id,rfl,hid⟩
    exact ⟨⟨id,hid⟩,dif_pos hid⟩

theorem requireMapping_ok {v : Json} {label : String} {members : Mapping} (h : requireMapping v label = .ok members) : v = .obj members := by
  cases v <;> cases h
  rfl

theorem requireList_ok {v : Json} {label : String} {items : List Json} (h : requireList v label = .ok items) : v = .arr items := by
  cases v <;> cases h
  rfl

theorem isSecretKey_references : isSecretKey "credential_references" = true := by decide +kernel
theorem isSecretKey_names : isSecretKey "required_secret_references" = true := by decide +kernel

/-! ### The check -/

/-- What is done with one entry before the rest of its mapping. -/
def rejectEntry (key : String) (value : Json) : Except AgentError Unit :=
  if key = "credential_references" then do
    (← requireMapping value key).forM fun reference => do
      let _ ← secretReference reference.2
  else if key = "required_secret_references" then do
    (← requireList value key).forM fun name =>
      ensure (name.asStr?.any (· ≠ "") = true) (valueError "required secret references must be non-empty names")
  else if isSecretKey key then do
    ensure (isSecretRef key = true) locatorError
    let _ ← secretReference value
  else rejectInlineSecrets value

theorem rejectMembers_cons (key : String) (value : Json) (rest : List (String × Json)) :
    rejectMembers ((key,value) :: rest) = (rejectEntry key value >>= fun _ => rejectMembers rest) := by
  unfold rejectEntry
  rw [rejectMembers]
  split
  · simp only [bind_assoc]
  split
  · simp only [bind_assoc]
  split
  · simp only [bind_assoc,pure_bind]
  · rfl

theorem reference_ok_iff (v : Json) : (secretReference v >>= fun _ => (.ok () : Except AgentError Unit)) = .ok () ↔ IsReference v := by
  rw [← secretReference_iff]
  constructor
  · intro h
    obtain ⟨r,hr,-⟩ := except_bind_ok h
    exact ⟨r,hr⟩
  · rintro ⟨r,hr⟩
    rw [hr]
    rfl

theorem name_iff (v : Json) : v.asStr?.any (· ≠ "") = true ↔ ∃ s, v = .str s ∧ s ≠ "" := by
  cases v <;> simp [asStr?]

/-- One entry passes exactly when it is safe, once that is known of the value. -/
theorem rejectEntry_iff {key : String} {value : Json} (hvalue : rejectInlineSecrets value = .ok () ↔ Guarded Referenced value) :
    rejectEntry key value = .ok () ↔ GuardedEntry Referenced key value := by
  unfold rejectEntry
  split
  · next hkey =>
    subst hkey
    constructor
    · intro h
      obtain ⟨refs,hrefs,h⟩ := except_bind_ok h
      refine ⟨fun _ => .references refs rfl (requireMapping_ok hrefs) fun e he => (reference_ok_iff e.2).mp (forM_ok_iff.mp h e he),fun hplain => ?_⟩
      rw [isSecretKey_references] at hplain
      cases hplain
    · rintro ⟨h,-⟩
      cases h isSecretKey_references with
      | references refs _ hv hrefs =>
        subst hv
        exact forM_ok_iff.mpr fun e he => (reference_ok_iff e.2).mpr (hrefs e he)
      | names _ hname => exact absurd hname (by decide)
      | reference hother => exact absurd List.mem_cons_self hother
  split
  · next hkey =>
    subst hkey
    constructor
    · intro h
      obtain ⟨names,hnames,h⟩ := except_bind_ok h
      refine ⟨fun _ => .names names rfl (requireList_ok hnames) fun name hname => (name_iff name).mp (ensure_ok.mp (forM_ok_iff.mp h name hname)),fun hplain => ?_⟩
      rw [isSecretKey_names] at hplain
      cases hplain
    · rintro ⟨h,-⟩
      cases h isSecretKey_names with
      | references _ hname => exact absurd hname (by decide)
      | names names _ hv hnames =>
        subst hv
        exact forM_ok_iff.mpr fun name hname => ensure_ok.mpr ((name_iff name).mpr (hnames name hname))
      | reference hother => exact absurd (List.mem_cons_of_mem _ List.mem_cons_self) hother
  next hreferences hnames =>
  have hother : key ∉ ["credential_references","required_secret_references"] := by
    intro hmem
    rcases List.mem_cons.mp hmem with h | hmem
    · exact hreferences h
    · exact hnames (List.mem_singleton.mp hmem)
  split
  · next hkey =>
    constructor
    · intro h
      obtain ⟨_,href,h⟩ := except_bind_ok h
      refine ⟨fun _ => .reference hother (ensure_ok.mp href) ((reference_ok_iff value).mp h),fun hplain => ?_⟩
      rw [hkey] at hplain
      cases hplain
    · rintro ⟨h,-⟩
      cases h hkey with
      | references _ hname => exact absurd hname hreferences
      | names _ hname => exact absurd hname hnames
      | reference _ href hvalue =>
        have hpass : ensure (isSecretRef key = true) locatorError = .ok () := ensure_ok.mpr href
        rw [hpass]
        exact (reference_ok_iff value).mpr hvalue
  · next hkey =>
    have hplain : isSecretKey key = false := by simpa using hkey
    rw [hvalue]
    refine ⟨fun h => ⟨fun hsecret => absurd hsecret hkey,fun _ => h⟩,fun h => h.2 hplain⟩

mutual
theorem rejectInlineSecrets_ok_iff : ∀ v : Json, rejectInlineSecrets v = .ok () ↔ Guarded Referenced v
  | .obj members => by
    rw [rejectInlineSecrets,guarded_obj]
    exact rejectMembers_ok_iff members
  | .arr items => by
    rw [rejectInlineSecrets,guarded_arr]
    exact rejectItems_ok_iff items
  | .null | .bool _ | .int _ | .float _ | .str _ => by
    rw [rejectInlineSecrets]
    · refine ⟨fun _ k w hw => ?_,fun _ => rfl⟩
      cases hw
    · rintro _ h
      cases h
    · rintro _ h
      cases h
theorem rejectItems_ok_iff : ∀ items : List Json, rejectItems items = .ok () ↔ ∀ v ∈ items, Guarded Referenced v
  | [] => ⟨fun _ _ h => (by cases h),fun _ => (by rw [rejectItems])⟩
  | v :: rest => by
    rw [rejectItems,List.forall_mem_cons,← rejectInlineSecrets_ok_iff v,← rejectItems_ok_iff rest]
    constructor
    · intro h
      obtain ⟨_,hv,hrest⟩ := except_bind_ok h
      exact ⟨hv,hrest⟩
    · rintro ⟨hv,hrest⟩
      rw [hv]
      exact hrest
theorem rejectMembers_ok_iff : ∀ members : List (String × Json), rejectMembers members = .ok () ↔ ∀ e ∈ members, GuardedEntry Referenced e.1 e.2
  | [] => ⟨fun _ _ h => (by cases h),fun _ => (by rw [rejectMembers])⟩
  | (k,v) :: rest => by
    rw [rejectMembers_cons,List.forall_mem_cons,← rejectEntry_iff (rejectInlineSecrets_ok_iff v),← rejectMembers_ok_iff rest]
    constructor
    · intro h
      obtain ⟨_,hv,hrest⟩ := except_bind_ok h
      exact ⟨hv,hrest⟩
    · rintro ⟨hv,hrest⟩
      rw [hv]
      exact hrest
end

/-- A configuration is accepted exactly when every key that looks like a secret's, at whatever depth it is written,
holds references to secrets only. -/
theorem inline_secrets_rejected_iff (v : Json) :
    rejectInlineSecrets v = .ok () ↔ ∀ k w, Written v k w → isSecretKey k = true → Referenced k w := rejectInlineSecrets_ok_iff v

/-! ### Merging -/

/-- What may stand under such a key once an override is merged in. The id of a record may itself look like
the key of a secret; its override then holds references only. -/
inductive Harmless (k : String) (v : Json) : Prop
  | reference : IsReference v → Harmless k v
  | references (refs : List (String × Json)) : v = .obj refs → (∀ e ∈ refs, IsReference e.2) → Harmless k v
  | names (names : List Json) : k = "required_secret_references" → v = .arr names → (∀ name ∈ names, ∃ s, name = .str s ∧ s ≠ "") →
      Harmless k v

theorem Referenced.harmless {k : String} {v : Json} (h : Referenced k v) : Harmless k v := by
  cases h with
  | references refs _ hv hrefs => exact .references refs hv hrefs
  | names names hk hv hnames => exact .names names hk hv hnames
  | reference _ _ hv => exact .reference hv

theorem Harmless.of_obj {k : String} {refs : List (String × Json)} (h : Harmless k (.obj refs)) : ∀ e ∈ refs, IsReference e.2 := by
  cases h with
  | reference hv =>
    obtain ⟨id,hid,-⟩ := hv
    cases hid
  | references refs' hv hrefs =>
    cases hv
    exact hrefs
  | names _ _ hv _ => cases hv

section Merging
variable {floatIsInt : String → ℤ → Bool} {base merged override m : Mapping}

theorem mergeMembers_forall {P : String → Json → Prop} (h : mergeMembers floatIsInt base merged override = .ok m)
    (hmerged : ∀ e ∈ merged, P e.1 e.2)
    (hvalue : ∀ e ∈ override, ∀ old v, (∀ w ∈ old, P e.1 w) → mergeValue floatIsInt old e.2 = .ok v → P e.1 v) : ∀ e ∈ m, P e.1 e.2 := by
  induction override generalizing merged with
  | nil =>
    rw [mergeMembers] at h
    cases h
    exact hmerged
  | cons e rest ih =>
    obtain ⟨key,value⟩ := e
    rw [mergeMembers] at h
    obtain ⟨_,-,h⟩ := except_bind_ok h
    obtain ⟨v,hv,hrest⟩ := except_bind_ok h
    refine ih hrest (fun d hd => ?_) fun d hd => hvalue d (List.mem_cons_of_mem _ hd)
    rcases Dict.mem_assign hd with rfl | hd
    · exact hvalue (key,value) List.mem_cons_self _ v (fun w hw => hmerged (key,w) (Dict.mem_of_find hw)) hv
    · exact hmerged d hd

theorem mergeValue_reference {old : Option Json} {value v : Json} (h : mergeValue floatIsInt old value = .ok v) (hvalue : IsReference value) :
    IsReference v := by
  obtain ⟨id,rfl,hid⟩ := hvalue
  rw [mergeValue] at h
  · cases h
    exact ⟨id,rfl,hid⟩
  · rintro _ h
    cases h

mutual
/-- An override that is guarded leaves a guarded value behind. -/
theorem mergeValue_guarded : ∀ (value : Json) (k : String) (old : Option Json) (v : Json), mergeValue floatIsInt old value = .ok v →
    (∀ w ∈ old, GuardedEntry Harmless k w) → GuardedEntry Harmless k value → GuardedEntry Harmless k v
  | .obj override,k,old,v,h,hold,hvalue => by
    unfold mergeValue at h
    split at h
    · next base =>
      obtain ⟨m,hm,h⟩ := except_bind_ok h
      cases h
      have hbase := hold _ rfl
      refine ⟨fun hkey => ?_,fun hkey => ?_⟩
      · have hrefs := (hvalue.1 hkey).of_obj
        refine .references m rfl ?_
        exact mergeMembers_forall (P := fun _ w => IsReference w) hm (hbase.1 hkey).of_obj fun e he old w _ hw =>
          mergeValue_reference hw (hrefs e he)
      · have hoverride := (guarded_obj override).mp (hvalue.2 hkey)
        refine (guarded_obj m).mpr ?_
        exact mergeMembers_forall hm ((guarded_obj base).mp (hbase.2 hkey)) fun e he old w hw hmerge =>
          mergeEntries_guarded override e he old w hmerge hw (hoverride e he)
    · cases h
      exact hvalue
  | .null,_,_,_,h,_,hvalue | .bool _,_,_,_,h,_,hvalue | .int _,_,_,_,h,_,hvalue | .float _,_,_,_,h,_,hvalue | .str _,_,_,_,h,_,hvalue
  | .arr _,_,_,_,h,_,hvalue => by
    rw [mergeValue] at h
    · cases h
      exact hvalue
    · rintro _ h
      cases h
theorem mergeEntries_guarded : ∀ (override : List (String × Json)), ∀ e ∈ override, ∀ (old : Option Json) (v : Json),
    mergeValue floatIsInt old e.2 = .ok v → (∀ w ∈ old, GuardedEntry Harmless e.1 w) → GuardedEntry Harmless e.1 e.2 → GuardedEntry Harmless e.1 v
  | [],_,he,_,_,_,_,_ => by cases he
  | (k,value) :: rest,e,he,old,v,h,hold,hvalue => by
    rcases List.mem_cons.mp he with heq | he
    · subst heq
      exact mergeValue_guarded value k old v h hold hvalue
    · exact mergeEntries_guarded rest e he old v h hold hvalue
end

theorem mergeMapping_guarded (h : mergeMapping floatIsInt base override = .ok m) (hbase : ∀ e ∈ base, GuardedEntry Harmless e.1 e.2)
    (hoverride : ∀ e ∈ override, GuardedEntry Harmless e.1 e.2) : ∀ e ∈ m, GuardedEntry Harmless e.1 e.2 :=
  mergeMembers_forall h hbase fun e he old v hold hv => mergeEntries_guarded override e he old v hv hold (hoverride e he)

theorem GuardedEntry.obj {k : String} (h : GuardedEntry Harmless k (.obj m)) : ∀ e ∈ m, GuardedEntry Harmless e.1 e.2 := by
  intro e he
  cases hkey : isSecretKey k with
  | false => exact (guarded_obj m).mp (h.2 hkey) e he
  | true =>
    have href := (h.1 hkey).of_obj e he
    refine ⟨fun _ => .reference href,fun _ => ?_⟩
    obtain ⟨id,hid,-⟩ := href
    rw [hid]
    exact guarded_str id

/-! ### The configuration of a machine -/

theorem recordsById_mem {value : Json} {label : String} {records : Dict Mapping} (h : recordsById value label = .ok records) :
    ∃ items, value = .arr items ∧ ∀ e ∈ records.entries, Json.obj e.2 ∈ items := by
  obtain ⟨items,hitems,h⟩ := except_bind_ok h
  refine ⟨items,requireList_ok hitems,foldlM_ok_invariant (I := fun d => ∀ e ∈ d.entries, Json.obj e.2 ∈ items) h ?_ ?_⟩
  · intro e he
    cases he
  · intro d record d' hrecord hd hstep e he
    obtain ⟨mapping,hmapping,hstep⟩ := except_bind_ok hstep
    rw [requireMapping_ok hmapping] at hrecord
    split at hstep
    · next id _ =>
      obtain ⟨_,-,hstep⟩ := except_bind_ok hstep
      obtain ⟨_,-,hstep⟩ := except_bind_ok hstep
      cases hstep
      rcases Dict.mem_assign he with rfl | he
      · exact hrecord
      · exact hd e he
    · cases hstep

variable {committed machine : Mapping}

/-- The merged records of a section. -/
theorem mergeRecords_guarded {overrides : List (String × Json)} {records records' : Dict Mapping} {part : String}
    (h : overrides.foldlM (fun records e => do
      match records.get? e.1 with
      | none => throw (valueError ("local override references unknown " ++ part ++ " id: " ++ e.1))
      | some record =>
        let override ← requireMapping e.2 ("local " ++ part ++ " override")
        validateLocalOverrideFields part override
        return records.set e.1 (← mergeMapping floatIsInt record override)) records = .ok records')
    (hoverrides : ∀ e ∈ overrides, GuardedEntry Harmless e.1 e.2) (hrecords : ∀ e ∈ records.entries, Guarded Harmless (.obj e.2)) :
    ∀ e ∈ records'.entries, Guarded Harmless (.obj e.2) := by
  refine foldlM_ok_invariant (I := fun d : Dict Mapping => ∀ e ∈ d.entries, Guarded Harmless (.obj e.2)) h hrecords ?_
  intro d e d' he hd hstep
  split at hstep
  · cases hstep
  · next record hrecord =>
    obtain ⟨override,hoverride,hstep⟩ := except_bind_ok hstep
    obtain ⟨_,-,hstep⟩ := except_bind_ok hstep
    obtain ⟨m,hm,hstep⟩ := except_bind_ok hstep
    cases hstep
    intro e' he'
    rcases Dict.mem_assign he' with rfl | he'
    · have hentry := hoverrides e he
      rw [requireMapping_ok hoverride] at hentry
      refine (guarded_obj m).mpr (mergeMapping_guarded hm ?_ hentry.obj)
      exact (guarded_obj record).mp (hd (e.1,record) ((Dict.mem_entries_iff d e.1 record).mpr hrecord))
    · exact hd e' he'

theorem mergeSection_guarded {part : String} (h : mergeSection floatIsInt committed machine part merged = .ok m)
    (hpart : isSecretKey part = false) (hcommitted : Guarded Harmless (.obj committed)) (hmachine : Guarded Harmless (.obj machine))
    (hmerged : ∀ e ∈ merged, GuardedEntry Harmless e.1 e.2) : ∀ e ∈ m, GuardedEntry Harmless e.1 e.2 := by
  unfold mergeSection at h
  split at h
  · cases h
    exact hmerged
  · next overrides hfind =>
    obtain ⟨entries,hentries,h⟩ := except_bind_ok h
    obtain ⟨records,hrecords,h⟩ := except_bind_ok h
    obtain ⟨records',hmerge,h⟩ := except_bind_ok h
    cases h
    rw [requireMapping_ok hentries] at hfind
    have hoverrides := ((guarded_obj machine).mp hmachine _ (Dict.mem_of_find hfind)).obj
    obtain ⟨items,hitems,hmem⟩ := recordsById_mem hrecords
    have hsection : Guarded Harmless (.arr items) := by
      rw [← hitems]
      unfold getList
      cases hcommittedPart : Dict.find part committed with
      | none => exact (guarded_arr []).mpr fun v hv => (by cases hv)
      | some v => exact ((guarded_obj committed).mp hcommitted _ (Dict.mem_of_find hcommittedPart)).2 hpart
    have hguarded := mergeRecords_guarded hmerge hoverrides fun e he => (guarded_arr items).mp hsection _ (hmem e he)
    intro e he
    rcases Dict.mem_assign he with rfl | he
    · refine ⟨fun hsecret => absurd (hpart.symm.trans hsecret) Bool.false_ne_true,fun _ => (guarded_arr _).mpr fun v hv => ?_⟩
      obtain ⟨members,hmembers,rfl⟩ := List.mem_map.mp hv
      obtain ⟨d,hd,rfl⟩ := List.mem_map.mp hmembers
      exact hguarded d hd
    · exact hmerged e he

end Merging

section Configuration
variable {floatIsInt : String → ℤ → Bool} {committed m : Mapping} {machine : Option Mapping}

theorem mergeLocalOverrides_guarded (h : mergeLocalOverrides floatIsInt committed machine = .ok m)
    (hcommitted : Guarded Harmless (.obj committed)) (hmachine : ∀ overrides ∈ machine, Guarded Harmless (.obj overrides)) :
    Guarded Harmless (.obj m) := by
  cases machine with
  | none =>
    cases h
    exact hcommitted
  | some overrides =>
    have hoverrides := hmachine overrides rfl
    obtain ⟨_,-,h⟩ := except_bind_ok h
    obtain ⟨m₁,hproviders,h⟩ := except_bind_ok h
    obtain ⟨m₂,hinstances,h⟩ := except_bind_ok h
    obtain ⟨_,-,h⟩ := except_bind_ok h
    cases h
    have h₁ := mergeSection_guarded hproviders (by decide +kernel) hcommitted hoverrides ((guarded_obj committed).mp hcommitted)
    exact (guarded_obj m).mpr (mergeSection_guarded hinstances (by decide +kernel) hcommitted hoverrides h₁)

/-- Whatever a machine overrides, the configuration that the records are built from holds nothing but
references to secrets, at any depth, under a key that looks like the key of a secret. -/
theorem configuration_keeps_no_secret (h : configure floatIsInt committed machine = .ok m) :
    ∀ k w, Written (.obj m) k w → isSecretKey k = true → Harmless k w := by
  obtain ⟨_,-,h⟩ := except_bind_ok h
  obtain ⟨_,-,h⟩ := except_bind_ok h
  obtain ⟨_,hcommitted,h⟩ := except_bind_ok h
  obtain ⟨_,hmachine,h⟩ := except_bind_ok h
  refine mergeLocalOverrides_guarded h (((rejectInlineSecrets_ok_iff _).mp hcommitted).mono fun _ _ hk => hk.harmless) ?_
  intro overrides hoverrides
  have hchecked := forM_ok_iff.mp hmachine overrides (Option.mem_toList.mpr hoverrides)
  obtain ⟨_,-,hchecked⟩ := except_bind_ok hchecked
  exact ((rejectInlineSecrets_ok_iff _).mp hchecked).mono fun _ _ hk => hk.harmless

end Configuration

/-- A committed instance and the machine that names its credentials. -/
def committedInstance : Mapping :=
  [("instances",.arr [.obj [("id",.str "main"),("credential_references",.obj [("api_key",.str "secret://shared/key")])]])]
def machineInstance : Mapping :=
  [("instances",.obj [("main",.obj [("workspace",.str "/work"),("credential_references",.obj [("api_key",.str "secret://local/key")])])])]

/-- The instance on that machine. -/
def configuredInstance : List (String × Json) :=
  [("id",.str "main"),("credential_references",.obj [("api_key",.str "secret://local/key")]),("workspace",.str "/work")]

theorem configuration_keeps_no_secret_machine :
    configure (fun _ _ => false) committedInstance (some machineInstance) = .ok [("instances",.arr [.obj configuredInstance])] ∧
    Harmless "credential_references" (.obj [("api_key",.str "secret://local/key")]) := by
  have hrun : configure (fun _ _ => false) committedInstance (some machineInstance) = .ok [("instances",.arr [.obj configuredInstance])] := by
    rfl
  refine ⟨hrun,configuration_keeps_no_secret hrun _ _ ?_ isSecretKey_references⟩
  refine .under List.mem_cons_self (by decide +kernel) (.item List.mem_cons_self ?_)
  exact .member (List.mem_cons_of_mem _ List.mem_cons_self)

end Overseer.Agent.Registry
