import Overseer.Psychlo.Telemetry
import Overseer.Library.JsonReading

/-! # The canonical text of a payload

`_canonical` sorts the keys of every mapping. A text that it prints is that of one value
only, up to the order of keys; so is a digest, as far as the digests of texts are their own.
-/
namespace Overseer.Psychlo
open Overseer.Library Overseer.Library.Json Overseer.Agent

/-- The text of one member, its value printed. -/
def memberText (e : String × String) : List Char := quoteChars true e.1 ++ ':' :: e.2.toList

theorem canonical_arr (items : List Json) : (Host.canonical (.arr items)).toList =
    '[' :: ([','].intercalate (items.map fun v => (Host.canonical v).toList) ++ [']']) := by
  have hitems : ∀ vs : List Json, Host.canonicalItems vs = vs.map Host.canonical := by
    intro vs
    induction vs with
    | nil => rfl
    | cons v rest ih => rw [Host.canonicalItems,ih,List.map_cons]
  rw [Host.canonical,hitems,String.toList_append,String.toList_append,String.toList_intercalate,List.map_map]
  rfl

theorem canonical_obj (members : List (String × Json)) : (Host.canonical (.obj members)).toList =
    '\x7b' :: ([','].intercalate (((Host.canonicalMembers members).insertionSort fun a b => textLe a.1 b.1).map memberText) ++
      ['\x7d']) := by
  have htext : ∀ e : String × String, (quote true e.1 ++ ":" ++ e.2).toList = memberText e := by
    intro e
    rw [String.toList_append,String.toList_append,quote,String.toList_ofList,List.append_assoc]
    rfl
  rw [Host.canonical,String.toList_append,String.toList_append,String.toList_intercalate,List.map_map]
  have hmap : (String.toList ∘ fun e : String × String => quote true e.1 ++ ":" ++ e.2) = memberText := by
    funext e
    exact htext e
  rw [hmap]
  rfl

theorem canonical_str (s : String) : (Host.canonical (.str s)).toList = quoteChars false s := by
  rw [Host.canonical]
  · exact String.toList_ofList
  · intro _ h
    cases h
  · intro _ h
    cases h

theorem canonical_word {v : Json} (h : isWord v = true) : (Host.canonical v).toList = dumpsChars {} false v := by
  have hscalar : Host.canonical v = dumps false v := by
    cases v <;> first | rfl | cases h
  rw [hscalar]
  exact String.toList_ofList

theorem word_or_str {v : Json} (hw : written v = true) (harr : ∀ items, v ≠ .arr items) (hobj : ∀ members, v ≠ .obj members) :
    isWord v = true ∨ ∃ s, v = .str s := by
  cases v with
  | null => exact .inl rfl
  | bool b => exact .inl rfl
  | int n => exact .inl rfl
  | float t =>
    rw [written] at hw
    exact .inl hw
  | str s => exact .inr ⟨s,rfl⟩
  | arr items => exact absurd rfl (harr items)
  | obj members => exact absurd rfl (hobj members)

/-- How a text begins: the first character tells the shape of the value. -/
inductive Begins : Json → Char → Prop where
  | word {v : Json} {c : Char} (hv : isWord v = true) (hc : isPlain c = true) : Begins v c
  | str (s : String) : Begins (.str s) '"'
  | arr (items : List Json) : Begins (.arr items) '['
  | obj (members : List (String × Json)) : Begins (.obj members) '\x7b'

theorem canonical_begins {v : Json} (hv : written v = true) : ∃ c z, (Host.canonical v).toList = c :: z ∧ Begins v c := by
  have hshape : (∃ items, v = .arr items) ∨ (∃ members, v = .obj members) ∨ isWord v = true ∨ ∃ s, v = .str s := by
    cases v with
    | arr items => exact .inl ⟨items,rfl⟩
    | obj members => exact .inr (.inl ⟨members,rfl⟩)
    | _ => exact .inr (.inr (word_or_str hv (fun _ h => by cases h) fun _ h => by cases h))
  rcases hshape with ⟨items,rfl⟩ | ⟨members,rfl⟩ | hword | ⟨s,rfl⟩
  · exact ⟨_,_,canonical_arr items,.arr items⟩
  · exact ⟨_,_,canonical_obj members,.obj members⟩
  · cases htext : (Host.canonical v).toList with
    | nil => exact absurd ((canonical_word hword).symm.trans htext) (word_ne_nil _ _ hword)
    | cons c z =>
      have hplain := word_plain {} false hword
      rw [← canonical_word hword,htext,List.all_cons,Bool.and_eq_true] at hplain
      exact ⟨c,z,rfl,.word hword hplain.1⟩
  · exact ⟨_,_,canonical_str s,.str s⟩

theorem Begins.not_closing {v : Json} {c : Char} (h : Begins v c) : isClosing c = false := by
  cases h with
  | word _ hc =>
    cases hclosing : isClosing c with
    | false => rfl
    | true =>
      rw [isPlain_of_closing hclosing] at hc
      cases hc
  | str s => rfl
  | arr items => rfl
  | obj members => rfl

theorem Begins.same {v w : Json} {c : Char} (h : Begins v c) (h' : Begins w c) : (isWord v = true ∧ isWord w = true) ∨
    (∃ s t, v = .str s ∧ w = .str t) ∨ (∃ vs ws, v = .arr vs ∧ w = .arr ws) ∨ ∃ es fs, v = .obj es ∧ w = .obj fs := by
  cases h with
  | word hv hc =>
    cases h' with
    | word hw _ => exact .inl ⟨hv,hw⟩
    | str s => cases hc
    | arr items => cases hc
    | obj members => cases hc
  | str s =>
    cases h' with
    | word hw hc => cases hc
    | str t => exact .inr (.inl ⟨s,t,rfl,rfl⟩)
  | arr items =>
    cases h' with
    | word hw hc => cases hc
    | arr items' => exact .inr (.inr (.inl ⟨items,items',rfl,rfl⟩))
  | obj members =>
    cases h' with
    | word hw hc => cases hc
    | obj members' => exact .inr (.inr (.inr ⟨members,members',rfl,rfl⟩))

/-- The text of the value, in whatever it stands, is that of no other. -/
def OneText (v : Json) : Prop := written v = true → ∀ w x y, written w = true → Ends x → Ends y →
  (Host.canonical v).toList ++ x = (Host.canonical w).toList ++ y → alike v w = true ∧ x = y

theorem alikeItems_of_forall₂ {vs ws : List Json} (h : List.Forall₂ (fun v w => alike v w = true) vs ws) : alikeItems vs ws = true := by
  induction h with
  | nil => rfl
  | cons hvw _ ih => rw [alikeItems,hvw,ih,Bool.and_true]

theorem oneText_arr {vs ws : List Json} {x y : List Char} (ih : ∀ v ∈ vs, OneText v) (hvs : ∀ v ∈ vs, written v = true)
    (hws : ∀ w ∈ ws, written w = true)
    (h : (Host.canonical (.arr vs)).toList ++ x = (Host.canonical (.arr ws)).toList ++ y) : alike (.arr vs) (.arr ws) = true ∧ x = y := by
  rw [canonical_arr,canonical_arr] at h
  simp only [List.cons_append,List.append_assoc,List.nil_append] at h
  have hbegins : ∀ v ∈ vs ++ ws, ∃ c z, (Host.canonical v).toList = c :: z ∧ isClosing c = false := by
    intro v hv
    obtain ⟨c,z,hc,hbegins⟩ := canonical_begins ((List.mem_append.mp hv).elim (hvs v) (hws v))
    exact ⟨c,z,hc,hbegins.not_closing⟩
  have hread : ∀ v ∈ vs, ∀ w ∈ ws, ∀ x y, Ends x → Ends y → (Host.canonical v).toList ++ x = (Host.canonical w).toList ++ y →
      alike v w = true ∧ x = y := fun v hv w hw x y hx hy htext => ih v hv (hvs v hv) w x y (hws w hw) hx hy htext
  obtain ⟨hsame,hxy⟩ := separated_read rfl (by decide) hbegins hread (List.cons.inj h).2
  exact ⟨by rw [alike,alikeItems_of_forall₂ hsame],hxy⟩

theorem mem_canonicalMembers {es : List (String × Json)} {e : String × String} (h : e ∈ Host.canonicalMembers es) :
    ∃ v, (e.1,v) ∈ es ∧ e.2 = Host.canonical v := by
  rw [canonicalMembers_eq_map] at h
  obtain ⟨f,hf,rfl⟩ := List.mem_map.mp h
  exact ⟨f.2,hf,rfl⟩

theorem alikeMembers_of_mem {es fs : List (String × Json)} (h : ∀ e ∈ es, ∃ w, (e.1,w) ∈ fs ∧ alike e.2 w = true) :
    alikeMembers es fs = true := by
  induction es with
  | nil => rfl
  | cons e es ih =>
    obtain ⟨w,hw,halike⟩ := h e List.mem_cons_self
    rw [alikeMembers,ih fun e he => h e (List.mem_cons_of_mem _ he),Bool.and_true]
    refine List.any_eq_true.mpr ⟨(e.1,w),hw,?_⟩
    simp [halike]

/-- The members of two mappings that are printed alike are printed alike, in some order. -/
theorem canonicalMembers_read {es fs : List (String × Json)} {x y : List Char} (ih : ∀ e ∈ es, OneText e.2)
    (hes : ∀ e ∈ es, written e.2 = true) (hfs : ∀ f ∈ fs, written f.2 = true)
    (h : (Host.canonical (.obj es)).toList ++ x = (Host.canonical (.obj fs)).toList ++ y) :
    (Host.canonicalMembers es).Perm (Host.canonicalMembers fs) ∧ x = y := by
  let sorted (gs : List (String × Json)) := (Host.canonicalMembers gs).insertionSort fun a b => textLe a.1 b.1
  have hmem : ∀ {gs : List (String × Json)} {e : String × String}, e ∈ sorted gs → e ∈ Host.canonicalMembers gs :=
    fun he => (List.perm_insertionSort _ _).mem_iff.mp he
  rw [canonical_obj,canonical_obj] at h
  simp only [List.cons_append,List.append_assoc,List.nil_append] at h
  have hbegins : ∀ e ∈ sorted es ++ sorted fs, ∃ c z, memberText e = c :: z ∧ isClosing c = false := fun e _ => ⟨'"',_,rfl,rfl⟩
  have hread : ∀ e ∈ sorted es, ∀ f ∈ sorted fs, ∀ x y, Ends x → Ends y → memberText e ++ x = memberText f ++ y → e = f ∧ x = y := by
    intro e he f hf x y hx hy htext
    obtain ⟨v,hv,hev⟩ := mem_canonicalMembers (hmem he)
    obtain ⟨w,hw,hfw⟩ := mem_canonicalMembers (hmem hf)
    simp only [memberText,List.append_assoc] at htext
    obtain ⟨hkey,hrest⟩ := quoteChars_read htext
    have hvalue : e.2.toList ++ x = f.2.toList ++ y := (List.cons.inj hrest).2
    rw [hev,hfw] at hvalue
    obtain ⟨-,hxy⟩ := ih _ hv (hes _ hv) w x y (hfs _ hw) hx hy hvalue
    rw [hxy] at hvalue
    have hsame : e.2 = f.2 := by rw [hev,hfw,String.toList_inj.mp (List.append_cancel_right hvalue)]
    exact ⟨Prod.ext hkey hsame,hxy⟩
  obtain ⟨hsame,hxy⟩ := separated_read rfl (by decide) hbegins hread (List.cons.inj h).2
  have hsorted : sorted es = sorted fs := List.forall₂_eq_eq_eq ▸ hsame
  exact ⟨(List.perm_insertionSort _ _).symm.trans ((List.Perm.of_eq hsorted).trans (List.perm_insertionSort _ _)),hxy⟩

theorem member_of_perm {es fs : List (String × Json)} (h : (Host.canonicalMembers es).Perm (Host.canonicalMembers fs))
    {e : String × Json} (he : e ∈ es) : ∃ w, (e.1,w) ∈ fs ∧ Host.canonical e.2 = Host.canonical w := by
  have htext : (e.1,Host.canonical e.2) ∈ Host.canonicalMembers es := by
    rw [canonicalMembers_eq_map]
    exact List.mem_map_of_mem he
  exact mem_canonicalMembers (h.mem_iff.mp htext)

theorem length_of_perm {es fs : List (String × Json)} (h : (Host.canonicalMembers es).Perm (Host.canonicalMembers fs)) :
    es.length = fs.length := by
  have hlen := h.length_eq
  rwa [canonicalMembers_eq_map,canonicalMembers_eq_map,List.length_map,List.length_map] at hlen

theorem ends_nil : Ends [] := fun _ hc => (by cases hc)

theorem oneText_obj {es fs : List (String × Json)} {x y : List Char} (ih : ∀ e ∈ es, OneText e.2) (hes : ∀ e ∈ es, written e.2 = true)
    (hfs : ∀ f ∈ fs, written f.2 = true)
    (h : (Host.canonical (.obj es)).toList ++ x = (Host.canonical (.obj fs)).toList ++ y) : alike (.obj es) (.obj fs) = true ∧ x = y := by
  obtain ⟨hperm,hxy⟩ := canonicalMembers_read ih hes hfs h
  have hmembers : ∀ e ∈ es, ∃ w, (e.1,w) ∈ fs ∧ alike e.2 w = true := by
    intro e he
    obtain ⟨w,hw,hcanonical⟩ := member_of_perm hperm he
    have hvalue : (Host.canonical e.2).toList ++ [] = (Host.canonical w).toList ++ [] := by rw [hcanonical]
    exact ⟨w,hw,(ih e he (hes e he) w [] [] (hfs _ hw) ends_nil ends_nil hvalue).1⟩
  refine ⟨?_,hxy⟩
  rw [alike,alikeMembers_of_mem hmembers,Bool.and_true]
  exact beq_iff_eq.mpr (length_of_perm hperm)

theorem oneText (v : Json) : OneText v := by
  refine of_parts (P := OneText) ?_ ?_ ?_ v
  · intro v harr hobj hv w x y hw hx hy h
    obtain ⟨c,z,hc,hbegins⟩ := canonical_begins hv
    obtain ⟨d,z',hd,hbegins'⟩ := canonical_begins hw
    have hcd : c = d := by
      rw [hc,hd] at h
      exact (List.cons.inj h).1
    subst hcd
    rcases hbegins.same hbegins' with ⟨hv',hw'⟩ | ⟨s,t,rfl,rfl⟩ | ⟨vs,ws,rfl,-⟩ | ⟨es,fs,rfl,-⟩
    · rw [canonical_word hv',canonical_word hw'] at h
      obtain ⟨htext,hxy⟩ := plain_read (word_plain {} false hv') (word_plain {} false hw') hx hy h
      rw [word_eq {} false hv' hw' htext]
      exact ⟨alike_refl _,hxy⟩
    · rw [canonical_str,canonical_str] at h
      obtain ⟨rfl,hxy⟩ := quoteChars_read h
      exact ⟨alike_refl _,hxy⟩
    · exact absurd rfl (harr vs)
    · exact absurd rfl (hobj es)
  · intro vs ih hv w x y hw hx hy h
    obtain ⟨c,z,hc,hbegins⟩ := canonical_begins hv
    obtain ⟨d,z',hd,hbegins'⟩ := canonical_begins hw
    have hcd : c = d := by
      rw [hc,hd] at h
      exact (List.cons.inj h).1
    subst hcd
    rcases hbegins.same hbegins' with ⟨hv',-⟩ | ⟨s,t,hs,-⟩ | ⟨vs',ws,hvs,rfl⟩ | ⟨es,fs,hes,-⟩
    · cases hv'
    · cases hs
    · rw [written] at hv hw
      exact oneText_arr ih ((writtenItems_iff vs).mp hv) ((writtenItems_iff ws).mp hw) h
    · cases hes
  · intro es ih hv w x y hw hx hy h
    obtain ⟨c,z,hc,hbegins⟩ := canonical_begins hv
    obtain ⟨d,z',hd,hbegins'⟩ := canonical_begins hw
    have hcd : c = d := by
      rw [hc,hd] at h
      exact (List.cons.inj h).1
    subst hcd
    rcases hbegins.same hbegins' with ⟨hv',-⟩ | ⟨s,t,hs,-⟩ | ⟨vs,ws,hvs,-⟩ | ⟨es',fs,hes,rfl⟩
    · cases hv'
    · cases hs
    · cases hvs
    · rw [written,Bool.and_eq_true] at hv hw
      exact oneText_obj ih ((writtenMembers_iff es).mp hv.2) ((writtenMembers_iff fs).mp hw.2) h

theorem alike_of_canonical {v w : Json} (hv : written v = true) (hw : written w = true) (h : Host.canonical v = Host.canonical w) :
    alike v w = true := by
  exact (oneText v hv w [] [] hw ends_nil ends_nil (by rw [h])).1

theorem canonical_read {v w : Json} {x y : List Char} (hv : written v = true) (hw : written w = true) (hx : Ends x) (hy : Ends y)
    (h : (Host.canonical v).toList ++ x = (Host.canonical w).toList ++ y) : Host.canonical v = Host.canonical w ∧ x = y := by
  obtain ⟨-,hxy⟩ := oneText v hv w x y hw hx hy h
  rw [hxy] at h
  exact ⟨String.toList_inj.mp (List.append_cancel_right h),hxy⟩

/-- What a digest is of: the text without a top-level digest. -/
def digestText (p : Payload) : String := Host.canonical (.obj (p.erase "digest").entries)

theorem canonicalDigest_eq (host : Host) (p : Payload) : host.canonicalDigest p = host.sha256 (digestText p) := rfl

/-- The payload is one that a file or a request can hold. -/
def Payload.written (p : Payload) : Prop := Json.written (.obj p.entries) = true

theorem written_erase {p : Payload} (h : Payload.written p) (k : String) : Payload.written (p.erase k) := by
  rw [Payload.written,Json.written,Bool.and_eq_true] at h ⊢
  constructor
  · exact decide_eq_true (p.erase k).nodup
  · refine (writtenMembers_iff _).mpr fun e he => ?_
    exact (writtenMembers_iff _).mp h.2 e (List.mem_filter.mp he).1

theorem alike_of_digestText {p q : Payload} (hp : Payload.written p) (hq : Payload.written q) (h : digestText p = digestText q) :
    Payload.alike (p.erase "digest") (q.erase "digest") = true :=
  alike_of_canonical (written_erase hp _) (written_erase hq _) h

end Overseer.Psychlo
