import Overseer.Library.Dict
import Overseer.Library.Fallible

/-! # Going through a list

A computation that may fail, done for one element after another: what holds of the elements when
all went well, and a dictionary that is filled on the way.
-/
namespace Overseer.Library
variable {E α β σ : Type}

theorem except_ok_bind (a : α) (f : α → Except E β) : (Except.ok a >>= f) = f a := rfl

theorem forM_ok_iff {f : α → Except E Unit} {l : List α} : l.forM f = .ok () ↔ ∀ a ∈ l, f a = .ok () := by
  induction l with
  | nil => exact ⟨fun _ _ h => (by cases h),fun _ => rfl⟩
  | cons a rest ih =>
    change (f a >>= fun _ => rest.forM f) = .ok () ↔ _
    constructor
    · intro h b hb
      obtain ⟨_,ha,hrest⟩ := except_bind_ok h
      rcases List.mem_cons.mp hb with rfl | hb
      · exact ha
      · exact ih.mp hrest b hb
    · intro h
      rw [h a List.mem_cons_self]
      exact ih.mpr fun b hb => h b (List.mem_cons_of_mem _ hb)

theorem foldlM_ok_invariant {f : σ → α → Except E σ} {I : σ → Prop} {l : List α} {s s' : σ} (h : l.foldlM f s = .ok s') (hs : I s)
    (hstep : ∀ s a s', a ∈ l → I s → f s a = .ok s' → I s') : I s' := by
  induction l generalizing s with
  | nil =>
    cases h
    exact hs
  | cons a rest ih =>
    rw [List.foldlM_cons] at h
    obtain ⟨s₁,ha,hrest⟩ := except_bind_ok h
    exact ih hrest (hstep s a s₁ List.mem_cons_self hs ha) fun s b s' hb => hstep s b s' (List.mem_cons_of_mem _ hb)

theorem Dict.mem_of_find {k : String} {v : α} {es : List (String × α)} (h : Dict.find k es = some v) : (k,v) ∈ es := by
  induction es with
  | nil => cases h
  | cons e rest ih =>
    unfold Dict.find at h
    split at h
    · next hk =>
      cases h
      rw [← hk]
      exact List.mem_cons_self
    · exact List.mem_cons_of_mem _ (ih h)

theorem Dict.mem_assign {k : String} {v : α} {es : List (String × α)} {e : String × α} (h : e ∈ Dict.assign k v es) : e = (k,v) ∨ e ∈ es := by
  induction es with
  | nil => exact .inl (List.mem_singleton.mp h)
  | cons d rest ih =>
    unfold Dict.assign at h
    split at h
    · rcases List.mem_cons.mp h with h | h
      · exact .inl h
      · exact .inr (List.mem_cons_of_mem _ h)
    · rcases List.mem_cons.mp h with h | h
      · exact .inr (h ▸ List.mem_cons_self)
      · exact (ih h).imp_right (List.mem_cons_of_mem _)

theorem mapM_ok_cons {f : α → Except E β} {a : α} {rest : List α} {bs : List β} (h : (a :: rest).mapM f = .ok bs) :
    ∃ b bs', f a = .ok b ∧ rest.mapM f = .ok bs' ∧ bs = b :: bs' := by
  rw [List.mapM_cons] at h
  obtain ⟨b,hb,h⟩ := except_bind_ok h
  obtain ⟨bs',hbs,h⟩ := except_bind_ok h
  exact ⟨b,bs',hb,hbs,(Except.ok.inj h).symm⟩

theorem mapM_ok_mem {f : α → Except E β} {l : List α} {bs : List β} (h : l.mapM f = .ok bs) {b : β} (hb : b ∈ bs) : ∃ a ∈ l, f a = .ok b := by
  induction l generalizing bs with
  | nil =>
    cases h
    cases hb
  | cons a rest ih =>
    obtain ⟨c,cs,hc,hcs,rfl⟩ := mapM_ok_cons h
    rcases List.mem_cons.mp hb with rfl | hb
    · exact ⟨a,List.mem_cons_self,hc⟩
    · obtain ⟨d,hd,hfd⟩ := ih hcs hb
      exact ⟨d,List.mem_cons_of_mem _ hd,hfd⟩

/-- A dictionary filled with what the entries of another one give. -/
def fillFrom (build : α → Except E β) (d : Dict α) : Except E (Dict β) :=
  d.entries.foldlM (fun filled e => return filled.set e.1 (← build e.2)) Dict.empty

section Fill
variable {build : α → Except E β}

/-- Entries of the same keys in the same order, each made of the other. -/
def Filled (build : α → Except E β) (es : List (String × α)) (fs : List (String × β)) : Prop :=
  List.Forall₂ (fun e f => e.1 = f.1 ∧ build e.2 = .ok f.2) es fs

theorem foldlM_filled {es : List (String × α)} {d d' : Dict β} (hes : (d.entries.map Prod.fst ++ es.map Prod.fst).Nodup)
    (h : es.foldlM (fun filled e => return filled.set e.1 (← build e.2)) d = .ok d') :
    ∃ fs, Filled build es fs ∧ d'.entries = d.entries ++ fs := by
  induction es generalizing d with
  | nil =>
    cases h
    exact ⟨[],.nil,(List.append_nil _).symm⟩
  | cons e rest ih =>
    rw [List.foldlM_cons] at h
    obtain ⟨d₁,hstep,hrest⟩ := except_bind_ok h
    obtain ⟨b,hb,hstep⟩ := except_bind_ok hstep
    have hnew : e.1 ∉ d.entries.map Prod.fst := fun hmem => (List.nodup_append.mp hes).2.2 _ hmem _ List.mem_cons_self rfl
    have hd₁ : d₁.entries = d.entries ++ [(e.1,b)] := by
      rw [← Except.ok.inj hstep]
      exact Dict.assign_of_notMem b hnew
    have hes' : (d₁.entries.map Prod.fst ++ rest.map Prod.fst).Nodup := by
      rw [hd₁,List.map_append,List.append_assoc]
      exact hes
    obtain ⟨fs,hfs,hd'⟩ := ih hes' hrest
    refine ⟨(e.1,b) :: fs,.cons ⟨rfl,hb⟩ hfs,?_⟩
    rw [hd',hd₁,List.append_assoc]
    rfl

theorem fillFrom_filled {d : Dict α} {d' : Dict β} (h : fillFrom build d = .ok d') : Filled build d.entries d'.entries := by
  obtain ⟨fs,hfs,hd'⟩ := foldlM_filled (d := Dict.empty) d.nodup h
  rwa [hd']

theorem fillFrom_get? {d : Dict α} {d' : Dict β} (h : fillFrom build d = .ok d') {k : String} {b : β} (hb : d'.get? k = some b) :
    ∃ a, d.get? k = some a ∧ build a = .ok b := by
  have hfilled := fillFrom_filled h
  have hmem := (Dict.mem_entries_iff d' k b).mpr hb
  obtain ⟨i,hi,hget⟩ := List.getElem_of_mem hmem
  have hi' : i < d.entries.length := by rw [hfilled.length_eq]; exact hi
  have hpair := hfilled.get hi' hi
  simp only [List.get_eq_getElem,hget] at hpair
  refine ⟨(d.entries[i]).2,(Dict.mem_entries_iff d k _).mp ?_,hpair.2⟩
  rw [← hpair.1]
  exact List.getElem_mem hi'

end Fill
end Overseer.Library
