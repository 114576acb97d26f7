import Mathlib.Data.List.Nodup
import Mathlib.Data.List.Basic
import Mathlib.Algebra.BigOperators.Group.List.Basic

/-! # Insertion-ordered dictionaries

A dictionary is its list of entries in insertion order together with the proof
that no key occurs twice. Assigning to a present key keeps its position, as an
assignment into a Python dictionary does.
-/
namespace Overseer.Library

structure Dict (α : Type) where
  entries : List (String × α)
  nodup : (entries.map Prod.fst).Nodup

namespace Dict
variable {α : Type}

/-- Replace the value at `k`, or append the new entry. -/
def assign (k : String) (v : α) : List (String × α) → List (String × α)
  | [] => [(k,v)]
  | e :: rest => if e.1 = k then (k,v) :: rest else e :: assign k v rest

/-- The value of the first entry filed under `k`. -/
def find (k : String) : List (String × α) → Option α
  | [] => none
  | e :: rest => if e.1 = k then some e.2 else find k rest

theorem assign_keys (k : String) (v : α) (es : List (String × α)) :
    (assign k v es).map Prod.fst =
      if k ∈ es.map Prod.fst then es.map Prod.fst else es.map Prod.fst ++ [k] := by
  induction es with
  | nil => simp [assign]
  | cons e rest ih =>
    by_cases h : e.1 = k
    · simp [assign,h]
    · have hk : k ≠ e.1 := fun h' => h h'.symm
      simp only [assign,h,↓reduceIte,List.map_cons,List.mem_cons,hk,false_or,ih]
      split <;> simp

theorem assign_nodup (k : String) (v : α) {es : List (String × α)}
    (h : (es.map Prod.fst).Nodup) : ((assign k v es).map Prod.fst).Nodup := by
  rw [assign_keys]
  split
  · exact h
  · next hk => exact List.nodup_append.mpr ⟨h,by simp,fun a ha b hb e => hk (by simp_all)⟩

def empty : Dict α := ⟨[],by simp⟩
def set (d : Dict α) (k : String) (v : α) : Dict α := ⟨assign k v d.entries,assign_nodup k v d.nodup⟩
def get? (d : Dict α) (k : String) : Option α := find k d.entries
def keys (d : Dict α) : List String := d.entries.map Prod.fst
def values (d : Dict α) : List α := d.entries.map Prod.snd

/-- The dictionary without the entry of `k`. -/
def erase (d : Dict α) (k : String) : Dict α where
  entries := d.entries.filter fun e => e.1 ≠ k
  nodup := (List.filter_sublist.map Prod.fst).nodup d.nodup

/-- `{**d, **e}`: the entries of `e` assigned over those of `d`. -/
def merge (d : Dict α) (e : List (String × α)) : Dict α := e.foldl (fun d p => d.set p.1 p.2) d

instance [DecidableEq α] : DecidableEq (Dict α) := fun a b =>
  decidable_of_iff (a.entries = b.entries) (by cases a; cases b; simp)

@[simp] theorem get?_empty (k : String) : (empty : Dict α).get? k = none := rfl

theorem find_assign (k k' : String) (v : α) (es : List (String × α)) :
    find k' (assign k v es) = if k' = k then some v else find k' es := by
  induction es with
  | nil => simp [assign,find,eq_comm]
  | cons e rest ih =>
    by_cases he : e.1 = k
    · by_cases hk : k' = k
      · simp [assign,find,he,hk]
      · have hk' : ¬ k = k' := fun h => hk h.symm
        simp [assign,find,he,hk,hk']
    · by_cases hk : e.1 = k'
      · have hk' : ¬ k' = k := fun h => he (hk.trans h)
        simp [assign,find,hk,hk']
      · simp [assign,find,he,hk,ih]

@[simp] theorem get?_set (d : Dict α) (k k' : String) (v : α) :
    (d.set k v).get? k' = if k' = k then some v else d.get? k' := find_assign k k' v d.entries

theorem mem_iff_find {es : List (String × α)} (hes : (es.map Prod.fst).Nodup) (k : String) (v : α) :
    (k,v) ∈ es ↔ find k es = some v := by
  induction es with
  | nil => simp [find]
  | cons e rest ih =>
    obtain ⟨k₀,v₀⟩ := e
    simp only [List.map_cons,List.nodup_cons] at hes
    by_cases h : k₀ = k
    · subst h
      have hn : (k₀,v) ∉ rest := fun hm => hes.1 (List.mem_map.mpr ⟨_,hm,rfl⟩)
      simp [find,hn,eq_comm]
    · have h' : ¬ k = k₀ := fun h' => h h'.symm
      simpa [find,h,h'] using ih hes.2

theorem mem_entries_iff (d : Dict α) (k : String) (v : α) :
    (k,v) ∈ d.entries ↔ d.get? k = some v := mem_iff_find d.nodup k v

theorem mem_values_iff (d : Dict α) (v : α) : v ∈ d.values ↔ ∃ k, d.get? k = some v := by
  simp only [values,List.mem_map,Prod.exists,exists_eq_right,mem_entries_iff]

theorem mem_values_of_get? {d : Dict α} {k : String} {v : α} (h : d.get? k = some v) :
    v ∈ d.values := (d.mem_values_iff v).mpr ⟨k,h⟩

theorem mem_keys_iff (d : Dict α) (k : String) : k ∈ d.keys ↔ ∃ v, d.get? k = some v := by
  simp only [keys,List.mem_map,Prod.exists,exists_and_right,exists_eq_right,mem_entries_iff]

theorem get?_merge_of_notMem (d : Dict α) (k : String) {es : List (String × α)} (h : k ∉ es.map Prod.fst) :
    (d.merge es).get? k = d.get? k := by
  induction es generalizing d with
  | nil => rfl
  | cons e rest ih =>
    rw [List.map_cons,List.mem_cons,not_or] at h
    exact (ih (d.set e.1 e.2) h.2).trans (by rw [get?_set,if_neg h.1])

theorem get?_merge_of_mem (d : Dict α) {k : String} {v : α} {es : List (String × α)} (hes : (es.map Prod.fst).Nodup)
    (h : (k,v) ∈ es) : (d.merge es).get? k = some v := by
  induction es generalizing d with
  | nil => cases h
  | cons e rest ih =>
    rw [List.map_cons,List.nodup_cons] at hes
    rcases List.mem_cons.mp h with rfl | h
    · exact (get?_merge_of_notMem (d.set k v) k hes.1).trans (by simp)
    · exact ih (d.set e.1 e.2) hes.2 h

theorem get?_merge_filter (d e : Dict α) (p : String → Bool) (k : String) :
    (d.merge (e.entries.filter fun x => p x.1)).get? k = if p k ∧ (e.get? k).isSome then e.get? k else d.get? k := by
  have hnodup : ((e.entries.filter fun x => p x.1).map Prod.fst).Nodup := e.nodup.sublist (List.filter_sublist.map _)
  split
  · next h =>
    obtain ⟨v,hv⟩ := Option.isSome_iff_exists.mp h.2
    rw [hv]
    exact get?_merge_of_mem d hnodup (List.mem_filter.mpr ⟨(mem_entries_iff e k v).mpr hv,h.1⟩)
  · next h =>
    refine get?_merge_of_notMem d k fun hk => h ?_
    obtain ⟨⟨k',v⟩,hmem,rfl⟩ := List.mem_map.mp hk
    obtain ⟨hmem,hp⟩ := List.mem_filter.mp hmem
    rw [(mem_entries_iff e k' v).mp hmem]
    exact ⟨hp,rfl⟩

theorem assign_of_notMem {k : String} (v : α) {es : List (String × α)} (h : k ∉ es.map Prod.fst) :
    assign k v es = es ++ [(k,v)] := by
  induction es with
  | nil => rfl
  | cons e rest ih =>
    rw [List.map_cons,List.mem_cons,not_or] at h
    have hne : ¬ e.1 = k := fun he => h.1 he.symm
    rw [assign,if_neg hne,ih h.2,List.cons_append]

theorem entries_merge {d : Dict α} {es : List (String × α)} (h : ((d.entries ++ es).map Prod.fst).Nodup) :
    (d.merge es).entries = d.entries ++ es := by
  induction es generalizing d with
  | nil => exact (List.append_nil _).symm
  | cons e rest ih =>
    have hnew : e.1 ∉ d.entries.map Prod.fst := by
      rw [List.map_append,List.map_cons] at h
      intro hmem
      exact (List.nodup_append.mp h).2.2 _ hmem _ List.mem_cons_self rfl
    have hset : (d.set e.1 e.2).entries = d.entries ++ [e] := assign_of_notMem e.2 hnew
    have hrest := ih (d := d.set e.1 e.2) (by rw [hset,List.append_assoc]; exact h)
    rw [hset,List.append_assoc] at hrest
    exact hrest

theorem entries_set_of_none {d : Dict α} {k : String} (v : α) (h : d.get? k = none) :
    (d.set k v).entries = d.entries ++ [(k,v)] := by
  have hk : k ∉ d.keys := fun hk => (by
    obtain ⟨w,hw⟩ := (mem_keys_iff d k).mp hk
    rw [h] at hw
    cases hw)
  exact assign_of_notMem v hk

theorem values_set_of_none {d : Dict α} {k : String} (v : α) (h : d.get? k = none) :
    (d.set k v).values = d.values ++ [v] := by
  unfold values
  rw [entries_set_of_none v h,List.map_append]
  rfl

@[simp] theorem get?_erase (d : Dict α) (j k : String) : (d.erase j).get? k = if k = j then none else d.get? k := by
  obtain ⟨es,hes⟩ := d
  change find k (es.filter fun e => e.1 ≠ j) = if k = j then none else find k es
  clear hes
  induction es with
  | nil => simp [find]
  | cons e rest ih =>
    by_cases hj : e.1 = j
    · rw [List.filter_cons_of_neg (by simpa using hj),ih]
      split
      · rfl
      · next hk => simp [find,hj,Ne.symm hk]
    · rw [List.filter_cons_of_pos (by simpa using hj)]
      simp only [find,ih]
      split
      · next hk => rw [if_neg (hk ▸ hj)]
      · rfl

theorem ext_entries {d e : Dict α} (h : d.entries = e.entries) : d = e := by
  cases d
  cases e
  simpa using h

theorem key_ne_of_none {d : Dict α} {k : String} (h : d.get? k = none) : ∀ e ∈ d.entries, e.1 ≠ k := by
  intro e he hk
  have hget := (mem_entries_iff d e.1 e.2).mp he
  rw [hk,h] at hget
  cases hget

theorem erase_of_none {d : Dict α} {k : String} (h : d.get? k = none) : d.erase k = d := by
  apply ext_entries
  exact List.filter_eq_self.mpr fun e he => by simpa using key_ne_of_none h e he

theorem erase_set_of_none {d : Dict α} {k : String} (v : α) (h : d.get? k = none) : (d.set k v).erase k = d := by
  apply ext_entries
  change (d.set k v).entries.filter (fun e => e.1 ≠ k) = d.entries
  rw [entries_set_of_none v h,List.filter_append]
  have hold : d.entries.filter (fun e => e.1 ≠ k) = d.entries :=
    List.filter_eq_self.mpr fun e he => by simpa using key_ne_of_none h e he
  rw [hold]
  simp

theorem entries_perm {d e : Dict α} (h : ∀ k, d.get? k = e.get? k) : d.entries.Perm e.entries := by
  have hd : d.entries.Nodup := d.nodup.of_map _
  have he : e.entries.Nodup := e.nodup.of_map _
  rw [List.perm_ext_iff_of_nodup hd he]
  rintro ⟨k,v⟩
  rw [mem_entries_iff,mem_entries_iff,h]

/-- Replacing a value that `g` selects by one that it selects alike, or not at all. -/
theorem filterMap_set_sublist {β : Type} (g : α → Option β) {d : Dict α} {k : String} {v w : α} (h : d.get? k = some w)
    (hg : g v = g w ∨ g v = none) : ((d.set k v).values.filterMap g).Sublist (d.values.filterMap g) := by
  obtain ⟨es,hes⟩ := d
  change find k es = some w at h
  change ((assign k v es).map Prod.snd |>.filterMap g).Sublist (es.map Prod.snd |>.filterMap g)
  clear hes
  induction es with
  | nil => cases h
  | cons e rest ih =>
    simp only [find] at h
    split at h
    · next hk =>
      cases h
      simp only [assign,hk,↓reduceIte,List.map_cons,List.filterMap_cons]
      rcases hg with hg | hg
      · rw [hg]
      · simp only [hg]
        split
        · exact List.Sublist.refl _
        · exact List.sublist_cons_self _ _
    · next hk =>
      simp only [assign,hk,↓reduceIte,List.map_cons,List.filterMap_cons]
      split
      · exact ih h
      · exact (ih h).cons_cons _

theorem map_find {β : Type} (f : α → β) (k : String) (es : List (String × α)) :
    (find k es).map f = find k (es.map fun e => (e.1,f e.2)) := by
  induction es with
  | nil => rfl
  | cons e rest ih =>
    simp only [List.map_cons,find]
    split
    · rfl
    · exact ih

theorem map_entries_set {β : Type} {f : α → β} {d : Dict α} {k : String} {v w : α} (h : d.get? k = some w) (hf : f v = f w) :
    (d.set k v).entries.map (fun e => (e.1,f e.2)) = d.entries.map (fun e => (e.1,f e.2)) := by
  obtain ⟨es,hes⟩ := d
  change find k es = some w at h
  change (assign k v es).map (fun e => (e.1,f e.2)) = es.map (fun e => (e.1,f e.2))
  clear hes
  induction es with
  | nil => cases h
  | cons e rest ih =>
    simp only [find] at h
    split at h
    · next hk =>
      cases h
      simp [assign,hk,hf]
    · next hk => simp [assign,hk,ih h]

theorem sum_values_set {M : Type} [AddCommGroup M] (f : α → M) (d : Dict α) (k : String) (v : α) :
    ((d.set k v).values.map f).sum = (d.values.map f).sum - ((d.get? k).map f).getD 0 + f v := by
  obtain ⟨es,hes⟩ := d
  change (((assign k v es).map Prod.snd).map f).sum = ((es.map Prod.snd).map f).sum - ((find k es).map f).getD 0 + f v
  clear hes
  induction es with
  | nil => simp [assign,find]
  | cons e rest ih =>
    by_cases hk : e.1 = k
    · simp [assign,find,hk,add_comm]
    · simp only [assign,find,hk,↓reduceIte,List.map_cons,List.sum_cons,ih]
      rw [add_sub_assoc,add_assoc]

/-- A dictionary whose entries are filed under their own identifier stays so. -/
def Filed (name : α → String) (d : Dict α) : Prop := ∀ k v, d.get? k = some v → name v = k

theorem Filed.empty (name : α → String) : Filed name (Dict.empty : Dict α) := by
  intro k v h
  simp at h

theorem Filed.set {name : α → String} {d : Dict α} (h : Filed name d) (v : α) :
    Filed name (d.set (name v) v) := by
  intro k w hk
  rw [get?_set] at hk
  split at hk
  · next hkv => cases hk; exact hkv.symm
  · exact h k w hk

end Dict
end Overseer.Library
