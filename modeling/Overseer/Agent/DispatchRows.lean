import Overseer.Agent.Fence
import Overseer.Agent.Dispatch

/-! # Dispatch rows over time

How the dispatch rows and the fences of an earlier and a later state of one run
are related: rows stay with their identity and generation, a row is accepted only
at its insertion and becomes executing only under the open fence of its own
generation, and no row is inserted behind a closed fence.
-/
namespace Overseer.Agent
open Overseer.Library

def AgentDispatchRequest.boundGeneration (d : AgentDispatchRequest) : Option Int :=
  d.generation.bind Json.asInt?
def AgentDispatchRequest.accepted (d : AgentDispatchRequest) : Prop := d.status = some (.str "accepted")
def AgentDispatchRequest.executing (d : AgentDispatchRequest) : Prop := d.status = some (.str "executing")
def AgentDispatchRequest.terminal (d : AgentDispatchRequest) : Prop :=
  statusIn d.status terminalDispatchStatuses = true
def AgentDispatchRequest.stopped (d : AgentDispatchRequest) : Prop :=
  statusIn d.status [AgentOperationState.cancelled.value,AgentOperationState.quarantined.value] = true

/-- The immutable fields of a dispatch agree. -/
structure SameDispatch (d d' : AgentDispatchRequest) : Prop where
  id : d.id = d'.id
  instanceId : d.instanceId = d'.instanceId
  sessionId : d.sessionId = d'.sessionId
  driverEpochId : d.driverEpochId = d'.driverEpochId
  idempotencyKey : d.idempotencyKey = d'.idempotencyKey
  requestedAt : d.requestedAt = d'.requestedAt
  requestedBy : d.requestedBy = d'.requestedBy

theorem SameDispatch.refl (d : AgentDispatchRequest) : SameDispatch d d := ⟨rfl,rfl,rfl,rfl,rfl,rfl,rfl⟩

theorem SameDispatch.symm {d d' : AgentDispatchRequest} (h : SameDispatch d d') : SameDispatch d' d :=
  ⟨h.1.symm,h.2.symm,h.3.symm,h.4.symm,h.5.symm,h.6.symm,h.7.symm⟩

theorem SameDispatch.trans {d d' d'' : AgentDispatchRequest} (h : SameDispatch d d') (h' : SameDispatch d' d'') :
    SameDispatch d d'' :=
  ⟨h.1.trans h'.1,h.2.trans h'.2,h.3.trans h'.3,h.4.trans h'.4,h.5.trans h'.5,h.6.trans h'.6,h.7.trans h'.7⟩

/-- Well-formed fences, and dispatches filed under their id with one row per instance and key. -/
structure DispatchOk (s : AgentStore) : Prop where
  fence : FenceOk s
  filed : s.dispatches.Filed AgentDispatchRequest.id
  unique : ∀ i j d e, s.dispatches.get? i = some d → s.dispatches.get? j = some e →
    d.instanceId = e.instanceId → d.idempotencyKey = e.idempotencyKey → i = j

/-- Between the two states the fence was open in the generation of `d`. -/
def OpenBetween (s s' : AgentStore) (d : AgentDispatchRequest) : Prop := ∃ g : ℕ,
  d.boundGeneration = some (g : Int) ∧
  (∀ row, s.operations.get? d.instanceId = some row →
    row.generation < g ∨ row.generation = g ∧ row.state = .opened) ∧
  ∃ row, s'.operations.get? d.instanceId = some row ∧ g ≤ row.generation

structure RowBefore (s s' : AgentStore) (d d' : AgentDispatchRequest) : Prop where
  same : SameDispatch d d'
  generation : d'.boundGeneration = d.boundGeneration
  accepted : d'.accepted → d.accepted
  executing : d'.executing → d.executing ∨ OpenBetween s s' d

structure DispatchBefore (s s' : AgentStore) : Prop where
  fence : FenceBefore s s'
  rows : ∀ id d, s.dispatches.get? id = some d → ∃ d', s'.dispatches.get? id = some d' ∧ RowBefore s s' d d'
  inserted : ∀ id d', s'.dispatches.get? id = some d' → s.dispatches.get? id = none →
    ∀ row, s.operations.get? d'.instanceId = some row → row.state = .fenced →
    ∃ row', s'.operations.get? d'.instanceId = some row' ∧ row.generation < row'.generation

theorem FenceBefore.refl (s : AgentStore) : FenceBefore s s :=
  fun _ row h => ⟨row,h,.inr ⟨rfl,fun h => ⟨h,rfl⟩⟩⟩

theorem FenceLink.before {s s' : AgentStore} (h : FenceLink s s') : FenceBefore s s' :=
  fun x _ hrow => (h x).before hrow

theorem FenceBefore.of_eq {s s' : AgentStore} (h : s'.operations = s.operations) : FenceBefore s s' := by
  intro x row hrow
  exact ⟨row,h ▸ hrow,.inr ⟨rfl,fun h => ⟨h,rfl⟩⟩⟩

theorem RowBefore.refl (s s' : AgentStore) (d : AgentDispatchRequest) : RowBefore s s' d d :=
  ⟨.refl d,rfl,id,.inl⟩

theorem DispatchBefore.of_same {s s' : AgentStore} (hd : s'.dispatches = s.dispatches)
    (hf : FenceBefore s s') : DispatchBefore s s' where
  fence := hf
  rows id d h := ⟨d,hd ▸ h,.refl s s' d⟩
  inserted id d' h h' := by simp [hd,h'] at h

theorem DispatchBefore.refl (s : AgentStore) : DispatchBefore s s := .of_same rfl (.refl s)

theorem OpenBetween.earlier {s s' s'' : AgentStore} {d : AgentDispatchRequest} (h : FenceBefore s s')
    (ho : OpenBetween s' s'' d) : OpenBetween s s'' d := by
  obtain ⟨g,hg,hrow,hlast⟩ := ho
  refine ⟨g,hg,fun row hr => ?_,hlast⟩
  obtain ⟨row',hr',hlt⟩ := h _ row hr
  rcases hlt with hlt | ⟨heq,hf⟩
  · rcases hrow row' hr' with h' | ⟨h',-⟩ <;> exact .inl (by omega)
  · rcases hrow row' hr' with h' | ⟨h',hopen⟩
    · exact .inl (by omega)
    · refine .inr ⟨by omega,?_⟩
      cases hs : row.state with
      | opened => rfl
      | fenced => rw [(hf hs).1] at hopen; cases hopen

theorem OpenBetween.later {s s' s'' : AgentStore} {d : AgentDispatchRequest} (h : FenceBefore s' s'')
    (ho : OpenBetween s s' d) : OpenBetween s s'' d := by
  obtain ⟨g,hg,hrow,row,hr,hle⟩ := ho
  obtain ⟨row',hr',hlt⟩ := h _ row hr
  exact ⟨g,hg,hrow,row',hr',by omega⟩

theorem OpenBetween.congr {s s' : AgentStore} {d d' : AgentDispatchRequest} (hs : SameDispatch d d')
    (hg : d'.boundGeneration = d.boundGeneration) (ho : OpenBetween s s' d') : OpenBetween s s' d := by
  unfold OpenBetween at *
  rwa [hg,← hs.instanceId] at ho

theorem RowBefore.trans {s s' s'' : AgentStore} {d d' d'' : AgentDispatchRequest} (hf : FenceBefore s s')
    (hf' : FenceBefore s' s'') (h : RowBefore s s' d d') (h' : RowBefore s' s'' d' d'') :
    RowBefore s s'' d d'' where
  same := h.same.trans h'.same
  generation := h'.generation.trans h.generation
  accepted ha := h.accepted (h'.accepted ha)
  executing he := by
    rcases h'.executing he with he | he
    · exact (h.executing he).imp id (.later hf')
    · exact .inr ((he.earlier hf).congr h.same h.generation)

theorem DispatchBefore.trans {s s' s'' : AgentStore} (h : DispatchBefore s s') (h' : DispatchBefore s' s'') :
    DispatchBefore s s'' where
  fence := h.fence.trans h'.fence
  rows id d hd := by
    obtain ⟨d',hd',hr⟩ := h.rows id d hd
    obtain ⟨d'',hd'',hr'⟩ := h'.rows id d' hd'
    exact ⟨d'',hd'',hr.trans h.fence h'.fence hr'⟩
  inserted id d'' hd'' hnone row hrow hfenced := by
    cases hd' : s'.dispatches.get? id with
    | some d' =>
      obtain ⟨e,he,hr⟩ := h'.rows id d' hd'
      obtain rfl : e = d'' := by simpa [he] using hd''
      rw [← hr.same.instanceId] at hrow ⊢
      obtain ⟨row',hrow',hlt⟩ := h.inserted id d' hd' hnone row hrow hfenced
      obtain ⟨row'',hrow'',hle⟩ := h'.fence _ row' hrow'
      exact ⟨row'',hrow'',by omega⟩
    | none =>
      obtain ⟨row',hrow',hlt⟩ := h.fence _ row hrow
      obtain ⟨row₂,hrow₂,hle⟩ := h'.fence _ row' hrow'
      rcases hlt with hlt | ⟨heq,hf⟩
      · exact ⟨row₂,hrow₂,by omega⟩
      · obtain ⟨row'',hrow'',hlt⟩ := h'.inserted id d'' hd'' hd' row' hrow' (hf hfenced).1
        exact ⟨row'',hrow'',by omega⟩

/-- In the later state a stopped row is stopped and a terminal row is terminal. -/
def SettledBefore (s s' : AgentStore) : Prop := ∀ id d, s.dispatches.get? id = some d →
  ∃ d', s'.dispatches.get? id = some d' ∧ (d.stopped → d'.stopped) ∧ (d.terminal → d'.terminal)

theorem SettledBefore.of_same {s s' : AgentStore} (hd : s'.dispatches = s.dispatches) : SettledBefore s s' :=
  fun _ d h => ⟨d,hd ▸ h,id,id⟩

theorem SettledBefore.trans {s s' s'' : AgentStore} (h : SettledBefore s s') (h' : SettledBefore s' s'') :
    SettledBefore s s'' := by
  intro id d hd
  obtain ⟨d',hd',hs,ht⟩ := h id d hd
  obtain ⟨d'',hd'',hs',ht'⟩ := h' id d' hd'
  exact ⟨d'',hd'',hs' ∘ hs,ht' ∘ ht⟩

section Put
variable {s : AgentStore} {d d₀ : AgentDispatchRequest}

/-- The payload of a dispatch. -/
def AgentDispatchRequest.payload (d : AgentDispatchRequest) : AgentDispatchRequest :=
  { d with prompt := redactedDispatchPrompt }

@[simp] theorem put_dispatches : (dispatchTable.put s d).dispatches = s.dispatches.set d.id d.payload := rfl
@[simp] theorem put_operations : (dispatchTable.put s d).operations = s.operations := rfl

theorem same_payload (d : AgentDispatchRequest) : SameDispatch d d.payload := ⟨rfl,rfl,rfl,rfl,rfl,rfl,rfl⟩

/-- Writing a new version of a row that is there. -/
theorem DispatchBefore.update (h₀ : s.dispatches.get? d.id = some d₀) (hs : SameDispatch d₀ d)
    (hg : d.boundGeneration = d₀.boundGeneration) (ha : d.accepted → d₀.accepted)
    (he : d.executing → d₀.executing ∨ OpenBetween s s d₀) : DispatchBefore s (dispatchTable.put s d) where
  fence := .of_eq rfl
  rows id e hid := by
    simp only [put_dispatches,Dict.get?_set]
    by_cases hd : id = d.id
    · subst hd
      obtain rfl : d₀ = e := by simpa [h₀] using hid
      exact ⟨d.payload,by simp,hs.trans (same_payload d),hg,ha,he⟩
    · exact ⟨e,by simp [hd,hid],.refl s _ e⟩
  inserted id e hid hnone := by
    simp only [put_dispatches,Dict.get?_set] at hid
    split at hid
    · next hd => subst hd; simp [h₀] at hnone
    · simp [hnone] at hid

theorem DispatchOk.update (h : DispatchOk s) (h₀ : s.dispatches.get? d.id = some d₀) (hs : SameDispatch d₀ d) :
    DispatchOk (dispatchTable.put s d) where
  fence := fun x row hx => h.fence x row hx
  filed := h.filed.set d.payload
  unique i j a b hi hj hx hk := by
    have back : ∀ {i a}, (s.dispatches.set d.id d.payload).get? i = some a →
        ∃ a₀, s.dispatches.get? i = some a₀ ∧ SameDispatch a₀ a := by
      intro i a hi
      rw [Dict.get?_set] at hi
      split at hi
      · next hid =>
        cases hi
        exact ⟨d₀,hid ▸ h₀,hs.trans (same_payload d)⟩
      · exact ⟨a,hi,.refl a⟩
    obtain ⟨a₀,ha₀,ha⟩ := back hi
    obtain ⟨b₀,hb₀,hb⟩ := back hj
    exact h.unique i j a₀ b₀ ha₀ hb₀ ((ha.instanceId.trans hx).trans hb.instanceId.symm)
      ((ha.idempotencyKey.trans hk).trans hb.idempotencyKey.symm)

theorem DispatchBefore.insert (hnone : s.dispatches.get? d.id = none) (hf : dispatchFenced s d = false) :
    DispatchBefore s (dispatchTable.put s d) where
  fence := .of_eq rfl
  rows id e hid := by
    refine ⟨e,?_,.refl s _ e⟩
    rw [put_dispatches,Dict.get?_set,if_neg (fun h => by simp [h,hnone] at hid),hid]
  inserted id e hid hid' row hrow hfenced := by
    simp only [put_dispatches,Dict.get?_set] at hid
    split at hid
    · cases hid
      simp only [AgentDispatchRequest.payload] at hrow
      simp [dispatchFenced,hrow,hfenced] at hf
    · simp [hid'] at hid

theorem DispatchOk.insert (h : DispatchOk s) (ht : dispatchTable.taken s d = false) :
    DispatchOk (dispatchTable.put s d) where
  fence := fun x row hx => h.fence x row hx
  filed := h.filed.set d.payload
  unique i j a b hi hj hx hk := by
    have free : ∀ {i a}, s.dispatches.get? i = some a → a.instanceId = d.instanceId →
        a.idempotencyKey = d.idempotencyKey → i = d.id := by
      intro i a hi hx hk
      have := List.any_eq_false.mp ht a (Dict.mem_values_of_get? hi)
      simpa [dispatchTable,hx,hk,h.filed i a hi] using this
    simp only [put_dispatches,Dict.get?_set] at hi hj
    split at hi
    · next hid =>
      cases hi
      split at hj
      · next hjd => exact hid.trans hjd.symm
      · exact hid.trans (free hj hx.symm hk.symm).symm
    · split at hj
      · next hjd =>
        cases hj
        exact (free hi hx hk).trans hjd.symm
      · exact h.unique i j a b hi hj hx hk

end Put
end Overseer.Agent
