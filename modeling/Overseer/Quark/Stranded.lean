import Overseer.Quark.SharedLimit

/-! # Reservations that stay behind

A slice that is left running is settled by a later cycle that asks about it. Only items with
a session and a recorded dispatch are ever asked about, and the answer is stored in the row of
their slice.
-/
namespace Overseer.Quark
open Overseer.Library Overseer.Agent

/-! ### What a write leaves alone -/

/-- Only the rows and slices of one item differ. -/
structure OnlyAt (workId : String) (s t : QuarkStore) : Prop where
  work : ∀ k, k ≠ workId → t.work.get? k = s.work.get? k
  slices : ∀ k g, k ≠ workId → t.slices k g = s.slices k g

theorem OnlyAt.refl (workId : String) (s : QuarkStore) : OnlyAt workId s s := ⟨fun _ _ => rfl,fun _ _ _ => rfl⟩

theorem OnlyAt.trans {workId : String} {s t u : QuarkStore} (h : OnlyAt workId s t) (h' : OnlyAt workId t u) : OnlyAt workId s u :=
  ⟨fun k hk => (h'.work k hk).trans (h.work k hk),fun k g hk => (h'.slices k g hk).trans (h.slices k g hk)⟩

theorem onlyAt_putWork {workId : String} (s : QuarkStore) {item : AgentWorkItem} (hid : item.id = workId) :
    OnlyAt workId s (s.putWork item) := by
  refine ⟨fun k hk => ?_,fun _ _ _ => rfl⟩
  rw [QuarkStore.putWork_work,hid,if_neg hk]

theorem onlyAt_putSlice (workId : String) (s : QuarkStore) (generation : ℕ) (row : SliceRow) :
    OnlyAt workId s (s.putSlice workId generation row) := by
  refine ⟨fun _ _ => rfl,fun k g hk => ?_⟩
  rw [QuarkStore.putSlice_slices,if_neg fun h => hk h.1]

theorem saveWork_only {workId : String} {item : AgentWorkItem} (hid : item.id = workId) (t : QuarkStore) :
    (QuarkTx.saveWork item).Post t fun _ t' => OnlyAt workId t t' := onlyAt_putWork t hid

theorem recordSliceObservation_post (workId : String) (generation : ℕ) (o : Observation) (t : QuarkStore) :
    (QuarkTx.recordSliceObservation workId generation o).Post t fun _ t' =>
      (∃ row, t.slices workId generation = some row) ∧ OnlyAt workId t t' := by
  unfold QuarkTx.recordSliceObservation QuarkTx.loadSlice
  simp only [Tx.post_bind,Tx.post_read,Tx.post_orRaise]
  intro row hrow
  unfold liftTx
  cases row.usedIfKnown o.capacityAfter with
  | error e => trivial
  | ok units => exact ⟨⟨row,hrow⟩,onlyAt_putSlice workId t generation _⟩

theorem recordSliceCheckpoint_only (workId : String) (generation : ℕ) (c : Checkpoint) (t : QuarkStore) :
    (QuarkTx.recordSliceCheckpoint workId generation c).Post t fun _ t' => OnlyAt workId t t' := by
  unfold QuarkTx.recordSliceCheckpoint QuarkTx.loadSlice
  simp only [Tx.post_bind,Tx.post_read,Tx.post_orRaise]
  intro row _
  unfold liftTx
  cases row.used c.quotaAfter with
  | error e => trivial
  | ok units =>
    simp only [Tx.post_pure,Tx.post_write,QuarkTx.loadWork,Tx.post_bind,Tx.post_read,Tx.post_orRaise,QuarkTx.saveWork]
    intro item hitem
    have hid : item.id = workId := QuarkStore.keyed _ _ _ hitem
    exact (onlyAt_putSlice workId t generation _).trans (onlyAt_putWork _ hid)

theorem recordSliceStart_only (workId : String) (generation : ℕ) (quotaBefore : Option ℚ) (lifetimeTokens : Option ℤ) (observedAt : String)
    (t : QuarkStore) :
    (QuarkTx.recordSliceStart workId generation quotaBefore lifetimeTokens observedAt).Post t fun _ t' => OnlyAt workId t t' := by
  unfold QuarkTx.recordSliceStart QuarkTx.loadWork QuarkTx.saveWork
  simp only [Tx.post_bind,Tx.post_read,Tx.post_orRaise,Tx.post_write]
  intro item hitem
  have hid : item.id = workId := t.keyed _ _ hitem
  exact (onlyAt_putSlice workId t generation _).trans (onlyAt_putWork _ hid)

theorem markWaitingCapacity_only (workId : String) (resumeAt : Option String) (reason : String) (t : QuarkStore) :
    (QuarkTx.markWaitingCapacity workId resumeAt reason).Post t fun _ t' => OnlyAt workId t t' := by
  unfold QuarkTx.markWaitingCapacity QuarkTx.loadWork QuarkTx.saveWork
  simp only [Tx.post_bind,Tx.post_read,Tx.post_orRaise,Tx.post_write]
  intro item hitem
  have hid : item.id = workId := t.keyed _ _ hitem
  exact onlyAt_putWork t hid

/-! ### A row that no one asks about -/

/-- The row of an item and the slice of its generation are these. -/
def Fixed (row : AgentWorkItem) (slice : Option SliceRow) (t : QuarkStore) : Prop :=
  t.work.get? row.id = some row ∧ t.slices row.id row.generation = slice

theorem Fixed.only {row : AgentWorkItem} {slice : Option SliceRow} {t t' : QuarkStore} {workId : String} (h : Fixed row slice t)
    (honly : OnlyAt workId t t') (hne : workId ≠ row.id) : Fixed row slice t' :=
  ⟨(honly.work _ hne.symm).trans h.1,(honly.slices _ _ hne.symm).trans h.2⟩

namespace Cycle
section Fixed
variable {row : AgentWorkItem} {slice : Option SliceRow} {t : QuarkStore} {valid : (q : QuarkQuery) → QuarkAnswer q → Prop}

theorem recordResult_only (item : AgentWorkItem) (result : SliceResult) (capacityAfter : Option ℚ) (lifetimeTokens : Option ℤ)
    (observedAt : String) (t : QuarkStore) :
    (recordResult item result capacityAfter lifetimeTokens observedAt : QuarkTx _).Post t fun _ t' => OnlyAt item.id t t' := by
  unfold recordResult
  simp only [Tx.post_bind]
  refine (recordSliceObservation_post _ _ _ t).mono fun _ t₁ h₁ => ?_
  have h₂ : OnlyAt item.id t (t₁.putWork (recordedWork item result capacityAfter observedAt)) := h₁.2.trans (onlyAt_putWork t₁ recordedWork_id)
  change Tx.Post (checkpointIfAny item.id item.generation _) (t₁.putWork (recordedWork item result capacityAfter observedAt)) _
  cases checkpointOf result capacityAfter lifetimeTokens observedAt with
  | none => exact h₂
  | some c => exact (recordSliceCheckpoint_only _ _ c _).mono fun _ t₃ h₃ => h₂.trans h₃

theorem atomically_fixed {α : Type} {tx : QuarkTx α} {workId : String} (htx : ∀ t, tx.Post t fun _ t' => OnlyAt workId t t')
    (hne : workId ≠ row.id) (ht : Fixed row slice t) :
    (atomically tx : QuarkProg α).Wp valid (Fixed row slice) (fun _ _ => True) t :=
  Prog.wp_transaction ht (fun _ _ hok => ⟨ht.only ((htx t).of_ok hok) hne,trivial⟩) fun _ _ => trivial

theorem then_fixed {α β : Type} {p : QuarkProg α} {f : α → QuarkProg β} (hp : p.Wp valid (Fixed row slice) (fun _ _ => True) t)
    (hf : ∀ a t', Fixed row slice t' → (f a).Wp valid (Fixed row slice) (fun _ _ => True) t') :
    (p.bind f).Wp valid (Fixed row slice) (fun _ _ => True) t := by
  apply Prog.Wp.bind
  refine hp.mono (fun _ h => h) fun r t' ht' _ => ?_
  cases r with
  | error e => trivial
  | ok a => exact hf a t' ht'

theorem recordResult_fixed {item : AgentWorkItem} (hne : item.id ≠ row.id) (result : SliceResult) (capacityAfter : Option ℚ)
    (lifetimeTokens : Option ℤ) (observedAt : String) (ht : Fixed row slice t) :
    (recordResult item result capacityAfter lifetimeTokens observedAt : QuarkProg _).Wp valid (Fixed row slice) (fun _ _ => True) t := by
  unfold recordResult
  refine then_fixed (atomically_fixed (fun t => (recordSliceObservation_post _ _ _ t).mono fun _ _ h => h.2) hne ht) fun _ t₁ h₁ => ?_
  refine then_fixed (atomically_fixed (saveWork_only recordedWork_id) hne h₁) fun _ t₂ h₂ => ?_
  refine then_fixed ?_ fun _ t₃ h₃ => ⟨h₃,trivial⟩
  cases checkpointOf result capacityAfter lifetimeTokens observedAt with
  | none => exact ⟨h₂,trivial⟩
  | some c => exact atomically_fixed (recordSliceCheckpoint_only _ _ c) hne h₂

/-- A result is written under its own item, and not at all without a slice. -/
theorem persist_fixed {item : AgentWorkItem} (hitem : item.id ≠ row.id ∨ item = row ∧ slice = none) (held : Held) (result : SliceResult)
    (capacityAfter : Option ℚ) (snapshot : UsageSnapshot) (ht : Fixed row slice t) :
    (persistExecutionResult held item result capacityAfter snapshot).Wp valid (Fixed row slice) (fun _ _ => True) t := by
  -- without a slice the first statement raises
  have hmissing : item = row ∧ slice = none → ∀ o a t', ¬ QuarkTx.recordSliceObservation item.id item.generation o t = .ok (a,t') := by
    rintro ⟨rfl,rfl⟩ o a t' hok
    obtain ⟨⟨found,hfound⟩,-⟩ := (recordSliceObservation_post _ _ _ t).of_ok hok
    rw [ht.2] at hfound
    cases hfound
  unfold persistExecutionResult
  split
  · exact (rejectResult_wp ht).mono (fun _ h => h) fun _ _ _ _ => trivial
  apply Prog.Wp.bind
  refine (observedAt_wp ht snapshot).mono (fun _ h => h) fun r t' _ heq => ?_
  subst heq
  cases r with
  | error e => trivial
  | ok clock =>
    unfold Prog.After
    dsimp only
    split
    · apply Prog.Wp.holding
      rcases hitem with hne | hsame
      · exact recordResult_fixed hne result capacityAfter snapshot.lifetimeTokens clock ht
      · apply Prog.Wp.bind
        exact Prog.wp_transaction ht (fun a t'' hok => absurd hok (hmissing hsame _ a t'')) fun _ _ => trivial
    · next expected _ =>
      apply Prog.Wp.bind
      refine Prog.wp_transaction ht (fun outcome t'' hok => ?_) fun _ _ => trivial
      rcases underWorkBinding_cases item.id expected
          (recordResult item result capacityAfter snapshot.lifetimeTokens clock) t' with ⟨e,hrun⟩ | ⟨current,hrun⟩ | ⟨found,payload,s',hrun,-,-,hbody⟩
      · rw [hrun] at hok
        cases hok
      · rw [hrun] at hok
        cases hok
        exact ⟨ht,(rejectResult_wp ht).mono (fun _ h => h) fun _ _ _ _ => trivial⟩
      · rw [hrun] at hok
        cases hok
        rcases hitem with hne | hsame
        · have hkept := ht.only ((recordResult_only _ _ _ _ _ t').of_ok hbody) hne
          exact ⟨hkept,hkept,trivial⟩
        · exfalso
          unfold recordResult at hbody
          cases hobserve : (recordSliceObservation item.id item.generation
              (observation result capacityAfter snapshot.lifetimeTokens clock) : QuarkTx Unit) t' with
          | error e =>
            rw [Tx.bind_of_error hobserve] at hbody
            cases hbody
          | ok r => exact hmissing hsame _ r.1 r.2 hobserve

theorem orRaise_fixed {α : Type} (o : Option α) (e : QuarkError) (ht : Fixed row slice t) :
    (orRaise o e : QuarkProg α).Wp valid (Fixed row slice) (fun _ _ => True) t := by
  cases o with
  | none => exact ⟨ht,trivial⟩
  | some a => exact ⟨ht,trivial⟩

theorem ask_fixed (q : QuarkQuery) (ht : Fixed row slice t) :
    (Prog.ask q : QuarkProg (QuarkAnswer q)).Wp valid (Fixed row slice) (fun _ _ => True) t :=
  Prog.wp_ask ht fun _ _ => trivial

theorem reconcileAll_fixed {remainingCapacity : Option ℚ} {before : UsageSnapshot} (items : List AgentWorkItem)
    (hitems : ∀ item ∈ items, item.id ≠ row.id ∨ item = row ∧ slice = none) (ht : Fixed row slice t) :
    (reconcileAll remainingCapacity before items).Wp valid (Fixed row slice) (fun _ _ => True) t := by
  induction items generalizing t with
  | nil => exact ⟨ht,trivial⟩
  | cons item rest ih =>
    refine then_fixed (then_fixed (ask_fixed _ ht) fun answer t₁ h₁ => orRaise_fixed answer _ h₁) fun result t₁ h₁ => ?_
    refine then_fixed (persist_fixed (hitems item List.mem_cons_self) _ result _ before h₁) fun payload t₂ h₂ => ?_
    exact then_fixed (ih (fun other hother => hitems other (List.mem_cons_of_mem _ hother)) h₂) fun _ t₃ h₃ => ⟨h₃,trivial⟩

theorem sweepAll_fixed {resumeAt : Option String} {reason : String} (items : List AgentWorkItem) (hitems : ∀ item ∈ items, item.id ≠ row.id)
    (ht : Fixed row slice t) : (sweepAll resumeAt reason items).Wp valid (Fixed row slice) (fun _ _ => True) t := by
  induction items generalizing t with
  | nil => exact ⟨ht,trivial⟩
  | cons item rest ih =>
    refine then_fixed (atomically_fixed (markWaitingCapacity_only _ _ _) (hitems item List.mem_cons_self) ht).holding fun _ t₁ h₁ => ?_
    exact ih (fun other hother => hitems other (List.mem_cons_of_mem _ hother)) h₁

theorem executeSlice_fixed {limitId : String} {remainingCapacity : Option ℚ} {before : UsageSnapshot} {a : WorkAllocation}
    (hne : a.workId ≠ row.id) (ht : Fixed row slice t) :
    (executeSlice limitId remainingCapacity before a).Wp valid (Fixed row slice) (fun _ _ => True) t := by
  apply Prog.Wp.bind
  refine (loadWork_wp ht a.workId).mono (fun _ h => h) fun r t₀ _ hr => ?_
  obtain ⟨rfl,hload⟩ := hr
  cases r with
  | error e => trivial
  | ok item =>
  have hid : item.id = a.workId := t₀.keyed _ _ (hload item rfl)
  have hne' : item.id ≠ row.id := hid ▸ hne
  apply Prog.Wp.bind
  refine (observedAt_wp ht before).mono (fun _ h => h) fun r t₁ _ heq => ?_
  subst heq
  cases r with
  | error e => trivial
  | ok startedAt =>
  refine then_fixed (atomically_fixed (saveWork_only (show (reserved item a startedAt).id = item.id from rfl)) hne' ht).holding fun _ t₂ h₂ => ?_
  refine then_fixed (atomically_fixed (recordSliceStart_only _ _ _ _ _) hne' h₂) fun _ t₃ h₃ => ?_
  refine then_fixed (then_fixed (ask_fixed _ h₃) fun answer t' h' => orRaise_fixed answer _ h') fun result t₄ h₄ => ?_
  refine then_fixed (then_fixed (ask_fixed _ h₄) fun answer t' h' => orRaise_fixed answer _ h') fun after t₅ h₅ => ?_
  refine then_fixed (orRaise_fixed _ _ h₅) fun afterWindow t₆ h₆ => ?_
  apply Prog.Wp.bind
  refine (loadWork_wp h₆ item.id).mono (fun _ h => h) fun r t₇ h₇ hr => ?_
  obtain ⟨rfl,hload'⟩ := hr
  cases r with
  | error e => trivial
  | ok current =>
    have hcurrent : current.id = item.id := t₇.keyed _ _ (hload' current rfl)
    exact persist_fixed (.inl (hcurrent ▸ hne')) _ result _ after h₇

theorem executeAll_fixed {limitId : String} {remainingCapacity : Option ℚ} {before : UsageSnapshot} (allocations : List WorkAllocation)
    (hallocations : ∀ a ∈ allocations, a.workId ≠ row.id) (ht : Fixed row slice t) :
    (executeAll limitId remainingCapacity before allocations).Wp valid (Fixed row slice) (fun _ _ => True) t := by
  induction allocations generalizing t with
  | nil => exact ⟨ht,trivial⟩
  | cons a rest ih =>
    refine then_fixed (executeSlice_fixed (hallocations a List.mem_cons_self) ht) fun payload t₁ h₁ => ?_
    exact then_fixed (ih (fun b hb => hallocations b (List.mem_cons_of_mem _ hb)) h₁) fun _ t₂ h₂ => ⟨h₂,trivial⟩

/-- A plan starts and puts off only eligible work. -/
theorem planCycle_fixed {execute : Bool} {p : Planning} {before : UsageSnapshot} {work : List AgentWorkItem} {payloads : List ExecutionPayload}
    (hids : (work.map (·.id)).Nodup) (hwork : ∀ item ∈ work, item.state ∈ eligibleStates → item.id ≠ row.id) (ht : Fixed row slice t) :
    (planCycle execute p before work payloads).Wp valid (Fixed row slice) (fun _ _ => True) t := by
  apply Prog.Wp.bind
  refine (liftPlan_wp ht _).mono (fun _ h => h) fun r t' _ hr => ?_
  obtain ⟨rfl,hr⟩ := hr
  cases r with
  | error e => trivial
  | ok plan =>
  have hallocations : ∀ a ∈ p.selection plan, a.workId ≠ row.id := by
    intro a ha
    obtain ⟨_,-,hslices⟩ := planQuarkWork_slices p.service.policy hids (hr plan rfl)
    obtain ⟨-,-,-,item,hitem,hid,-,hstate⟩ := hslices a ((List.take_sublist _ _).subset ha)
    exact hid ▸ hwork item hitem hstate
  change Prog.Wp _ _ _ (if plan.allocations = [] then _ else if execute = true then _ else _) t'
  split
  · refine then_fixed (sweepAll_fixed _ (fun item hitem => ?_) ht) fun _ t₁ h₁ => ⟨h₁,trivial⟩
    obtain ⟨hmem,hstate⟩ := List.mem_filter.mp hitem
    exact hwork item hmem (of_decide_eq_true hstate)
  · split
    · exact then_fixed (executeAll_fixed _ hallocations ht) fun _ t₁ h₁ => ⟨h₁,trivial⟩
    · exact ⟨ht,trivial⟩

theorem listed_fixed {service : QuarkSchedulerService} {limitId : String} (ht : Fixed row slice t) {item : AgentWorkItem}
    (hitem : item ∈ service.workForLimit limitId t) :
    item.id ≠ row.id ∨ item = row ∧ row.limitId = limitId ∧ service.workFilter row = true := by
  by_cases hid : item.id = row.id
  · obtain ⟨hrow,hlimit,hfilter⟩ := mem_workForLimit.mp hitem
    rw [hid,ht.1] at hrow
    cases hrow
    exact .inr ⟨rfl,hlimit,hfilter⟩
  · exact .inl hid

theorem workForLimit_wp {service : QuarkSchedulerService} {limitId : String} {held : Held} {I : QuarkStore → Prop} (ht : I t) :
    (workForLimit service limitId held).Wp valid I (fun r t' => t' = t ∧ ∀ work, r = .ok work → work = service.workForLimit limitId t) t := by
  apply Prog.Wp.bind
  apply Prog.Wp.holding
  refine Prog.wp_transaction ht (fun rows t' hok => ?_) fun _ h => (by cases h)
  cases hok
  exact ⟨ht,ht,rfl,fun _ h => (by cases h; rfl)⟩

/-- A cycle that does not plan on a row and cannot settle it leaves it as it is. -/
theorem runCycle_fixed {service : QuarkSchedulerService} {execute : Bool} {limitId : String}
    (hplan : row.limitId = limitId → service.workFilter row = true → row.state ∉ eligibleStates)
    (hsettle : row.limitId = limitId → service.workFilter row = true → reconcilable row = true → slice = none) (ht : Fixed row slice t) :
    (runCycle service execute limitId).Wp valid (Fixed row slice) (fun _ _ => True) t := by
  have hwork : ∀ {t'}, Fixed row slice t' → ∀ item ∈ service.workForLimit limitId t', item.state ∈ eligibleStates → item.id ≠ row.id := by
    intro t' ht' item hitem hstate
    rcases listed_fixed ht' hitem with hne | ⟨rfl,hlimit,hfilter⟩
    · exact hne
    · exact absurd hstate (hplan hlimit hfilter)
  refine then_fixed (then_fixed (ask_fixed _ ht) fun answer t' h' => orRaise_fixed answer _ h') fun before t₁ h₁ => ?_
  refine then_fixed (orRaise_fixed _ _ h₁) fun window t₂ h₂ => ?_
  apply Prog.Wp.bind
  refine (workForLimit_wp h₂).mono (fun _ h => h) fun r t₃ h₃ hr => ?_
  obtain ⟨rfl,hr⟩ := hr
  cases r with
  | error e => trivial
  | ok work =>
  have hlisted := hr work rfl
  subst hlisted
  change (listedCycle _ _ _ _).Wp _ _ _ t₃
  unfold listedCycle
  split
  · apply Prog.Wp.bind
    refine (liftPlan_wp h₃ _).mono (fun _ h => h) fun r t₄ h₄ _ => ?_
    cases r with
    | error e => trivial
    | ok plan => exact ⟨h₄,trivial⟩
  · split
    · refine then_fixed (reconcileAll_fixed _ (fun item hitem => ?_) h₃) fun payloads t₄ h₄ => ?_
      · obtain ⟨hmem,hrec⟩ := List.mem_filter.mp hitem
        rcases listed_fixed h₃ hmem with hne | ⟨rfl,hlimit,hfilter⟩
        · exact .inl hne
        · exact .inr ⟨rfl,hsettle hlimit hfilter hrec⟩
      · apply Prog.Wp.bind
        refine (workForLimit_wp h₄).mono (fun _ h => h) fun r t₅ h₅ hr => ?_
        obtain ⟨rfl,hr⟩ := hr
        cases r with
        | error e => trivial
        | ok work =>
          have hlisted := hr work rfl
          subst hlisted
          exact planCycle_fixed (workForLimit_ids _ _ _) (hwork h₅) h₅
    · exact planCycle_fixed (workForLimit_ids _ _ _) (hwork h₃) h₃

/-- A cycle whose listing is of several units changes nothing. -/
theorem runCycle_blocked {service : QuarkSchedulerService} {execute : Bool} {limitId : String} {s : QuarkStore}
    (hunits : ¬ OneUnit (service.workForLimit limitId s)) :
    (runCycle service execute limitId).Wp valid (fun t => t = s) (fun _ _ => True) s := by
  apply Prog.Wp.bind
  apply Prog.Wp.bind
  refine Prog.wp_ask rfl fun answer _ => ?_
  refine (orRaise_wp (I := fun t => t = s) rfl answer _).mono (fun _ h => h) fun r t hs _ => ?_
  cases r with
  | error e => trivial
  | ok before =>
  subst hs
  apply Prog.Wp.bind
  refine (orRaise_wp (I := fun t' => t' = t) rfl (usageWindow before limitId) _).mono (fun _ h => h) fun r t' hs _ => ?_
  cases r with
  | error e => trivial
  | ok window =>
  subst hs
  apply Prog.Wp.bind
  refine (workForLimit_wp (I := fun t'' => t'' = t') rfl).mono (fun _ h => h) fun r t'' hs hr => ?_
  subst hs
  cases r with
  | error e => trivial
  | ok work =>
  have hlisted := hr.2 work rfl
  subst hlisted
  change (listedCycle _ _ _ _).Wp _ _ _ t''
  unfold listedCycle
  split
  · apply Prog.Wp.bind
    refine (liftPlan_wp (I := fun t => t = t'') rfl _).mono (fun _ h => h) fun r t₄ h₄ _ => ?_
    cases r with
    | error e => trivial
    | ok plan => exact ⟨h₄,trivial⟩
  · next hmatch => exact absurd (oneUnit_of_match hmatch) hunits

end Fixed
end Cycle

/-! ### Which reservations can be settled -/

/-- One executing cycle of the command line or the tools, run to its end. -/
def CycleRun (s s' : QuarkStore) : Prop := ∃ (entry : EntryPoint) (policy : QuarkUsagePolicy) (canReconcile : Bool) (limitId : String) (log : _)
    (r : _), (Cycle.runCycle (entry.service policy canReconcile) true limitId).Solo s log r s'

/-- Further cycles can bring the item out of the running state with nothing reserved. -/
def Recoverable (s : QuarkStore) (workId : String) : Prop :=
  ∃ t, Relation.ReflTransGen CycleRun s t ∧ ∃ row, t.work.get? workId = some row ∧ row.state ≠ .running ∧ row.reservedUnits = 0

/-- The items of a limit that provider-native cycles list. -/
def sessionWork (limitId : String) (s : QuarkStore) : List AgentWorkItem :=
  (EntryPoint.providerNative.service .standard true).workForLimit limitId s

structure Settleable (s : QuarkStore) (row : AgentWorkItem) : Prop where
  session : row.agentSessionId ≠ none
  dispatch : row.providerDispatchId ≠ none
  slice : ∃ slice, s.slices row.id row.generation = some slice
  unit : OneUnit (sessionWork row.limitId s)

theorem mem_sessionWork {limitId : String} {s : QuarkStore} {item : AgentWorkItem} :
    item ∈ sessionWork limitId s ↔ s.work.get? item.id = some item ∧ item.limitId = limitId ∧ item.agentSessionId ≠ none := by
  unfold sessionWork
  rw [mem_workForLimit]
  simp [EntryPoint.service,EntryPoint.workFilter]

theorem session_of_reconcilable {row : AgentWorkItem} (h : Cycle.reconcilable row = true) :
    row.agentSessionId ≠ none ∧ row.providerDispatchId ≠ none := by
  simp only [Cycle.reconcilable,decide_eq_true_eq] at h
  exact h.2

theorem session_of_legacy {row : AgentWorkItem} {policy : QuarkUsagePolicy} {canReconcile : Bool}
    (h : (EntryPoint.legacy.service policy canReconcile).workFilter row = true) : row.agentSessionId = none := by
  change EntryPoint.legacy.workFilter row = true at h
  rw [EntryPoint.workFilter_eq] at h
  simp only [EntryPoint.passes,decide_eq_true_eq] at h
  exact h.1

section Stuck
variable {s t : QuarkStore} {row : AgentWorkItem}

theorem running_not_eligible (h : row.state = .running) : row.state ∉ eligibleStates := by
  rw [h]
  decide

/-- A running item that cannot be settled stays as it is, and cannot be settled later either. -/
theorem stuck_step (hrow : s.work.get? row.id = some row) (hrunning : row.state = .running) (hstuck : ¬ Settleable s row)
    (h : CycleRun s t) : t.work.get? row.id = some row ∧ ¬ Settleable t row := by
  obtain ⟨entry,policy,canReconcile,limitId,log,r,hrun⟩ := h
  have hkeeps : ∀ {item : AgentWorkItem}, s.work.get? item.id = some item →
      (item.limitId = limitId → (entry.service policy canReconcile).workFilter item = true → item.state ∉ eligibleStates) →
      (item.limitId = limitId → (entry.service policy canReconcile).workFilter item = true → Cycle.reconcilable item = true →
        s.slices item.id item.generation = none) →
      Fixed item (s.slices item.id item.generation) t := by
    intro item hitem hplan hsettle
    have hwp : (Cycle.runCycle (entry.service policy canReconcile) true limitId).Wp (fun _ _ => True)
        (Fixed item (s.slices item.id item.generation)) (fun _ _ => True) s := Cycle.runCycle_fixed hplan hsettle ⟨hitem,rfl⟩
    exact hwp.cut hrun.cut fun _ _ => trivial
  by_cases hunit : OneUnit (sessionWork row.limitId s)
  · have hslice : Cycle.reconcilable row = true → s.slices row.id row.generation = none := by
      intro hrec
      obtain ⟨hsession,hdispatch⟩ := session_of_reconcilable hrec
      cases hfound : s.slices row.id row.generation with
      | none => rfl
      | some slice => exact absurd ⟨hsession,hdispatch,⟨slice,hfound⟩,hunit⟩ hstuck
    have hfixed := hkeeps hrow (fun _ _ => running_not_eligible hrunning) fun _ _ => hslice
    refine ⟨hfixed.1,fun hsettle => hstuck ⟨hsettle.session,hsettle.dispatch,?_,hunit⟩⟩
    obtain ⟨slice,hfound⟩ := hsettle.slice
    exact ⟨slice,hfixed.2 ▸ hfound⟩
  · by_cases hnative : entry = .providerNative ∧ limitId = row.limitId
    · -- the only cycle that lists the session work of the limit is blocked by its units
      obtain ⟨rfl,rfl⟩ := hnative
      have hwp : (Cycle.runCycle (EntryPoint.providerNative.service policy canReconcile) true row.limitId).Wp (fun _ _ => True)
          (fun t => t = s) (fun _ _ => True) s := Cycle.runCycle_blocked hunit
      have hsame : t = s := hwp.cut hrun.cut fun _ _ => trivial
      rw [hsame]
      exact ⟨hrow,hstuck⟩
    · have hother : ∀ {item : AgentWorkItem}, item.limitId = row.limitId → item.agentSessionId ≠ none → item.limitId = limitId →
          (entry.service policy canReconcile).workFilter item = true → False := by
        intro item hlimit hsession hlimit' hfilter
        cases entry with
        | legacy => exact hsession (session_of_legacy hfilter)
        | providerNative => exact hnative ⟨rfl,hlimit'.symm.trans hlimit⟩
      have hfixed := hkeeps hrow (fun _ _ => running_not_eligible hrunning)
        fun hlimit hfilter hrec => (hother rfl (session_of_reconcilable hrec).1 hlimit hfilter).elim
      refine ⟨hfixed.1,fun hsettle => hunit ?_⟩
      obtain ⟨unit,hunits⟩ := hsettle.unit
      refine ⟨unit,fun item hitem hstate => hunits item ?_ hstate⟩
      obtain ⟨hitemRow,hlimit,hsession⟩ := mem_sessionWork.mp hitem
      have hitemFixed := hkeeps hitemRow (fun hlimit' hfilter => (hother hlimit hsession hlimit' hfilter).elim)
        fun hlimit' hfilter _ => (hother hlimit hsession hlimit' hfilter).elim
      exact mem_sessionWork.mpr ⟨hitemFixed.1,hlimit,hsession⟩

theorem stuck_not_recoverable (hrow : s.work.get? row.id = some row) (hrunning : row.state = .running) (hstuck : ¬ Settleable s row) :
    ¬ Recoverable s row.id := by
  have hkept : ∀ {t}, Relation.ReflTransGen CycleRun s t → t.work.get? row.id = some row ∧ ¬ Settleable t row := by
    intro t hruns
    induction hruns with
    | refl => exact ⟨hrow,hstuck⟩
    | tail _ hstep ih => exact stuck_step ih.1 hrunning ih.2 hstep
  rintro ⟨t,hruns,row',hrow',hstate,-⟩
  rw [(hkept hruns).1] at hrow'
  cases hrow'
  exact hstate hrunning

end Stuck

/-! ### The cycle that settles one -/

def failed : SliceResult := { terminal := some true, successful := some false }

/-- The slice of one item has failed; the others are left as they are. -/
def settling (workId : String) (before : UsageSnapshot) : ∀ q, QuarkAnswer q
  | .refresh => some before
  | .timestamp => ""
  | .runSlice _ _ _ => none
  | .reconcileSlice item _ => if item.id = workId then some failed else some stillRunning

/-- The item is no longer running and has nothing reserved. -/
def Settled (row : AgentWorkItem) : Prop := row.state = .reconcileRequired ∧ row.reservedUnits = 0

namespace Cycle
section Settle
variable {s t : QuarkStore} {row : AgentWorkItem} {before : UsageSnapshot}

theorem other_perform {workId : String} (before : UsageSnapshot) (remainingCapacity : Option ℚ) {item : AgentWorkItem} (hne : item.id ≠ workId)
    (hrow : t.work.get? item.id = some item) : (reconcileSlice item).perform (settling workId before) t = (.ok stillRunning,t) ∧
      ∃ payload, (persistExecutionResult (.settling item) item stillRunning remainingCapacity before).perform (settling workId before) t =
        (.ok payload,t) := by
  constructor
  · change (orRaise (if item.id = workId then some failed else some stillRunning) _ : QuarkProg SliceResult).perform _ t = _
    rw [if_neg hne]
    rfl
  · exact rejectResult_perform _ stillRunning hrow

theorem others_perform (workId : String) (before : UsageSnapshot) (remainingCapacity : Option ℚ) (items : List AgentWorkItem)
    (hitems : ∀ item ∈ items, item.id ≠ workId ∧ t.work.get? item.id = some item) :
    ∃ payloads, (reconcileAll remainingCapacity before items).perform (settling workId before) t = (.ok payloads,t) := by
  induction items with
  | nil => exact ⟨[],rfl⟩
  | cons item rest ih =>
    obtain ⟨hne,hrow⟩ := hitems item List.mem_cons_self
    obtain ⟨payloads,hrest⟩ := ih fun other hother => hitems other (List.mem_cons_of_mem _ hother)
    obtain ⟨hask,payload,hreject⟩ := other_perform before remainingCapacity hne hrow
    refine ⟨payload :: payloads,?_⟩
    refine (Prog.perform_bind hask).trans ?_
    refine (Prog.perform_bind hreject).trans ?_
    exact Prog.perform_bind hrest

theorem settle_perform (before : UsageSnapshot) {slice : SliceRow} (hslice : t.slices row.id row.generation = some slice) (held : Held) :
    ∃ payload t' row', (persistExecutionResult held row failed none before).perform (settling row.id before) t = (.ok payload,t') ∧
      OnlyAt row.id t t' ∧ t'.work.get? row.id = some row' ∧ Settled row' ∧ row'.id = row.id := by
  obtain ⟨clock,hclock⟩ := observedAt_perform (settling row.id before) t before
  let o := observation failed none before.lifetimeTokens clock
  have hobserve : QuarkTx.recordSliceObservation row.id row.generation o t =
      .ok ((),t.putSlice row.id row.generation (slice.observed o none)) := by
    have hread : (Tx.read (fun s => s.slices row.id row.generation) : QuarkTx _) t = .ok (some slice,t) := by rw [← hslice]; rfl
    unfold QuarkTx.recordSliceObservation QuarkTx.loadSlice
    rw [Tx.bind_of_ok (Tx.bind_of_ok hread)]
    rfl
  let t₁ := t.putSlice row.id row.generation (slice.observed o none)
  have hrecord : (recordResult row failed none before.lifetimeTokens clock : QuarkProg _).perform (settling row.id before) t =
      (.ok (recordedPayload row failed none),t₁.putWork (recordedWork row failed none clock)) := by
    refine (Prog.perform_bind (Prog.perform_transaction hobserve)).trans ?_
    rfl
  refine ⟨recordedPayload row failed none,t₁.putWork (recordedWork row failed none clock),recordedWork row failed none clock,
    ?_,?_,?_,⟨rfl,rfl⟩,rfl⟩
  · unfold persistExecutionResult
    rw [if_neg (by decide)]
    refine (Prog.perform_bind hclock).trans ?_
    change (Prog.holding held _).perform _ _ = _
    rw [Prog.perform_holding]
    exact hrecord
  · exact (onlyAt_putSlice _ _ _ _).trans (onlyAt_putWork t₁ rfl)
  · rw [QuarkStore.putWork_work]
    exact if_pos rfl

/-- Among all that are asked about, the one is settled. -/
theorem reconcileAll_settles (before : UsageSnapshot) {slice : SliceRow} (items : List AgentWorkItem) (hids : (items.map (·.id)).Nodup)
    (hrows : ∀ item ∈ items, t.work.get? item.id = some item) (hmem : row ∈ items) (hslice : t.slices row.id row.generation = some slice) :
    ∃ payloads t' row', (reconcileAll none before items).perform (settling row.id before) t = (.ok payloads,t') ∧
      t'.work.get? row.id = some row' ∧ Settled row' ∧ row'.id = row.id := by
  induction items with
  | nil => cases hmem
  | cons item rest ih =>
    rw [List.map_cons,List.nodup_cons] at hids
    by_cases hid : item.id = row.id
    · have hitem : item = row := by
        have h₁ := hrows item List.mem_cons_self
        have h₂ := hrows row hmem
        rw [hid,h₂] at h₁
        cases h₁
        rfl
      subst hitem
      obtain ⟨payload,t',row',hsettle,honly,hrow',hsettled,hid'⟩ := settle_perform before hslice (.settling item)
      obtain ⟨payloads,hrest⟩ := others_perform (t := t') item.id before none rest (by
        intro other hother
        have hne : other.id ≠ item.id := fun h => hids.1 (h ▸ List.mem_map_of_mem hother)
        exact ⟨hne,(honly.work _ hne).trans (hrows other (List.mem_cons_of_mem _ hother))⟩)
      refine ⟨payload :: payloads,t',row',?_,hrow',hsettled,hid'⟩
      have hask : (reconcileSlice item).perform (settling item.id before) t = (.ok failed,t) := by
        change (orRaise (if item.id = item.id then some failed else some stillRunning) _ : QuarkProg SliceResult).perform _ t = _
        rw [if_pos rfl]
        rfl
      refine (Prog.perform_bind hask).trans ?_
      refine (Prog.perform_bind hsettle).trans ?_
      exact Prog.perform_bind hrest
    · have hmem' : row ∈ rest := (List.mem_cons.mp hmem).resolve_left fun h => hid (by rw [h])
      obtain ⟨payloads,t',row',hrest,hrow',hsettled,hid'⟩ := ih hids.2 (fun other hother => hrows other (List.mem_cons_of_mem _ hother)) hmem'
      obtain ⟨hask,payload,hreject⟩ := other_perform before none hid (hrows item List.mem_cons_self)
      refine ⟨payload :: payloads,t',row',?_,hrow',hsettled,hid'⟩
      refine (Prog.perform_bind hask).trans ?_
      refine (Prog.perform_bind hreject).trans ?_
      exact Prog.perform_bind hrest

/-- The usage of a limit whose capacity is not known. -/
def unknownUsage (limitId unit : String) : UsageSnapshot where
  rateLimits := [⟨limitId,[{ name := "primary", usageUnit := some unit }]⟩]
  observedAt := some "now"

theorem usageWindow_unknown (limitId unit : String) :
    usageWindow (unknownUsage limitId unit) limitId = some { name := "primary", usageUnit := some unit } := by
  simp [usageWindow,unknownUsage]

/-- A cycle in which the slice is found to have failed, and the capacity is not known. -/
theorem settleable_recoverable (hrow : s.work.get? row.id = some row) (hrunning : row.state = .running) (h : Settleable s row) :
    Recoverable s row.id := by
  obtain ⟨slice,hslice⟩ := h.slice
  obtain ⟨unit,hunit⟩ := h.unit
  let service := EntryPoint.providerNative.service .standard true
  let before := unknownUsage row.limitId unit
  let window : UsageWindow := { name := "primary", usageUnit := some unit }
  let p : Planning := ⟨service,row.limitId,window,true⟩
  have hwindow : usageWindow before row.limitId = some window := usageWindow_unknown _ _
  have hlisted : row ∈ service.workForLimit row.limitId s := mem_sessionWork.mpr ⟨hrow,rfl,h.session⟩
  have hmatch : usageUnitMismatchReason window (service.workForLimit row.limitId s) row.limitId = none := by
    refine match_of_oneUnit rfl hunit hlisted ?_
    rw [hrunning]
    exact List.mem_cons_self
  have hrec : row ∈ (service.workForLimit row.limitId s).filter reconcilable := by
    refine List.mem_filter.mpr ⟨hlisted,?_⟩
    simp [reconcilable,hrunning,h.session,h.dispatch]
  obtain ⟨payloads,t,row',hsettle,hrow',hsettled,hid⟩ := reconcileAll_settles before _
    ((workForLimit_ids service row.limitId s).sublist (List.filter_sublist.map _))
    (fun item hitem => (mem_workForLimit.mp (List.mem_filter.mp hitem).1).1) hrec hslice
  -- what is left of the cycle does not touch the settled row
  let rest : QuarkProg CycleResult := do
    let work ← workForLimit service row.limitId (.planning { p with checksUnit := false })
    planCycle true p before work payloads
  have hrest : rest.Wp (fun q a => a = settling row.id before q) (Fixed row' (t.slices row'.id row'.generation)) (fun _ _ => True) t := by
    apply Prog.Wp.bind
    refine (workForLimit_wp ⟨by rw [hid]; exact hrow',rfl⟩).mono (fun _ h => h) fun r t' ht' hr => ?_
    obtain ⟨rfl,hr⟩ := hr
    cases r with
    | error e => trivial
    | ok work =>
      have hwork := hr work rfl
      subst hwork
      refine planCycle_fixed (workForLimit_ids _ _ _) (fun item hitem hstate => ?_) ht'
      rcases listed_fixed ht' hitem with hne | ⟨rfl,-,-⟩
      · exact hne
      · rw [hsettled.1] at hstate
        simp [eligibleStates] at hstate
  have hfixed := hrest.perform
  have hrun : (runCycle service true row.limitId).perform (settling row.id before) s = rest.perform (settling row.id before) t := by
    rw [runCycle_call]
    change (cycleFrom service true row.limitId before).perform (settling row.id before) s = _
    refine (Prog.perform_bind (window_perform hwindow)).trans ?_
    refine (Prog.perform_bind (workForLimit_perform service _)).trans ?_
    change (listedCycle true p before (service.workForLimit row.limitId s)).perform _ s = _
    unfold listedCycle
    rw [hmatch]
    exact Prog.perform_bind hsettle
  obtain ⟨log,hsolo,-⟩ := Prog.perform_solo (settling row.id before) (runCycle service true row.limitId) s
  rw [hrun] at hsolo
  refine ⟨_,.single ⟨_,_,_,_,log,_,hsolo⟩,row',?_,?_,hsettled.2⟩
  · have hkept := hfixed.1
    rw [hid] at hkept
    exact hkept
  · rw [hsettled.1]
    decide

end Settle
end Cycle

/-- A running item can be brought out of its state by further cycles exactly when it has a session, a
recorded dispatch and the row of its slice, and the session work of its limit is of one unit. -/
theorem stranded_iff (s : QuarkStore) {workId : String} {row : AgentWorkItem} (hrow : s.work.get? workId = some row)
    (hrunning : row.state = .running) : Recoverable s workId ↔ Settleable s row := by
  have hid : row.id = workId := s.keyed _ _ hrow
  subst hid
  constructor
  · intro hrecoverable
    by_contra hstuck
    exact stuck_not_recoverable hrow hrunning hstuck hrecoverable
  · exact Cycle.settleable_recoverable hrow hrunning

/-- An executing cycle that may be cut off anywhere. -/
def CycleCut (s s' : QuarkStore) : Prop := ∃ (entry : EntryPoint) (policy : QuarkUsagePolicy) (canReconcile : Bool) (limitId : String) (log : _),
    (Cycle.runCycle (entry.service policy canReconcile) true limitId).Cut s log s'

def oneLegacyItem : QuarkStore := QuarkStore.empty.putWork { AgentWorkItem.small "legacy" "q" with ownerThread := some "thread" }

/-- There is capacity, and `run_slice` raises. -/
def raising : ∀ q, QuarkAnswer q
  | .refresh => some (fullUsage "codex" 100 "quota_points")
  | .timestamp => ""
  | .runSlice _ _ _ => none
  | .reconcileSlice _ _ => none

theorem legacy_item_stranded : ∃ s row, Relation.ReflTransGen CycleCut oneLegacyItem s ∧ s.work.get? "legacy" = some row ∧
    row.state = .running ∧ ¬ Recoverable s "legacy" := by
  let cycle := Cycle.runCycle (EntryPoint.legacy.service .standard true) true "codex"
  let s := (cycle.perform raising oneLegacyItem).2
  have hrow : (s.work.get? "legacy").map (fun row => (row.state,row.agentSessionId)) = some (.running,none) := by decide +kernel
  obtain ⟨log,hsolo,-⟩ := Prog.perform_solo raising cycle oneLegacyItem
  obtain ⟨row,hget,hfields⟩ := Option.map_eq_some_iff.mp hrow
  have hstate : row.state = .running := congrArg Prod.fst hfields
  have hsession : row.agentSessionId = none := congrArg Prod.snd hfields
  have hid : row.id = "legacy" := s.keyed _ _ hget
  refine ⟨s,row,.single ⟨_,_,_,_,log,hsolo.cut⟩,hget,hstate,?_⟩
  rw [← hid] at hget ⊢
  exact stuck_not_recoverable hget hstate fun h => h.session hsession

def dispatchedItem : AgentWorkItem := { Cycle.runningItem with agentSessionId := some "session", providerDispatchId := some "dispatch" }

def dispatchedStore : QuarkStore :=
  (QuarkStore.empty.putWork dispatchedItem).putSlice "w" 1 (startedSlice dispatchedItem 1 (some 40) none "then")

theorem stranded_iff_dispatched : Recoverable dispatchedStore "w" := by
  have hrow : dispatchedStore.work.get? "w" = some dispatchedItem := rfl
  have hwork : sessionWork "codex" dispatchedStore = [dispatchedItem] := by decide +kernel
  refine (stranded_iff dispatchedStore hrow rfl).mpr ⟨nofun,nofun,⟨_,rfl⟩,"quota_points",fun item hitem _ => ?_⟩
  change item ∈ sessionWork "codex" dispatchedStore at hitem
  rw [hwork,List.mem_singleton] at hitem
  rw [hitem]
  rfl

end Overseer.Quark
