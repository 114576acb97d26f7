import Overseer.Quark.Figures
import Overseer.Quark.SharedLimit
import Overseer.Library.Quiet
import Mathlib.Algebra.Order.BigOperators.Group.Finset

/-! # What the slices of a cycle used

Every slice of a cycle is charged with the capacity that the cycle began with less the one
observed after it. The charges add up to what the cycle used only when no capacity moved
before the slices of the last item.
-/
namespace Overseer.Quark
open Overseer.Library Overseer.Agent

/-! ### Charges -/

section Charges
variable {K : Type} [DecidableEq K]

/-- The last reading for a key. -/
def lastReading (k : K) : List (K × ℚ) → Option ℚ
  | [] => none
  | p :: rest => (lastReading k rest).or (if p.1 = k then some p.2 else none)

theorem lastReading_mem {k : K} {ps : List (K × ℚ)} {r : ℚ} (h : lastReading k ps = some r) : (k,r) ∈ ps := by
  induction ps with
  | nil => cases h
  | cons p rest ih =>
    rw [lastReading] at h
    cases hrest : lastReading k rest with
    | some r' =>
      rw [hrest,Option.some_or] at h
      cases h
      exact List.mem_cons_of_mem _ (ih hrest)
    | none =>
      rw [hrest,Option.none_or] at h
      split_ifs at h with hk
      cases h
      exact List.mem_cons.mpr (.inl (Prod.ext hk.symm rfl))

theorem lastReading_le {k : K} {ps : List (K × ℚ)} (hps : (ps.map Prod.snd).Pairwise (· ≥ ·)) {r : ℚ} (hr : (k,r) ∈ ps) :
    ∃ r', lastReading k ps = some r' ∧ r' ≤ r := by
  induction ps with
  | nil => cases hr
  | cons p rest ih =>
    rw [List.map_cons,List.pairwise_cons] at hps
    rw [lastReading]
    cases hrest : lastReading k rest with
    | some r' =>
      refine ⟨r',Option.some_or,?_⟩
      rcases List.mem_cons.mp hr with rfl | hr
      · exact hps.1 r' (List.mem_map.mpr ⟨_,lastReading_mem hrest,rfl⟩)
      · obtain ⟨r'',hlast,hle⟩ := ih hps.2 hr
        rw [hrest] at hlast
        cases hlast
        exact hle
    | none =>
      rcases List.mem_cons.mp hr with rfl | hr
      · exact ⟨r,by simp,le_rfl⟩
      · obtain ⟨r'',hlast,-⟩ := ih hps.2 hr
        rw [hrest] at hlast
        cases hlast

theorem lastReading_concat (ps : List (K × ℚ)) (p : K × ℚ) : lastReading p.1 (ps ++ [p]) = some p.2 := by
  induction ps with
  | nil => simp [lastReading]
  | cons q rest ih => rw [List.cons_append,lastReading,ih,Option.some_or]

/-- What a key is charged with: the capacity at the beginning less the last reading. -/
def charge (r₀ : ℚ) (ps : List (K × ℚ)) (k : K) : ℚ := (lastReading k ps).elim 0 fun r => max 0 (r₀ - r)

theorem charge_nonneg (r₀ : ℚ) (ps : List (K × ℚ)) (k : K) : 0 ≤ charge r₀ ps k := by
  unfold charge
  cases lastReading k ps with
  | none => exact le_rfl
  | some r => exact le_max_left _ _

/-- The charges add up to the whole fall exactly when nothing fell before the last key's readings. -/
theorem charges_telescope {r₀ : ℚ} {ps : List (K × ℚ)} {last : K × ℚ} (hps : ((r₀ :: (ps ++ [last]).map Prod.snd)).Pairwise (· ≥ ·)) :
    ∑ k ∈ ((ps ++ [last]).map Prod.fst).toFinset, charge r₀ (ps ++ [last]) k = r₀ - last.2 ↔
      ∀ p ∈ ps ++ [last], p.1 ≠ last.1 → p.2 = r₀ := by
  obtain ⟨hle,hfalling⟩ := List.pairwise_cons.mp hps
  have hmem : last.1 ∈ ((ps ++ [last]).map Prod.fst).toFinset := by simp
  have hlast : charge r₀ (ps ++ [last]) last.1 = r₀ - last.2 := by
    have hr : last.2 ≤ r₀ := hle _ (by simp)
    rw [charge,lastReading_concat]
    exact max_eq_right (by linarith)
  rw [← Finset.add_sum_erase _ _ hmem,hlast,add_eq_left,Finset.sum_eq_zero_iff_of_nonneg fun k _ => charge_nonneg _ _ k]
  constructor
  · intro hzero p hp hne
    obtain ⟨r,hr,hrp⟩ := lastReading_le hfalling hp
    have hcharge := hzero p.1 (Finset.mem_erase.mpr ⟨hne,List.mem_toFinset.mpr (List.mem_map.mpr ⟨p,hp,rfl⟩)⟩)
    rw [charge,hr] at hcharge
    have hr₀ : r₀ - r ≤ 0 := hcharge ▸ le_max_right 0 (r₀ - r)
    have hp₀ : p.2 ≤ r₀ := hle _ (List.mem_map.mpr ⟨p,hp,rfl⟩)
    linarith
  · intro hall k hk
    obtain ⟨hne,hk⟩ := Finset.mem_erase.mp hk
    rw [charge]
    cases hr : lastReading k (ps ++ [last]) with
    | none => rfl
    | some r =>
      have hr₀ : r = r₀ := hall (k,r) (lastReading_mem hr) hne
      simp [hr₀]

/-- The same about the keys and the readings as two lists. -/
theorem charged_sum_iff {r₀ : ℚ} {rs : List ℚ} {keys : List K} (hlength : rs.length = keys.length)
    (hfalling : (r₀ :: rs).Pairwise (· ≥ ·)) :
    ∑ k ∈ keys.toFinset, charge r₀ (keys.zip rs) k = r₀ - (r₀ :: rs).getLast (List.cons_ne_nil _ _) ↔
      ∀ p ∈ keys.zip rs, ∀ last ∈ keys.getLast?, p.1 ≠ last → p.2 = r₀ := by
  rcases List.eq_nil_or_concat keys with rfl | ⟨keys,lastKey,rfl⟩
  · obtain rfl : rs = [] := List.eq_nil_of_length_eq_zero hlength
    simp
  · rcases List.eq_nil_or_concat rs with rfl | ⟨rs,lastRate,rfl⟩
    · simp at hlength
    · have hlength' : keys.length = rs.length := by simpa using hlength.symm
      have hzip : (keys ++ [lastKey]).zip (rs ++ [lastRate]) = keys.zip rs ++ [(lastKey,lastRate)] := by
        rw [List.zip_append hlength']
        rfl
      have hfst : (keys.zip rs ++ [(lastKey,lastRate)]).map Prod.fst = keys ++ [lastKey] := by
        rw [← hzip,List.map_fst_zip]
        simp [hlength']
      have hsnd : (keys.zip rs ++ [(lastKey,lastRate)]).map Prod.snd = rs ++ [lastRate] := by
        rw [← hzip,List.map_snd_zip]
        simp [hlength']
      have htelescope := @charges_telescope K _ r₀ (keys.zip rs) (lastKey,lastRate) (by rw [hsnd]; simpa using hfalling)
      rw [hfst] at htelescope
      simpa [hzip] using htelescope

theorem lastReading_isSome {k : K} {keys : List K} {rs : List ℚ} (hlength : rs.length = keys.length)
    (hk : k ∈ keys) : (lastReading k (keys.zip rs)).isSome := by
  induction keys generalizing rs with
  | nil => cases hk
  | cons key keys ih =>
    cases rs with
    | nil => simp at hlength
    | cons r rs =>
      rw [List.zip_cons_cons,lastReading,Option.isSome_or]
      rcases List.mem_cons.mp hk with rfl | hk
      · simp
      · rw [ih (by simpa using hlength) hk,Bool.true_or]

end Charges

/-! ### What a slice is charged with -/

/-- The units that a row of a slice says were used. -/
def actualUnits (s : QuarkStore) (k : String × ℕ) : Option ℚ := (s.slices k.1 k.2).bind (·.actualUnits)

/-- The slice `k` has used `r₀ - r`, and the other slices are as they were. -/
def Charged (r₀ r : ℚ) (k : String × ℕ) (s s' : QuarkStore) : Prop :=
  ∀ k', actualUnits s' k' = if k' = k then some (max 0 (r₀ - r)) else actualUnits s k'

theorem actualUnits_putSlice (s : QuarkStore) (k k' : String × ℕ) (row : SliceRow) :
    actualUnits (s.putSlice k.1 k.2 row) k' = if k' = k then row.actualUnits else actualUnits s k' := by
  by_cases hk : k' = k
  · subst hk
    simp [actualUnits]
  · have hne : ¬ (k'.1 = k.1 ∧ k'.2 = k.2) := fun h => hk (Prod.ext h.1 h.2)
    simp [actualUnits,hk,hne]

namespace Cycle
section Slices
variable {limitId : String} {t t' : QuarkStore} {before : UsageSnapshot} {r₀ r : ℚ} {log : List (Σ q, QuarkAnswer q)}

theorem usedIfKnown_some {row : SliceRow} (hrow : row.quotaBefore = some r₀) :
    row.usedIfKnown (some r) = .ok (some (max 0 (r₀ - r))) := by
  simp only [SliceRow.usedIfKnown,SliceRow.used,hrow]
  rfl

theorem Charged.again {k : String × ℕ} {s s₁ s' : QuarkStore} (h : Charged r₀ r k s s₁) (h' : Charged r₀ r k s₁ s') : Charged r₀ r k s s' := by
  intro k'
  rw [h' k',h k']
  split_ifs <;> rfl

/-- The row of a slice that was started at the capacity `r₀`. -/
def StartedAt (r₀ : ℚ) (workId : String) (generation : ℕ) (s : QuarkStore) : Prop :=
  ∃ row, s.slices workId generation = some row ∧ row.quotaBefore = some r₀

theorem recordSliceObservation_charged {workId : String} {generation : ℕ} {o : Observation} (ht : StartedAt r₀ workId generation t)
    (ho : o.capacityAfter = some r) : (QuarkTx.recordSliceObservation workId generation o).Post t fun _ t' =>
      StartedAt r₀ workId generation t' ∧ Charged r₀ r (workId,generation) t t' := by
  obtain ⟨row₀,hrow₀,hquota⟩ := ht
  unfold QuarkTx.recordSliceObservation QuarkTx.loadSlice
  simp only [Tx.post_bind,Tx.post_read,Tx.post_orRaise]
  intro row hrow
  rw [hrow₀] at hrow
  cases hrow
  rw [ho,usedIfKnown_some hquota]
  refine ⟨⟨row₀.observed o (some (max 0 (r₀ - r))),by simp,hquota⟩,fun k' => ?_⟩
  exact actualUnits_putSlice t (workId,generation) k' _

theorem recordSliceCheckpoint_charged {workId : String} {generation : ℕ} {c : Checkpoint} (ht : StartedAt r₀ workId generation t)
    (hc : c.quotaAfter = r) : (QuarkTx.recordSliceCheckpoint workId generation c).Post t fun _ t' =>
      Charged r₀ r (workId,generation) t t' := by
  obtain ⟨row₀,hrow₀,hquota⟩ := ht
  unfold QuarkTx.recordSliceCheckpoint QuarkTx.loadSlice QuarkTx.loadWork QuarkTx.saveWork
  simp only [Tx.post_bind,Tx.post_read,Tx.post_orRaise]
  intro row hrow
  rw [hrow₀] at hrow
  cases hrow
  have hused : row₀.used c.quotaAfter = .ok (max 0 (r₀ - r)) := by
    rw [hc]
    simp only [SliceRow.used,hquota]
  rw [hused]
  intro item _ k'
  exact actualUnits_putSlice t (workId,generation) k' _

/-- A recorded result charges the slice of its item. -/
theorem recordResult_charged {item : AgentWorkItem} {result : SliceResult} {lifetimeTokens : Option ℤ} {observedAt : String}
    (ht : StartedAt r₀ item.id item.generation t) :
    (recordResult item result (some r) lifetimeTokens observedAt : QuarkTx _).Post t fun _ t' =>
      Charged r₀ r (item.id,item.generation) t t' := by
  unfold recordResult
  simp only [Tx.post_bind]
  refine (recordSliceObservation_charged ht rfl).mono fun _ t₁ h₁ => ?_
  change Tx.Post (checkpointIfAny item.id item.generation _) (t₁.putWork (recordedWork item result (some r) observedAt)) _
  have hcheckpoint : ∀ c, checkpointOf result (some r) lifetimeTokens observedAt = some c → c.quotaAfter = r := by
    intro c hc
    unfold checkpointOf at hc
    split_ifs at hc
    cases hc
    rfl
  cases hc : checkpointOf result (some r) lifetimeTokens observedAt with
  | none => exact h₁.2
  | some c =>
    refine (recordSliceCheckpoint_charged (t := t₁.putWork (recordedWork item result (some r) observedAt)) h₁.1 (hcheckpoint c hc)).mono
      fun _ t₂ h₂ => Charged.again h₁.2 h₂

/-! ### What is asked -/

/-- The capacity that an answer to a refresh shows. -/
def observedCapacity (limitId : String) : (Σ q, QuarkAnswer q) → Option (Option ℚ)
  | ⟨.refresh,some snapshot⟩ => some ((usageWindow snapshot limitId).bind windowRemainingCapacity)
  | _ => none

/-- The capacities that a run observes, in order. -/
def observedCapacities (limitId : String) (log : List (Σ q, QuarkAnswer q)) : List (Option ℚ) := log.filterMap (observedCapacity limitId)

/-- The slice that a call of the executor starts: its item and its generation. -/
def calledSlice : (Σ q, QuarkAnswer q) → Option (String × ℕ)
  | ⟨.runSlice _ allocation _,_⟩ => some (allocation.workId,allocation.generation)
  | _ => none

/-- The slices that a run starts, in order. -/
def startedSlices (log : List (Σ q, QuarkAnswer q)) : List (String × ℕ) := log.filterMap calledSlice

/-- The questions that observe a capacity or start a slice. -/
def Counted : QuarkQuery → Prop
  | .refresh | .runSlice _ _ _ => True
  | .timestamp | .reconcileSlice _ _ => False

/-- The program neither asks for the usage nor starts a slice. -/
abbrev Blind {α : Type} (p : QuarkProg α) : Prop := Prog.Silent Counted p

/-- Nothing was observed and nothing started. -/
structure Idle (limitId : String) (log : List (Σ q, QuarkAnswer q)) : Prop where
  capacities : observedCapacities limitId log = []
  slices : startedSlices log = []

theorem Blind.idle {α : Type} {p : QuarkProg α} [hp : Blind p] {result : Except QuarkError α} (h : p.Solo t log result t') :
    Idle limitId log := by
  have hlog : ∀ e ∈ log, observedCapacity limitId e = none ∧ calledSlice e = none := by
    intro e he
    have hnot := hp.asks.solo h e he
    obtain ⟨q,answer⟩ := e
    cases q with
    | refresh => exact absurd trivial hnot
    | timestamp => exact ⟨rfl,rfl⟩
    | runSlice => exact absurd trivial hnot
    | reconcileSlice => exact ⟨rfl,rfl⟩
  exact ⟨List.filterMap_eq_nil_iff.mpr fun e he => (hlog e he).1,List.filterMap_eq_nil_iff.mpr fun e he => (hlog e he).2⟩

instance (snapshot : UsageSnapshot) : Blind (observedAt snapshot) := by
  unfold observedAt
  split
  · split
    · exact ⟨Prog.asks_ask (by simp [Counted])⟩
    · infer_instance
  · exact ⟨Prog.asks_ask (by simp [Counted])⟩

instance (item : AgentWorkItem) (result : SliceResult) : Blind (rejectResult item result) := by
  refine ⟨Prog.Asks.bind (n := 0) (m := 0) (Prog.Asks.handle (n := 0) (m := 0) Prog.asks_transaction fun e => ?_) fun _ => trivial⟩
  cases e <;> trivial

theorem recordResult_silent (isIt : QuarkQuery → Prop) (item : AgentWorkItem) (result : SliceResult) (capacityAfter : Option ℚ)
    (lifetimeTokens : Option ℤ) (observedAt : String) :
    Prog.Silent isIt (recordResult item result capacityAfter lifetimeTokens observedAt : QuarkProg _) := by
  have hcheckpoint : ∀ c, Prog.Silent isIt (checkpointIfAny item.id item.generation c : QuarkProg Unit) := by
    intro c
    unfold checkpointIfAny
    cases c with
    | none => infer_instance
    | some c => exact ⟨Prog.asks_transaction⟩
  unfold recordResult recordSliceObservation saveWork
  infer_instance

instance (item : AgentWorkItem) (result : SliceResult) (capacityAfter : Option ℚ) (lifetimeTokens : Option ℤ) (observedAt : String) :
    Blind (recordResult item result capacityAfter lifetimeTokens observedAt : QuarkProg _) :=
  recordResult_silent Counted item result capacityAfter lifetimeTokens observedAt

instance (held : Held) (item : AgentWorkItem) (result : SliceResult) (capacityAfter : Option ℚ) (snapshot : UsageSnapshot) :
    Blind (persistExecutionResult held item result capacityAfter snapshot) := by
  unfold persistExecutionResult
  split
  · infer_instance
  · refine ⟨Prog.Asks.bind (n := 0) (m := 0) (Prog.Silent.asks) fun clock => ?_⟩
    split
    · exact Prog.Silent.asks
    · refine Prog.Asks.bind (n := 0) (m := 0) Prog.asks_transaction fun outcome => ?_
      split
      · exact Prog.Silent.asks
      · exact Prog.Silent.asks

instance (running : AgentWorkItem) : Blind (reconcileSlice running) := by
  unfold reconcileSlice
  exact ⟨Prog.Asks.bind (n := 0) (m := 0) (Prog.asks_ask (by simp [Counted])) fun result => Prog.Silent.asks⟩

theorem reconcileAll_blind (remainingCapacity : Option ℚ) (before : UsageSnapshot) (items : List AgentWorkItem) :
    Blind (reconcileAll remainingCapacity before items) := by
  induction items with
  | nil => exact ⟨trivial⟩
  | cons running rest ih =>
    unfold reconcileAll
    infer_instance

theorem sweepAll_blind (resumeAt : Option String) (reason : String) (items : List AgentWorkItem) :
    Blind (sweepAll resumeAt reason items) := by
  induction items with
  | nil => exact ⟨trivial⟩
  | cons item rest ih =>
    unfold sweepAll markWaitingCapacity
    infer_instance

instance (plan : ExceptT PlanError Option QuarkWorkPlan) : Blind (liftPlan plan) := by
  unfold liftPlan
  split <;> infer_instance

instance (service : QuarkSchedulerService) (held : Held) : Blind (workForLimit service limitId held) := by
  unfold workForLimit listWork
  infer_instance

/-! ### One slice -/

theorem observedCapacities_append (log log' : List (Σ q, QuarkAnswer q)) :
    observedCapacities limitId (log ++ log') = observedCapacities limitId log ++ observedCapacities limitId log' :=
  List.filterMap_append

theorem startedSlices_append (log log' : List (Σ q, QuarkAnswer q)) : startedSlices (log ++ log') = startedSlices log ++ startedSlices log' :=
  List.filterMap_append

theorem Idle.append {log' : List (Σ q, QuarkAnswer q)} (h : Idle limitId log) (h' : Idle limitId log') : Idle limitId (log ++ log') :=
  ⟨by rw [observedCapacities_append,h.capacities,h'.capacities]; rfl,by rw [startedSlices_append,h.slices,h'.slices]; rfl⟩

theorem observedAt_solo {snapshot : UsageSnapshot} {clock : String} (h : (observedAt snapshot).Solo t log (.ok clock) t') : t' = t := by
  have hsame : (observedAt snapshot).Wp (fun _ _ => True) (fun _ => True) (fun _ t' => t' = t) t := observedAt_wp trivial snapshot
  exact hsame.solo h fun _ _ => trivial

theorem rejectResult_performed {item : AgentWorkItem} {result : SliceResult} {payload : ExecutionPayload}
    (h : (rejectResult item result).Solo t log (.ok payload) t') : payload.persistencePerformed = false := by
  obtain ⟨durableItem,t₁,l₁,l₂,-,hrest,-⟩ := h.bind_ok
  cases hrest
  rfl

theorem recordResult_solo {item : AgentWorkItem} {result : SliceResult} {capacityAfter : Option ℚ} {lifetimeTokens : Option ℤ}
    {observedAt : String} {payload : ExecutionPayload}
    (h : (recordResult item result capacityAfter lifetimeTokens observedAt : QuarkProg _).Solo t log (.ok payload) t') :
    (recordResult item result capacityAfter lifetimeTokens observedAt : QuarkTx _) t = .ok (payload,t') := by
  obtain ⟨_,t₁,l₁,l₁',hobserved,h,-⟩ := h.bind_ok
  obtain ⟨_,t₂,l₂,l₂',hsaved,h,-⟩ := h.bind_ok
  obtain ⟨_,t₃,l₃,l₃',hchecked,h,-⟩ := h.bind_ok
  obtain ⟨rfl,rfl,-⟩ := h.pure_ok
  unfold recordResult
  rw [Tx.bind_of_ok (show (recordSliceObservation _ _ _ : QuarkTx _) t = _ from hobserved.transaction_ok.1),
    Tx.bind_of_ok (show (saveWork _ : QuarkTx _) t₁ = _ from hsaved.transaction_ok.1)]
  unfold checkpointIfAny at hchecked ⊢
  cases hc : checkpointOf result capacityAfter lifetimeTokens observedAt with
  | none =>
    rw [hc] at hchecked
    obtain ⟨-,rfl,-⟩ := hchecked.pure_ok
    rfl
  | some c =>
    rw [hc] at hchecked
    rw [Tx.bind_of_ok (show (recordSliceCheckpoint _ _ _ : QuarkTx _) t₂ = _ from hchecked.transaction_ok.1)]
    rfl

/-- A result that was stored charges the slice of its item. -/
theorem persist_charged {held : Held} {item : AgentWorkItem} {result : SliceResult} {snapshot : UsageSnapshot} {payload : ExecutionPayload}
    (h : (persistExecutionResult held item result (some r) snapshot).Solo t log (.ok payload) t')
    (hperformed : payload.persistencePerformed = true) (ht : StartedAt r₀ item.id item.generation t) :
    Charged r₀ r (item.id,item.generation) t t' := by
  unfold persistExecutionResult at h
  split at h
  · rw [rejectResult_performed h] at hperformed
    cases hperformed
  · obtain ⟨clock,t₁,l₁,l₂,hclock,hrest,-⟩ := h.bind_ok
    rw [observedAt_solo hclock] at hrest
    split at hrest
    · exact (recordResult_charged ht).of_ok (recordResult_solo hrest.of_holding)
    · next expected _ =>
      obtain ⟨outcome,t₂,l₃,l₄,hcas,hdone,-⟩ := hrest.bind_ok
      have hrun := hcas.transaction_ok.1
      rcases underWorkBinding_cases item.id expected (recordResult item result (some r) snapshot.lifetimeTokens clock) t with
        ⟨e,herror⟩ | ⟨current,hrefused⟩ | ⟨row,stored,t₃,hcommitted,-,-,hbody⟩
      · rw [herror] at hrun
        cases hrun
      · rw [hrefused] at hrun
        cases hrun
        rw [rejectResult_performed hdone] at hperformed
        cases hperformed
      · rw [hcommitted] at hrun
        cases hrun
        obtain ⟨rfl,rfl,-⟩ := hdone.pure_ok
        exact (recordResult_charged ht).of_ok hbody

theorem loadWork_ok {workId : String} {item : AgentWorkItem} (h : (loadWork workId : QuarkProg _).Solo t log (.ok item) t') :
    t.work.get? workId = some item ∧ t' = t ∧ log = [] := by
  obtain ⟨hload,hlog⟩ := h.transaction_ok
  cases hrow : t.work.get? workId with
  | none =>
    simp only [QuarkTx.loadWork,Bind.bind,Tx.bind,Tx.read,hrow] at hload
    cases hload
  | some row =>
    rw [loadWork_run hrow] at hload
    cases hload
    exact ⟨rfl,rfl,hlog⟩

theorem recordSliceStart_started {workId : String} {generation : ℕ} {lifetimeTokens : Option ℤ} {startedAt : String} :
    (QuarkTx.recordSliceStart workId generation (some r₀) lifetimeTokens startedAt).Post t fun _ t' =>
      StartedAt r₀ workId generation t' ∧ (∃ row, t'.work.get? workId = some row ∧ row.generation = generation) ∧
      ∀ k, k ≠ (workId,generation) → actualUnits t' k = actualUnits t k := by
  unfold QuarkTx.recordSliceStart QuarkTx.loadWork QuarkTx.saveWork
  simp only [Tx.post_bind,Tx.post_read,Tx.post_orRaise,Tx.post_write]
  intro item hitem
  have hid : item.id = workId := t.keyed _ _ hitem
  refine ⟨⟨startedSlice item generation (some r₀) lifetimeTokens startedAt,by simp,rfl⟩,?_,fun k hk => ?_⟩
  · refine ⟨{ item with state := .running, generation, updatedAt := some startedAt },?_,rfl⟩
    rw [QuarkStore.putWork_work]
    exact if_pos hid.symm
  · exact (actualUnits_putSlice t (workId,generation) k _).trans (if_neg hk)

theorem runSlice_solo (limitId : String) {item : AgentWorkItem} {allocation : WorkAllocation} {result : SliceResult}
    (h : (runSlice item allocation).Solo t log (.ok result) t') :
    t' = t ∧ observedCapacities limitId log = [] ∧ startedSlices log = [(allocation.workId,allocation.generation)] := by
  obtain ⟨answer,t₁,l₁,l₂,hask,hanswer,rfl⟩ := h.bind_ok
  obtain ⟨rfl,rfl⟩ := hask.ask_ok
  obtain ⟨-,rfl,rfl⟩ := hanswer.orRaise_ok
  exact ⟨rfl,rfl,rfl⟩

theorem refresh_solo (limitId : String) {snapshot : UsageSnapshot} (h : refresh.Solo t log (.ok snapshot) t') :
    t' = t ∧ observedCapacities limitId log = [(usageWindow snapshot limitId).bind windowRemainingCapacity] ∧ startedSlices log = [] := by
  obtain ⟨answer,t₁,l₁,l₂,hask,hanswer,rfl⟩ := h.bind_ok
  obtain ⟨rfl,rfl⟩ := hask.ask_ok
  obtain ⟨rfl,rfl,rfl⟩ := hanswer.orRaise_ok
  exact ⟨rfl,rfl,rfl⟩

/-- A slice that was started and stored is charged with the capacity observed after it. -/
theorem executeSlice_charged {allocation : WorkAllocation} {payload : ExecutionPayload}
    (h : (executeSlice limitId (some r₀) before allocation).Solo t log (.ok payload) t')
    (hperformed : payload.persistencePerformed = true) : startedSlices log = [(allocation.workId,allocation.generation)] ∧
      ∃ capacity, observedCapacities limitId log = [capacity] ∧
        ∀ r, capacity = some r → Charged r₀ r (allocation.workId,allocation.generation) t t' := by
  obtain ⟨item,t₁,l₁,m₁,hitem,h₁,rfl⟩ := h.bind_ok
  obtain ⟨hrow,rfl,rfl⟩ := loadWork_ok hitem
  have hid : item.id = allocation.workId := t₁.keyed _ _ hrow
  obtain ⟨startedAt,t₂,l₂,m₂,hclock,h₂,rfl⟩ := h₁.bind_ok
  have hclocklog : Idle limitId l₂ := Blind.idle hclock
  obtain rfl := observedAt_solo hclock
  obtain ⟨_,t₃,l₃,m₃,hsave,h₃,rfl⟩ := h₂.bind_ok
  obtain ⟨hsaved,rfl⟩ := hsave.of_holding.transaction_ok
  cases hsaved
  obtain ⟨_,t₄,l₄,m₄,hstart,h₄,rfl⟩ := h₃.bind_ok
  obtain ⟨hstarted,rfl⟩ := hstart.transaction_ok
  obtain ⟨hslice,⟨row,hgenerated,hgeneration⟩,hother⟩ := recordSliceStart_started.of_ok hstarted
  obtain ⟨result,t₅,l₅,m₅,hrun,h₅,rfl⟩ := h₄.bind_ok
  obtain ⟨rfl,hrunlog,hstartedlog⟩ := runSlice_solo limitId hrun
  obtain ⟨after,t₆,l₆,m₆,hrefresh,h₆,rfl⟩ := h₅.bind_ok
  obtain ⟨rfl,hobservedlog,hrefreshlog⟩ := refresh_solo limitId hrefresh
  obtain ⟨afterWindow,t₇,l₇,m₇,hfound,h₇,rfl⟩ := h₆.bind_ok
  obtain ⟨hwindow,rfl,rfl⟩ := hfound.orRaise_ok
  obtain ⟨current,t₈,l₈,m₈,hload,h₈,rfl⟩ := h₇.bind_ok
  obtain ⟨hcurrent,rfl,rfl⟩ := loadWork_ok hload
  rw [hgenerated] at hcurrent
  cases hcurrent
  have hrowid : row.id = item.id := t₈.keyed _ _ hgenerated
  have hpersistlog : Idle limitId m₈ := Blind.idle h₈
  refine ⟨?_,windowRemainingCapacity afterWindow,?_,fun r hr => ?_⟩
  · simp only [startedSlices_append,hclocklog.slices,hstartedlog,hrefreshlog,hpersistlog.slices,List.nil_append,List.append_nil]
  · simp only [observedCapacities_append,hclocklog.capacities,hrunlog,hobservedlog,hpersistlog.capacities,hwindow,Option.bind_some,
      List.nil_append,List.append_nil]
  · rw [hr] at h₈
    rw [← hrowid,← hgeneration] at hslice hother
    have hkey : (row.id,row.generation) = (allocation.workId,allocation.generation) := by rw [hrowid,hid,hgeneration]
    intro k
    rw [persist_charged h₈ hperformed hslice k,hkey]
    split
    · rfl
    · next hk => exact hother k (by rw [hkey]; exact hk)

theorem executeAll_charged {allocations : List WorkAllocation} {payloads : List ExecutionPayload} {rs : List ℚ}
    (h : (executeAll limitId (some r₀) before allocations).Solo t log (.ok payloads) t')
    (hperformed : ∀ payload ∈ payloads, payload.persistencePerformed = true)
    (hobserved : observedCapacities limitId log = rs.map some) : rs.length = (startedSlices log).length ∧
      ∀ k, actualUnits t' k = (lastReading k ((startedSlices log).zip rs)).elim (actualUnits t k) fun r => some (max 0 (r₀ - r)) := by
  induction allocations generalizing t log payloads rs with
  | nil =>
    obtain ⟨rfl,rfl,rfl⟩ := h.pure_ok
    obtain rfl : rs = [] := by simpa [observedCapacities] using hobserved
    exact ⟨rfl,fun _ => rfl⟩
  | cons allocation rest ih =>
    obtain ⟨payload,t₁,l₁,m₁,hslice,h₁,rfl⟩ := h.bind_ok
    obtain ⟨others,t₂,l₂,m₂,hrest,h₂,rfl⟩ := h₁.bind_ok
    obtain ⟨rfl,rfl,rfl⟩ := h₂.pure_ok
    obtain ⟨hstarted,capacity,hcapacity,hcharged⟩ := executeSlice_charged hslice (hperformed payload List.mem_cons_self)
    rw [List.append_nil,observedCapacities_append,hcapacity] at hobserved
    rw [List.append_nil,startedSlices_append,hstarted]
    cases rs with
    | nil => simp at hobserved
    | cons r rs =>
      simp only [List.singleton_append,List.map_cons,List.cons.injEq] at hobserved
      obtain ⟨rfl,hobserved⟩ := hobserved
      obtain ⟨hlength,hall⟩ := ih hrest (fun p hp => hperformed p (List.mem_cons_of_mem _ hp)) hobserved
      refine ⟨by simp [hlength],fun k => ?_⟩
      rw [hall k,hcharged r rfl k,List.singleton_append,List.zip_cons_cons,lastReading]
      cases lastReading k ((startedSlices l₂).zip rs) with
      | some r' => rfl
      | none =>
        by_cases hk : k = (allocation.workId,allocation.generation)
        · simp [hk]
        · have hk' : ¬ (allocation.workId,allocation.generation) = k := fun h => hk h.symm
          simp [hk,hk']

/-! ### One cycle -/

/-- The part of a run that starts slices, after a part that is idle. -/
def Executes (limitId : String) (remainingCapacity : Option ℚ) (before : UsageSnapshot) (log : List (Σ q, QuarkAnswer q))
    (results : List ExecutionPayload) (s' : QuarkStore) : Prop :=
  ∃ t allocations l₁ l₂, log = l₁ ++ l₂ ∧ Idle limitId l₁ ∧
    (executeAll limitId remainingCapacity before allocations).Solo t l₂ (.ok results) s'

theorem Executes.after {remainingCapacity : Option ℚ} {results : List ExecutionPayload} {l l' : List (Σ q, QuarkAnswer q)}
    (hl : Idle limitId l) (h : Executes limitId remainingCapacity before l' results t') :
    Executes limitId remainingCapacity before (l ++ l') results t' := by
  obtain ⟨t,allocations,l₁,l₂,rfl,hl₁,hrun⟩ := h
  exact ⟨t,allocations,l ++ l₁,l₂,(List.append_assoc ..).symm,hl.append hl₁,hrun⟩

theorem executes_nothing {remainingCapacity : Option ℚ} (hlog : Idle limitId log) :
    Executes limitId remainingCapacity before log [] t' :=
  ⟨t',[],log,[],(List.append_nil log).symm,hlog,.ret [] t'⟩

theorem planCycle_executes {p : Planning} {work : List AgentWorkItem} {reconciled : List ExecutionPayload} {result : CycleResult}
    (h : (planCycle true p before work reconciled).Solo t log (.ok result) t') :
    Executes p.limitId (windowRemainingCapacity p.window) before log result.results t' := by
  obtain ⟨plan,t₁,l₁,m₁,hplan,h₁,rfl⟩ := h.bind_ok
  refine Executes.after (Blind.idle hplan) ?_
  split at h₁
  · obtain ⟨_,t₂,l₂,m₂,hsweep,h₂,rfl⟩ := h₁.bind_ok
    obtain ⟨rfl,rfl,rfl⟩ := h₂.pure_ok
    have := sweepAll_blind p.window.resetsAt plan.reason (work.filter (·.state ∈ eligibleStates))
    rw [List.append_nil]
    exact executes_nothing (Blind.idle hsweep)
  · obtain ⟨results,t₂,l₂,m₂,hexecute,h₂,rfl⟩ := h₁.bind_ok
    obtain ⟨rfl,rfl,rfl⟩ := h₂.pure_ok
    rw [List.append_nil]
    exact ⟨t₁,_,[],l₂,rfl,⟨rfl,rfl⟩,hexecute⟩

theorem listedCycle_executes {p : Planning} {work : List AgentWorkItem} {result : CycleResult}
    (h : (listedCycle true p before work).Solo t log (.ok result) t') :
    Executes p.limitId (windowRemainingCapacity p.window) before log result.results t' := by
  unfold listedCycle at h
  split at h
  · obtain ⟨plan,t₁,l₁,m₁,hplan,h₁,rfl⟩ := h.bind_ok
    obtain ⟨rfl,rfl,rfl⟩ := h₁.pure_ok
    exact Executes.after (Blind.idle hplan) (executes_nothing ⟨rfl,rfl⟩)
  · split at h
    · obtain ⟨reconciled,t₁,l₁,m₁,hreconcile,h₁,rfl⟩ := h.bind_ok
      obtain ⟨listed,t₂,l₂,m₂,hlist,h₂,rfl⟩ := h₁.bind_ok
      have := reconcileAll_blind (windowRemainingCapacity p.window) before (work.filter reconcilable)
      exact Executes.after (Blind.idle hreconcile) (Executes.after (Blind.idle hlist) (planCycle_executes h₂))
    · exact planCycle_executes h

/-- A cycle observes the capacity once, and then executes. -/
theorem runCycle_executes {service : QuarkSchedulerService} {result : CycleResult}
    (h : (runCycle service true limitId).Solo t log (.ok result) t') : ∃ before capacity l,
      observedCapacities limitId log = capacity :: observedCapacities limitId l ∧ startedSlices log = startedSlices l ∧
      Executes limitId capacity before l result.results t' := by
  obtain ⟨before,t₁,l₁,m₁,hrefresh,h₁,rfl⟩ := h.bind_ok
  obtain ⟨rfl,hobserved,hnone⟩ := refresh_solo limitId hrefresh
  obtain ⟨window,t₂,l₂,m₂,hfound,h₂,rfl⟩ := h₁.bind_ok
  obtain ⟨hwindow,rfl,rfl⟩ := hfound.orRaise_ok
  obtain ⟨work,t₃,l₃,m₃,hlist,h₃,rfl⟩ := h₂.bind_ok
  refine ⟨before,windowRemainingCapacity window,l₃ ++ m₃,?_,?_,Executes.after (Blind.idle hlist) (listedCycle_executes h₃)⟩
  · rw [observedCapacities_append,hobserved,hwindow]
    rfl
  · rw [startedSlices_append,hnone]
    rfl

end Slices
end Cycle

/-- The units recorded for slices, each slice once. -/
def attributedUnits (s : QuarkStore) (slices : List (String × ℕ)) : ℚ := ∑ k ∈ slices.toFinset, (actualUnits s k).getD 0

/-- Where all that was started is stored and the capacities that a cycle observes fall, the units
recorded for the slices it started are what the capacity fell by exactly when it had not fallen
after any slice but those of the last one's item. -/
theorem usage_attributed_iff {service : QuarkSchedulerService} {limitId : String} {s s' : QuarkStore} {log : List (Σ q, QuarkAnswer q)}
    {result : Cycle.CycleResult} (hrun : (Cycle.runCycle service true limitId).Solo s log (.ok result) s')
    (hstored : ∀ payload ∈ result.results, payload.persistencePerformed = true) {r₀ : ℚ} {rs : List ℚ}
    (hobserved : Cycle.observedCapacities limitId log = (r₀ :: rs).map some) (hfalling : (r₀ :: rs).Pairwise (· ≥ ·)) :
    attributedUnits s' (Cycle.startedSlices log) = r₀ - (r₀ :: rs).getLast (List.cons_ne_nil _ _) ↔
      ∀ p ∈ (Cycle.startedSlices log).zip rs, ∀ last ∈ (Cycle.startedSlices log).getLast?, p.1 ≠ last → p.2 = r₀ := by
  obtain ⟨before,capacity,l,hfirst,hstarted,t,allocations,l₁,l₂,rfl,hidle,hexecute⟩ := Cycle.runCycle_executes hrun
  rw [hfirst,Cycle.observedCapacities_append,hidle.capacities,List.nil_append,List.map_cons,List.cons.injEq] at hobserved
  obtain ⟨rfl,hobserved⟩ := hobserved
  rw [hstarted,Cycle.startedSlices_append,hidle.slices,List.nil_append]
  obtain ⟨hlength,hunits⟩ := Cycle.executeAll_charged hexecute hstored hobserved
  have hsum : attributedUnits s' (Cycle.startedSlices l₂) = ∑ k ∈ (Cycle.startedSlices l₂).toFinset,
      charge r₀ ((Cycle.startedSlices l₂).zip rs) k := by
    refine Finset.sum_congr rfl fun k hk => ?_
    obtain ⟨r,hr⟩ := Option.isSome_iff_exists.mp (lastReading_isSome hlength (List.mem_toFinset.mp hk))
    rw [hunits k,charge,hr]
    rfl
  rw [hsum]
  exact charged_sum_iff hlength hfalling

/-! ### Two items -/

/-- The usage says what is left after so many questions, and every slice comes to an end. -/
def fallingAnswers (left : List ℚ) (n : ℕ) : ∀ q, QuarkAnswer q
  | .refresh => some (fullUsage "codex" (left.getD n 0) "quota_points")
  | .timestamp => "now"
  | .runSlice _ _ _ | .reconcileSlice _ _ => some { exitCode := some 0, checkpointRef := some "saved" }

/-- Two items of two projects wait. -/
def twoItems : QuarkStore := (QuarkStore.empty.putWork (AgentWorkItem.small "w1" "p1")).putWork (AgentWorkItem.small "w2" "p2")

/-- Up to `maxConcurrentWork` slices are started. -/
def startsUpTo (maxConcurrentWork : ℕ) (hpos : 1 ≤ maxConcurrentWork) : QuarkSchedulerService where
  policy := { QuarkUsagePolicy.standard with maxConcurrentWork, concurrent_pos := hpos }

def fallingCycle (service : QuarkSchedulerService) (left : List ℚ) :
    List (Σ q, QuarkAnswer q) × Except QuarkError Cycle.CycleResult × QuarkStore :=
  (Cycle.runCycle service true "codex").play (fallingAnswers left) 0 twoItems

/-- The cycle came to an end, and its payloads say that they were stored. -/
def allStored (outcome : Except QuarkError Cycle.CycleResult) : Bool :=
  match outcome with
  | .ok result => result.results.all (·.persistencePerformed)
  | .error _ => false

theorem fallingCycle_stored (service : QuarkSchedulerService) (left : List ℚ) (h : allStored (fallingCycle service left).2.1 = true) :
    ∃ result, (Cycle.runCycle service true "codex").Solo twoItems (fallingCycle service left).1 (.ok result) (fallingCycle service left).2.2 ∧
      ∀ payload ∈ result.results, payload.persistencePerformed = true := by
  have hrun := Prog.play_solo (fallingAnswers left) 0 (Cycle.runCycle service true "codex") twoItems
  cases hok : (fallingCycle service left).2.1 with
  | error e =>
    rw [hok] at h
    cases h
  | ok result =>
    rw [show (Prog.play (fallingAnswers left) 0 (Cycle.runCycle service true "codex") twoItems).2.1 = .ok result from hok] at hrun
    rw [hok] at h
    exact ⟨result,hrun,List.all_eq_true.mp h⟩

/-- Of two slices the last one used eight of forty points. -/
theorem usage_attributed_one : attributedUnits (fallingCycle (startsUpTo 2 one_le_two) [40,0,40,0,32]).2.2 [("w1",1),("w2",1)] =
    40 - 32 := by
  obtain ⟨result,hrun,hstored⟩ := fallingCycle_stored (startsUpTo 2 one_le_two) [40,0,40,0,32] (by decide +kernel)
  have hstarted : Cycle.startedSlices (fallingCycle (startsUpTo 2 one_le_two) [40,0,40,0,32]).1 = [("w1",1),("w2",1)] := by
    decide +kernel
  have hobserved : Cycle.observedCapacities "codex" (fallingCycle (startsUpTo 2 one_le_two) [40,0,40,0,32]).1 =
      ((40 : ℚ) :: [40,32]).map some := by decide +kernel
  have hiff := usage_attributed_iff hrun hstored hobserved (by norm_num)
  rw [hstarted] at hiff
  exact hiff.mpr (by simp)

/-- Of forty points five went for the first slice and three for the second, which is charged with eight. -/
theorem usage_attributed_twice : ∃ (service : QuarkSchedulerService) (s s' : QuarkStore) (log : List (Σ q, QuarkAnswer q))
    (result : Cycle.CycleResult), (Cycle.runCycle service true "codex").Solo s log (.ok result) s' ∧
      (∀ payload ∈ result.results, payload.persistencePerformed = true) ∧
      Cycle.observedCapacities "codex" log = [40,35,32].map some ∧ Cycle.startedSlices log = [("w1",1),("w2",1)] ∧
      actualUnits s' ("w1",1) = some 5 ∧ actualUnits s' ("w2",1) = some 8 ∧
      attributedUnits s' (Cycle.startedSlices log) ≠ 40 - 32 := by
  obtain ⟨result,hrun,hstored⟩ := fallingCycle_stored (startsUpTo 2 one_le_two) [40,0,35,0,32] (by decide +kernel)
  have hstarted : Cycle.startedSlices (fallingCycle (startsUpTo 2 one_le_two) [40,0,35,0,32]).1 = [("w1",1),("w2",1)] := by decide +kernel
  have hfirst : actualUnits (fallingCycle (startsUpTo 2 one_le_two) [40,0,35,0,32]).2.2 ("w1",1) = some 5 := by decide +kernel
  have hsecond : actualUnits (fallingCycle (startsUpTo 2 one_le_two) [40,0,35,0,32]).2.2 ("w2",1) = some 8 := by decide +kernel
  refine ⟨startsUpTo 2 one_le_two,twoItems,_,_,result,hrun,hstored,by decide +kernel,hstarted,hfirst,hsecond,?_⟩
  rw [hstarted,attributedUnits,show [("w1",1),("w2",1)].toFinset = {("w1",1),("w2",1)} from rfl,Finset.sum_pair (by decide),hfirst,hsecond]
  norm_num

end Overseer.Quark
