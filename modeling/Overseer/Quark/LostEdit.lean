import Overseer.Quark.Stranded
import Overseer.Quark.ResultCas
import Overseer.Library.Continued

/-! # Edits beside a result

An accepted compare-and-swap replaces the whole row by the copy the result is written from. What
others changed outside the binding since that copy was read is lost.
-/
namespace Overseer.Quark
open Overseer.Library Overseer.Agent

namespace Cycle

/-- Nothing another writer may change beside a cycle differs, the checkpoint of a result that ended
well apart. -/
structure SameEdits (result : SliceResult) (row row' : AgentWorkItem) : Prop where
  priority : row'.priority = row.priority
  intent : row'.intent = row.intent
  estimatedUnits : row'.estimatedUnits = row.estimatedUnits
  estimatedTokens : row'.estimatedTokens = row.estimatedTokens
  checkpointRef : ¬ (result.isTerminal = true ∧ result.isSuccessful = true) → row'.checkpointRef = row.checkpointRef

variable {result : SliceResult} {row row' row'' item : AgentWorkItem}

theorem SameEdits.symm (h : SameEdits result row row') : SameEdits result row' row :=
  ⟨h.priority.symm,h.intent.symm,h.estimatedUnits.symm,h.estimatedTokens.symm,fun hends => (h.checkpointRef hends).symm⟩

theorem SameEdits.trans (h : SameEdits result row row') (h' : SameEdits result row' row'') : SameEdits result row row'' :=
  ⟨h'.priority.trans h.priority,h'.intent.trans h.intent,h'.estimatedUnits.trans h.estimatedUnits,
    h'.estimatedTokens.trans h.estimatedTokens,fun hends => (h'.checkpointRef hends).trans (h.checkpointRef hends)⟩

theorem recordedWork_edits (item : AgentWorkItem) (result : SliceResult) (capacityAfter : Option ℚ) (observedAt : String) :
    SameEdits result item (recordedWork item result capacityAfter observedAt) := by
  unfold recordedWork
  dsimp only
  split
  · exact ⟨rfl,rfl,rfl,rfl,fun _ => rfl⟩
  · split
    · split <;> exact ⟨rfl,rfl,rfl,rfl,fun _ => rfl⟩
    · exact ⟨rfl,rfl,rfl,rfl,fun _ => rfl⟩

theorem recordSliceCheckpoint_row (workId : String) (generation : ℕ) (c : Checkpoint) {t : QuarkStore}
    (hrow : t.work.get? workId = some row) :
    (QuarkTx.recordSliceCheckpoint workId generation c).Post t fun _ t' => t'.work.get? workId = some (row.checkpointed c) := by
  unfold QuarkTx.recordSliceCheckpoint QuarkTx.loadSlice
  simp only [Tx.post_bind,Tx.post_read,Tx.post_orRaise]
  intro slice _
  unfold liftTx
  cases slice.used c.quotaAfter with
  | error e => trivial
  | ok units =>
    simp only [Tx.post_pure,Tx.post_write,QuarkTx.loadWork,Tx.post_bind,Tx.post_read,Tx.post_orRaise,QuarkTx.saveWork]
    intro item hitem
    have hitem' : t.work.get? workId = some item := hitem
    rw [hrow,Option.some.injEq] at hitem'
    rw [← hitem']
    have hid : row.id = workId := t.keyed _ _ hrow
    rw [QuarkStore.putWork_work]
    exact if_pos hid.symm

/-- However a result ends its slice, the row has the fields of the copy. -/
theorem recordResult_edits (item : AgentWorkItem) (result : SliceResult) (capacityAfter : Option ℚ) (lifetimeTokens : Option ℤ)
    (observedAt : String) (s : QuarkStore) :
    (recordResult item result capacityAfter lifetimeTokens observedAt : QuarkTx _).Post s fun _ s' =>
      ∃ row, s'.work.get? item.id = some row ∧ SameEdits result item row := by
  have hedits := recordedWork_edits item result capacityAfter observedAt
  unfold recordResult
  simp only [Tx.post_bind]
  refine Tx.Post.mono (P := fun _ _ => True) (Tx.post_true _ _) fun _ t _ => ?_
  have hsaved : (t.putWork (recordedWork item result capacityAfter observedAt)).work.get? item.id =
      some (recordedWork item result capacityAfter observedAt) := by
    rw [QuarkStore.putWork_work]
    exact if_pos recordedWork_id.symm
  change (checkpointIfAny item.id item.generation (checkpointOf result capacityAfter lifetimeTokens observedAt) : QuarkTx Unit).Post
    (t.putWork (recordedWork item result capacityAfter observedAt)) _
  unfold checkpointIfAny
  cases hcheckpoint : checkpointOf result capacityAfter lifetimeTokens observedAt with
  | none => exact ⟨_,hsaved,hedits⟩
  | some c =>
    have hends : result.isTerminal = true ∧ result.isSuccessful = true := by
      by_contra hnot
      rw [checkpointOf,if_neg hnot] at hcheckpoint
      cases hcheckpoint
    refine (recordSliceCheckpoint_row item.id item.generation c hsaved).mono fun _ t' hrow => ?_
    exact ⟨_,hrow,hedits.priority,hedits.intent,hedits.estimatedUnits,hedits.estimatedTokens,fun hnot => absurd hends hnot⟩

/-- The one transaction of the call was accepted and kept the edits of the stored row exactly when
the copy had them. -/
def KeepsEditsIff (item : AgentWorkItem) (result : SliceResult) (expected : ExpectedBinding) (own : List (QuarkStore × QuarkStore))
    (q : QuarkProg ExecutionPayload) : Prop :=
  ∃ s s' row row' payload, own = [(s,s')] ∧ q = .ret payload ∧ payload.persistencePerformed = true ∧
    s.work.get? item.id = some row ∧ .binding row.durableBinding = expected ∧ s'.work.get? item.id = some row' ∧
    (SameEdits result row row' ↔ SameEdits result row item)

theorem keepsEdits_iff {expected : ExpectedBinding} {own : List (QuarkStore × QuarkStore)} {q : QuarkProg ExecutionPayload}
    {s s' : QuarkStore} {payload : ExecutionPayload} {capacityAfter : Option ℚ} {lifetimeTokens : Option ℤ} {observedAt : String}
    (hown : own = [(s,s')]) (hq : q = .ret payload) (hrow : s.work.get? item.id = some row)
    (hbinding : .binding row.durableBinding = expected)
    (hrun : (recordResult item result capacityAfter lifetimeTokens observedAt : QuarkTx _) s = .ok (payload,s')) :
    KeepsEditsIff item result expected own q := by
  obtain ⟨row',hrow',hedits⟩ := (recordResult_edits item result capacityAfter lifetimeTokens observedAt s).of_ok hrun
  have hperformed := (recordResult_performed s).of_ok hrun
  refine ⟨s,s',row,row',payload,hown,hq,hperformed,hrow,hbinding,hrow',?_⟩
  constructor
  · exact fun h => h.trans hedits.symm
  · exact fun h => h.trans hedits

/-- A thread stores a result among any others, and then goes on. An accepted compare-and-swap keeps
what the others changed outside the binding exactly when the copy the result is written from has it. -/
theorem edits_kept_iff {R : Type} {sys : System QuarkStore Held QuarkAnswer QuarkError R} {i : ℕ}
    {w w' : World QuarkStore Held QuarkAnswer QuarkError R} {own : List (QuarkStore × QuarkStore)} {held : Held}
    {capacityAfter : Option ℚ} {snapshot : UsageSnapshot} {expected : ExpectedBinding} {k : ExecutionPayload → QuarkProg R}
    (hthread : w.threads[i]? = some ((persistExecutionResult held item result capacityAfter snapshot).bind k))
    (hexpected : result.expectedWorkBinding = some expected) (hrun : World.Runs sys i w own w') :
    ∃ own₁ own₂ q, own = own₁ ++ own₂ ∧ (KeepsEditsIff item result expected own₁ q ∨ Untouched own₁ q) ∧
      ((own₂ = [] ∧ w'.threads[i]? = some (q.bind k)) ∨
        ∃ payload p', q = .ret payload ∧ w'.threads[i]? = some p' ∧ (k payload).Goes own₂ p') := by
  have hcall : ∀ {own q}, (persistExecutionResult held item result capacityAfter snapshot).Goes own q →
      KeepsEditsIff item result expected own q ∨ Untouched own q := by
    intro own q h
    rcases persist_stores hexpected h with ⟨s,s',row,payload,clock,hown,hq,hrow,hbinding,hbody⟩ | huntouched
    · exact .inl (keepsEdits_iff hown hq hrow hbinding hbody)
    · exact .inr huntouched
  obtain ⟨p',hp',hgoes⟩ := hrun.thread hthread
  rcases hgoes.bind_cases with ⟨q,hq,-,rfl⟩ | ⟨payload,own₁,own₂,hown,hq,hrest⟩
  · exact ⟨own,[],q,(List.append_nil own).symm,hcall hq,.inl ⟨rfl,hp'⟩⟩
  · exact ⟨own₁,own₂,.ret payload,hown,hcall hq,.inr ⟨payload,p',rfl,hp',hrest⟩⟩

theorem edits_kept_iff_completed : ∃ own w', World.Runs anyProgram 0 settlingWorld own w' ∧
    (w'.trace.store.work.get? "w").map (·.state) = some .completed ∧ ∃ own₁ own₂ q, own = own₁ ++ own₂ ∧
      (KeepsEditsIff runningItem completedResult (.binding runningItem.durableBinding) own₁ q ∨ Untouched own₁ q) := by
  have hstart : World.Runs anyProgram 0 settlingWorld [] settlingWorld := .refl
  have hrun := hstart.tx 0 rfl trivial
  refine ⟨_,_,hrun,by decide +kernel,?_⟩
  have hexpected : completedResult.expectedWorkBinding = some (.binding runningItem.durableBinding) := rfl
  obtain ⟨own₁,own₂,q,hown,hcall,-⟩ := edits_kept_iff rfl hexpected hrun
  exact ⟨own₁,own₂,q,hown,hcall⟩

/-! ### A priority that is raised while the executor is asked -/

def editPriority (workId : String) (priority : ℕ) : QuarkProg Unit := do
  let row ← (loadWork workId : QuarkProg AgentWorkItem)
  saveWork { row with priority }

/-- A cycle that reconciles, and another writer. -/
def editedWorld : QuarkWorld := ⟨Trace.start dispatchedStore,
  [(runCycle {} true "codex").bind fun _ => .ret (),editPriority "w" 90]⟩

def reconciledResult : SliceResult where
  expectedWorkBinding := some (.binding dispatchedItem.durableBinding)
  terminal := some true
  successful := some true
  completed := true

/-- There is capacity, and the dispatch has come to its end. -/
def reconcilingAnswers : ∀ q, QuarkAnswer q
  | .refresh => some (fullUsage "codex" 38 "quota_points")
  | .timestamp => "now"
  | .runSlice _ _ _ => none
  | .reconcileSlice _ _ => some reconciledResult

/-- The cycle has its answer when the other writer comes in. -/
def editedMeanwhile : List (Move QuarkStore Held QuarkAnswer QuarkError Unit) :=
  World.steps 0 3 reconcilingAnswers ++ World.steps 1 2 reconcilingAnswers

def editLost (w w' : QuarkWorld) : Bool :=
  (w.threads[1]?.bind Prog.result? = some ()) && ((w.trace.store.work.get? "w").map (·.priority) = some 90) &&
    ((w'.trace.store.work.get? "w").map (fun row => (row.priority,row.state)) = some (50,.completed)) && w'.threads.length = 2

theorem edit_lost : ∃ w w', World.Reachable anyProgram editedWorld w ∧ World.Reachable anyProgram w w' ∧
    w.threads[1]? = some (.ret ()) ∧ (w.trace.store.work.get? "w").map (·.priority) = some 90 ∧
    (w'.trace.store.work.get? "w").map (fun row => (row.priority,row.state)) = some (50,.completed) ∧ w'.threads.length = 2 := by
  obtain ⟨w,w',hw,hw',hcheck⟩ : ∃ w w', World.Reachable anyProgram editedWorld w ∧ World.Reachable anyProgram w w' ∧ editLost w w' = true :=
    World.exists_continued editedWorld editedMeanwhile (World.steps 0 1 reconcilingAnswers)
    editLost (fun _ _ _ (_ : true = true) => trivial) (fun _ _ _ (_ : true = true) => trivial) (by
      simp only [editedMeanwhile,List.forall_mem_append]
      exact ⟨World.allowed_steps _ _ _,World.allowed_steps _ _ _⟩) (World.allowed_steps _ _ _) (by decide +kernel)
  simp only [editLost,Bool.and_eq_true,decide_eq_true_eq] at hcheck
  obtain ⟨⟨⟨hended,hedited⟩,hstored⟩,hlength⟩ := hcheck
  obtain ⟨p,hp,hres⟩ := Option.bind_eq_some_iff.mp hended
  rw [Prog.eq_ret hres] at hp
  exact ⟨w,w',hw,hw',hp,hedited,hstored,hlength⟩

end Cycle
end Overseer.Quark
