import Overseer.Quark.Connection
import Overseer.Library.Commits

/-! # Storing a result

A result that carries an expected binding is stored by one transaction that finds the binding
in the stored item, or leaves the store as the others made it.
-/
namespace Overseer.Quark
open Overseer.Library Overseer.Agent

namespace Cycle

/-- The one transaction of the call found the expected binding and stored the result. -/
def Persisted (item : AgentWorkItem) (expected : ExpectedBinding) (own : List (QuarkStore × QuarkStore))
    (q : QuarkProg ExecutionPayload) : Prop :=
  ∃ s s' row payload, own = [(s,s')] ∧ s.work.get? item.id = some row ∧ .binding row.durableBinding = expected ∧
    q = .ret payload ∧ payload.persistencePerformed = true

/-- The call wrote nothing and does not say that it did. -/
structure Untouched (own : List (QuarkStore × QuarkStore)) (q : QuarkProg ExecutionPayload) : Prop where
  commits : ∀ c ∈ own, c.2 = c.1
  reported : ∀ payload, q = .ret payload → payload.persistencePerformed = false

/-- A transaction that leaves the store as it was. -/
def Same (s : QuarkStore) (_ : Held) (s' : QuarkStore) : Prop := s' = s

theorem untouched_of_goes {p q : QuarkProg ExecutionPayload} {own : List (QuarkStore × QuarkStore)} (h : p.Goes own q)
    (hsteps : p.Steps Same) (hreturns : p.Returns fun payload => payload.persistencePerformed = false) : Untouched own q := by
  refine ⟨fun c hc => ?_,?_⟩
  · obtain ⟨_,hsame⟩ := h.steps hsteps c hc
    exact hsame
  · rintro payload rfl
    exact h.returns hreturns

theorem loadWork_same (workId : String) : (loadWork workId : QuarkProg _).Steps Same := by
  apply Prog.steps_atomically
  intro s
  change (QuarkTx.loadWork workId).next s = s
  have hreads : Tx.Reads (QuarkTx.loadWork workId) := by unfold QuarkTx.loadWork; infer_instance
  exact Tx.next_of_post (R := fun s' => s' = s) rfl (hreads.keeps s)

theorem rejectResult_untouched {item : AgentWorkItem} {result : SliceResult} {own : List (QuarkStore × QuarkStore)}
    {q : QuarkProg ExecutionPayload} (h : (rejectResult item result).Goes own q) : Untouched own q := by
  refine untouched_of_goes h ?_ ?_
  · refine Prog.steps_bind (Prog.steps_rescue (loadWork_same item.id) fun e => ?_) fun _ => trivial
    cases e <;> trivial
  · exact Prog.Returns.bind (Prog.returns_true _) fun _ _ => rfl

/-- What the transaction under the binding can come to. -/
theorem underWorkBinding_cases {α : Type} (workId : String) (expected : ExpectedBinding) (body : QuarkTx α) (s : QuarkStore) :
    (∃ e, underWorkBinding workId expected body s = .error e) ∨
    (∃ current, underWorkBinding workId expected body s = .ok (.refused current,s)) ∨
    ∃ row a s', underWorkBinding workId expected body s = .ok (.done a,s') ∧ s.work.get? workId = some row ∧
      .binding row.durableBinding = expected ∧ body s = .ok (a,s') := by
  cases hrow : s.work.get? workId with
  | none => exact .inr (.inl ⟨none,Connection.underWorkBinding_none hrow expected body⟩)
  | some row =>
    rw [Connection.underWorkBinding_some hrow]
    by_cases hbinding : .binding row.durableBinding = expected
    · rw [if_pos hbinding]
      change (∃ e, Tx.bind body (fun a => pure (CasOutcome.done a)) s = .error e) ∨
        (∃ current, Tx.bind body (fun a => pure (CasOutcome.done a)) s = .ok (.refused current,s)) ∨
        ∃ row' a s', Tx.bind body (fun a => pure (CasOutcome.done a)) s = .ok (.done a,s') ∧ some row = some row' ∧
          .binding row'.durableBinding = expected ∧ body s = .ok (a,s')
      cases hbody : body s with
      | error e => exact .inl ⟨e,by simp only [Tx.bind,hbody]⟩
      | ok r =>
        refine .inr (.inr ⟨row,r.1,r.2,?_,rfl,hbinding,rfl⟩)
        simp only [Tx.bind,hbody]
        rfl
    · rw [if_neg hbinding]
      exact .inr (.inl ⟨some row,rfl⟩)

theorem recordResult_performed {item : AgentWorkItem} {result : SliceResult} {capacityAfter : Option ℚ} {lifetimeTokens : Option ℤ}
    {observedAt : String} (s : QuarkStore) :
    (recordResult item result capacityAfter lifetimeTokens observedAt : QuarkTx _).Post s fun payload _ => payload.persistencePerformed = true := by
  unfold recordResult
  simp only [Tx.post_bind,Tx.post_pure,recordedPayload]
  refine Tx.Post.mono (P := fun _ _ => True) ?_ fun _ s₁ _ => Tx.Post.mono (P := fun _ _ => True) ?_ fun _ s₂ _ =>
    Tx.Post.mono (P := fun _ _ => True) ?_ fun _ _ _ => trivial
  · exact Tx.post_true _ _
  · exact Tx.post_true _ _
  · exact Tx.post_true _ _

theorem observedAt_asks (snapshot : UsageSnapshot) : (observedAt snapshot).Steps fun _ _ _ => False := by
  unfold observedAt
  split
  · split
    · exact Prog.steps_ask _
    · trivial
  · exact Prog.steps_ask _

/-- The call stores the result in one transaction that found the binding, or stores nothing. -/
theorem persist_stores {held : Held} {item : AgentWorkItem} {result : SliceResult} {capacityAfter : Option ℚ} {snapshot : UsageSnapshot}
    {expected : ExpectedBinding} (hexpected : result.expectedWorkBinding = some expected) {own : List (QuarkStore × QuarkStore)}
    {q : QuarkProg ExecutionPayload} (h : (persistExecutionResult held item result capacityAfter snapshot).Goes own q) :
    (∃ s s' row payload clock, own = [(s,s')] ∧ q = .ret payload ∧ s.work.get? item.id = some row ∧
      .binding row.durableBinding = expected ∧
      (recordResult item result capacityAfter snapshot.lifetimeTokens clock : QuarkTx _) s = .ok (payload,s')) ∨ Untouched own q := by
  unfold persistExecutionResult at h
  by_cases hallowed : result.persistenceAllowed = some false
  · rw [if_pos hallowed] at h
    exact .inr (rejectResult_untouched h)
  rw [if_neg hallowed] at h
  simp only [hexpected] at h
  have hclock : ∀ {own r}, (observedAt snapshot).Goes own r → own = [] := by
    intro own r hr
    refine List.eq_nil_iff_forall_not_mem.mpr fun c hc => ?_
    obtain ⟨_,hfalse⟩ := hr.steps (observedAt_asks snapshot) c hc
    exact hfalse
  rcases h.bind_cases with ⟨r,hr,hne,rfl⟩ | ⟨clock,own₁,own,rfl,hr,hrest⟩
  · rw [hclock hr]
    exact .inr ⟨fun c hc => (by cases hc),fun payload hret => absurd hret (Prog.bind_ne_ret hne _ payload)⟩
  rw [hclock hr,List.nil_append]
  rcases hrest.transaction_cases with ⟨hnil,hne⟩ | ⟨s,own',rfl,hnext⟩
  · rw [hnil]
    exact .inr ⟨fun c hc => (by cases hc),fun payload hret => absurd hret (hne payload)⟩
  rcases underWorkBinding_cases item.id expected (recordResult item result capacityAfter snapshot.lifetimeTokens clock) s with
    ⟨e,hrun⟩ | ⟨current,hrun⟩ | ⟨row,payload,s',hrun,hrow,hbinding,hbody⟩
  · rcases hnext with ⟨a,s',hok,-⟩ | ⟨e',-,rfl,rfl⟩
    · rw [hrun] at hok
      cases hok
    · refine .inr ⟨fun c hc => ?_,fun _ hret => (by cases hret)⟩
      rw [List.mem_singleton.mp hc]
      simp only [Tx.next,hrun]
  · rcases hnext with ⟨a,s',hok,hrest⟩ | ⟨e',herror,-⟩
    · rw [hrun] at hok
      cases hok
      have hrejected := rejectResult_untouched hrest
      refine .inr ⟨fun c hc => ?_,hrejected.reported⟩
      rcases List.mem_cons.mp hc with rfl | hc
      · simp only [Tx.next,hrun]
      · exact hrejected.commits c hc
    · rw [hrun] at herror
      cases herror
  · rcases hnext with ⟨a,s'',hok,hrest⟩ | ⟨e',herror,-⟩
    · rw [hrun] at hok
      cases hok
      cases hrest
      refine .inl ⟨s,s',row,payload,clock,?_,rfl,hrow,hbinding,hbody⟩
      simp only [Tx.next,hrun]
    · rw [hrun] at herror
      cases herror

theorem persist_goes {held : Held} {item : AgentWorkItem} {result : SliceResult} {capacityAfter : Option ℚ} {snapshot : UsageSnapshot}
    {expected : ExpectedBinding} (hexpected : result.expectedWorkBinding = some expected) {own : List (QuarkStore × QuarkStore)}
    {q : QuarkProg ExecutionPayload} (h : (persistExecutionResult held item result capacityAfter snapshot).Goes own q) :
    Persisted item expected own q ∨ Untouched own q := by
  rcases persist_stores hexpected h with ⟨s,s',row,payload,clock,hown,hq,hrow,hbinding,hbody⟩ | huntouched
  · exact .inl ⟨s,s',row,payload,hown,hrow,hbinding,hq,(recordResult_performed s).of_ok hbody⟩
  · exact .inr huntouched

/-- A thread stores a result among any others, and then goes on. What the call commits is one
transaction that found the expected binding and stored the result, or nothing. -/
theorem result_persistence_cas {R : Type} {sys : System QuarkStore Held QuarkAnswer QuarkError R} {i : ℕ}
    {w w' : World QuarkStore Held QuarkAnswer QuarkError R} {own : List (QuarkStore × QuarkStore)} {held : Held} {item : AgentWorkItem}
    {result : SliceResult} {capacityAfter : Option ℚ} {snapshot : UsageSnapshot} {expected : ExpectedBinding}
    {k : ExecutionPayload → QuarkProg R}
    (hthread : w.threads[i]? = some ((persistExecutionResult held item result capacityAfter snapshot).bind k))
    (hexpected : result.expectedWorkBinding = some expected) (hrun : World.Runs sys i w own w') :
    ∃ own₁ own₂ q, own = own₁ ++ own₂ ∧ (Persisted item expected own₁ q ∨ Untouched own₁ q) ∧
      ((own₂ = [] ∧ w'.threads[i]? = some (q.bind k)) ∨
        ∃ payload p', q = .ret payload ∧ w'.threads[i]? = some p' ∧ (k payload).Goes own₂ p') := by
  obtain ⟨p',hp',hgoes⟩ := hrun.thread hthread
  rcases hgoes.bind_cases with ⟨q,hq,-,rfl⟩ | ⟨payload,own₁,own₂,hown,hq,hrest⟩
  · exact ⟨own,[],q,(List.append_nil own).symm,persist_goes hexpected hq,.inl ⟨rfl,hp'⟩⟩
  · exact ⟨own₁,own₂,.ret payload,hown,persist_goes hexpected hq,.inr ⟨payload,p',rfl,hp',hrest⟩⟩

def runningItem : AgentWorkItem := { AgentWorkItem.small "w" "p" with state := .running, reservedUnits := 5, generation := 1 }

def runningStore : QuarkStore := (QuarkStore.empty.putWork runningItem).putSlice "w" 1 (startedSlice runningItem 1 (some 40) none "then")

def completedResult : SliceResult where
  expectedWorkBinding := some (.binding runningItem.durableBinding)
  terminal := some true
  successful := some true
  completed := true

def settlingWorld : QuarkWorld := ⟨Trace.start runningStore,
  [(persistExecutionResult .plain runningItem completedResult (some 38) { rateLimits := [], observedAt := some "now" }).bind fun _ => .ret ()]⟩

def anyProgram : QuarkSystem := ⟨fun _ => True,fun _ _ _ => True,fun _ _ _ => True⟩

theorem result_persistence_cas_completed : ∃ own w', World.Runs anyProgram 0 settlingWorld own w' ∧
    (w'.trace.store.work.get? "w").map (·.state) = some .completed ∧ ∃ own₁ own₂ q, own = own₁ ++ own₂ ∧
      (Persisted runningItem (.binding runningItem.durableBinding) own₁ q ∨ Untouched own₁ q) := by
  have hstart : World.Runs anyProgram 0 settlingWorld [] settlingWorld := .refl
  have hrun := hstart.tx 0 rfl trivial
  refine ⟨_,_,hrun,by decide +kernel,?_⟩
  have hexpected : completedResult.expectedWorkBinding = some (.binding runningItem.durableBinding) := rfl
  obtain ⟨own₁,own₂,q,hown,hcall,-⟩ := result_persistence_cas rfl hexpected hrun
  exact ⟨own₁,own₂,q,hown,hcall⟩

end Cycle
end Overseer.Quark
