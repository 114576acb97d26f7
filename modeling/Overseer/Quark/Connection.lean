import Overseer.Quark.Cycle

/-! # The connection of the work store

`QuarkWorkStore` writes through one connection. A method executes its statements and then
calls `_commit`, which does nothing while `_atomic_depth` is set. `begin_work_binding_cas`
takes the write lock with `BEGIN IMMEDIATE`, so what is committed stays as it is until
`finish_work_binding_cas`.
-/
namespace Overseer.Quark
open Overseer.Library Overseer.Agent

/-- What is committed, what the open transaction would leave, and every state this connection
has committed, latest first. -/
structure Connection where
  committed : QuarkStore
  working : Option QuarkStore := none
  atomicDepth : ℕ := 0
  commits : List QuarkStore := []

inductive ConnectionError where
  | quark (e : QuarkError)
  | runtime (message : String)
  | operational (message : String)

abbrev ConnectionM (α : Type) := Connection → Except ConnectionError α × Connection

namespace Connection

def view (c : Connection) : QuarkStore := c.working.getD c.committed

def commit (c : Connection) : Connection := { c with committed := c.view, working := none, commits := c.view :: c.commits }

def rollback (c : Connection) : Connection := { c with working := none }

/-- `_commit`. -/
def commitOutermost (c : Connection) : Connection := if c.atomicDepth = 0 then c.commit else c

def bind {α β : Type} (p : ConnectionM α) (f : α → ConnectionM β) : ConnectionM β := fun c =>
  match p c with
  | (.ok a,c') => f a c'
  | (.error e,c') => (.error e,c')

def throw {α : Type} (e : ConnectionError) : ConnectionM α := fun c => (.error e,c)

/-- The statements of a method, then `_commit`. -/
def method {α : Type} (t : QuarkTx α) : ConnectionM α := fun c =>
  match t c.view with
  | .ok (a,s) => (.ok a,commitOutermost { c with working := some s })
  | .error e => (.error (.quark e),c)

def rescue {α : Type} (p : ConnectionM α) (h : QuarkError → ConnectionM α) : ConnectionM α := fun c =>
  match p c with
  | (.error (.quark e),c') => h e c'
  | r => r

instance : MonadStore QuarkStore QuarkError ConnectionM where
  pure a := fun c => (.ok a,c)
  bind := bind
  atomically := method
  raise e := throw (.quark e)
  rescue := rescue

def finishWorkBindingCas (commit : Bool) : ConnectionM Unit := fun c =>
  if c.atomicDepth ≠ 1 then (.error (.runtime "no Quark work transaction is active"),c)
  else (.ok (),{ (if commit then c.commit else c.rollback) with atomicDepth := 0 })

/-- `BEGIN IMMEDIATE` and `_atomic_depth = 1`. -/
def beginImmediate : ConnectionM Unit := fun c =>
  if c.atomicDepth ≠ 0 then (.error (.runtime "nested Quark work transaction is not allowed"),c)
  else if c.working.isSome then (.error (.operational "cannot start a transaction within a transaction"),c)
  else (.ok (),{ c with working := some c.committed, atomicDepth := 1 })

def currentWork (workId : String) : ConnectionM (Option AgentWorkItem) := fun c => (.ok (c.view.work.get? workId),c)

def beginWorkBindingCas (workId : String) (expected : ExpectedBinding) : ConnectionM (Bool × Option AgentWorkItem) := do
  beginImmediate
  match ← currentWork workId with
  | none =>
    finishWorkBindingCas false
    return (false,none)
  | some current =>
    if .binding current.durableBinding = expected then return (true,some current)
    else
      finishWorkBindingCas false
      return (false,some current)

/-- The body; on an exception the transaction is rolled back and the exception goes on. -/
def orRollback {α : Type} (body : ConnectionM α) : ConnectionM α := fun c =>
  match body c with
  | (.error e,c') => bind (finishWorkBindingCas false) (fun _ => throw e) c'
  | r => r

/-- What `_persist_execution_result` does around the writes of a result. -/
def workBindingCas {α : Type} (workId : String) (expected : ExpectedBinding) (body : ConnectionM α) : ConnectionM (CasOutcome α) := do
  let (acquired,current) ← beginWorkBindingCas workId expected
  if acquired then
    let a ← orRollback body
    finishWorkBindingCas true
    return .done a
  else return .refused current

/-! ### Under the flag -/

/-- While the flag is set the body does what the transaction does, and commits nothing. -/
def Joins {α : Type} (body : ConnectionM α) (t : QuarkTx α) : Prop := ∀ c : Connection, c.atomicDepth = 1 →
  match t c.view with
  | .ok (a,s) => ∃ c', body c = (.ok a,c') ∧ c'.view = s ∧ { c' with working := c.working } = c
  | .error e => ∃ c', body c = (.error (.quark e),c') ∧ { c' with working := c.working } = c

theorem joins_pure {α : Type} (a : α) : Joins (pure a) (pure a) := by
  intro c _
  exact ⟨c,rfl,rfl,rfl⟩

theorem joins_atomically {α : Type} (t : QuarkTx α) : Joins (atomically t) (atomically t) := by
  intro c hc
  change match t c.view with
    | .ok (a,s) => ∃ c', method t c = (.ok a,c') ∧ c'.view = s ∧ { c' with working := c.working } = c
    | .error e => ∃ c', method t c = (.error (.quark e),c') ∧ { c' with working := c.working } = c
  unfold method
  cases t c.view with
  | error e => exact ⟨c,rfl,rfl⟩
  | ok r =>
    have hdepth : ¬ c.atomicDepth = 0 := by omega
    refine ⟨{ c with working := some r.2 },?_,rfl,rfl⟩
    simp only [commitOutermost,if_neg hdepth]

theorem joins_bind {α β : Type} {p : ConnectionM α} {t : QuarkTx α} {f : α → ConnectionM β} {g : α → QuarkTx β}
    (hp : Joins p t) (hf : ∀ a, Joins (f a) (g a)) : Joins (p >>= f) (t >>= g) := by
  intro c hc
  have hbody := hp c hc
  cases ht : t c.view with
  | error e =>
    rw [ht] at hbody
    obtain ⟨c',hrun,hsame⟩ := hbody
    rw [Tx.bind_of_error ht]
    refine ⟨c',?_,hsame⟩
    change bind p f c = _
    simp only [bind,hrun]
  | ok r =>
    obtain ⟨a,s⟩ := r
    rw [ht] at hbody
    obtain ⟨c',hrun,hview,hsame⟩ := hbody
    have hdepth : c'.atomicDepth = 1 := by rw [← hc,← hsame]
    have hrest := hf a c' hdepth
    have hbind : (p >>= f) c = f a c' := by
      change bind p f c = _
      simp only [bind,hrun]
    rw [Tx.bind_of_ok ht,hbind]
    rw [hview] at hrest
    cases hg : g a s with
    | error e =>
      rw [hg] at hrest
      obtain ⟨c'',hrun',hsame'⟩ := hrest
      refine ⟨c'',hrun',?_⟩
      rw [← hsame,← hsame']
    | ok r' =>
      rw [hg] at hrest
      obtain ⟨c'',hrun',hview',hsame'⟩ := hrest
      refine ⟨c'',hrun',hview',?_⟩
      rw [← hsame,← hsame']

theorem joins_recordResult (item : AgentWorkItem) (result : SliceResult) (capacityAfter : Option ℚ) (lifetimeTokens : Option ℤ)
    (observedAt : String) : Joins (Cycle.recordResult item result capacityAfter lifetimeTokens observedAt)
      (Cycle.recordResult item result capacityAfter lifetimeTokens observedAt) := by
  unfold Cycle.recordResult
  refine joins_bind (joins_atomically _) fun _ => joins_bind (joins_atomically _) fun _ => joins_bind ?_ fun _ => joins_pure _
  cases Cycle.checkpointOf result capacityAfter lifetimeTokens observedAt with
  | none => exact joins_pure ()
  | some c => exact joins_atomically _

theorem underWorkBinding_none {α : Type} {workId : String} {s : QuarkStore} (h : s.work.get? workId = none) (expected : ExpectedBinding)
    (t : QuarkTx α) : underWorkBinding workId expected t s = .ok (.refused none,s) := by
  unfold underWorkBinding
  have hread : (Tx.read (fun s => s.work.get? workId) : QuarkTx _) s = .ok (none,s) := by rw [← h]; rfl
  rw [Tx.bind_of_ok hread]
  rfl

theorem underWorkBinding_some {α : Type} {workId : String} {s : QuarkStore} {item : AgentWorkItem} (h : s.work.get? workId = some item)
    (expected : ExpectedBinding) (t : QuarkTx α) : underWorkBinding workId expected t s =
      if .binding item.durableBinding = expected then (CasOutcome.done <$> t) s else .ok (.refused (some item),s) := by
  unfold underWorkBinding
  have hread : (Tx.read (fun s => s.work.get? workId) : QuarkTx _) s = .ok (some item,s) := by rw [← h]; rfl
  rw [Tx.bind_of_ok hread]
  dsimp only
  split <;> rfl

/-- Begun under the lock, with the flag set. -/
def begun (c : Connection) : Connection := { c with working := some c.committed, atomicDepth := 1 }

theorem finish_rollback {c c' : Connection} (hclosed : c.working = none) (hdepth : c.atomicDepth = 0)
    (hsame : { c' with working := c.begun.working } = c.begun) : finishWorkBindingCas false c' = (.ok (),c) := by
  obtain ⟨committed,working,atomicDepth,commits⟩ := c
  obtain ⟨committed',working',atomicDepth',commits'⟩ := c'
  simp only [begun,Connection.mk.injEq] at *
  obtain ⟨rfl,-,rfl,rfl⟩ := hsame
  subst hclosed hdepth
  rfl

theorem beginWorkBindingCas_run {workId : String} {expected : ExpectedBinding} {c : Connection} (hclosed : c.working = none)
    (hdepth : c.atomicDepth = 0) :
    beginWorkBindingCas workId expected c = match c.committed.work.get? workId with
      | none => (.ok (false,none),c)
      | some current => if .binding current.durableBinding = expected then (.ok (true,some current),c.begun)
        else (.ok (false,some current),c) := by
  have hbegin : beginImmediate c = (.ok (),c.begun) := by simp [beginImmediate,hclosed,hdepth,begun]
  have hfinish : finishWorkBindingCas false c.begun = (.ok (),c) := finish_rollback hclosed hdepth rfl
  unfold beginWorkBindingCas
  change bind beginImmediate _ c = _
  simp only [bind,hbegin]
  change bind (currentWork workId) _ c.begun = _
  have hcurrent : currentWork workId c.begun = (.ok (c.committed.work.get? workId),c.begun) := rfl
  simp only [bind,hcurrent]
  cases c.committed.work.get? workId with
  | none =>
    change bind (finishWorkBindingCas false) _ c.begun = _
    simp only [bind,hfinish]
    rfl
  | some current =>
    dsimp only
    split
    · rfl
    · change bind (finishWorkBindingCas false) _ c.begun = _
      simp only [bind,hfinish]
      rfl

/-- From begin to finish the connection commits once, at the end, or not at all: it does
what the one transaction does. -/
theorem workBindingCas_refines {α : Type} {body : ConnectionM α} {t : QuarkTx α} (hbody : Joins body t) (workId : String)
    (expected : ExpectedBinding) (c : Connection) (hclosed : c.working = none) (hdepth : c.atomicDepth = 0) :
    workBindingCas workId expected body c = match underWorkBinding workId expected t c.committed with
      | .ok (.done a,s) => (.ok (.done a),{ c with committed := s, commits := s :: c.commits })
      | .ok (.refused current,_) => (.ok (.refused current),c)
      | .error e => (.error (.quark e),c) := by
  unfold workBindingCas
  change bind (beginWorkBindingCas workId expected) _ c = _
  simp only [bind,beginWorkBindingCas_run hclosed hdepth]
  cases hrow : c.committed.work.get? workId with
  | none =>
    rw [underWorkBinding_none hrow]
    rfl
  | some item =>
    rw [underWorkBinding_some hrow]
    dsimp only
    by_cases hbinding : .binding item.durableBinding = expected
    · rw [if_pos hbinding,if_pos hbinding]
      change bind (orRollback body) _ c.begun = _
      have hrun := hbody c.begun rfl
      change match t c.committed with
        | .ok (a,s) => ∃ c', body c.begun = (.ok a,c') ∧ c'.view = s ∧ { c' with working := c.begun.working } = c.begun
        | .error e => ∃ c', body c.begun = (.error (.quark e),c') ∧ { c' with working := c.begun.working } = c.begun at hrun
      change _ = match (Tx.bind t fun a => pure (CasOutcome.done a)) c.committed with
        | .ok (.done a,s) => _
        | .ok (.refused current,_) => _
        | .error e => _
      cases ht : t c.committed with
      | error e =>
        rw [ht] at hrun
        obtain ⟨c',hfail,hsame⟩ := hrun
        simp only [bind,orRollback,hfail,finish_rollback hclosed hdepth hsame,throw,Tx.bind,ht]
      | ok r =>
        obtain ⟨a,s⟩ := r
        rw [ht] at hrun
        obtain ⟨c',hok,hview,hsame⟩ := hrun
        have hfinish : finishWorkBindingCas true c' = (.ok (),{ c with committed := s, commits := s :: c.commits }) := by
          obtain ⟨committed,working,atomicDepth,commits⟩ := c
          obtain ⟨committed',working',atomicDepth',commits'⟩ := c'
          simp only [begun,Connection.mk.injEq] at *
          obtain ⟨rfl,-,rfl,rfl⟩ := hsame
          subst hclosed hdepth hview
          rfl
        simp only [bind,orRollback,hok]
        change bind (finishWorkBindingCas true) _ c' = _
        simp only [bind,hfinish,Tx.bind,ht]
        rfl
    · rw [if_neg hbinding,if_neg hbinding]
      rfl

end Connection
end Overseer.Quark
