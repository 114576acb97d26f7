import Overseer.Provisioning.Plans
import Overseer.Library.Phases

/-! # A plan is executed once

An execution reads the plan, checks it, runs the steps of the host and writes the plan back at the
end. Where every write finds the plan as it was loaded, and no execution reads the plan while
another one that has read it has not ended, the forward steps are started by one execution, and no
step runs once the plan has been refused.
-/
namespace Overseer.Provisioning
open Overseer.Library Overseer.Core

abbrev PlanWorld := World PlanStore Held PlanAnswer ProvisioningError Unit

def PlanQuery.IsForward : PlanQuery → Prop
  | .forward _ => True
  | _ => False

/-- A step the adapter is asked for. -/
def PlanQuery.IsStep : PlanQuery → Prop
  | .forward _ => True
  | .rollback _ => True
  | _ => False

/-- An execution that has read its plan and has not ended. -/
def Executing : PlanProg Unit → Prop
  | .tx held _ _ => held.executing = true
  | .call q _ => q.IsStep
  | _ => False

def PlanStore.Refused (planId : String) (s : PlanStore) : Prop :=
  ∃ c, s.plans.get? planId = some c ∧ (c.status = .denied ∨ c.status = .revisionRequested)

/-- All forward steps are those of one request, and whenever a request is about to have a step run
the plan has never been refused. -/
structure ExecutedOnce (planId : String) (w : PlanWorld) : Prop where
  once : ∀ e ∈ w.trace.log, ∀ e' ∈ w.trace.log, e.2.1.IsForward → e'.2.1.IsForward → e.1 = e'.1
  refused : ∀ (i : ℕ) (q : PlanQuery) (k : PlanAnswer q → PlanProg Unit), w.threads[i]? = some (.call q k) → q.IsStep →
    ∀ s ∈ w.trace.history, ¬ s.Refused planId

/-- A write finds the plan as it was loaded. -/
def Unchanged (planId : String) (s : PlanStore) (held : Held) (_ : PlanStore) : Prop :=
  ∀ c, held.copy = some c → s.plans.get? planId = some c

/-! ### Phases of a request -/

inductive Phase where
  | idle
  | checking (plan : BackupProvisioningPlan)
  | running (plan : BackupProvisioningPlan)
  | past

def ProvisioningStatus.Finished (status : ProvisioningStatus) : Prop :=
  status = .executed ∨ status = .failed ∨ status = .rolledBack

def ProvisioningStatus.Decided (status : ProvisioningStatus) : Prop :=
  status = .approved ∨ status = .denied ∨ status = .revisionRequested

/-- The execution of a plan between its reading and its last write. -/
def Phase.IsOf (plan : BackupProvisioningPlan) (φ : Phase) : Prop := φ = .checking plan ∨ φ = .running plan

def Phase.Outside (φ : Phase) : Prop := φ = .idle ∨ φ = .past

inductive PhaseTx (planId : String) : Phase → PlanStore → Held → PlanStore → Phase → Prop where
  | look {φ : Phase} {s s' : PlanStore} (hφ : φ.Outside) (hplans : s'.plans = s.plans) : PhaseTx planId φ s {} s' φ
  | begin {s : PlanStore} {c : BackupProvisioningPlan} (hc : s.plans.get? planId = some c) :
      PhaseTx planId .idle s {} s (.checking c)
  | check {s : PlanStore} {c : BackupProvisioningPlan} :
      PhaseTx planId (.checking c) s { executing := true } s (.checking c)
  | leave {s : PlanStore} {c : BackupProvisioningPlan} : PhaseTx planId (.checking c) s {} s .past
  | decide {s : PlanStore} {c c' : BackupProvisioningPlan} (hc : c.status = .staged) (hc' : c'.status.Decided) :
      PhaseTx planId .idle s { copy := some c } (s.update planId c') .idle
  | finish {φ : Phase} {s : PlanStore} {c c' : BackupProvisioningPlan} (hφ : φ.IsOf c) (hc : c.status = .approved)
      (hc' : c'.status.Finished) : PhaseTx planId φ s { copy := some c, executing := true } (s.update planId c') .past

inductive PhaseAsk : Phase → PlanQuery → Phase → Prop where
  | other {φ : Phase} {q : PlanQuery} (hφ : φ.Outside) (hq : ¬ q.IsStep) : PhaseAsk φ q φ
  | step {φ : Phase} {c : BackupProvisioningPlan} {q : PlanQuery} (hφ : φ.IsOf c) (hc : c.status = .approved) (hq : q.IsStep) :
      PhaseAsk φ q (.running c)

/-- The phases of the requests on a plan. -/
def phases (planId : String) : Phases PlanStore Held PlanQuery Phase := ⟨PhaseTx planId,PhaseAsk⟩

section Programs
variable {planId : String} {host : PlanHost} {φ : Phase} {α β : Type} {Post : Except ProvisioningError β → Phase → Prop}

theorem follows_look {α : Type} {t : Tx PlanStore ProvisioningError α} (hφ : φ.Outside) (ht : ∀ s, (t.next s).plans = s.plans) :
    (phases planId).Follows (fun _ φ' => φ' = φ) (Prog.transaction {} t : PlanProg α) φ :=
  Phases.follows_transaction fun s => ⟨φ,.look hφ (ht s),rfl⟩

theorem follows_refuse_bind {o : Option String} {f : Unit → PlanProg β} (herror : ∀ e, Post (.error e) φ)
    (h : (phases planId).Follows Post (f ()) φ) : (phases planId).Follows Post (refuse o >>= f) φ := by
  cases o with
  | none => exact h
  | some message => exact herror _

theorem follows_timeOrNow (given : Option String) (hφ : φ.Outside) :
    (phases planId).Follows (fun _ φ' => φ' = φ) (timeOrNow given) φ := by
  have hask : (phases planId).Follows (fun (_ : Except ProvisioningError String) φ' => φ' = φ) (Prog.ask PlanQuery.clock : PlanProg String) φ :=
    ⟨φ,.other hφ id,fun _ => rfl⟩
  unfold timeOrNow
  split
  · exact hask
  · split
    · exact hask
    · rfl

theorem follows_stored (hφ : φ.Outside) : (phases planId).Follows (fun _ φ' => φ' = φ) (stored planId) φ := by
  refine (follows_look hφ fun _ => rfl).andThen (fun _ _ h => h) fun row φ' hφ' => ?_
  subst hφ'
  cases row with
  | none => rfl
  | some plan => rfl

theorem follows_loadCrewMessage {executing : Bool} (id : String)
    (hlook : ∀ s, PhaseTx planId φ s { executing := executing } s φ) :
    (phases planId).Follows (fun _ φ' => φ' = φ) (loadCrewMessage executing id) φ := by
  have hread : (phases planId).Follows (fun (_ : Except ProvisioningError (Option EvidenceMessage)) φ' => φ' = φ)
      (Prog.transaction { executing := executing } (Tx.read (·.crewMessages.get? id)) : PlanProg _) φ :=
    Phases.follows_transaction fun s => ⟨φ,hlook s,rfl⟩
  refine hread.andThen (fun _ _ h => h) fun row φ' hφ' => ?_
  subst hφ'
  cases row with
  | none => rfl
  | some message => rfl

theorem follows_requireTerminalEvidence {executing : Bool} (plan : BackupProvisioningPlan) (roles : List (String × OwnerDomain))
    (hlook : ∀ s, PhaseTx planId φ s { executing := executing } s φ) :
    (phases planId).Follows (fun _ φ' => φ' = φ) (requireTerminalEvidence executing plan roles) φ := by
  induction roles with
  | nil => rfl
  | cons entry rest ih =>
    obtain ⟨role,domain⟩ := entry
    refine Phases.follows_orRaise_bind rfl fun id _ => ?_
    refine (follows_loadCrewMessage id hlook).andThen (fun _ _ h => h) fun message φ' hφ' => ?_
    subst hφ'
    exact Phases.follows_require_bind rfl fun _ => ih

theorem follows_evidenceRequesters (ids : List String) (hφ : φ.Outside) :
    (phases planId).Follows (fun _ φ' => φ' = φ) (evidenceRequesters ids) φ := by
  induction ids with
  | nil => rfl
  | cons id rest ih =>
    refine (follows_loadCrewMessage id fun s => .look hφ rfl).andThen (fun _ _ h => h) fun message φ' hφ' => ?_
    subst hφ'
    refine ih.andThen (fun _ _ h => h) fun requesters φ' hφ' => ?_
    exact hφ'

theorem follows_decide {c c' : BackupProvisioningPlan} (hc : c.status = .staged) (hc' : c'.status.Decided) :
    (phases planId).Follows (fun _ φ' => φ' = .idle) (updatePlan { copy := some c } planId c') .idle :=
  Phases.follows_transaction fun _ => ⟨.idle,.decide hc hc',rfl⟩

theorem follows_finish {c c' : BackupProvisioningPlan} (hφ : φ.IsOf c) (hc : c.status = .approved) (hc' : c'.status.Finished) :
    (phases planId).Follows (fun _ φ' => φ' = .past) (updatePlan { copy := some c, executing := true } planId c') φ :=
  Phases.follows_transaction fun _ => ⟨.past,.finish hφ hc hc',rfl⟩

theorem follows_approvePlan (approvedBy : String) (approvedAt : Option String) :
    (phases planId).Follows (fun _ φ' => φ' = .idle) (approvePlan host planId approvedBy approvedAt) .idle := by
  have hidle : Phase.Outside .idle := .inl rfl
  refine (follows_timeOrNow approvedAt hidle).andThen (fun _ _ h => h) fun now φ' hφ' => ?_
  subst hφ'
  refine follows_refuse_bind (fun _ => rfl) ?_
  refine (follows_stored hidle).andThen (fun _ _ h => h) fun plan φ' hφ' => ?_
  subst hφ'
  refine (follows_requireTerminalEvidence plan requiredEvidence fun s => .look hidle rfl).andThen (fun _ _ h => h) fun _ φ' hφ' => ?_
  subst hφ'
  refine (follows_evidenceRequesters plan.evidenceIds.values hidle).andThen (fun _ _ h => h) fun requesters φ' hφ' => ?_
  subst hφ'
  refine Phases.follows_require_bind rfl fun hindependent => ?_
  refine (follows_decide hindependent.1 (.inl rfl)).andThen (fun _ _ h => h) fun _ φ' hφ' => ?_
  exact hφ'

/-! ### Execution -/

theorem follows_runForward {c : BackupProvisioningPlan} (hc : c.status = .approved) (steps : List ProvisioningStep)
    (evidence : List StepEvidence) (hφ : φ.IsOf c) :
    (phases planId).Follows (fun r φ' => φ'.IsOf c ∧ ∃ a, r = .ok a) (runForward steps evidence) φ := by
  induction steps generalizing φ evidence with
  | nil => exact ⟨hφ,_,rfl⟩
  | cons expected rest ih =>
    refine Phases.follows_ask_bind (.step hφ hc trivial) fun reply => ?_
    have hrunning : Phase.IsOf c (.running c) := .inr rfl
    change StepReply at reply
    cases reply with
    | raised code => exact ⟨hrunning,_,rfl⟩
    | replied ok =>
      cases ok with
      | true => exact ih _ hrunning
      | false => exact ⟨hrunning,_,rfl⟩

theorem follows_runRollback {c : BackupProvisioningPlan} (hc : c.status = .approved) (steps : List ProvisioningStep) (hφ : φ.IsOf c) :
    (phases planId).Follows (fun r φ' => φ'.IsOf c ∧ ∃ a, r = .ok a) (runRollback steps) φ := by
  induction steps generalizing φ with
  | nil => exact ⟨hφ,_,rfl⟩
  | cons rollback rest ih =>
    refine Phases.follows_ask_bind (.step hφ hc trivial) fun reply => ?_
    refine Phases.follows_bind ((ih (.inr rfl)).mono fun r φ' hr => ?_)
    obtain ⟨hφ',after,rfl⟩ := hr
    exact ⟨hφ',_,rfl⟩

theorem undone_finished (plan : BackupProvisioningPlan) (now : String) (evidence rollbackEvidence : List StepEvidence)
    (failedOperation errorCode : String) :
    (undone host plan now evidence rollbackEvidence failedOperation errorCode).status.Finished := by
  unfold undone ProvisioningStatus.Finished
  dsimp only
  split
  · exact .inr (.inr rfl)
  · exact .inr (.inl rfl)

theorem follows_settle {plan : BackupProvisioningPlan} (hplan : plan.status = .approved) (now : String) (forward : Forward)
    (hφ : φ.IsOf plan) : (phases planId).Follows (fun _ φ' => φ' = .past) (settle host planId plan now forward) φ := by
  cases forward with
  | completed evidence =>
    refine (follows_finish hφ hplan (.inl rfl)).andThen (fun _ _ h => h) fun _ φ' hφ' => ?_
    exact hφ'
  | broken evidence failedOperation errorCode e =>
    refine Phases.follows_bind ((follows_runRollback hplan plan.rollbackSteps hφ).mono fun r φ' hr => ?_)
    obtain ⟨hφ',rollbackEvidence,rfl⟩ := hr
    refine (follows_finish hφ' hplan (undone_finished ..)).andThen (fun _ _ h => h) fun _ φ' hφ' => ?_
    exact hφ'

/-- Not among the steps of an execution. -/
def Phase.Left (φ : Phase) : Prop := ∀ c, φ ≠ .running c

theorem Phase.Outside.left {φ : Phase} (h : φ.Outside) : φ.Left := by
  rintro c rfl
  rcases h with h | h <;> cases h

theorem follows_begin_bind {f : BackupProvisioningPlan → PlanProg β} (herror : ∀ e, Post (.error e) .idle)
    (h : ∀ plan, (phases planId).Follows Post (f plan) (.checking plan)) : (phases planId).Follows Post (stored planId >>= f) .idle := by
  refine Phases.follows_bind (Phases.follows_read_bind fun s => ?_)
  cases hrow : s.plans.get? planId with
  | none => exact ⟨.idle,.look (.inl rfl) rfl,herror _⟩
  | some plan => exact ⟨.checking plan,.begin hrow,h plan⟩

theorem follows_executePlan (adapter : Bool) (executedAt : Option String) :
    (phases planId).Follows (fun _ φ' => φ'.Left) (executePlan host planId adapter executedAt) .idle := by
  have hidle : Phase.Outside .idle := .inl rfl
  refine Phases.follows_require_bind hidle.left fun _ => ?_
  refine (follows_timeOrNow executedAt hidle).andThen (fun e φ' h => h ▸ hidle.left) fun now φ' hφ' => ?_
  subst hφ'
  refine follows_refuse_bind (fun _ => hidle.left) ?_
  refine follows_begin_bind (fun _ => hidle.left) fun plan => ?_
  have hchecking : Phase.Left (.checking plan) := fun c h => by cases h
  refine follows_refuse_bind (fun _ => hchecking) ?_
  refine (follows_requireTerminalEvidence plan requiredEvidence fun s => .check).andThen (fun e φ' h => h ▸ hchecking) fun _ φ' hφ' => ?_
  subst hφ'
  refine Phases.follows_require_bind hchecking fun hexecutable => ?_
  refine Phases.follows_bind ((follows_runForward hexecutable.1 plan.steps [] (.inl rfl)).mono fun r φ' hr => ?_)
  obtain ⟨hφ',forward,rfl⟩ := hr
  exact (follows_settle hexecutable.1 now forward hφ').mono fun _ φ' h => h ▸ Phase.Outside.left (.inr rfl)

/-! ### Requests -/

theorem follows_lastLook {α : Type} {t : Tx PlanStore ProvisioningError α} (hφ : φ.Left) (ht : ∀ s, t.next s = s) :
    (phases planId).Follows (fun _ φ' => φ'.Left) (Prog.transaction {} t : PlanProg α) φ := by
  refine Phases.follows_transaction fun s => ?_
  rw [ht s]
  cases φ with
  | idle => exact ⟨.idle,.look (.inl rfl) rfl,hφ⟩
  | checking c => exact ⟨.past,.leave,Phase.Outside.left (.inr rfl)⟩
  | running c => exact absurd rfl (hφ c)
  | past => exact ⟨.past,.look (.inr rfl) rfl,hφ⟩

theorem follows_approveAndExecute (decidedBy : String) (plan : BackupProvisioningPlan) :
    (phases planId).Follows (fun _ φ' => φ'.Left) (approveAndExecute host planId decidedBy plan) .idle := by
  have hidle : Phase.Outside .idle := .inl rfl
  refine Phases.follows_ask_bind (.other hidle id) fun made => ?_
  refine Phases.follows_require_bind hidle.left fun _ => ?_
  refine (follows_approvePlan _ _).andThen (fun e φ' h => h ▸ hidle.left) fun approved φ' hφ' => ?_
  subst hφ'
  refine Phases.Follows.handle (Phases.follows_bind ((follows_executePlan true none).mono fun r φ' hleft => ?_))
  cases r with
  | ok executed => exact hleft
  | error e =>
    refine (follows_lastLook hleft fun _ => rfl).andThen (fun _ _ h => h) fun plans φ' hφ' => ?_
    exact Phases.follows_orRaise_bind hφ' fun current _ => hφ'

theorem follows_decideRoadexHumanPlan (decision decidedBy reason : String) (adapterFactory : Bool) :
    (phases planId).Follows (fun _ φ' => φ'.Left)
      (decideRoadexHumanPlan host planId decision decidedBy reason adapterFactory) .idle := by
  have hidle : Phase.Outside .idle := .inl rfl
  refine Phases.follows_require_bind hidle.left fun _ => ?_
  refine Phases.follows_require_bind hidle.left fun _ => ?_
  refine Phases.follows_require_bind hidle.left fun _ => ?_
  refine (follows_stored hidle).andThen (fun e φ' h => h ▸ hidle.left) fun plan φ' hφ' => ?_
  subst hφ'
  refine Phases.follows_require_bind hidle.left fun hstaged => ?_
  refine (follows_requireTerminalEvidence plan requiredEvidence fun s => .look hidle rfl).andThen (fun e φ' h => h ▸ hidle.left)
    fun _ φ' hφ' => ?_
  subst hφ'
  split
  · exact Phases.follows_require_bind hidle.left fun _ => follows_approveAndExecute decidedBy plan
  · refine Phases.follows_ask_bind (.other hidle id) fun now => ?_
    have hdecided : (decided plan decision decidedBy reason now).status.Decided := by
      unfold decided ProvisioningStatus.Decided
      dsimp only
      split
      · exact .inr (.inl rfl)
      · exact .inr (.inr rfl)
    refine (follows_decide hstaged.2 hdecided).andThen (fun e φ' h => h ▸ hidle.left) fun _ φ' hφ' => ?_
    exact hφ' ▸ hidle.left

theorem follows_program (call : PlanCall) : (phases planId).Follows (fun _ φ' => φ'.Left) (call.program host planId) .idle := by
  have hidle : Phase.Outside .idle := .inl rfl
  cases call with
  | decide decision decidedBy reason adapterFactory =>
    exact (follows_decideRoadexHumanPlan decision decidedBy reason adapterFactory).andThen (fun _ _ h => h) fun _ _ h => h
  | approve approvedBy approvedAt =>
    exact (follows_approvePlan approvedBy approvedAt).andThen (fun _ _ h => h ▸ hidle.left) fun _ _ h => h ▸ hidle.left
  | execute adapter executedAt =>
    exact (follows_executePlan adapter executedAt).andThen (fun _ _ h => h) fun _ _ h => h
  | crew id message => exact (follows_look hidle fun _ => rfl).mono fun _ _ h => h ▸ hidle.left

end Programs

/-! ### The invariant -/

/-- Where the requests on a plan are, and what that says of its row. -/
structure PlanInvariant (planId : String) (φ : ℕ → Phase) (w : PlanWorld) : Prop where
  alone : World.Alone Executing w
  running : ∀ i c, φ i = .running c → w.trace.store.plans.get? planId = some c ∧ c.status = .approved
  checking : ∀ i p c, w.threads[i]? = some p → Executing p → φ i = .checking c → c.status = .approved →
    w.trace.store.plans.get? planId = some c
  started : ∀ e ∈ w.trace.log, e.2.1.IsForward →
    (∃ c, φ e.1 = .running c) ∨ ∃ c, w.trace.store.plans.get? planId = some c ∧ c.status.Finished
  once : ∀ e ∈ w.trace.log, ∀ e' ∈ w.trace.log, e.2.1.IsForward → e'.2.1.IsForward → e.1 = e'.1
  refused : ∀ s ∈ w.trace.history, s.Refused planId → w.trace.store.Refused planId

section Invariant
variable {planId : String} {φ : ℕ → Phase} {w : PlanWorld} {i : ℕ} {φ' : Phase} {p p' : PlanProg Unit}

/-- The threads and the phases they are in. -/
def InPhase (planId : String) (φ : ℕ → Phase) (w : PlanWorld) : Prop :=
  ∀ j p, w.threads[j]? = some p → (phases planId).Follows (fun _ φ' => φ'.Left) p (φ j)

theorem executing_of_running {c : BackupProvisioningPlan} (h : (phases planId).Follows (fun _ φ' => φ'.Left) p (.running c)) :
    Executing p := by
  cases p with
  | ret a => exact absurd rfl (h c)
  | fail e => exact absurd rfl (h c)
  | tx held next k =>
    obtain ⟨φ',hstep,-⟩ := h {}
    generalize next {} = s' at hstep
    cases hstep with
    | look hφ _ => exact absurd rfl (hφ.left c)
    | finish => rfl
  | call q k =>
    obtain ⟨φ',hstep,-⟩ := h
    cases hstep with
    | other hφ _ => exact absurd rfl (hφ.left c)
    | step _ _ hq => exact hq

/-- The phase of one request changes, and the row of the plan stays. -/
theorem PlanInvariant.look (h : PlanInvariant planId φ w) {s' : PlanStore} (hrow : s'.plans.get? planId = w.trace.store.plans.get? planId)
    (halone : World.Alone Executing ⟨w.trace.commit s',w.threads.set i p'⟩) (hleft : (φ i).Left) (hleft' : φ'.Left)
    (hchecking : ∀ c, φ' = .checking c → c.status = .approved → Executing p' → w.trace.store.plans.get? planId = some c) :
    PlanInvariant planId (Function.update φ i φ') ⟨w.trace.commit s',w.threads.set i p'⟩ := by
  have hother : ∀ j c, Function.update φ i φ' j = .running c → φ j = .running c := by
    intro j c hj
    by_cases hji : j = i
    · subst hji
      rw [Function.update_self] at hj
      exact absurd hj (hleft' c)
    · rwa [Function.update_of_ne hji] at hj
  refine ⟨halone,fun j c hj => ?_,fun j q c hq hbusy hj hc => ?_,fun e he hforward => ?_,h.once,fun s hs href => ?_⟩
  · rw [Trace.commit_store,hrow]
    exact h.running j c (hother j c hj)
  · rw [Trace.commit_store,hrow]
    rcases World.thread_set hq with ⟨rfl,rfl⟩ | ⟨hji,hq⟩
    · rw [Function.update_self] at hj
      exact hchecking c hj hc hbusy
    · rw [Function.update_of_ne hji] at hj
      exact h.checking j q c hq hbusy hj hc
  · rw [Trace.commit_store,hrow]
    rcases h.started e he hforward with ⟨c,hc⟩ | hfinished
    · refine .inl ⟨c,?_⟩
      have hne : e.1 ≠ i := by
        intro heq
        exact hleft c (heq ▸ hc)
      rwa [Function.update_of_ne hne]
    · exact .inr hfinished
  · have hsame : ∀ u : PlanStore, u.plans.get? planId = w.trace.store.plans.get? planId → (u.Refused planId ↔ w.trace.store.Refused planId) := by
      intro u hu
      simp only [PlanStore.Refused,hu]
    rw [Trace.commit_history,List.mem_cons] at hs
    rw [Trace.commit_store,hsame s' hrow]
    rcases hs with rfl | hs
    · exact (hsame _ hrow).mp href
    · exact h.refused s hs href

theorem get?_update {s : PlanStore} {c c' : BackupProvisioningPlan} (hc : s.plans.get? planId = some c) :
    (s.update planId c').plans.get? planId = some c' := by
  simp [PlanStore.update,hc]

/-- The row of a plan that has not been refused is written. -/
theorem PlanInvariant.write (h : PlanInvariant planId φ w) {c c' : BackupProvisioningPlan} (hrow : w.trace.store.plans.get? planId = some c)
    (halone : World.Alone Executing ⟨w.trace.commit (w.trace.store.update planId c'),w.threads.set i p'⟩)
    (hc : c.status = .staged ∨ c.status = .approved) (hφ' : φ'.Outside) (hrunning : ∀ j d, j ≠ i → φ j ≠ .running d)
    (hchecking : ∀ j q d, j ≠ i → w.threads[j]? = some q → Executing q → φ j = .checking d → d.status ≠ .approved)
    (hstarted : c'.status.Finished ∨ ∀ e ∈ w.trace.log, ¬ e.2.1.IsForward) :
    PlanInvariant planId (Function.update φ i φ') ⟨w.trace.commit (w.trace.store.update planId c'),w.threads.set i p'⟩ := by
  have hrow' : (w.trace.store.update planId c').plans.get? planId = some c' := get?_update hrow
  refine ⟨halone,fun j d hj => ?_,fun j q d hq hbusy hj hd => ?_,fun e he hforward => ?_,h.once,fun s hs href => ?_⟩
  · by_cases hji : j = i
    · subst hji
      rw [Function.update_self] at hj
      exact absurd hj (hφ'.left d)
    · rw [Function.update_of_ne hji] at hj
      exact absurd hj (hrunning j d hji)
  · rcases World.thread_set hq with ⟨rfl,rfl⟩ | ⟨hji,hq⟩
    · rw [Function.update_self] at hj
      subst hj
      rcases hφ' with hφ' | hφ' <;> cases hφ'
    · rw [Function.update_of_ne hji] at hj
      exact absurd hd (hchecking j q d hji hq hbusy hj)
  · rcases hstarted with hfinished | hnone
    · exact .inr ⟨c',hrow',hfinished⟩
    · exact absurd hforward (hnone e he)
  · rw [Trace.commit_history,List.mem_cons] at hs
    rcases hs with rfl | hs
    · exact href
    · obtain ⟨d,hd,hstatus⟩ := h.refused s hs href
      rw [hrow] at hd
      obtain rfl := Option.some.inj hd
      rcases hc with hc | hc <;> rcases hstatus with hstatus | hstatus <;> rw [hc] at hstatus <;> cases hstatus

theorem PlanInvariant.row (h : PlanInvariant planId φ w) (hi : w.threads[i]? = some p) (hbusy : Executing p) {c : BackupProvisioningPlan}
    (hφ : (φ i).IsOf c) (hc : c.status = .approved) : w.trace.store.plans.get? planId = some c := by
  rcases hφ with hφ | hφ
  · exact h.checking i p c hi hbusy hφ hc
  · exact (h.running i c hφ).1

theorem PlanInvariant.only (h : PlanInvariant planId φ w) (hall : InPhase planId φ w) (hlen : ∀ j, w.threads.length ≤ j → φ j = .idle)
    (hi : w.threads[i]? = some p) (hbusy : Executing p) {j : ℕ} {d : BackupProvisioningPlan} (hj : φ j = .running d) : j = i := by
  cases hq : w.threads[j]? with
  | none =>
    rw [hlen j (List.getElem?_eq_none_iff.mp hq)] at hj
    cases hj
  | some q =>
    have hfollows := hall j q hq
    rw [hj] at hfollows
    exact h.alone j i q p hq (executing_of_running hfollows) hi hbusy

theorem status_of_row {c d : BackupProvisioningPlan} {s : PlanStore} (hc : s.plans.get? planId = some c)
    (hd : s.plans.get? planId = some d) : c.status = d.status := by
  rw [hc] at hd
  rw [Option.some.inj hd]

theorem PlanInvariant.tx (h : PlanInvariant planId φ w) (hall : InPhase planId φ w) (hlate : ∀ j, w.threads.length ≤ j → φ j = .idle)
    {held : Held} {next : PlanStore → PlanStore} {k : PlanStore → PlanProg Unit} (hi : w.threads[i]? = some (.tx held next k))
    (hg : Unchanged planId w.trace.store held (next w.trace.store))
    (hstep : PhaseTx planId (φ i) w.trace.store held (next w.trace.store) φ')
    (hturn : World.InTurn Executing w ⟨w.trace.commit (next w.trace.store),w.threads.set i p'⟩) :
    PlanInvariant planId (Function.update φ i φ') ⟨w.trace.commit (next w.trace.store),w.threads.set i p'⟩ := by
  have halone := h.alone.set hturn
  generalize next w.trace.store = s' at hstep halone hg ⊢
  generalize hφi : φ i = ψ at hstep
  cases hstep with
  | look hφ hplans =>
    refine h.look (by rw [hplans]) halone (hφi ▸ hφ.left) hφ.left fun c hc => ?_
    subst hc
    rcases hφ with hφ | hφ <;> cases hφ
  | begin hc =>
    refine h.look rfl halone (hφi ▸ Phase.Outside.left (.inl rfl)) (fun d hd => by cases hd) fun d hd _ _ => ?_
    cases hd
    exact hc
  | check =>
    refine h.look rfl halone (fun d hd => ?_) (fun d hd => by cases hd) fun d hd happroved _ => ?_
    · rw [hφi] at hd
      cases hd
    · cases hd
      exact h.checking i _ _ hi rfl hφi happroved
  | leave =>
    refine h.look rfl halone (fun d hd => ?_) (fun d hd => by cases hd) fun d hd => by cases hd
    rw [hφi] at hd
    cases hd
  | @decide _ c c' hc hc' =>
    have hrow := hg c rfl
    -- nobody executes a plan that is staged
    have hnone : ∀ d : BackupProvisioningPlan, w.trace.store.plans.get? planId = some d → d.status ≠ .approved := by
      intro d hd happroved
      rw [status_of_row hd hrow,hc] at happroved
      cases happroved
    refine h.write hrow halone (.inl hc) (.inl rfl) (fun j d _ hj => ?_) (fun j q d _ hq hbusy hj hd => ?_) (.inr fun e he hforward => ?_)
    · exact hnone d (h.running j d hj).1 (h.running j d hj).2
    · exact hnone d (h.checking j q d hq hbusy hj hd) hd
    · rcases h.started e he hforward with ⟨d,hd⟩ | ⟨d,hd,hfinished⟩
      · exact hnone d (h.running _ d hd).1 (h.running _ d hd).2
      · rw [ProvisioningStatus.Finished,status_of_row hd hrow,hc] at hfinished
        rcases hfinished with hd | hd | hd <;> cases hd
  | @finish _ _ c c' hφ hc hc' =>
    have hrow := hg c rfl
    refine h.write hrow halone (.inr hc) (.inr rfl) (fun j d hji hj => ?_) (fun j q d hji hq hbusy _ _ => ?_) (.inl hc')
    · exact hji (h.only hall hlate hi rfl hj)
    · exact hji (h.alone j i q _ hq hbusy hi rfl)

theorem PlanInvariant.call (h : PlanInvariant planId φ w) (hall : InPhase planId φ w) (hlate : ∀ j, w.threads.length ≤ j → φ j = .idle)
    {q : PlanQuery} {k : PlanAnswer q → PlanProg Unit} {a : PlanAnswer q} (hi : w.threads[i]? = some (.call q k))
    (hstep : PhaseAsk (φ i) q φ') (hturn : World.InTurn Executing w ⟨w.trace.record i q a,w.threads.set i p'⟩) :
    PlanInvariant planId (Function.update φ i φ') ⟨w.trace.record i q a,w.threads.set i p'⟩ := by
  have halone := h.alone.set hturn
  generalize hφi : φ i = ψ at hstep
  cases hstep with
  | other hφ hq =>
    have hsame : Function.update φ i φ' = φ := by rw [← hφi,Function.update_eq_self]
    rw [hsame]
    have hold : ∀ e ∈ (w.trace.record i q a).log, e.2.1.IsForward → e ∈ w.trace.log := by
      intro e he hforward
      rcases List.mem_cons.mp he with rfl | he
      · cases q <;> first | exact absurd trivial hq | cases hforward
      · exact he
    refine ⟨halone,h.running,fun j p c hp hbusy hj hc => ?_,fun e he hf => h.started e (hold e he hf) hf,
      fun e he e' he' hf hf' => h.once e (hold e he hf) e' (hold e' he' hf') hf hf',h.refused⟩
    rcases World.thread_set hp with ⟨rfl,rfl⟩ | ⟨-,hp⟩
    · rw [hφi] at hj
      subst hj
      rcases hφ with hφ | hφ <;> cases hφ
    · exact h.checking j p c hp hbusy hj hc
  | @step c _ hφ hc hq =>
    have hrow := h.row hi hq (hφi ▸ hφ) hc
    -- an earlier forward step is one of this request
    have hmine : ∀ e ∈ w.trace.log, e.2.1.IsForward → e.1 = i := by
      intro e he hforward
      rcases h.started e he hforward with ⟨d,hd⟩ | ⟨d,hd,hfinished⟩
      · exact h.only hall hlate hi hq hd
      · rw [ProvisioningStatus.Finished,status_of_row hd hrow,hc] at hfinished
        rcases hfinished with hd | hd | hd <;> cases hd
    have hall' : ∀ e ∈ (w.trace.record i q a).log, e.2.1.IsForward → e.1 = i := by
      intro e he hforward
      rcases List.mem_cons.mp he with rfl | he
      · rfl
      · exact hmine e he hforward
    refine ⟨halone,fun j d hj => ?_,fun j p d hp hbusy hj hd => ?_,fun e he hforward => .inl ⟨c,?_⟩,
      fun e he e' he' hf hf' => (hall' e he hf).trans (hall' e' he' hf').symm,h.refused⟩
    · by_cases hji : j = i
      · subst hji
        rw [Function.update_self] at hj
        cases hj
        exact ⟨hrow,hc⟩
      · rw [Function.update_of_ne hji] at hj
        exact h.running j d hj
    · rcases World.thread_set hp with ⟨rfl,rfl⟩ | ⟨hji,hp⟩
      · rw [Function.update_self] at hj
        cases hj
      · rw [Function.update_of_ne hji] at hj
        exact h.checking j p d hp hbusy hj hd
    · rw [hall' e he hforward,Function.update_self]

theorem PlanInvariant.safe (h : PlanInvariant planId φ w) (hall : InPhase planId φ w) : ExecutedOnce planId w := by
  refine ⟨h.once,fun i q k hi hq s hs href => ?_⟩
  obtain ⟨d,hd,hstatus⟩ := h.refused s hs href
  obtain ⟨φ',hstep,-⟩ := hall i _ hi
  generalize hφi : φ i = ψ at hstep
  cases hstep with
  | other _ hnot => exact hnot hq
  | @step c _ hφ hc _ =>
    have hrow := h.row hi hq (hφi ▸ hφ) hc
    rw [status_of_row hd hrow,hc] at hstatus
    rcases hstatus with hstatus | hstatus <;> cases hstatus

end Invariant

/-- In every run whose writes find the plan as it was loaded, and in which no execution reads the
plan before another one that has read it has ended, a plan is executed at most once and never
after it was refused. -/
theorem executed_once (planId : String) (host : PlanHost) (s₀ : PlanStore) {w : PlanWorld}
    (h : World.Under (planSystem host planId (Unchanged planId)) (World.InTurn Executing) (World.init s₀) w) :
    ExecutedOnce planId w := by
  have hinit : PlanInvariant planId (fun _ => .idle) (World.init s₀) := by
    constructor
    · intro i j p q hp
      simp [World.init] at hp
    · intro i c hc
      cases hc
    · intro i p c _ _ hc
      cases hc
    · intro e he
      simp [World.init,Trace.start] at he
    · intro e he
      simp [World.init,Trace.start] at he
    · intro s hs href
      rwa [List.mem_singleton.mp hs] at href
  obtain ⟨φ,hall,hinv⟩ := h.phases (fun p hp => by obtain ⟨call,rfl⟩ := hp; exact follows_program call) hinit
    (fun φ w p hinv hlate hp hturn => by
      refine ⟨hinv.alone.append hturn,hinv.running,fun i q c hq hbusy hφ hc => ?_,hinv.started,hinv.once,hinv.refused⟩
      rcases World.thread_append hq with hq | ⟨rfl,-⟩
      · exact hinv.checking i q c hq hbusy hφ hc
      · rw [hlate _ le_rfl] at hφ
        cases hφ)
    (fun φ w i held next k φ' hinv hlate hall hi hg hstep _ hturn => hinv.tx hall hlate hi hg hstep hturn)
    (fun φ w i q k a φ' hinv hlate hall hi _ hstep _ hturn => hinv.call hall hlate hi hstep hturn)
  exact hinv.safe hall

/-! ### Concrete runs -/

def plainHost : PlanHost where
  sha256 text := text
  fromisoformat _ := some true
  planFault _ := none

def plainAnswers : (q : PlanQuery) → PlanAnswer q
  | .clock => "2026-01-01T00:00:00+00:00"
  | .adapterFactory _ => true
  | .forward _ => .replied true
  | .rollback _ => .replied true

def evidenceOf (domain : OwnerDomain) : EvidenceMessage :=
  ⟨domain,some "plan-1",.acknowledged,.approved,some domain.value,some "2026-01-01T00:00:00+00:00","overseer"⟩

def stagedPlan : BackupProvisioningPlan where
  planId := "plan-1"
  contract := .null
  evidenceIds := ⟨requiredEvidence.map fun e => (e.1,"crew." ++ e.1),by decide⟩
  steps := [⟨"install_runtime",.null⟩]
  rollbackSteps := []

/-- A staged plan with the evidence of the four crews. -/
def stagedStore : PlanStore where
  plans := Dict.empty.set "plan-1" stagedPlan
  crewMessages := ⟨requiredEvidence.map fun e => ("crew." ++ e.1,evidenceOf e.2),by decide⟩

abbrev PlanMove := Move PlanStore Held PlanAnswer ProvisioningError Unit

def startCall (call : PlanCall) : PlanMove := .start (call.program plainHost "plan-1")

theorem startCall_allowed (guard : PlanStore → Held → PlanStore → Prop) (call : PlanCall) :
    ∀ mv ∈ [startCall call], mv.Allowed (planSystem plainHost "plan-1" guard) := World.allowed_start _ ⟨call,rfl⟩

def isForward : PlanQuery → Bool
  | .forward _ => true
  | _ => false

theorem isForward_spec (q : PlanQuery) (h : isForward q = true) : q.IsForward := by
  cases q <;> trivial

/-- A forward step was run for the request. -/
def ranForward (i : ℕ) (w : PlanWorld) : Bool := w.trace.log.any fun e => e.1 = i && isForward e.2.1

theorem ranForward_spec {i : ℕ} {w : PlanWorld} (h : ranForward i w = true) : ∃ e ∈ w.trace.log, e.1 = i ∧ e.2.1.IsForward := by
  obtain ⟨e,he,hcheck⟩ := List.any_eq_true.mp h
  rw [Bool.and_eq_true,decide_eq_true_eq] at hcheck
  exact ⟨e,he,hcheck.1,isForward_spec _ hcheck.2⟩

def executing : PlanProg Unit → Bool
  | .tx held _ _ => held.executing
  | .call (.forward _) _ => true
  | .call (.rollback _) _ => true
  | _ => false

theorem executing_iff (p : PlanProg Unit) : executing p = true ↔ Executing p := by
  cases p with
  | ret a => simp [executing,Executing]
  | fail e => simp [executing,Executing]
  | tx held next k => rfl
  | call q k => cases q <;> simp [executing,Executing,PlanQuery.IsStep]

/-- `World.InTurn` of executions, decided. -/
def inTurn (w w' : PlanWorld) : Bool :=
  (w.threads.all fun p => !executing p) ||
    (List.range w'.threads.length).all fun i => (w'.threads[i]?).all fun p' => !executing p' || (w.threads[i]?).any executing

theorem inTurn_spec (w w' : PlanWorld) (h : inTurn w w' = true) : World.InTurn Executing w w' := by
  intro i p' hp' hbusy
  rcases (Bool.or_eq_true _ _).mp h with hnone | hall
  · refine .inr fun p hp hexecuting => ?_
    have hnot := List.all_eq_true.mp hnone p hp
    rw [(executing_iff p).mpr hexecuting] at hnot
    cases hnot
  · have hlt : i < w'.threads.length := (List.getElem?_eq_some_iff.mp hp').1
    have hi := List.all_eq_true.mp hall i (List.mem_range.mpr hlt)
    rw [hp',Option.all_some,(executing_iff p').mpr hbusy,Bool.not_true,Bool.false_or] at hi
    obtain ⟨p,hp,hexecuting⟩ := (Option.any_eq_true _ _).mp hi
    exact .inl ⟨p,hp,(executing_iff p).mp hexecuting⟩

def unchanged (s : PlanStore) (held : Held) (_ : PlanStore) : Bool := held.copy.all fun c => s.plans.get? "plan-1" = some c

theorem unchanged_spec (s : PlanStore) (held : Held) (s' : PlanStore) (h : unchanged s held s' = true) :
    Unchanged "plan-1" s held s' := by
  intro c hc
  simpa [unchanged,hc] using h

/-- The plan is approved by a human. -/
def approved : List PlanMove := [startCall (.approve "captain" (some "2026-01-01T00:00:00+00:00"))] ++ World.steps 0 10 plainAnswers

/-- The plan is approved and executed. -/
def executedRun : List PlanMove :=
  approved ++ [startCall (.execute true (some "2026-01-01T00:00:00+00:00"))] ++ World.steps 1 7 plainAnswers

theorem approved_allowed (guard : PlanStore → Held → PlanStore → Prop) :
    ∀ mv ∈ approved, mv.Allowed (planSystem plainHost "plan-1" guard) := by
  simp only [approved,List.forall_mem_append]
  exact ⟨startCall_allowed _ _,World.allowed_steps _ _ _⟩

def statusOf (w : PlanWorld) : Option ProvisioningStatus := (w.trace.store.plans.get? "plan-1").map (·.status)

theorem executed_once_approved : ∃ w : PlanWorld, ranForward 1 w = true ∧ statusOf w = some .executed ∧ ExecutedOnce "plan-1" w := by
  have hmoves : ∀ mv ∈ executedRun, mv.Allowed (planSystem plainHost "plan-1" (Unchanged "plan-1")) := by
    simp only [executedRun,List.forall_mem_append]
    exact ⟨⟨approved_allowed _,startCall_allowed _ _⟩,World.allowed_steps _ _ _⟩
  obtain ⟨w,hw,hcheck⟩ := World.exists_under (World.init stagedStore) executedRun
    (fun w => ranForward 1 w && decide (statusOf w = some .executed))
    (fun _ _ _ (_ : true = true) => trivial) unchanged_spec inTurn_spec hmoves (by decide +kernel)
  rw [Bool.and_eq_true,decide_eq_true_eq] at hcheck
  exact ⟨w,hcheck.1,hcheck.2,executed_once "plan-1" plainHost stagedStore hw⟩

/-- An execution is cut off after its first step, and the plan is executed again. -/
def cutOff : List PlanMove :=
  approved ++ [startCall (.execute true (some "2026-01-01T00:00:00+00:00"))] ++ World.steps 1 6 plainAnswers ++
    [startCall (.execute true (some "2026-01-01T00:00:00+00:00"))] ++ World.steps 2 6 plainAnswers

/-- The plan is still approved when it is executed again. -/
theorem executed_twice : ∃ w, World.Reachable (planSystem plainHost "plan-1" fun _ _ _ => True) (World.init stagedStore) w ∧
    ¬ ExecutedOnce "plan-1" w := by
  have hmoves : ∀ mv ∈ cutOff, mv.Allowed (planSystem plainHost "plan-1" fun _ _ _ => True) := by
    simp only [cutOff,List.forall_mem_append]
    exact ⟨⟨⟨⟨approved_allowed _,startCall_allowed _ _⟩,World.allowed_steps _ _ _⟩,startCall_allowed _ _⟩,
      World.allowed_steps _ _ _⟩
  obtain ⟨w,hw,hcheck⟩ := World.exists_reachable (World.init stagedStore) cutOff (fun w => ranForward 1 w && ranForward 2 w)
    (fun _ _ _ (_ : true = true) => trivial) (fun _ _ _ (_ : true = true) => trivial) hmoves (by decide +kernel)
  rw [Bool.and_eq_true] at hcheck
  obtain ⟨e,he,hfirst,hforward⟩ := ranForward_spec hcheck.1
  obtain ⟨e',he',hsecond,hforward'⟩ := ranForward_spec hcheck.2
  refine ⟨w,hw,fun hsafe => ?_⟩
  have hsame := hsafe.once e he e' he' hforward hforward'
  omega

end Overseer.Provisioning
