import Overseer.Provisioning.Contract
import Overseer.Provisioning.Execution
import Overseer.Library.Answered

/-! # What the outcome of an execution tells

An execution that no other disturbs asks the adapter for the forward steps in their order, up to the
first that fails, and then for every rollback step. What it stores says how they went.
-/
namespace Overseer.Provisioning
open Overseer.Library Overseer.Core

/-! ### Steps of a run -/

section Steps
variable {s s' : PlanStore} {log : List (Σ q, PlanAnswer q)}

instance (given : Option String) : Prog.Quiet PlanQuery.IsStep (timeOrNow given) := by
  have hclock : Prog.Quiet PlanQuery.IsStep (Prog.ask PlanQuery.clock : PlanProg String) :=
    ⟨fun _ => trivial,⟨fun h => absurd h id,fun _ _ => trivial⟩⟩
  unfold timeOrNow
  split
  · exact hclock
  · split
    · exact hclock
    · infer_instance

instance (fault : Option String) : Prog.Quiet PlanQuery.IsStep (refuse fault) := by
  cases fault <;> exact ⟨trivial,trivial⟩

instance {α : Type} (held : Held) (f : PlanStore → α) : Prog.Quiet PlanQuery.IsStep (Prog.transaction held (Tx.read f) : PlanProg α) :=
  ⟨⟨fun _ => rfl,fun _ => trivial⟩,Prog.asks_transaction⟩

instance (planId : String) : Prog.Quiet PlanQuery.IsStep (stored planId) := by
  unfold stored
  infer_instance

instance (executing : Bool) (id : String) : Prog.Quiet PlanQuery.IsStep (loadCrewMessage executing id) := by
  unfold loadCrewMessage
  infer_instance

theorem quiet_requireTerminalEvidence (executing : Bool) (plan : BackupProvisioningPlan) (roles : List (String × OwnerDomain)) :
    Prog.Quiet PlanQuery.IsStep (requireTerminalEvidence executing plan roles) := by
  induction roles with
  | nil => exact ⟨trivial,trivial⟩
  | cons role rest ih =>
    unfold requireTerminalEvidence
    infer_instance

/-- The adapter was asked these forward steps. -/
def forwards (asked : List (ProvisioningStep × StepReply)) : List (Σ q, PlanAnswer q) := asked.map fun e => ⟨.forward e.1,e.2⟩

/-- The adapter was asked these rollback steps. -/
def rollbacks (asked : List (ProvisioningStep × StepReply)) : List (Σ q, PlanAnswer q) := asked.map fun e => ⟨.rollback e.1,e.2⟩

/-- How the forward steps went: in their order, to the end or to the first that fails. -/
inductive Went (steps : List ProvisioningStep) : List (ProvisioningStep × StepReply) → Forward → Prop where
  | completed {asked : List (ProvisioningStep × StepReply)} (evidence : List StepEvidence) (hsteps : asked.map Prod.fst = steps)
      (hok : ∀ e ∈ asked, e.2.ok = true) : Went steps asked (.completed evidence)
  | broken (before : List (ProvisioningStep × StepReply)) {step : ProvisioningStep} {reply : StepReply} {rest : List ProvisioningStep}
      (evidence : List StepEvidence) (errorCode : String) (e : ProvisioningError) (hsteps : steps = before.map Prod.fst ++ step :: rest)
      (hok : ∀ e ∈ before, e.2.ok = true) (hreply : reply.ok = false) :
      Went steps (before ++ [(step,reply)]) (.broken evidence step.operation errorCode e)

theorem Went.cons {steps : List ProvisioningStep} {asked : List (ProvisioningStep × StepReply)} {forward : Forward}
    (h : Went steps asked forward) (step : ProvisioningStep) : Went (step :: steps) ((step,.replied true) :: asked) forward := by
  cases h with
  | completed evidence hsteps hok =>
    refine .completed evidence (by rw [List.map_cons,hsteps]) fun e he => ?_
    rcases List.mem_cons.mp he with rfl | he
    · rfl
    · exact hok e he
  | broken before evidence errorCode e hsteps hok hreply =>
    have hbefore : ∀ e ∈ (step,StepReply.replied true) :: before, e.2.ok = true := by
      intro e he
      rcases List.mem_cons.mp he with rfl | he
      · rfl
      · exact hok e he
    rw [← List.cons_append]
    exact .broken _ evidence errorCode e (by rw [hsteps,List.map_cons,List.cons_append]) hbefore hreply

theorem runForward_solo {steps : List ProvisioningStep} {evidence : List StepEvidence} {r : Except ProvisioningError Forward}
    (h : Prog.Solo (runForward steps evidence) s log r s') :
    s' = s ∧ ∃ forward asked, r = .ok forward ∧ log = forwards asked ∧ Went steps asked forward := by
  induction steps generalizing evidence s log with
  | nil =>
    cases h
    exact ⟨rfl,_,[],rfl,rfl,.completed _ rfl nofun⟩
  | cons step rest ih =>
    cases h with
    | call _ _ reply h =>
      cases reply with
      | replied ok =>
        cases ok with
        | true =>
          obtain ⟨hs,forward,asked,hr,hlog,hwent⟩ := ih h
          exact ⟨hs,forward,(step,.replied true) :: asked,hr,by rw [hlog]; rfl,hwent.cons step⟩
        | false =>
          cases h
          exact ⟨rfl,_,[(step,.replied false)],rfl,rfl,.broken [] _ _ _ rfl nofun rfl⟩
      | raised code =>
        cases h
        exact ⟨rfl,_,[(step,.raised code)],rfl,rfl,.broken [] _ _ _ rfl nofun rfl⟩

theorem runRollback_solo {steps : List ProvisioningStep} {r : Except ProvisioningError (List StepEvidence)}
    (h : Prog.Solo (runRollback steps) s log r s') : s' = s ∧ ∃ asked, asked.map Prod.fst = steps ∧ log = rollbacks asked ∧
      r = .ok (asked.map fun e => ⟨e.1.operation,e.2.ok⟩) := by
  induction steps generalizing s log r with
  | nil =>
    cases h
    exact ⟨rfl,[],rfl,rfl,rfl⟩
  | cons step rest ih =>
    cases h with
    | call _ _ reply h =>
      have hrest : Prog.Solo ((runRollback rest).bind fun after => pure (⟨step.operation,StepReply.ok reply⟩ :: after)) s _ r s' := h
      rcases Prog.Solo.bind_cases hrest with ⟨after,s₁,l₁,l₂,hafter,hpure,hlog⟩ | ⟨e,hr,hfail⟩
      · cases hpure
        obtain ⟨hs,asked,hsteps,hl,hevidence⟩ := ih hafter
        cases hevidence
        refine ⟨hs,(step,reply) :: asked,by rw [List.map_cons,hsteps],?_,rfl⟩
        rw [hlog,hl,List.append_nil]
        rfl
      · obtain ⟨-,_,-,-,he⟩ := ih hfail
        cases he

end Steps

/-! ### Whole executions -/

/-- What is stored of an execution and what it returned, told from the replies. -/
structure Truthful (plan row : BackupProvisioningPlan) (forward rollback : List (ProvisioningStep × StepReply))
    (r : Except ProvisioningError BackupProvisioningPlan) : Prop where
  /-- The forward steps were asked for in their order, none of them again. -/
  order : forward.map Prod.fst <+: plan.steps
  executed : row.status = .executed ↔ forward.map Prod.fst = plan.steps ∧ ∀ e ∈ forward, e.2.ok = true
  returned : row.status = .executed → rollback = [] ∧ r = .ok row
  /-- Of an execution that failed, every rollback step was asked for once, and the first step that failed is named. -/
  undone : row.status ≠ .executed → rollback.map Prod.fst = plan.rollbackSteps ∧
    (row.status = .rolledBack ↔ ∀ e ∈ rollback, e.2.ok = true) ∧ (row.status = .failed ↔ ¬ ∀ e ∈ rollback, e.2.ok = true) ∧
    (∃ before step reply, forward = before ++ [(step,reply)] ∧ (∀ e ∈ before, e.2.ok = true) ∧ reply.ok = false ∧
      row.failedOperation = some step.operation) ∧ ∃ e, r = .error e
  /-- Nothing else of the plan is touched. -/
  frame : SameFrame plan row

section Executions
variable {host : PlanHost} {planId now : String} {plan : BackupProvisioningPlan} {s s' : PlanStore} {log : List (Σ q, PlanAnswer q)}
  {r : Except ProvisioningError BackupProvisioningPlan}

theorem updatePlan_solo {held : Held} {row : BackupProvisioningPlan} {o : Except ProvisioningError Unit}
    (h : Prog.Solo (updatePlan held planId row) s log o s') : s' = s.update planId row ∧ log = [] ∧ o = .ok () := by
  cases h with
  | tx _ _ _ h =>
    cases h
    exact ⟨rfl,rfl,rfl⟩

theorem completed_truthful {forward : List (ProvisioningStep × StepReply)} (evidence : List StepEvidence)
    (hsteps : forward.map Prod.fst = plan.steps) (hok : ∀ e ∈ forward, e.2.ok = true) :
    Truthful plan (completed host plan now evidence) forward [] (.ok (completed host plan now evidence)) where
  order := hsteps ▸ List.prefix_refl _
  executed := ⟨fun _ => ⟨hsteps,hok⟩,fun _ => rfl⟩
  returned _ := ⟨rfl,rfl⟩
  undone h := absurd rfl h
  frame := ⟨rfl,rfl,rfl,rfl,rfl⟩

theorem undone_truthful {before rollback : List (ProvisioningStep × StepReply)} {step : ProvisioningStep} {reply : StepReply}
    {rest : List ProvisioningStep} (evidence : List StepEvidence) (errorCode : String) (e : ProvisioningError)
    (hsteps : plan.steps = before.map Prod.fst ++ step :: rest) (hok : ∀ e ∈ before, e.2.ok = true) (hreply : reply.ok = false)
    (hrollback : rollback.map Prod.fst = plan.rollbackSteps) :
    Truthful plan (undone host plan now evidence (rollback.map fun e => ⟨e.1.operation,e.2.ok⟩) step.operation errorCode)
      (before ++ [(step,reply)]) rollback (.error e) := by
  have hstatus : (undone host plan now evidence (rollback.map fun e => ⟨e.1.operation,e.2.ok⟩) step.operation errorCode).status =
      if ∀ e ∈ rollback, e.2.ok = true then .rolledBack else .failed := by
    simp only [undone,List.all_map,List.all_eq_true,Function.comp_apply]
  have hne : (undone host plan now evidence (rollback.map fun e => ⟨e.1.operation,e.2.ok⟩) step.operation errorCode).status ≠ .executed := by
    rw [hstatus]
    split <;> decide
  refine ⟨?_,⟨fun h => absurd h hne,fun h => ?_⟩,fun h => absurd h hne,fun _ => ⟨hrollback,?_,?_,?_,e,rfl⟩,rfl,rfl,rfl,rfl,rfl⟩
  · rw [hsteps,List.map_append]
    exact ⟨rest,by simp⟩
  · have hlast := h.2 (step,reply) (List.mem_append_right _ (List.mem_singleton_self _))
    rw [hreply] at hlast
    cases hlast
  · rw [hstatus]
    split
    · next hall => exact ⟨fun _ => hall,fun _ => rfl⟩
    · next hall => exact ⟨nofun,fun h => absurd h hall⟩
  · rw [hstatus]
    split
    · next hall => exact ⟨nofun,fun h => absurd hall h⟩
    · next hall => exact ⟨fun _ => hall,fun _ => rfl⟩
  · exact ⟨before,step,reply,rfl,hok,hreply,rfl⟩

theorem settle_solo {forward : List (ProvisioningStep × StepReply)} {outcome : Forward} (hwent : Went plan.steps forward outcome)
    (h : Prog.Solo (settle host planId plan now outcome) s log r s') : ∃ row rollback, s' = s.update planId row ∧
      log = rollbacks rollback ∧ Truthful plan row forward rollback r := by
  cases hwent with
  | completed evidence hsteps hok =>
    rcases Prog.Solo.bind_cases h with ⟨_,s₁,l₁,l₂,hwrite,hpure,hlog⟩ | ⟨e,-,hwrite⟩
    · obtain ⟨rfl,rfl,-⟩ := updatePlan_solo hwrite
      cases hpure
      exact ⟨_,[],rfl,hlog,completed_truthful evidence hsteps hok⟩
    · obtain ⟨-,-,he⟩ := updatePlan_solo hwrite
      cases he
  | broken before evidence errorCode e hsteps hok hreply =>
    rcases Prog.Solo.bind_cases h with ⟨_,s₁,l₁,l₂,hundo,h,hlog⟩ | ⟨e,-,hundo⟩
    · obtain ⟨rfl,rollback,hrollback,hl₁,hevidence⟩ := runRollback_solo hundo
      cases hevidence
      rcases Prog.Solo.bind_cases h with ⟨_,s₂,l₃,l₄,hwrite,hraise,hl₂⟩ | ⟨e,-,hwrite⟩
      · obtain ⟨rfl,rfl,-⟩ := updatePlan_solo hwrite
        cases hraise
        refine ⟨_,rollback,rfl,?_,undone_truthful evidence errorCode e hsteps hok hreply hrollback⟩
        rw [hlog,hl₁,hl₂,List.append_nil,List.append_nil]
      · obtain ⟨-,-,he⟩ := updatePlan_solo hwrite
        cases he
    · obtain ⟨-,_,-,-,he⟩ := runRollback_solo hundo
      cases he

theorem Truthful.not_approved {row : BackupProvisioningPlan} {forward rollback : List (ProvisioningStep × StepReply)}
    (h : Truthful plan row forward rollback r) : row.status ≠ .approved := by
  intro happroved
  obtain ⟨-,hrolledBack,hfailed,-⟩ := h.undone (by rw [happroved]; decide)
  by_cases hall : ∀ e ∈ rollback, e.2.ok = true
  · exact absurd (happroved.symm.trans (hrolledBack.mpr hall)) (by decide)
  · exact absurd (happroved.symm.trans (hfailed.mpr hall)) (by decide)

/-- What `execute_plan` does with the time before the first step. -/
def checkedAt (host : PlanHost) (planId now : String) : PlanProg (String × BackupProvisioningPlan) := do
  refuse (timeFault host now)
  let plan ← stored planId
  refuse (host.planFault plan)
  requireTerminalEvidence true plan requiredEvidence
  require plan.Executable (.value "the exact provisioning plan requires independent human approval")
  pure (now,plan)

/-- What `execute_plan` does before the first step. -/
def checkedPlan (host : PlanHost) (planId : String) (adapter : Bool) (executedAt : Option String) :
    PlanProg (String × BackupProvisioningPlan) := do
  require (adapter = true) (.value "an explicit dedicated provisioning adapter is required")
  let now ← timeOrNow executedAt
  checkedAt host planId now

theorem executePlan_eq (adapter : Bool) (executedAt : Option String) : executePlan host planId adapter executedAt =
    checkedPlan host planId adapter executedAt >>= fun x => runForward x.2.steps [] >>= settle host planId x.2 x.1 := by
  unfold executePlan checkedPlan checkedAt
  simp only [Prog.bind_bind,Prog.pure_bind']

instance (adapter : Bool) (executedAt : Option String) : Prog.Quiet PlanQuery.IsStep (checkedPlan host planId adapter executedAt) := by
  have hevidence := quiet_requireTerminalEvidence
  unfold checkedPlan checkedAt
  exact .bind inferInstance fun _ => .bind inferInstance fun now => .bind inferInstance fun _ => .bind inferInstance fun plan =>
    .bind inferInstance fun _ => .bind inferInstance fun _ => .bind inferInstance fun _ => inferInstance

theorem stored_solo (h : Prog.Solo (stored planId) s log (.ok plan) s') : s' = s ∧ s.plans.get? planId = some plan := by
  obtain ⟨row,s₁,l₁,l₂,hread,hraise,-⟩ := Prog.Solo.bind_ok h
  obtain ⟨hread,-⟩ := Prog.Solo.transaction_ok hread
  cases hread
  obtain ⟨hrow,hs,-⟩ := Prog.Solo.orRaise_ok hraise
  exact ⟨hs,hrow⟩

theorem refuse_solo {fault : Option String} {u : Unit} (h : Prog.Solo (refuse fault) s log (.ok u) s') : fault = none := by
  cases fault with
  | none => rfl
  | some message => cases h

theorem checkedPlan_solo {adapter : Bool} {executedAt : Option String}
    (h : Prog.Solo (checkedPlan host planId adapter executedAt) s log (.ok (now,plan)) s') :
    s.plans.get? planId = some plan ∧ host.planFault plan = none ∧ plan.status = .approved := by
  obtain ⟨_,s₁,_,_,hfirst,h₁,-⟩ := Prog.Solo.bind_ok h
  have hs₁ : s₁ = s := (Prog.Solo.require_ok hfirst).2.1
  obtain ⟨_,s₂,_,_,hclock,h₂,-⟩ := Prog.Solo.bind_ok h₁
  have hs₂ : s₂ = s₁ := (inferInstance : Prog.Quiet PlanQuery.IsStep (timeOrNow executedAt)).idles.solo hclock
  obtain ⟨_,s₃,_,_,htime,h₃,-⟩ := Prog.Solo.bind_ok h₂
  have hs₃ : s₃ = s₂ := (inferInstance : Prog.Quiet PlanQuery.IsStep (refuse _)).idles.solo htime
  obtain ⟨_,s₄,_,_,hstored,h₄,-⟩ := Prog.Solo.bind_ok h₃
  obtain ⟨_,s₅,_,_,hfault,h₅,-⟩ := Prog.Solo.bind_ok h₄
  obtain ⟨_,s₆,_,_,-,h₆,-⟩ := Prog.Solo.bind_ok h₅
  obtain ⟨_,s₇,_,_,hexecutable,h₇,-⟩ := Prog.Solo.bind_ok h₆
  cases h₇
  have hrow := (stored_solo hstored).2
  rw [hs₃,hs₂,hs₁] at hrow
  exact ⟨hrow,refuse_solo hfault,(Prog.Solo.require_ok hexecutable).1.1⟩

/-- The checks before the first step pass: there is an adapter, the time can be read, the stored plan is as it was built,
and it has its evidence and its approval. -/
structure Passes (host : PlanHost) (s : PlanStore) (planId : String) (adapter : Bool) (executedAt : Option String)
    (log : List (Σ q, PlanAnswer q)) (plan : BackupProvisioningPlan) : Prop where
  adapter : adapter = true
  time : ∀ t, executedAt = some t ∧ t ≠ "" ∨ ⟨.clock,t⟩ ∈ log → timeFault host t = none
  stored : s.plans.get? planId = some plan
  fault : host.planFault plan = none
  evidence : ∀ e ∈ requiredEvidence, ∃ id message, plan.evidenceIds.get? e.1 = some id ∧ s.crewMessages.get? id = some message ∧
    message.Terminal plan e.2
  executable : plan.Executable

theorem not_requireTerminalEvidence {roles : List (String × OwnerDomain)} {executing : Bool} {e : ProvisioningError}
    (hroles : ∀ role ∈ roles, ∃ id message, plan.evidenceIds.get? role.1 = some id ∧ s.crewMessages.get? id = some message ∧
      message.Terminal plan role.2) : ¬ Prog.Solo (requireTerminalEvidence executing plan roles) s log (.error e) s' := by
  induction roles with
  | nil =>
    intro h
    cases h
  | cons role rest ih =>
    intro h
    obtain ⟨id,message,hid,hmessage,hterminal⟩ := hroles role List.mem_cons_self
    unfold requireTerminalEvidence at h
    rw [hid] at h
    cases h with
    | tx _ _ _ h =>
      change Prog.Solo (orRaise (s.crewMessages.get? id) _ >>= _) s log (.error e) s' at h
      rw [hmessage] at h
      change Prog.Solo (require (message.Terminal plan role.2) _ >>= _) s log (.error e) s' at h
      rw [require,if_pos hterminal] at h
      exact ih (fun role hrole => hroles role (List.mem_cons_of_mem _ hrole)) h

theorem Passes.not_refused {adapter : Bool} {executedAt : Option String} {e : ProvisioningError}
    (hpasses : Passes host s planId adapter executedAt log plan) :
    ¬ Prog.Solo (checkedPlan host planId adapter executedAt) s log (.error e) s' := by
  have hat : ∀ {now log}, timeFault host now = none → ¬ Prog.Solo (checkedAt host planId now) s log (.error e) s' := by
    intro now log hnow h
    unfold checkedAt at h
    rw [hnow] at h
    cases h with
    | tx _ _ _ h =>
      change Prog.Solo (orRaise (s.plans.get? planId) _ >>= _) s log (.error e) s' at h
      rw [hpasses.stored] at h
      change Prog.Solo (refuse (host.planFault plan) >>= _) s log (.error e) s' at h
      rw [hpasses.fault] at h
      change Prog.Solo (requireTerminalEvidence true plan requiredEvidence >>= _) s log (.error e) s' at h
      rcases Prog.Solo.bind_cases h with ⟨_,s₁,_,_,-,h,-⟩ | ⟨_,-,h⟩
      · rw [require,if_pos hpasses.executable] at h
        cases h
      · exact not_requireTerminalEvidence hpasses.evidence h
  intro h
  unfold checkedPlan at h
  rw [require,if_pos hpasses.adapter] at h
  change Prog.Solo (timeOrNow executedAt >>= checkedAt host planId) s log (.error e) s' at h
  unfold timeOrNow at h
  split at h
  · cases h with
    | call _ _ t h => exact hat (hpasses.time t (.inr List.mem_cons_self)) h
  · next t =>
    split at h
    · cases h with
      | call _ _ t h => exact hat (hpasses.time t (.inr List.mem_cons_self)) h
    · next hne => exact hat (hpasses.time t (.inl ⟨rfl,hne⟩)) h

/-- An execution is refused before any step, or it goes through the steps of the row that it read. -/
theorem executePlan_solo {adapter : Bool} {executedAt : Option String}
    (h : Prog.Solo (executePlan host planId adapter executedAt) s log r s') :
    (s' = s ∧ (∃ e, r = .error e) ∧ (∀ e ∈ log, ¬ e.1.IsStep) ∧ ∀ plan, ¬ Passes host s planId adapter executedAt log plan) ∨
    ∃ plan row checks forward rollback, s.plans.get? planId = some plan ∧ host.planFault plan = none ∧ plan.status = .approved ∧
      s' = s.update planId row ∧ log = checks ++ (forwards forward ++ rollbacks rollback) ∧ (∀ e ∈ checks, ¬ e.1.IsStep) ∧
      Truthful plan row forward rollback r := by
  rw [executePlan_eq] at h
  have hquiet : Prog.Quiet PlanQuery.IsStep (checkedPlan host planId adapter executedAt) := inferInstance
  rcases Prog.Solo.bind_cases h with ⟨⟨now,plan⟩,s₀,checks,steps,hchecked,hgoes,hlog⟩ | ⟨e,hr,hchecked⟩
  · have hchecks := hquiet.asks.solo hchecked
    obtain rfl : s₀ = s := hquiet.idles.solo hchecked
    obtain ⟨hrow,hfault,happroved⟩ := checkedPlan_solo hchecked
    rcases Prog.Solo.bind_cases hgoes with ⟨outcome,s₁,l₁,l₂,hforward,hsettle,hsteps⟩ | ⟨e,-,hforward⟩
    · obtain ⟨rfl,_,forward,houtcome,hl₁,hwent⟩ := runForward_solo hforward
      cases houtcome
      obtain ⟨row,rollback,hs,hl₂,htruthful⟩ := settle_solo hwent hsettle
      exact .inr ⟨plan,row,checks,forward,rollback,hrow,hfault,happroved,hs,by rw [hlog,hsteps,hl₁,hl₂],hchecks,htruthful⟩
    · obtain ⟨-,_,_,he,-⟩ := runForward_solo hforward
      cases he
  · exact .inl ⟨hquiet.idles.solo hchecked,⟨e,hr⟩,hquiet.asks.solo hchecked,fun plan hpasses => hpasses.not_refused hchecked⟩

end Executions

/-- An execution by itself is refused by a check before any step and leaves the store as it is, or the row of the approved plan tells
afterwards how the steps went; its text is read back and passes the check of plans, and it is not approved any more. -/
theorem execution_truthful (sha256 : String → String) (fromisoformat : String → Option Bool) (floatText : String → String)
    {planId : String} {adapter : Bool} {executedAt : Option String} {s s' : PlanStore} {log : List (Σ q, PlanAnswer q)}
    {r : Except ProvisioningError BackupProvisioningPlan}
    (hdecodes : ∀ plan, s.plans.get? planId = some plan → Decodes floatText plan)
    (hrun : Prog.Solo (executePlan ⟨sha256,fromisoformat,planFault sha256⟩ planId adapter executedAt) s log r s') :
    (s' = s ∧ (∃ e, r = .error e) ∧ (∀ e ∈ log, ¬ e.1.IsStep) ∧
      ∀ plan, ¬ Passes ⟨sha256,fromisoformat,planFault sha256⟩ s planId adapter executedAt log plan) ∨
    ∃ plan row checks forward rollback, s.plans.get? planId = some plan ∧ plan.status = .approved ∧
      s' = { s with plans := s.plans.set planId row } ∧ log = checks ++ (forwards forward ++ rollbacks rollback) ∧
      (∀ e ∈ checks, ¬ e.1.IsStep) ∧ Truthful plan row forward rollback r ∧ row.status ≠ .approved ∧
      Decodes floatText row ∧ planFault sha256 row = none := by
  rcases executePlan_solo hrun with hrefused | ⟨plan,row,checks,forward,rollback,hrow,hfault,happroved,hs,hlog,hchecks,htruthful⟩
  · exact .inl hrefused
  · have hstored : s' = { s with plans := s.plans.set planId row } := by rw [hs,PlanStore.update,hrow,Option.isSome_some,if_pos rfl]
    exact .inr ⟨plan,row,checks,forward,rollback,hrow,happroved,hstored,hlog,hchecks,htruthful,htruthful.not_approved,
      (hdecodes plan hrow).of_frame htruthful.frame,(htruthful.frame.planFault sha256).trans hfault⟩

/-! ### A plan whose service does not start -/

def exampleInputs : PlanInputs where
  gpgSha256 := .str "sha256:aaaaaaaaaaaaaaaaaaaaaaaaaaaaaaaaaaaaaaaaaaaaaaaaaaaaaaaaaaaaaaaa"
  adapterCommit := .str "bbbbbbbbbbbbbbbbbbbbbbbbbbbbbbbbbbbbbbbb"
  runtimeDigest := .str "sha256:cccccccccccccccccccccccccccccccccccccccccccccccccccccccccccccccc"
  capabilityDigest := .str "sha256:dddddddddddddddddddddddddddddddddddddddddddddddddddddddddddddddd"
  rootAuthorizationRefs := .obj [("sha256:eeeeeeeeeeeeeeeeeeeeeeeeeeeeeeeeeeeeeeeeeeeeeeeeeeeeeeeeeeeeeeee",.str "root.1")]
  rootRegistrations := .arr [.obj [("alias",.str "donuthole"),("authorization_ref",.str "root.1"),("host_path",.str sourcePath),
    ("max_bytes",.int 4096),("policy_revision",.str "1"),("project_id",.str "project.donuthole"),("root_id",.str "backup-root")]]
  overseerTokenSourceFile := .str "/run/overseer/token"
  overseerTokenFile := .str (keyDirectory ++ "/token")
  cursorKeyFile := .str (keyDirectory ++ "/cursor")

/-- A host whose every digest is the same. -/
def exampleDigest (_ : String) : String := "ffffffffffffffffffffffffffffffffffffffffffffffffffffffffffffffff"

/-- A step as it is read from a row. -/
def readStep (step : ProvisioningStep) : ProvisioningStep := ⟨step.operation,step.arguments.sortKeys⟩

def approvedPlan : BackupProvisioningPlan where
  planId := "plan-1"
  contract := contractOf exampleDigest exampleInputs ("sha256:" ++ exampleDigest "")
  evidenceIds := stagedPlan.evidenceIds
  steps := (forwardSteps exampleInputs (jsonDigest exampleDigest .null) (jsonDigest exampleDigest .null)).map readStep
  rollbackSteps := (rollbackSteps exampleInputs).map readStep
  status := .approved
  approvedBy := some "captain"
  approvedAt := some "2026-01-01T00:00:00+00:00"

theorem approvedPlan_ordered : Ordered approvedPlan := by
  refine ⟨⟨_,rfl,rfl⟩,?_,?_,?_⟩
  · rintro members ⟨⟩
    decide +kernel
  · decide +kernel
  · intro step hstep
    rw [approvedPlan,← List.map_append] at hstep
    obtain ⟨step,-,rfl⟩ := List.mem_map.mp hstep
    exact Json.sortKeys_sortKeys _

theorem approvedPlan_decodes : Decodes id approvedPlan := by
  have hvalues : ∀ e ∈ fixedMembers approvedPlan ++ progressMembers approvedPlan,
      Json.written e.2 = true ∧ Json.allFloats (Json.isReadBack id) e.2 = true := by decide +kernel
  exact approvedPlan_ordered.decodes (Json.printed_obj.mpr ⟨nodup_asdict approvedPlan_ordered.formed,hvalues⟩)

def approvedStore : PlanStore where
  plans := Dict.empty.set "plan-1" approvedPlan
  crewMessages := stagedStore.crewMessages

/-- The service does not start, and everything can be undone. -/
def unstartedAnswers : (q : PlanQuery) → PlanAnswer q
  | .forward step => .replied (step.operation ≠ "start_enable_system_service")
  | q => plainAnswers q

theorem execution_truthful_undone : ∃ log r s' row forward rollback,
    Prog.Solo (executePlan ⟨exampleDigest,fun _ => some true,planFault exampleDigest⟩ "plan-1" true none) approvedStore log r s' ∧
    s'.plans.get? "plan-1" = some row ∧ row.status = .rolledBack ∧ Truthful approvedPlan row forward rollback r ∧ Decodes id row := by
  let run := (executePlan ⟨exampleDigest,fun _ => some true,planFault exampleDigest⟩ "plan-1" true none).perform unstartedAnswers approvedStore
  have hdecodes : ∀ plan, approvedStore.plans.get? "plan-1" = some plan → Decodes id plan := by
    intro plan hplan
    cases hplan
    exact approvedPlan_decodes
  have hstatus : (run.2.plans.get? "plan-1").map (·.status) = some .rolledBack := by decide +kernel
  obtain ⟨log,hrun,-⟩ := Prog.perform_solo unstartedAnswers
    (executePlan ⟨exampleDigest,fun _ => some true,planFault exampleDigest⟩ "plan-1" true none) approvedStore
  rcases execution_truthful exampleDigest (fun _ => some true) id hdecodes hrun with
    ⟨hs,-⟩ | ⟨plan,row,checks,forward,rollback,hrow,-,hs,-,-,htruthful,-,hrowDecodes,-⟩
  · have happroved : (approvedStore.plans.get? "plan-1").map (·.status) = some .approved := rfl
    rw [← hs] at happroved
    exact absurd (happroved.symm.trans hstatus) (by decide)
  · have hget : run.2.plans.get? "plan-1" = some row := by
      change run.2 = _ at hs
      rw [hs]
      exact (Dict.get?_set _ _ _ _).trans (if_pos rfl)
    rw [hget] at hstatus
    cases hrow
    exact ⟨log,_,_,row,forward,rollback,hrun,hget,Option.some.inj hstatus,htruthful,hrowDecodes⟩

end Overseer.Provisioning
