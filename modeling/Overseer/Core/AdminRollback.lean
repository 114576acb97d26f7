import Overseer.Core.Admin

/-! # The rollback of an admin change

The steps that the runner is given in a call, also when it raises. A change whose command fails is
rolled back as long as the runner answers.
-/
namespace Overseer.Core
open Overseer.Library

/-- A computation that may raise, with the steps the runner has been given by then. -/
structure Attempt (α : Type) where
  run : List AdminCommandStep → Option α × List AdminCommandStep

instance : Monad Attempt where
  pure a := ⟨fun given => (some a,given)⟩
  bind x f := ⟨fun given =>
    match x.run given with
    | (some a,given') => (f a).run given'
    | (none,given') => (none,given')⟩

namespace Admin

/-- `command_runner(step)`. -/
def attempt (runner : AdminCommandRunner) (step : AdminCommandStep) : Attempt AdminCommandResult :=
  ⟨fun given => (runner given step,given ++ [step])⟩

def attemptUntilFailure (runner : AdminCommandRunner) (results : List AdminCommandResult) :
    List AdminCommandStep → Attempt (List AdminCommandResult × Option AdminCommandResult)
  | [] => pure (results,none)
  | step :: rest => do
    let result ← attempt runner step
    if result.exitCode ≠ 0 then pure (results ++ [result],some result)
    else attemptUntilFailure runner (results ++ [result]) rest

def attemptAll (runner : AdminCommandRunner) : List AdminCommandStep → Attempt (List AdminCommandResult)
  | [] => pure []
  | step :: rest => do
    let result ← attempt runner step
    let results ← attemptAll runner rest
    pure (result :: results)

/-- The part of it that runs commands. -/
def attemptCommands (plan : AdminChangePlan) (runner : AdminCommandRunner) : Attempt AdminExecutionResult := do
  let (commandResults,failed) ← attemptUntilFailure runner [] plan.steps
  match failed with
  | some result => do
    let rollbackResults ← attemptAll runner plan.rollbackSteps
    pure (resultOf plan .failed ("admin change failed during step: " ++ result.title ++ "; rollback steps attempted")
      commandResults [] rollbackResults)
  | none => do
    let (verificationResults,failed) ← attemptUntilFailure runner [] plan.verificationSteps
    match failed with
    | some result => do
      let rollbackResults ← attemptAll runner plan.rollbackSteps
      pure (resultOf plan .failed ("admin change verification failed during step: " ++ result.title ++ "; rollback steps attempted")
        commandResults verificationResults rollbackResults)
    | none =>
      match commandResults.find? fun result => result.exitCode ≠ 0 with
      | some result => do
        let rollbackResults ← attemptAll runner plan.rollbackSteps
        pure (resultOf plan .failed ("admin change failed during step: " ++ result.title ++ "; rollback steps attempted")
          commandResults [] rollbackResults)
      | none => pure (resultOf plan .completed "admin change completed and verified" commandResults verificationResults [])

/-- `execute_admin_change_plan` with the steps it gives to the runner. -/
def attemptAdminChangePlan (plan : AdminChangePlan) (runner : AdminCommandRunner) (enabledAdapterKinds : List AdminChangeKind) :
    Attempt AdminExecutionResult :=
  let capability := adminExecutionCapabilityFor plan.kind enabledAdapterKinds
  if !capability.canExecuteLive then
    pure (resultOf plan .blocked ("live adapter unavailable for " ++ plan.kind.value ++ ": " ++ capability.summary) [] [] [])
  else if !canExecute plan then pure (resultOf plan .blocked "admin change plan is not approved or is incomplete" [] [] [])
  else match unsupportedAptProviderForPlan plan with
  | some provider => pure (resultOf plan .blocked ("unsupported package provider '" ++ provider ++ "' for " ++ plan.kind.value ++
      "; stage a provider-specific admin adapter instead of apt") [] [] [])
  | none => attemptCommands plan runner

/-! ### The same result -/

section Attempts
variable {α β : Type} {x : Attempt α} {f : α → Attempt β} {a : α} {given given' : List AdminCommandStep}

theorem attempt_bind_of_some (h : x.run given = (some a,given')) : (x >>= f).run given = (f a).run given' := by
  change (match x.run given with
    | (some a,given') => (f a).run given'
    | (none,given') => (none,given')) = (f a).run given'
  rw [h]

theorem attempt_bind_of_none (h : x.run given = (none,given')) : (x >>= f).run given = (none,given') := by
  change (match x.run given with
    | (some a,given') => (f a).run given'
    | (none,given') => (none,given')) = (none,given')
  rw [h]

theorem attempt_of_some {runner : AdminCommandRunner} {step : AdminCommandStep} {result : AdminCommandResult}
    (h : runner given step = some result) : (attempt runner step).run given = (some result,given ++ [step]) := Prod.ext h rfl

theorem attempt_of_none {runner : AdminCommandRunner} {step : AdminCommandStep} (h : runner given step = none) :
    (attempt runner step).run given = (none,given ++ [step]) := Prod.ext h rfl

variable {runner : AdminCommandRunner} {step : AdminCommandStep} {results : List AdminCommandResult}

/-- What running until a failure comes to, and what the runner has been given then. -/
theorem attemptUntilFailure_eq (runner : AdminCommandRunner) (steps : List AdminCommandStep) (given : List AdminCommandStep)
    (results : List AdminCommandResult) : ∃ given', (attemptUntilFailure runner results steps).run given =
      ((runUntilFailure runner given results steps).map (·.2),given') ∧
        ∀ r ∈ runUntilFailure runner given results steps, r.1 = given' := by
  induction steps generalizing given results with
  | nil =>
    refine ⟨given,rfl,fun r hr => ?_⟩
    cases hr
    rfl
  | cons step rest ih =>
    unfold attemptUntilFailure runUntilFailure
    cases hrun : runner given step with
    | none => exact ⟨_,attempt_bind_of_none (attempt_of_none hrun),fun r hr => nomatch hr⟩
    | some result =>
      rw [attempt_bind_of_some (attempt_of_some hrun)]
      by_cases hexit : result.exitCode ≠ 0
      · refine ⟨given ++ [step],?_,fun r hr => ?_⟩
        · simp [hexit]
          rfl
        · simp [hexit] at hr
          rw [← hr]
      · simp only [if_neg hexit,Option.bind_eq_bind,Option.bind_some]
        exact ih (given ++ [step]) (results ++ [result])

theorem attemptAll_eq (runner : AdminCommandRunner) (steps : List AdminCommandStep) (given : List AdminCommandStep) :
    ((attemptAll runner steps).run given).1 = runAll runner given steps := by
  induction steps generalizing given with
  | nil => rfl
  | cons step rest ih =>
    unfold attemptAll runAll
    cases hrun : runner given step with
    | none =>
      rw [attempt_bind_of_none (attempt_of_none hrun)]
      rfl
    | some result =>
      rw [attempt_bind_of_some (attempt_of_some hrun)]
      simp only [Option.bind_eq_bind,Option.bind_some,← ih (given ++ [step])]
      cases hrest : (attemptAll runner rest).run (given ++ [step]) with
      | mk o given' =>
        cases o with
        | none =>
          rw [attempt_bind_of_none hrest]
          rfl
        | some results =>
          rw [attempt_bind_of_some hrest]
          rfl

/-- The results of the call are those of the plain one. -/
theorem attemptAdminChangePlan_eq (plan : AdminChangePlan) (runner : AdminCommandRunner) (enabled : List AdminChangeKind) :
    ((attemptAdminChangePlan plan runner enabled).run []).1 = executeAdminChangePlan plan runner enabled := by
  unfold attemptAdminChangePlan executeAdminChangePlan
  dsimp only
  split
  · rfl
  split
  · rfl
  cases unsupportedAptProviderForPlan plan with
  | some provider => rfl
  | none =>
  dsimp only
  obtain ⟨given,hsteps,hgiven⟩ := attemptUntilFailure_eq runner plan.steps [] []
  unfold attemptCommands
  cases hrun : runUntilFailure runner [] [] plan.steps with
  | none =>
    rw [hrun] at hsteps
    rw [attempt_bind_of_none hsteps]
    rfl
  | some r =>
    obtain ⟨given₁,commandResults,failed⟩ := r
    rw [hrun] at hsteps hgiven
    have hsame : given₁ = given := hgiven _ rfl
    subst hsame
    rw [attempt_bind_of_some hsteps,Option.bind_eq_bind,Option.bind_some]
    have hback : ∀ (given : List AdminCommandStep) (g : List AdminCommandResult → AdminExecutionResult),
        ((attemptAll runner plan.rollbackSteps >>= fun rs => (pure (g rs) : Attempt _)).run given).1 =
          (runAll runner given plan.rollbackSteps).bind fun rs => some (g rs) := by
      intro given g
      rw [← attemptAll_eq]
      cases hall : (attemptAll runner plan.rollbackSteps).run given with
      | mk o given' =>
        cases o with
        | none =>
          rw [attempt_bind_of_none hall]
          rfl
        | some rs =>
          rw [attempt_bind_of_some hall]
          rfl
    cases failed with
    | some result => exact hback _ _
    | none =>
      dsimp only
      obtain ⟨given₂,hverify,hgiven₂⟩ := attemptUntilFailure_eq runner plan.verificationSteps given₁ []
      cases hrun₂ : runUntilFailure runner given₁ [] plan.verificationSteps with
      | none =>
        rw [hrun₂] at hverify
        rw [attempt_bind_of_none hverify]
        rfl
      | some r =>
        obtain ⟨given₃,verificationResults,failed⟩ := r
        rw [hrun₂] at hverify hgiven₂
        have hsame : given₃ = given₂ := hgiven₂ _ rfl
        subst hsame
        rw [attempt_bind_of_some hverify,Option.bind_some]
        cases failed with
        | some result => exact hback _ _
        | none =>
          dsimp only
          cases commandResults.find? fun result => result.exitCode ≠ 0 with
          | some result => exact hback _ _
          | none => rfl

end Attempts

/-! ### The first failure -/

def Succeeds (runner : AdminCommandRunner) (given : List AdminCommandStep) (step : AdminCommandStep) : Prop :=
  ∃ r, runner given step = some r ∧ r.exitCode = 0

def AllSucceed (runner : AdminCommandRunner) (given : List AdminCommandStep) (steps : List AdminCommandStep) : Prop :=
  ∀ b s a, steps = b ++ s :: a → Succeeds runner (given ++ b) s

/-- The first step that fails, by its exit code or by an exception. -/
structure FailsFirst (runner : AdminCommandRunner) (given steps before : List AdminCommandStep) (step : AdminCommandStep)
    (after : List AdminCommandStep) : Prop where
  split : steps = before ++ step :: after
  succeed : AllSucceed runner given before
  fails : ¬ Succeeds runner (given ++ before) step

/-- Every step but the last one is answered. -/
def Answers (runner : AdminCommandRunner) (given steps : List AdminCommandStep) : Prop :=
  ∀ b s a, steps = b ++ s :: a → a ≠ [] → (runner (given ++ b) s).isSome = true

section Failures
variable {runner : AdminCommandRunner} {given steps before after rest xs ys : List AdminCommandStep} {step : AdminCommandStep}
  {results : List AdminCommandResult}

theorem allSucceed_nil : AllSucceed runner given [] := by
  intro b s a h
  cases b <;> cases h

theorem allSucceed_cons : AllSucceed runner given (step :: rest) ↔ Succeeds runner given step ∧ AllSucceed runner (given ++ [step]) rest := by
  constructor
  · intro h
    refine ⟨by simpa using h [] step rest rfl,fun b s a hsplit => ?_⟩
    have hs := h (step :: b) s a (by rw [hsplit]; rfl)
    simpa using hs
  · rintro ⟨hstep,hrest⟩ b s a hsplit
    cases b with
    | nil =>
      cases hsplit
      simpa using hstep
    | cons c b =>
      cases hsplit
      have hs := hrest b s a rfl
      simpa using hs

theorem allSucceed_append : AllSucceed runner given (xs ++ ys) ↔ AllSucceed runner given xs ∧ AllSucceed runner (given ++ xs) ys := by
  induction xs generalizing given with
  | nil => simp [allSucceed_nil]
  | cons x xs ih =>
    rw [List.cons_append,allSucceed_cons,allSucceed_cons,ih,and_assoc,List.append_assoc]
    rfl

theorem exists_failsFirst (h : ¬ AllSucceed runner given steps) : ∃ before step after, FailsFirst runner given steps before step after := by
  induction steps generalizing given with
  | nil => exact absurd allSucceed_nil h
  | cons step rest ih =>
    by_cases hstep : Succeeds runner given step
    · have hrest : ¬ AllSucceed runner (given ++ [step]) rest := fun hrest => h (allSucceed_cons.mpr ⟨hstep,hrest⟩)
      obtain ⟨before,s,after,hfirst⟩ := ih hrest
      refine ⟨step :: before,s,after,by rw [hfirst.split]; rfl,allSucceed_cons.mpr ⟨hstep,hfirst.succeed⟩,?_⟩
      have hfails := hfirst.fails
      simpa using hfails
    · exact ⟨[],step,rest,rfl,allSucceed_nil,by simpa using hstep⟩

theorem FailsFirst.of_append (h : FailsFirst runner given (xs ++ ys) before step after) :
    (∃ after', FailsFirst runner given xs before step after') ∨
      ∃ before', before = xs ++ before' ∧ AllSucceed runner given xs ∧ FailsFirst runner (given ++ xs) ys before' step after := by
  rcases List.append_eq_append_iff.mp h.split with ⟨before',hbefore,hys⟩ | ⟨tail,hxs,htail⟩
  · right
    have hsucceed := h.succeed
    have hfails := h.fails
    rw [hbefore] at hsucceed hfails
    obtain ⟨hxs,hbefore'⟩ := allSucceed_append.mp hsucceed
    exact ⟨before',hbefore,hxs,hys,hbefore',by rwa [List.append_assoc]⟩
  · cases tail with
    | nil =>
      right
      rw [List.append_nil] at hxs
      rw [List.nil_append] at htail
      exact ⟨[],by rw [hxs,List.append_nil],by rw [hxs]; exact h.succeed,htail.symm,allSucceed_nil,by rw [hxs,List.append_nil]; exact h.fails⟩
    | cons t tail =>
      left
      cases htail
      exact ⟨tail,hxs,h.succeed,h.fails⟩

theorem attemptUntilFailure_succeeds (results : List AdminCommandResult) (h : AllSucceed runner given steps) :
    ∃ rs, (attemptUntilFailure runner results steps).run given = (some (results ++ rs,none),given ++ steps) ∧ ∀ r ∈ rs, r.exitCode = 0 := by
  induction steps generalizing given results with
  | nil => exact ⟨[],by simp [attemptUntilFailure]; rfl,fun r hr => (by cases hr)⟩
  | cons step rest ih =>
    obtain ⟨⟨result,hrun,hexit⟩,hrest⟩ := allSucceed_cons.mp h
    obtain ⟨rs,hall,hzero⟩ := ih (results ++ [result]) hrest
    refine ⟨result :: rs,?_,?_⟩
    · unfold attemptUntilFailure
      rw [attempt_bind_of_some (attempt_of_some hrun),if_neg (not_not.mpr hexit),hall]
      simp
    · intro r hr
      rcases List.mem_cons.mp hr with rfl | hr
      · exact hexit
      · exact hzero r hr

theorem attemptUntilFailure_fails (results : List AdminCommandResult) (h : FailsFirst runner given steps before step after) :
    (runner (given ++ before) step = none → (attemptUntilFailure runner results steps).run given = (none,given ++ before ++ [step])) ∧
      ∀ r, runner (given ++ before) step = some r →
        ∃ rs, (attemptUntilFailure runner results steps).run given = (some (rs,some r),given ++ before ++ [step]) := by
  obtain ⟨hsplit,hsucceed,hfails⟩ := h
  subst hsplit
  induction before generalizing given results with
  | nil =>
    simp only [List.append_nil,List.nil_append] at hfails ⊢
    unfold attemptUntilFailure
    constructor
    · intro hrun
      exact attempt_bind_of_none (attempt_of_none hrun)
    · intro r hrun
      rw [attempt_bind_of_some (attempt_of_some hrun),
        if_pos fun hexit => hfails ⟨r,hrun,hexit⟩]
      exact ⟨_,rfl⟩
  | cons b before ih =>
    obtain ⟨⟨result,hrun,hexit⟩,hrest⟩ := allSucceed_cons.mp hsucceed
    have hassoc : given ++ b :: before = given ++ [b] ++ before := by simp
    rw [hassoc] at hfails ⊢
    have hlater := ih (results ++ [result]) hrest hfails
    rw [List.cons_append]
    unfold attemptUntilFailure
    rw [attempt_bind_of_some (attempt_of_some hrun),if_neg (not_not.mpr hexit)]
    exact hlater

/-- All steps are attempted exactly when every one but the last is answered; none is attempted out of order. -/
theorem attemptAll_given (runner : AdminCommandRunner) (steps given : List AdminCommandStep) :
    (∃ tried, tried <+: steps ∧ ((attemptAll runner steps).run given).2 = given ++ tried) ∧
      (((attemptAll runner steps).run given).2 = given ++ steps ↔ Answers runner given steps) := by
  induction steps generalizing given with
  | nil =>
    refine ⟨⟨[],List.prefix_rfl,(List.append_nil given).symm⟩,fun _ b s a h => (by cases b <;> cases h),fun _ => (List.append_nil given).symm⟩
  | cons step rest ih =>
    have hanswers : Answers runner given (step :: rest) ↔
        (rest ≠ [] → (runner given step).isSome = true) ∧ Answers runner (given ++ [step]) rest := by
      constructor
      · intro h
        refine ⟨fun hrest => by simpa using h [] step rest rfl hrest,fun b s a hsplit ha => ?_⟩
        have hs := h (step :: b) s a (by rw [hsplit]; rfl) ha
        simpa using hs
      · rintro ⟨hstep,hrest⟩ b s a hsplit ha
        cases b with
        | nil =>
          cases hsplit
          simpa using hstep ha
        | cons c b =>
          cases hsplit
          have hs := hrest b s a rfl ha
          simpa using hs
    unfold attemptAll
    cases hrun : runner given step with
    | none =>
      rw [attempt_bind_of_none (attempt_of_none hrun)]
      refine ⟨⟨[step],⟨rest,rfl⟩,rfl⟩,?_⟩
      rw [hanswers,hrun]
      constructor
      · intro h
        have hrest : rest = [] := by simpa using h
        subst hrest
        exact ⟨fun hne => absurd rfl hne,fun b s a hsplit => (by cases b <;> cases hsplit)⟩
      · rintro ⟨hstep,-⟩
        have hrest : rest = [] := by
          by_contra hne
          exact nomatch hstep hne
        rw [hrest]
    | some result =>
      rw [attempt_bind_of_some (attempt_of_some hrun)]
      have hgiven : ((attemptAll runner rest >>= fun results => (pure (result :: results) : Attempt _)).run (given ++ [step])).2 =
          ((attemptAll runner rest).run (given ++ [step])).2 := by
        cases hall : (attemptAll runner rest).run (given ++ [step]) with
        | mk o given' =>
          cases o with
          | none => rw [attempt_bind_of_none hall]
          | some rs =>
            rw [attempt_bind_of_some hall]
            rfl
      rw [hgiven]
      obtain ⟨⟨tried,htried,heq⟩,hiff⟩ := ih (given ++ [step])
      refine ⟨⟨step :: tried,List.cons_prefix_cons.mpr ⟨rfl,htried⟩,by rw [heq]; simp⟩,?_⟩
      have hassoc : given ++ step :: rest = given ++ [step] ++ rest := by simp
      rw [hassoc,hiff,hanswers,hrun]
      exact ⟨fun h => ⟨fun _ => rfl,h⟩,fun h => h.2⟩

end Failures

/-! ### A change that may be executed -/

structure MayExecute (plan : AdminChangePlan) (enabled : List AdminChangeKind) : Prop where
  enabled : plan.kind = .userServiceRestart ∨ plan.kind ∈ enabled
  complete : missingAdminChangeFields plan = []
  notArchived : plan.archived = false
  notCanceled : plan.canceled = false
  approved : plan.approved = true ∨ (plan.riskLevel = .low ∧ plan.approvalLevel = .none)
  supported : unsupportedAptProviderForPlan plan = none

section Plans
variable {plan : AdminChangePlan} {enabled : List AdminChangeKind} {runner : AdminCommandRunner}
  {before after : List AdminCommandStep} {step : AdminCommandStep}

theorem canExecuteLive_iff (kind : AdminChangeKind) (enabled : List AdminChangeKind) :
    (adminExecutionCapabilityFor kind enabled).canExecuteLive = true ↔ kind = .userServiceRestart ∨ kind ∈ enabled := by
  unfold adminExecutionCapabilityFor AdminExecutionCapability.canExecuteLive
  by_cases hmem : kind ∈ enabled
  · cases kind <;> simp [defaultCapability,hmem]
  · cases kind <;> simp [defaultCapability,hmem]

theorem canExecute_iff (plan : AdminChangePlan) : canExecute plan = true ↔ missingAdminChangeFields plan = [] ∧
    plan.archived = false ∧ plan.canceled = false ∧ (plan.approved = true ∨ (plan.riskLevel = .low ∧ plan.approvalLevel = .none)) := by
  unfold canExecute requiresExplicitApproval
  cases plan.archived <;> cases plan.canceled <;> cases plan.approved <;> simp [and_comm]

theorem mayExecute_iff : MayExecute plan enabled ↔ (adminExecutionCapabilityFor plan.kind enabled).canExecuteLive = true ∧
    canExecute plan = true ∧ unsupportedAptProviderForPlan plan = none := by
  rw [canExecuteLive_iff,canExecute_iff]
  constructor
  · rintro ⟨henabled,hcomplete,harchived,hcanceled,happroved,hsupported⟩
    exact ⟨henabled,⟨hcomplete,harchived,hcanceled,happroved⟩,hsupported⟩
  · rintro ⟨henabled,⟨hcomplete,harchived,hcanceled,happroved⟩,hsupported⟩
    exact ⟨henabled,hcomplete,harchived,hcanceled,happroved,hsupported⟩

theorem attempt_of_mayExecute (h : MayExecute plan enabled) : attemptAdminChangePlan plan runner enabled = attemptCommands plan runner := by
  obtain ⟨hlive,hcan,hsupported⟩ := mayExecute_iff.mp h
  unfold attemptAdminChangePlan
  simp only [hlive,hcan,hsupported,Bool.not_true,Bool.false_eq_true,↓reduceIte]

theorem attempt_of_not_mayExecute (h : ¬ MayExecute plan enabled) :
    ∃ summary, attemptAdminChangePlan plan runner enabled = pure (resultOf plan .blocked summary [] [] []) := by
  unfold attemptAdminChangePlan
  dsimp only
  split
  · exact ⟨_,rfl⟩
  split
  · exact ⟨_,rfl⟩
  cases hsupported : unsupportedAptProviderForPlan plan with
  | some provider => exact ⟨_,rfl⟩
  | none =>
    next hlive hcan => exact absurd (mayExecute_iff.mpr ⟨by simpa using hlive,by simpa using hcan,hsupported⟩) h

/-- The steps of the change and those that verify it. -/
def forwardSteps (plan : AdminChangePlan) : List AdminCommandStep := plan.steps ++ plan.verificationSteps

theorem commands_succeed (h : AllSucceed runner [] (forwardSteps plan)) : ∃ result,
    (attemptCommands plan runner).run [] = (some result,forwardSteps plan) ∧ result.status = .completed := by
  obtain ⟨hsteps,hverify⟩ := allSucceed_append.mp h
  rw [List.nil_append] at hverify
  obtain ⟨rs,hrun,hzero⟩ := attemptUntilFailure_succeeds [] hsteps
  obtain ⟨vs,hrun',-⟩ := attemptUntilFailure_succeeds [] hverify
  rw [List.nil_append,List.nil_append] at hrun
  have hnone : (rs.find? fun result => result.exitCode ≠ 0) = none := by
    refine List.find?_eq_none.mpr fun r hr => ?_
    simp [hzero r hr]
  unfold attemptCommands
  rw [attempt_bind_of_some hrun]
  dsimp only
  rw [attempt_bind_of_some hrun']
  dsimp only
  rw [hnone]
  exact ⟨_,rfl,rfl⟩

theorem rollback_attempted (given : List AdminCommandStep) (g : List AdminCommandResult → AdminExecutionResult)
    (hg : ∀ rs, (g rs).status = .failed) : let x := attemptAll runner plan.rollbackSteps >>= fun rs => (pure (g rs) : Attempt _)
    (x.run given).2 = ((attemptAll runner plan.rollbackSteps).run given).2 ∧ ∀ result, (x.run given).1 = some result → result.status = .failed := by
  intro x
  cases hall : (attemptAll runner plan.rollbackSteps).run given with
  | mk o given' =>
    cases o with
    | none =>
      have hx : x.run given = (none,given') := attempt_bind_of_none hall
      rw [hx]
      exact ⟨rfl,nofun⟩
    | some rs =>
      have hx : x.run given = (some (g rs),given') := attempt_bind_of_some hall
      rw [hx]
      refine ⟨rfl,fun result hresult => ?_⟩
      cases hresult
      exact hg rs

theorem commands_fail (h : FailsFirst runner [] (forwardSteps plan) before step after) :
    (runner before step = none → (attemptCommands plan runner).run [] = (none,before ++ [step])) ∧
      ∀ r, runner before step = some r →
        ((attemptCommands plan runner).run []).2 = ((attemptAll runner plan.rollbackSteps).run (before ++ [step])).2 ∧
          ∀ result, ((attemptCommands plan runner).run []).1 = some result → result.status = .failed := by
  rcases h.of_append with ⟨after',hsteps⟩ | ⟨before',rfl,hsteps,hverify⟩
  · obtain ⟨hraise,hexit⟩ := attemptUntilFailure_fails [] hsteps
    simp only [List.nil_append] at hraise hexit
    constructor
    · exact fun hrun => attempt_bind_of_none (hraise hrun)
    · intro r hrun
      obtain ⟨rs,hrs⟩ := hexit r hrun
      unfold attemptCommands
      rw [attempt_bind_of_some hrs]
      exact rollback_attempted _ _ fun _ => rfl
  · obtain ⟨rs,hrs,-⟩ := attemptUntilFailure_succeeds [] hsteps
    obtain ⟨hraise,hexit⟩ := attemptUntilFailure_fails [] hverify
    simp only [List.nil_append] at hrs hraise hexit
    unfold attemptCommands
    rw [attempt_bind_of_some hrs]
    constructor
    · exact fun hrun => attempt_bind_of_none (hraise hrun)
    · intro r hrun
      obtain ⟨vs,hvs⟩ := hexit r hrun
      dsimp only
      rw [attempt_bind_of_some hvs]
      exact rollback_attempted _ _ fun _ => rfl

end Plans

/-- What every execution does: nothing unless it may, the commands in order up to the first that
fails, then rollback steps in order; completed when no command fails. -/
structure ExecutesInOrder (plan : AdminChangePlan) (runner : AdminCommandRunner) (enabled : List AdminChangeKind) : Prop where
  guarded : ((attemptAdminChangePlan plan runner enabled).run []).2 ≠ [] → MayExecute plan enabled
  ordered : MayExecute plan enabled → ∀ before step after, FailsFirst runner [] (forwardSteps plan) before step after →
    ∃ tried, tried <+: plan.rollbackSteps ∧ ((attemptAdminChangePlan plan runner enabled).run []).2 = before ++ [step] ++ tried
  unfailing : MayExecute plan enabled → AllSucceed runner [] (forwardSteps plan) →
    ((attemptAdminChangePlan plan runner enabled).run []).2 = forwardSteps plan
  completed : (∃ result, ((attemptAdminChangePlan plan runner enabled).run []).1 = some result ∧ result.status = .completed) ↔
    MayExecute plan enabled ∧ AllSucceed runner [] (forwardSteps plan)

/-- Whenever a command fails, every rollback step is attempted once, in order. -/
def RollsBack (plan : AdminChangePlan) (runner : AdminCommandRunner) (enabled : List AdminChangeKind) : Prop :=
  MayExecute plan enabled → ∀ before step after, FailsFirst runner [] (forwardSteps plan) before step after →
    ((attemptAdminChangePlan plan runner enabled).run []).2 = before ++ [step] ++ plan.rollbackSteps

/-- The first command that fails does so by its exit code, and no rollback step before the last one raises. -/
def NothingRaises (plan : AdminChangePlan) (runner : AdminCommandRunner) (enabled : List AdminChangeKind) : Prop :=
  MayExecute plan enabled → ∀ before step after, FailsFirst runner [] (forwardSteps plan) before step after →
    (runner before step).isSome = true ∧ Answers runner (before ++ [step]) plan.rollbackSteps

section Executions
variable {plan : AdminChangePlan} {enabled : List AdminChangeKind} {runner : AdminCommandRunner}

theorem executesInOrder (plan : AdminChangePlan) (runner : AdminCommandRunner) (enabled : List AdminChangeKind) :
    ExecutesInOrder plan runner enabled := by
  by_cases hmay : MayExecute plan enabled
  · have hrun : attemptAdminChangePlan plan runner enabled = attemptCommands plan runner := attempt_of_mayExecute hmay
    refine ⟨fun _ => hmay,fun _ before step after hfirst => ?_,fun _ hall => ?_,fun ⟨result,hresult,hstatus⟩ => ⟨hmay,?_⟩,fun ⟨_,hall⟩ => ?_⟩
    · rw [hrun]
      obtain ⟨hraise,hexit⟩ := commands_fail hfirst
      cases hanswer : runner before step with
      | none =>
        rw [hraise hanswer]
        exact ⟨[],List.nil_prefix,(List.append_nil _).symm⟩
      | some r =>
        obtain ⟨⟨tried,htried,heq⟩,-⟩ := attemptAll_given runner plan.rollbackSteps (before ++ [step])
        exact ⟨tried,htried,(hexit r hanswer).1.trans heq⟩
    · obtain ⟨result,hcommands,-⟩ := commands_succeed hall
      rw [hrun,hcommands]
    · by_contra hnot
      obtain ⟨before,step,after,hfirst⟩ := exists_failsFirst hnot
      rw [hrun] at hresult
      obtain ⟨hraise,hexit⟩ := commands_fail hfirst
      cases hanswer : runner before step with
      | none =>
        rw [hraise hanswer] at hresult
        cases hresult
      | some r =>
        rw [(hexit r hanswer).2 result hresult] at hstatus
        cases hstatus
    · obtain ⟨result,hcommands,hstatus⟩ := commands_succeed hall
      exact ⟨result,by rw [hrun,hcommands],hstatus⟩
  · obtain ⟨summary,hrun⟩ : ∃ summary, attemptAdminChangePlan plan runner enabled = pure (resultOf plan .blocked summary [] [] []) :=
      attempt_of_not_mayExecute hmay
    refine ⟨fun hgiven => ?_,fun h => absurd h hmay,fun h => absurd h hmay,fun ⟨result,hresult,hstatus⟩ => ?_,fun h => absurd h.1 hmay⟩
    · rw [hrun] at hgiven
      exact absurd rfl hgiven
    · rw [hrun] at hresult
      cases hresult
      cases hstatus

theorem rollbackSteps_ne_nil (h : MayExecute plan enabled) : plan.rollbackSteps ≠ [] := by
  intro hnil
  have hcomplete := h.complete
  unfold missingAdminChangeFields at hcomplete
  simp [hnil] at hcomplete

/-- An admin change is executed in order and reported as it went; it is rolled back whenever a command
fails exactly when the runner answers that command and all rollback steps but the last. -/
theorem admin_rolls_back_iff (plan : AdminChangePlan) (runner : AdminCommandRunner) (enabled : List AdminChangeKind) :
    ((attemptAdminChangePlan plan runner enabled).run []).1 = executeAdminChangePlan plan runner enabled ∧
    ExecutesInOrder plan runner enabled ∧ (RollsBack plan runner enabled ↔ NothingRaises plan runner enabled) := by
  refine ⟨attemptAdminChangePlan_eq plan runner enabled,executesInOrder plan runner enabled,?_⟩
  refine forall_congr' fun hmay => forall_congr' fun before => forall_congr' fun step => forall_congr' fun after => forall_congr' fun hfirst => ?_
  rw [attempt_of_mayExecute hmay]
  obtain ⟨hraise,hexit⟩ := commands_fail hfirst
  cases hanswer : runner before step with
  | none =>
    rw [hraise hanswer]
    constructor
    · intro h
      have hnil : plan.rollbackSteps = [] := by simpa using h
      exact absurd hnil (rollbackSteps_ne_nil hmay)
    · rintro ⟨hsome,-⟩
      cases hsome
  | some r =>
    rw [(hexit r hanswer).1,(attemptAll_given runner plan.rollbackSteps (before ++ [step])).2]
    exact ⟨fun h => ⟨rfl,h⟩,fun h => h.2⟩

end Executions

/-- A plan to restart a service, approved. -/
def restartPlan : AdminChangePlan where
  id := "restart"
  kind := .userServiceRestart
  ownerDomain := .obrien
  riskLevel := .low
  approvalLevel := .none
  target := "service"
  reason := "stuck"
  currentState := "running"
  proposedState := "restarted"
  steps := [⟨"restart",["systemctl","--user","restart","service"],"stuck"⟩]
  rollbackSteps := [⟨"start",["systemctl","--user","start","service"],"undo"⟩]
  risks := ["downtime"]
  verificationSteps := [⟨"status",["systemctl","--user","status","service"],"check"⟩]

/-- The first command raises, and no rollback step is attempted. -/
theorem rollback_not_attempted : MayExecute restartPlan [] ∧ (attemptAdminChangePlan restartPlan (fun _ _ => none) []).run [] =
    (none,restartPlan.steps) ∧ ¬ RollsBack restartPlan (fun _ _ => none) [] := by
  have hmay : MayExecute restartPlan [] := mayExecute_iff.mpr (by decide)
  have hfirst : FailsFirst (fun _ _ => none) [] (forwardSteps restartPlan) []
      ⟨"restart",["systemctl","--user","restart","service"],"stuck"⟩ restartPlan.verificationSteps :=
    ⟨rfl,allSucceed_nil,fun ⟨_,hrun,_⟩ => (by cases hrun)⟩
  have hrun : (attemptAdminChangePlan restartPlan (fun _ _ => none) []).run [] = (none,restartPlan.steps) := by
    rw [attempt_of_mayExecute hmay]
    rfl
  refine ⟨hmay,hrun,fun hback => ?_⟩
  have hgiven := hback hmay _ _ _ hfirst
  rw [hrun] at hgiven
  cases hgiven
end Admin
end Overseer.Core
