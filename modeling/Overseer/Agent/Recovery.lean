import Overseer.Agent.FailoverUse
import Overseer.Library.Tickets

/-! # The recovery of a failover execution

Managers that recover an execution claim it with an attempt, mark the attempt as started
outside before they call the provider, record the outcome and finalize. Whoever finds the
attempt already started inspects instead. The right to call the provider comes with the
commit that starts the attempt.
-/
namespace Overseer.Agent
open Overseer.Library
open Discipline

/-! ### The records of a recovery -/

/-- The attempt is the same, and once started it stays so. -/
structure AttemptKept (a a' : AgentRecoveryAttempt) : Prop where
  id : a.id = a'.id
  executionId : a.executionId = a'.executionId
  started : a.state ≠ .pending → a'.state ≠ .pending

theorem AttemptKept.refl (a : AgentRecoveryAttempt) : AttemptKept a a := ⟨rfl,rfl,fun h => h⟩
theorem AttemptKept.trans {a b c : AgentRecoveryAttempt} (h : AttemptKept a b) (h' : AttemptKept b c) :
    AttemptKept a c := ⟨h.1.trans h'.1,h.2.trans h'.2,fun hs => h'.3 (h.3 hs)⟩

/-- One row for each key. -/
def OneEach {α κ : Type} (key : α → κ) (d : Dict α) : Prop :=
  ∀ k k' r r', d.get? k = some r → d.get? k' = some r' → key r = key r' → k = k'

/-- The fence an execution was made under. -/
def FailoverExecution.fence (e : FailoverExecution) : String × ℕ × String :=
  (e.instanceId,e.operationGeneration,e.operationOwnerRef)

structure RecoveryOk (s : AgentStore) : Prop where
  fence : FenceOk s
  executions : Dict.Filed FailoverExecution.id s.executions
  fences : OneEach FailoverExecution.fence s.executions
  attempts : Dict.Filed AgentRecoveryAttempt.id s.attempts
  oneAttempt : OneEach AgentRecoveryAttempt.executionId s.attempts
  oneOutcome : OneEach AgentRecoveryOutcome.attemptId s.outcomes

/-- The fence of the execution is held for it. -/
def Fenced (s : AgentStore) (e : FailoverExecution) : Prop := ∃ row, s.operations.get? e.instanceId = some row ∧
  row.state = .fenced ∧ row.generation = e.operationGeneration ∧ row.ownerToken = some e.operationOwnerRef

/-- Executions keep their identity and become recovered with the release of their fence. -/
structure RecoveryStep (s s' : AgentStore) : Prop where
  executions : RowsKept SameExecution s.executions s'.executions
  attempts : RowsKept AttemptKept s.attempts s'.attempts
  outcomes : RowsKept Eq s.outcomes s'.outcomes
  together : ∀ k e e', s.executions.get? k = some e → s'.executions.get? k = some e' → Fenced s e →
    ((e.state ≠ .recovered ∧ e'.state = .recovered) ↔ ¬ Fenced s' e)
  recovered : ∀ k e e', s.executions.get? k = some e → s'.executions.get? k = some e' →
    e.state ≠ .recovered → e'.state = .recovered → Fenced s e

/-! ### Moving the rows -/

/-- Rows keep what `R` says and none is new. -/
structure RowsMoved {α : Type} (R : α → α → Prop) (d d' : Dict α) : Prop where
  kept : RowsKept R d d'
  back : ∀ k r', d'.get? k = some r' → ∃ r, d.get? k = some r ∧ R r r'

section Rows
variable {α κ : Type} {R : α → α → Prop} {d d' : Dict α}

theorem RowsMoved.refl (hR : ∀ r, R r r) (d : Dict α) : RowsMoved R d d :=
  ⟨.refl hR d,fun _ r' h => ⟨r',h,hR r'⟩⟩

theorem RowsMoved.set (hR : ∀ r, R r r) {k : String} {r r' : α} (hrow : d.get? k = some r) (h : R r r') :
    RowsMoved R d (d.set k r') := by
  constructor
  · refine .set hR fun v hv => ?_
    rw [hrow] at hv
    cases hv
    exact h
  · intro k' v hv
    rw [Dict.get?_set] at hv
    split at hv
    · next hk =>
      cases hv
      exact ⟨r,hk ▸ hrow,h⟩
    · exact ⟨v,hv,hR v⟩

theorem RowsMoved.filed {name : α → String} (h : RowsMoved R d d') (hR : ∀ r r', R r r' → name r = name r')
    (hd : Dict.Filed name d) : Dict.Filed name d' := by
  intro k r' hr'
  obtain ⟨r,hr,hrr'⟩ := h.back k r' hr'
  rw [← hR r r' hrr']
  exact hd k r hr

theorem RowsMoved.oneEach {key : α → κ} (h : RowsMoved R d d') (hR : ∀ r r', R r r' → key r = key r')
    (hd : OneEach key d) : OneEach key d' := by
  intro k k' r₁ r₂ h₁ h₂ hkey
  obtain ⟨v₁,hv₁,hr₁⟩ := h.back k r₁ h₁
  obtain ⟨v₂,hv₂,hr₂⟩ := h.back k' r₂ h₂
  exact hd k k' v₁ v₂ hv₁ hv₂ (by rw [hR _ _ hr₁,hR _ _ hr₂,hkey])

theorem OneEach.insert {key : α → κ} (hd : OneEach key d) {k : String} {r : α}
    (hnew : ∀ k' r', d.get? k' = some r' → key r' ≠ key r) : OneEach key (d.set k r) := by
  intro k₁ k₂ r₁ r₂ h₁ h₂ hkey
  rw [Dict.get?_set] at h₁ h₂
  split at h₁ <;> split at h₂
  · next hk₁ hk₂ => exact hk₁.trans hk₂.symm
  · cases h₁
    exact absurd hkey.symm (hnew k₂ r₂ h₂)
  · cases h₂
    exact absurd hkey (hnew k₁ r₁ h₁)
  · exact hd k₁ k₂ r₁ r₂ h₁ h₂ hkey

end Rows

theorem SameExecution.fence {e e' : FailoverExecution} (h : SameExecution e e') : e.fence = e'.fence := by
  simp only [FailoverExecution.fence,h.instanceId,h.operationGeneration,h.operationOwnerRef]

/-- A commit that moves attempts and outcomes but leaves the fence and the end of executions alone. -/
theorem RecoveryOk.commit {s s' : AgentStore} (hs : RecoveryOk s) (hops : s'.operations = s.operations)
    (hexecutions : RowsMoved (fun e e' => SameExecution e e' ∧ (e'.state = .recovered → e.state = .recovered))
      s.executions s'.executions)
    (hattempts : RowsKept AttemptKept s.attempts s'.attempts) (hfiled : Dict.Filed AgentRecoveryAttempt.id s'.attempts)
    (hone : OneEach AgentRecoveryAttempt.executionId s'.attempts)
    (houtcomes : RowsKept Eq s.outcomes s'.outcomes)
    (honeOutcome : OneEach AgentRecoveryOutcome.attemptId s'.outcomes) : RecoveryStep s s' ∧ RecoveryOk s' := by
  have hfenced : ∀ e, Fenced s' e ↔ Fenced s e := by
    intro e
    simp only [Fenced,hops]
  have hnot : ∀ k e e', s.executions.get? k = some e → s'.executions.get? k = some e' → e.state ≠ .recovered →
      e'.state ≠ .recovered := by
    intro k e e' he he' hopen hrec
    obtain ⟨e₁,he₁,-,hback⟩ := hexecutions.back k e' he'
    rw [he] at he₁
    cases he₁
    exact hopen (hback hrec)
  constructor
  · refine ⟨?_,hattempts,houtcomes,fun k e e' he he' hf => ?_,fun k e e' he he' hopen hrec => ?_⟩
    · intro k e he
      obtain ⟨e',he',hsame,-⟩ := hexecutions.kept k e he
      exact ⟨e',he',hsame⟩
    · constructor
      · exact fun h => absurd h.2 (hnot k e e' he he' h.1)
      · exact fun h => absurd ((hfenced e).mpr hf) h
    · exact absurd hrec (hnot k e e' he he' hopen)
  · refine ⟨fun x row hx => hs.fence x row (hops ▸ hx),?_,?_,hfiled,hone,honeOutcome⟩
    · exact hexecutions.filed (fun _ _ h => h.1.id) hs.executions
    · exact hexecutions.oneEach (fun _ _ h => h.1.fence) hs.fences

theorem AttemptKept.same (a a' : AgentRecoveryAttempt) (h : AttemptKept a a') : a.id = a'.id := h.id
theorem AttemptKept.execution (a a' : AgentRecoveryAttempt) (h : AttemptKept a a') :
    a.executionId = a'.executionId := h.executionId

theorem executionsUnmoved (d : Dict FailoverExecution) :
    RowsMoved (fun e e' => SameExecution e e' ∧ (e'.state = .recovered → e.state = .recovered)) d d :=
  .refl (fun e => ⟨.refl e,id⟩) d

/-! ### The transactions -/

theorem attempt_found {s : AgentStore} {x : String} {a : AgentRecoveryAttempt}
    (h : ((attemptTable.sorted s).filter (·.executionId = x)).head? = some a) :
    ∃ k, s.attempts.get? k = some a ∧ a.executionId = x := by
  have hmem := List.mem_of_head? h
  simp only [List.mem_filter,decide_eq_true_eq] at hmem
  obtain ⟨k,hk⟩ := (mem_sorted attemptTable s a).mp hmem.1
  exact ⟨k,hk,hmem.2⟩

theorem attempt_missing {s : AgentStore} {x : String}
    (h : ((attemptTable.sorted s).filter (·.executionId = x)).head? = none) :
    ∀ k a, s.attempts.get? k = some a → a.executionId ≠ x := by
  intro k a hk hx
  have hmem : a ∈ attemptTable.sorted s := (mem_sorted attemptTable s a).mpr ⟨k,hk⟩
  simp only [List.head?_eq_none_iff,List.filter_eq_nil_iff] at h
  exact h a hmem (by simp [hx])

theorem post_recoveryAttemptForExecution {x : String} {s : AgentStore} {Q : Option AgentRecoveryAttempt → AgentStore → Prop}
    (h : ∀ o, ((attemptTable.sorted s).filter (·.executionId = x)).head? = o → Q o s) :
    Tx.Post (recoveryAttemptForExecution x : AgentTx _) s Q := by
  simp only [recoveryAttemptForExecution,Tx.post_bind,post_listAgentRecords,Tx.post_require,Tx.post_pure]
  exact fun _ => h _ rfl

theorem post_transitionAgentRecoveryAttempt (id : String) (expected state : AgentRecoveryAttemptState)
    (at_ : Timestamp) (s : AgentStore) :
    Tx.Post (transitionAgentRecoveryAttempt id expected state at_ : AgentTx _) s fun updated s' =>
      ∃ current, s.attempts.get? id = some current ∧ current.state = expected ∧
        updated = { current with state, updatedAt := at_ } ∧ s' = { s with attempts := s.attempts.set id updated } := by
  simp only [transitionAgentRecoveryAttempt,loadAgentRecoveryAttempt,Tx.post_bind,post_loadAgentRecord,Tx.post_require,
    Tx.post_atomically,Tx.post_pure]
  intro current hrow hstate
  have hrow' : s.attempts.get? id = some current := hrow
  simp only [Tx.Post,updateAgentRecoveryAttempt,hrow',hstate,↓reduceIte]
  exact ⟨current,rfl,hstate,rfl,trivial⟩

/-- What a claim leaves: the execution as claimed and its first attempt. -/
structure Claims (s s' : AgentStore) (x : String) (attempt : AgentRecoveryAttempt) (claimed : FailoverExecution) :
    Prop where
  execution : ∃ current, s.executions.get? x = some current ∧ SameExecution current claimed
  claimed : s'.executions.get? x = some claimed
  attempt : s'.attempts.get? attempt.id = some attempt

theorem commit_claimFailoverRecovery {s s' : AgentStore} {x : String} {attempt : AgentRecoveryAttempt} {at_ : Timestamp}
    {claimed : FailoverExecution} (hs : RecoveryOk s) (hx : attempt.executionId = x)
    (hrun : (claimFailoverRecovery x attempt at_ : AgentTx _) s = .ok (claimed,s')) :
    (RecoveryStep s s' ∧ RecoveryOk s') ∧ Claims s s' x attempt claimed := by
  have hpost : Tx.Post (claimFailoverRecovery x attempt at_ : AgentTx _) s fun claimed s' =>
      (RecoveryStep s s' ∧ RecoveryOk s') ∧ Claims s s' x attempt claimed := by
    simp only [claimFailoverRecovery,Tx.post_atomically,Tx.post_bind,Tx.post_require,Tx.post_pure]
    refine post_recoveryAttemptForExecution fun o ho hnone => ?_
    subst hnone
    have hnew := attempt_missing ho
    refine (post_transitionFailoverExecution ..).mono ?_
    rintro claimed _ ⟨current,hcurrent,hstate,-,hclaimed,rfl⟩
    have hsame : SameExecution current claimed := by
      rw [hclaimed]
      exact ⟨rfl,rfl,rfl,rfl,rfl⟩
    refine (post_saveAgentRecord attemptTable attempt _).mono ?_
    rintro _ _ ⟨rfl,hsaves⟩
    -- the id is new: a row under it would have to be of this execution
    have hfree : s.attempts.get? attempt.id = none := by
      by_contra hne
      obtain ⟨a,ha⟩ := Option.ne_none_iff_exists'.mp hne
      have hid := hsaves.identity a ha
      simp only [attemptTable,decide_eq_true_eq] at hid
      exact hnew _ a ha (hid.2.2.1.trans hx)
    refine ⟨hs.commit rfl ?_ ?_ (hs.attempts.set attempt) ?_ (.refl (fun _ => rfl) _) hs.oneOutcome,
      ⟨current,hcurrent,hsame⟩,?_,?_⟩
    · refine RowsMoved.set (fun e => ⟨.refl e,id⟩) hcurrent ⟨hsame,fun h => ?_⟩
      rw [hclaimed] at h
      cases h
    · refine .set AttemptKept.refl fun a ha => ?_
      have hnone : s.attempts.get? attempt.id = some a := ha
      rw [hfree] at hnone
      cases hnone
    · exact hs.oneAttempt.insert fun k a ha => hx ▸ hnew k a ha
    · exact (Dict.get?_set ..).trans (if_pos rfl)
    · exact (Dict.get?_set ..).trans (if_pos rfl)
  exact hpost.of_ok hrun

/-- The attempts after one of them has moved on. -/
theorem RecoveryOk.moveAttempt {s : AgentStore} (hs : RecoveryOk s) {id : String} {a a' : AgentRecoveryAttempt}
    (hrow : s.attempts.get? id = some a) (hkept : AttemptKept a a') :
    RowsKept AttemptKept s.attempts (s.attempts.set id a') ∧
    Dict.Filed AgentRecoveryAttempt.id (s.attempts.set id a') ∧
    OneEach AgentRecoveryAttempt.executionId (s.attempts.set id a') := by
  have hmoved : RowsMoved AttemptKept s.attempts (s.attempts.set id a') := .set AttemptKept.refl hrow hkept
  exact ⟨hmoved.kept,hmoved.filed AttemptKept.same hs.attempts,hmoved.oneEach AttemptKept.execution hs.oneAttempt⟩

theorem commit_updateAgentRecoveryAttempt {s s' : AgentStore} {id : String} {expected : AgentRecoveryAttemptState}
    {updated : AgentRecoveryAttempt} (hs : RecoveryOk s)
    (hsame : ∀ a, s.attempts.get? id = some a → AttemptKept a updated)
    (hrun : updateAgentRecoveryAttempt id expected updated s = .ok ((),s')) :
    (RecoveryStep s s' ∧ RecoveryOk s') ∧ ∃ a, s.attempts.get? id = some a ∧ a.state = expected ∧
      s' = { s with attempts := s.attempts.set id updated } := by
  have hpost : Tx.Post (updateAgentRecoveryAttempt id expected updated) s fun _ s' =>
      (RecoveryStep s s' ∧ RecoveryOk s') ∧ ∃ a, s.attempts.get? id = some a ∧ a.state = expected ∧
        s' = { s with attempts := s.attempts.set id updated } := by
    simp only [Tx.Post,updateAgentRecoveryAttempt]
    cases hrow : s.attempts.get? id with
    | none => trivial
    | some row =>
      by_cases hstate : row.state = expected
      · simp only [hstate,↓reduceIte]
        obtain ⟨hkept,hfiled,hone⟩ := hs.moveAttempt hrow (hsame row hrow)
        exact ⟨hs.commit rfl (executionsUnmoved _) hkept hfiled hone (.refl (fun _ => rfl) _) hs.oneOutcome,
          row,rfl,hstate,trivial⟩
      · simp only [if_neg hstate]
  exact hpost.of_ok hrun

/-- The outcome of an attempt is recorded once. -/
theorem commit_recordBundle {s s' : AgentStore} {result : AgentDispatchResult} {outcome : AgentRecoveryOutcome}
    {attemptId : String} {at_ : Timestamp} (hs : RecoveryOk s) (hattempt : outcome.attemptId = attemptId)
    (hrun : (recordAgentRecoveryResultBundle result outcome attemptId at_ : AgentTx Unit) s = .ok ((),s')) :
    RecoveryStep s s' ∧ RecoveryOk s' := by
  subst hattempt
  have hpost : Tx.Post (recordAgentRecoveryResultBundle result outcome outcome.attemptId at_ : AgentTx Unit) s
      fun _ s' => RecoveryStep s s' ∧ RecoveryOk s' := by
    simp only [recordAgentRecoveryResultBundle,recoveryOutcomeForAttempt,saveAgentRecoveryOutcome,saveAgentDispatchResult,
      Tx.post_atomically,Tx.post_bind,Tx.post_require,Tx.post_pure,post_listAgentRecords,Tx.post_read]
    refine (post_unlessMissing_load resultTable result.id s _).mpr ?_
    intro _ _ hnone
    have hnew : ∀ k o, s.outcomes.get? k = some o → o.attemptId ≠ outcome.attemptId := by
      intro k o hk hid
      have hmem : o ∈ outcomeTable.sorted s := (mem_sorted outcomeTable s o).mpr ⟨k,hk⟩
      simp only [List.head?_eq_none_iff,List.filter_eq_nil_iff] at hnone
      exact hnone o hmem (by simp [hid])
    refine (post_saveAgentRecord resultTable result s).mono ?_
    rintro _ _ ⟨rfl,-⟩ hsame
    refine (post_saveAgentRecord outcomeTable outcome _).mono ?_
    rintro _ _ ⟨rfl,-⟩
    refine (post_transitionAgentRecoveryAttempt ..).mono ?_
    rintro updated _ ⟨current,hcurrent,hstate,rfl,rfl⟩
    have hattempt : AttemptKept current { current with state := .resultRecorded, updatedAt := at_ } :=
      ⟨rfl,rfl,fun _ => by simp⟩
    obtain ⟨hkept,hfiled,hone⟩ := hs.moveAttempt hcurrent hattempt
    refine hs.commit rfl (executionsUnmoved _) hkept hfiled hone ?_ (hs.oneOutcome.insert hnew)
    refine .set (fun _ => rfl) fun o ho => ?_
    exact absurd rfl (hsame o ho ▸ hnew _ o ho)
  exact hpost.of_ok hrun

/-- The attempts, possibly with one that has moved on. -/
def AttemptsMoved (d d' : Dict AgentRecoveryAttempt) : Prop :=
  d' = d ∨ ∃ id a a', d.get? id = some a ∧ AttemptKept a a' ∧ d' = d.set id a'

theorem post_finalizeRecoveryTx (execution : FailoverExecution) (operation : AgentOperationReservation)
    (ref : Option String) (a b c : Timestamp) (s : AgentStore) :
    Tx.Post (finalizeRecoveryTx execution operation ref a b c) s fun _ s' => ∃ attempts current updated,
      AttemptsMoved s.attempts attempts ∧ Owns s operation ∧ s.executions.get? execution.id = some current ∧
      current.state = execution.state ∧ .recovered ∈ execution.state.allowed ∧
      SameExecution current updated ∧ updated.state = .recovered ∧
      s' = { s.putOperation (released operation b) with
        attempts := attempts, executions := s.executions.set execution.id updated } := by
  rw [finalizeRecoveryTx,Tx.post_bind]
  refine (post_verifyOwned operation s).mono ?_
  rintro _ s₀ ⟨hs₀,-⟩
  rw [hs₀,Tx.post_bind]
  refine post_recoveryAttemptForExecution fun o _ => ?_
  have hend : ∀ attempts s₁, AttemptsMoved s.attempts attempts → s₁ = { s with attempts := attempts } →
      Tx.Post (do
        let _ ← release operation b
        transitionFailoverExecution execution.id execution.state .recovered c none ref : AgentTx _) s₁
        fun _ s' => ∃ attempts current updated, AttemptsMoved s.attempts attempts ∧ Owns s operation ∧
          s.executions.get? execution.id = some current ∧ current.state = execution.state ∧
          .recovered ∈ execution.state.allowed ∧ SameExecution current updated ∧ updated.state = .recovered ∧
          s' = { s.putOperation (released operation b) with
            attempts := attempts, executions := s.executions.set execution.id updated } := by
    rintro attempts _ hmoved rfl
    rw [Tx.post_bind]
    refine (post_release operation b _).mono ?_
    rintro _ _ ⟨rfl,howns,rfl⟩
    refine (post_transitionFailoverExecution ..).mono ?_
    rintro updated _ ⟨current,hcurrent,hstate,hallowed,hupdated,rfl⟩
    have hsame : SameExecution current updated := by
      rw [hupdated]
      exact ⟨rfl,rfl,rfl,rfl,rfl⟩
    have hrecovered : updated.state = .recovered := by rw [hupdated]
    exact ⟨attempts,current,updated,hmoved,howns,hcurrent,hstate,hallowed,hsame,hrecovered,rfl⟩
  cases hfound : o.filter fun a => a.state = .externalStarted ∨ a.state = .resultRecorded with
  | some attempt =>
    simp only [Tx.post_bind]
    refine (post_transitionAgentRecoveryAttempt ..).mono ?_
    rintro updated s₁ ⟨row,hrow,hstate,rfl,rfl⟩
    have hkept : AttemptKept row { row with state := .finalized, updatedAt := a } := ⟨rfl,rfl,fun _ => by simp⟩
    have hlast := hend _ _ (.inr ⟨attempt.id,row,_,hrow,hkept,rfl⟩) rfl
    rwa [Tx.post_bind] at hlast
  | none => exact hend s.attempts s (.inl rfl) rfl

theorem RecoveryOk.movedAttempts {s : AgentStore} (hs : RecoveryOk s) {d : Dict AgentRecoveryAttempt}
    (h : AttemptsMoved s.attempts d) : RowsKept AttemptKept s.attempts d ∧ Dict.Filed AgentRecoveryAttempt.id d ∧
      OneEach AgentRecoveryAttempt.executionId d := by
  rcases h with rfl | ⟨id,a,a',hrow,hkept,rfl⟩
  · exact ⟨.refl AttemptKept.refl _,hs.attempts,hs.oneAttempt⟩
  · exact hs.moveAttempt hrow hkept

/-- The execution is recovered with the release of its own fence. -/
theorem commit_finalizeRecoveryTx {s s' : AgentStore} {execution : FailoverExecution}
    {operation : AgentOperationReservation} {ref : Option String} {a b c : Timestamp} {r : FailoverExecution}
    (hs : RecoveryOk s) (hsame : ∀ e, s.executions.get? execution.id = some e → SameExecution execution e)
    (hx : operation.instanceId = execution.instanceId) (hg : operation.generation = execution.operationGeneration)
    (ho : operation.ownerToken = some execution.operationOwnerRef)
    (hrun : finalizeRecoveryTx execution operation ref a b c s = .ok (r,s')) : RecoveryStep s s' ∧ RecoveryOk s' := by
  obtain ⟨attempts,current,updated,hmoved,⟨row,hrow,hgen,hfenced,howner⟩,hcurrent,hstate,hallowed,hupdated,hrec,hs'⟩ :=
    (post_finalizeRecoveryTx execution operation ref a b c s).of_ok hrun
  obtain ⟨hattempts,hfiled,hone⟩ := hs.movedAttempts hmoved
  have hexec := hsame current hcurrent
  have hopen : current.state ≠ .recovered := by
    intro h
    rw [← hstate,h] at hallowed
    simp [FailoverExecutionState.allowed] at hallowed
  have hmovedE : RowsMoved SameExecution s.executions (s.executions.set execution.id updated) :=
    .set SameExecution.refl hcurrent hupdated
  have hops : s'.operations = s.operations.set operation.instanceId
      ⟨operation.generation + 1,.opened,none,released operation b⟩ := by
    rw [hs']
    rfl
  have hexecs : s'.executions = s.executions.set execution.id updated := by rw [hs']
  have hcurrentFenced : Fenced s current := by
    refine ⟨row,?_,hfenced,?_,?_⟩
    · rw [← hexec.instanceId,← hx]
      exact hrow
    · rw [hgen,hg,hexec.operationGeneration]
    · rw [howner,ho,hexec.operationOwnerRef]
  have hreleased : ¬ Fenced s' current := by
    rintro ⟨row',hrow',hfenced',-⟩
    rw [hops,← hexec.instanceId,← hx,Dict.get?_set,if_pos rfl] at hrow'
    cases hrow'
    cases hfenced'
  -- another execution has another fence, which this release leaves alone
  have hother : ∀ k e, s.executions.get? k = some e → k ≠ execution.id → Fenced s e → Fenced s' e := by
    rintro k e he hk ⟨row',hrow',hf',hg',ho'⟩
    by_cases hxe : e.instanceId = operation.instanceId
    · rw [hxe,hrow] at hrow'
      cases hrow'
      refine absurd (hs.fences k execution.id e current he hcurrent ?_) hk
      simp only [FailoverExecution.fence,Prod.mk.injEq]
      refine ⟨hxe.trans (hx.trans hexec.instanceId),?_,?_⟩
      · rw [← hg',hgen,hg,hexec.operationGeneration]
      · rw [howner,ho] at ho'
        rw [← Option.some.inj ho',hexec.operationOwnerRef]
    · exact ⟨row',by rw [hops,Dict.get?_set,if_neg hxe,hrow'],hf',hg',ho'⟩
  have hcases : ∀ k e e', s.executions.get? k = some e → s'.executions.get? k = some e' →
      k = execution.id ∧ e = current ∧ e' = updated ∨ k ≠ execution.id ∧ e' = e := by
    intro k e e' he he'
    rw [hexecs,Dict.get?_set] at he'
    split at he'
    · next hk =>
      rw [hk,hcurrent] at he
      exact .inl ⟨hk,(Option.some.inj he).symm,(Option.some.inj he').symm⟩
    · next hk =>
      rw [he] at he'
      exact .inr ⟨hk,(Option.some.inj he').symm⟩
  constructor
  · refine ⟨hexecs ▸ hmovedE.kept,by rw [hs']; exact hattempts,by rw [hs']; exact .refl (fun _ => rfl) _,?_,?_⟩
    · intro k e e' he he' hf
      rcases hcases k e e' he he' with ⟨-,rfl,rfl⟩ | ⟨hk,rfl⟩
      · exact iff_of_true ⟨hopen,hrec⟩ hreleased
      · refine iff_of_false (fun h => h.1 h.2) fun hnot => hnot (hother k e' he hk hf)
    · intro k e e' he he' hne hrec'
      rcases hcases k e e' he he' with ⟨-,rfl,-⟩ | ⟨-,rfl⟩
      · exact hcurrentFenced
      · exact absurd hrec' hne
  · refine ⟨?_,?_,?_,by rw [hs']; exact hfiled,by rw [hs']; exact hone,by rw [hs']; exact hs.oneOutcome⟩
    · rw [hs']
      exact FenceOk.put (fun x row hx => hs.fence x row hx) (by simp [released])
    · rw [hexecs]
      exact hmovedE.filed (fun _ _ h => h.id) hs.executions
    · rw [hexecs]
      exact hmovedE.oneEach (fun _ _ h => h.fence) hs.fences

/-! ### The calls -/

/-- The calls that recover an execution. -/
def ManagerCall.recoversExecution : ManagerCall → Prop
  | .recoverFailoverExecution _ _ _ => True
  | _ => False

def recoverySystem : System AgentStore Held Answer AgentError Unit :=
  managerSystem ManagerCall.recoversExecution fun _ _ _ => True

def recoveryDiscipline : Discipline AgentStore Held Answer AgentError Unit where
  sys := recoverySystem
  ok := RecoveryOk
  step := RecoveryStep
  idle s := by
    have hsame : ∀ k (e e' : FailoverExecution), s.executions.get? k = some e → s.executions.get? k = some e' →
        e = e' := fun k e e' he he' => Option.some.inj (he.symm.trans he')
    refine ⟨.refl SameExecution.refl _,.refl AttemptKept.refl _,.refl (fun _ => rfl) _,fun k e e' he he' hf => ?_,
      fun k e e' he he' hopen hrec => ?_⟩
    · cases hsame k e e' he he'
      exact iff_of_false (fun h => h.1 h.2) fun h => h hf
    · cases hsame k e e' he he'
      exact absurd hrec hopen

/-- The provider is called to recover an execution whose attempt has been started. -/
def recoveryTickets : Tickets AgentStore AgentQuery String where
  needs
    | .recover _ request _ => some request.executionId
    | _ => none
  gone x s := ∃ k a, s.attempts.get? k = some a ∧ a.executionId = x ∧ a.state ≠ .pending

abbrev RecoveryPays {α : Type} (Ret : (String → Prop) → α → AgentStore → Prop) (own : String → Prop)
    (p : AgentProg α) (u : AgentStore) : Prop := recoveryDiscipline.Pays recoveryTickets Ret own p u

abbrev RecoveryFrom {α : Type} (p : AgentProg α) (u : AgentStore) : Prop :=
  recoveryDiscipline.From (fun _ _ => True) p u

/-- The program does not call a driver to recover. -/
abbrev Unrecovering {α : Type} (p : AgentProg α) : Prop := Prog.Silent recoveryTickets.marked p

theorem recoveryTickets_gone {x : String} {s s' : AgentStore} (hstep : RecoveryStep s s')
    (h : recoveryTickets.gone x s) : recoveryTickets.gone x s' := by
  obtain ⟨k,a,ha,hx,hstarted⟩ := h
  obtain ⟨a',ha',hkept⟩ := hstep.attempts k a ha
  exact ⟨k,a',ha',hkept.executionId ▸ hx,hkept.started hstarted⟩

section Instances
variable {α : Type}

instance (p : AgentProg α) [hp : Reads p] : Unrecovering p :=
  ⟨hp.asks.weaken fun q hq => by cases q <;> simp_all [Tickets.marked,recoveryTickets,AgentQuery.notable]⟩

instance (tag : String) : Unrecovering (newId tag) :=
  ⟨Prog.asks_ask (by simp [Tickets.marked,recoveryTickets])⟩

instance (driver : AgentProvider) (session : AgentSession) : Unrecovering (ask (.inspect driver session)) :=
  ⟨Prog.asks_ask (by simp [Tickets.marked,recoveryTickets])⟩

instance (driver : AgentProvider) (session : AgentSession) : Unrecovering (inspected driver session) := by
  unfold inspected
  infer_instance

instance (driver : AgentProvider) (session : AgentSession) : recoveryDiscipline.Sound (inspected driver session) := by
  unfold inspected
  infer_instance

instance (execution : FailoverExecution) (operation : AgentOperationReservation) (ref : Option String) :
    Unrecovering (finalizeFailoverRecovery execution operation ref) := by
  unfold finalizeFailoverRecovery
  infer_instance

end Instances

/-- The records of a recovery are as they were. -/
structure RecoveryKept (s s' : AgentStore) : Prop where
  operations : s'.operations = s.operations
  executions : s'.executions = s.executions
  attempts : s'.attempts = s.attempts
  outcomes : s'.outcomes = s.outcomes

instance : Admits recoveryDiscipline RecoveryKept where
  admits _ _ hs h := RecoveryOk.commit hs h.operations (h.executions ▸ executionsUnmoved _)
    (h.attempts ▸ .refl AttemptKept.refl _) (h.attempts ▸ hs.attempts) (h.attempts ▸ hs.oneAttempt)
    (h.outcomes ▸ .refl (fun _ => rfl) _) (h.outcomes ▸ hs.oneOutcome)

instance {α : Type} (kind : ErrorKind) (as : String → AgentError) (p : AgentProg α) [Unrecovering p] :
    Unrecovering (reraise kind as p) := by
  unfold reraise
  infer_instance

instance (result : AgentDispatchResult) (outcome : AgentRecoveryOutcome) (attemptId : String) (at_ : Timestamp) :
    Unrecovering (recordAgentRecoveryResultBundle result outcome attemptId at_) := ⟨Prog.asks_transaction⟩

instance (r : AgentDispatchResult) : Tx.Keeps RecoveryKept (resultTable.insert r) := keeps_of_ok fun s a s' h => by
  obtain ⟨-,-,-,rfl⟩ := insert_cases resultTable h
  exact ⟨rfl,rfl,rfl,rfl⟩

instance (r : AgentDispatchResult) : Tx.Keeps RecoveryKept (resultTable.update r) := keeps_of_ok fun s a s' h => by
  rcases update_cases resultTable h with ⟨-,rfl⟩ | ⟨-,-,rfl⟩ <;> exact ⟨rfl,rfl,rfl,rfl⟩

instance (r : AgentDispatchResult) : recoveryDiscipline.Sound (saveAgentDispatchResult r) := by
  unfold saveAgentDispatchResult saveAgentRecord
  refine @bind_sound _ _ _ _ _ _ _ _ _ _ _ _ _ fun o => ?_
  cases o <;> infer_instance

/-- The execution a call works from. -/
def ExecutionCopy (u : AgentStore) (e : FailoverExecution) : Prop :=
  ∃ row, u.executions.get? e.id = some row ∧ SameExecution e row

theorem ExecutionCopy.after {u s : AgentStore} {e : FailoverExecution} (h : ExecutionCopy u e)
    (hs : recoveryDiscipline.After u s) : ExecutionCopy s e := by
  have hkept : RowsKept SameExecution u.executions s.executions := by
    refine hs.lift (L := fun s s' => RowsKept SameExecution s.executions s'.executions)
      (fun _ => .refl SameExecution.refl _) ?_ fun _ _ _ h => RecoveryStep.executions h
    intro a b c h₁ h₂
    exact RowsKept.trans SameExecution.trans h₁ h₂
  obtain ⟨row,hrow,hsame⟩ := h
  obtain ⟨row',hrow',hsame'⟩ := hkept _ row hrow
  exact ⟨row',hrow',hsame.trans hsame'⟩

theorem attempts_after {u s : AgentStore} (hs : recoveryDiscipline.After u s) :
    RowsKept AttemptKept u.attempts s.attempts := by
  refine hs.lift (L := fun s s' => RowsKept AttemptKept s.attempts s'.attempts)
    (fun _ => .refl AttemptKept.refl _) ?_ fun _ _ _ h => RecoveryStep.attempts h
  intro a b c h₁ h₂
  exact RowsKept.trans AttemptKept.trans h₁ h₂

/-- The reservation is the fence of the execution. -/
structure FenceFor (operation : AgentOperationReservation) (e : FailoverExecution) : Prop where
  instanceId : operation.instanceId = e.instanceId
  generation : operation.generation = e.operationGeneration
  ownerToken : operation.ownerToken = some e.operationOwnerRef

section Programs
variable (cfg : Config) {execution : FailoverExecution} {operation : AgentOperationReservation} {u : AgentStore}

theorem from_finalizeFailoverRecovery (ref : Option String) (hcopy : ExecutionCopy u execution)
    (hfence : FenceFor operation execution) : RecoveryFrom (finalizeFailoverRecovery execution operation ref) u := by
  unfold finalizeFailoverRecovery
  refine from_sound_bind fun a u₁ h₁ => from_sound_bind fun b u₂ h₂ => from_sound_bind fun c u₃ h₃ => ?_
  refine from_transaction fun s hs hok r s' hrun _ => ?_
  obtain ⟨row,hrow,hsame⟩ := hcopy.after (h₁.trans (h₂.trans (h₃.trans hs)))
  have hrow' : ∀ e, s.executions.get? execution.id = some e → SameExecution execution e := by
    intro e he
    rw [hrow] at he
    cases he
    exact hsame
  obtain ⟨hstep,hok'⟩ := commit_finalizeRecoveryTx hok hrow' hfence.1 hfence.2 hfence.3 hrun
  exact ⟨hstep,hok',trivial⟩

theorem from_resumeOutcome (session : AgentSession) (attempt : AgentRecoveryAttempt) (outcome : AgentRecoveryOutcome)
    (hcopy : ExecutionCopy u execution) (hfence : FenceFor operation execution) :
    RecoveryFrom (resumeOutcome cfg execution session operation attempt outcome) u := by
  unfold resumeOutcome loadAgentDispatchResult
  refine from_sound_bind fun raw u₁ h₁ => from_sound_bind fun _ u₂ h₂ => from_sound_bind fun provider u₃ h₃ => ?_
  refine from_require_bind fun _ => from_finalizeFailoverRecovery _ (hcopy.after ?_) hfence
  exact h₁.trans (h₂.trans h₃)

instance (session : AgentSession) (attempt : AgentRecoveryAttempt) (outcome : AgentRecoveryOutcome) :
    Unrecovering (resumeOutcome cfg execution session operation attempt outcome) := by
  unfold resumeOutcome loadAgentDispatchResult
  infer_instance

/-- The attempt a call works from, under the id it is stored with. -/
structure AttemptCopy (u : AgentStore) (a : AgentRecoveryAttempt) (x : String) : Prop where
  row : ∃ row, u.attempts.get? a.id = some row ∧ row.executionId = x

theorem AttemptCopy.after {s : AgentStore} {a : AgentRecoveryAttempt} {x : String} (h : AttemptCopy u a x)
    (hs : recoveryDiscipline.After u s) : AttemptCopy s a x := by
  obtain ⟨row,hrow,hx⟩ := h.row
  obtain ⟨row',hrow',hkept⟩ := attempts_after hs _ row hrow
  exact ⟨row',hrow',hkept.executionId ▸ hx⟩

theorem issues_start {s s' : AgentStore} {id x : String} {a updated : AgentRecoveryAttempt} (hs : RecoveryOk s)
    (hs' : s' = { s with attempts := s.attempts.set id updated }) (hrow : s.attempts.get? id = some a)
    (hpending : a.state = .pending) (hx : a.executionId = x) (hupdated : updated.executionId = x)
    (hstarted : updated.state ≠ .pending) : recoveryTickets.Issues x s s' := by
  constructor
  · rintro ⟨k,b,hb,hbx,hne⟩
    obtain rfl : k = id := hs.oneAttempt k id b a hb hrow (hbx.trans hx.symm)
    rw [hrow] at hb
    cases hb
    exact hne hpending
  · refine ⟨id,updated,?_,hupdated,hstarted⟩
    rw [hs']
    simp

theorem pays_transitionAttempt {attempt : AgentRecoveryAttempt} {x : String} {own : String → Prop} (at_ : Timestamp)
    (hcopy : AttemptCopy u attempt x) :
    RecoveryPays (fun own' _ _ => own' x) own
      (transitionAgentRecoveryAttempt attempt.id .pending .externalStarted at_) u := by
  unfold transitionAgentRecoveryAttempt loadAgentRecoveryAttempt
  have hload : recoveryDiscipline.From (fun a s => s.attempts.get? attempt.id = some a ∧ a.executionId = x)
      (loadAgentRecord attemptTable attempt.id : AgentProg _) u := by
    refine from_read_bind fun s hs _ => (from_orRaise _ _).mono ?_
    rintro a s₁ - ⟨rfl,ha⟩
    obtain ⟨row,hrow,hx⟩ := (hcopy.after hs).row
    have ha' : s₁.attempts.get? attempt.id = some a := ha
    rw [hrow] at ha'
    cases ha'
    exact ⟨hrow,hx⟩
  refine pays_from_bind hload ?_
  rintro current u₁ own₁ - ⟨hcurrent,hx⟩ -
  refine pays_require_bind fun hpending => ?_
  dsimp only
  refine pays_bind (pays_transaction fun s hs hok a s' hrun _ => ?_) fun own' _ u' _ h => h
  obtain ⟨row,hrow,hkept⟩ := attempts_after hs _ current hcurrent
  have hsame : ∀ b, s.attempts.get? attempt.id = some b →
      AttemptKept b { current with state := .externalStarted, updatedAt := at_ } := by
    intro b hb
    rw [hrow] at hb
    cases hb
    exact ⟨hkept.id.symm,hkept.executionId.symm,fun _ => by simp⟩
  obtain ⟨hcommit,b,hb,hbpending,hs'⟩ := commit_updateAgentRecoveryAttempt hok hsame hrun
  obtain rfl : b = row := Option.some.inj (hb.symm.trans hrow)
  exact ⟨hcommit,.inr (issues_start hok hs' hrow hbpending (hkept.executionId ▸ hx) hx (by simp))⟩

theorem pays_recoveryAnswer (driver : AgentProvider) (session : AgentSession) {attempt : AgentRecoveryAttempt}
    {own : String → Prop} (hcopy : AttemptCopy u attempt execution.id) :
    RecoveryPays (fun _ _ _ => True) own (recoveryAnswer cfg driver execution session attempt) u := by
  unfold recoveryAnswer
  split
  · refine pays_sound_bind fun startedAt u₁ own₁ h₁ _ => ?_
    refine pays_bind (pays_transitionAttempt startedAt (hcopy.after h₁)) fun own₂ started u₂ _ hown => ?_
    refine pays_sound_bind fun requestedAt u₃ own₃ _ h₃ => ?_
    dsimp only
    refine pays_sound_bind fun _ u₄ own₄ _ h₄ => pays_sound_bind fun _ u₅ own₅ _ h₅ => ?_
    have hticket : own₅ execution.id := h₅ _ (h₄ _ (h₃ _ hown))
    refine pays_ask_bind (fun c hc => ?_) fun answer => pays_orRaise_bind fun result _ => trivial
    obtain rfl : execution.id = c := Option.some.inj hc
    exact hticket
  · exact pays_sound_bind fun result u₁ own₁ _ _ => trivial

theorem from_recordBundle {result : AgentDispatchResult} {outcome : AgentRecoveryOutcome} {attemptId : String}
    {at_ : Timestamp} (hattempt : outcome.attemptId = attemptId) :
    RecoveryFrom (reraise .value handoffError (recordAgentRecoveryResultBundle result outcome attemptId at_)) u := by
  refine from_rescue (from_transaction (t := (recordAgentRecoveryResultBundle result outcome attemptId at_ :
    AgentTx Unit)) fun s _ hok _ s' hrun _ => ?_) fun e u' _ => ?_
  · obtain ⟨hstep,hok'⟩ := commit_recordBundle hok hattempt hrun
    exact ⟨hstep,hok',trivial⟩
  · split <;> trivial

theorem pays_recordRecovery (driver : AgentProvider) (session : AgentSession) {attempt : AgentRecoveryAttempt}
    {own : String → Prop} (hattempt : AttemptCopy u attempt execution.id) (hcopy : ExecutionCopy u execution)
    (hfence : FenceFor operation execution) :
    RecoveryPays (fun _ _ _ => True) own (recordRecovery cfg driver execution session operation attempt) u := by
  unfold recordRecovery
  refine pays_bind (pays_recoveryAnswer cfg driver session hattempt) ?_
  rintro own₁ ⟨result,expected⟩ u₁ h₁ -
  refine pays_sound_bind fun _ u₂ own₂ h₂ _ => pays_sound_bind fun provider u₃ own₃ h₃ _ => ?_
  refine pays_sound_bind fun id u₄ own₄ h₄ _ => pays_sound_bind fun recordedAt u₅ own₅ h₅ _ => ?_
  dsimp only
  refine pays_sound_bind fun _ u₆ own₆ h₆ _ => pays_sound_bind fun bundledAt u₇ own₇ h₇ _ => ?_
  refine pays_from_bind (from_recordBundle rfl) fun _ u₈ own₈ h₈ _ _ => ?_
  refine pays_last (from_finalizeFailoverRecovery _ (hcopy.after ?_) hfence)
  exact h₁.trans (h₂.trans (h₃.trans (h₄.trans (h₅.trans (h₆.trans (h₇.trans h₈))))))


theorem from_attemptFor (x : String) : recoveryDiscipline.From (fun found u' => ∀ a, found = some a → AttemptCopy u' a x)
    (recoveryAttemptForExecution x) u := by
  unfold recoveryAttemptForExecution
  refine from_read_bind fun s hs hok => from_require_bind fun _ => from_pure fun a ha => ?_
  obtain ⟨k,hk,hx⟩ := attempt_found ha
  exact ⟨a,by rw [RecoveryOk.attempts hok k a hk]; exact hk,hx⟩

/-- What a claim returns: the claimed execution and its attempt, both stored. -/
def Claimed (operation : AgentOperationReservation) (r : FailoverExecution × AgentRecoveryAttempt) (u : AgentStore) :
    Prop := ExecutionCopy u r.1 ∧ FenceFor operation r.1 ∧ AttemptCopy u r.2 r.1.id

instance (x : String) (attempt : AgentRecoveryAttempt) (at_ : Timestamp) :
    Unrecovering (claimFailoverRecovery x attempt at_) := ⟨Prog.asks_transaction⟩

instance (execution : FailoverExecution) (session : AgentSession) :
    Unrecovering (claimRecovery cfg execution session) := by
  unfold claimRecovery
  dsimp only
  infer_instance

theorem from_claimFailoverRecovery {attempt : AgentRecoveryAttempt} {at_ : Timestamp} (hcopy : ExecutionCopy u execution)
    (hfence : FenceFor operation execution) (hx : attempt.executionId = execution.id) :
    recoveryDiscipline.From (fun claimed u' => Claimed operation (claimed,attempt) u')
      (claimFailoverRecovery execution.id attempt at_) u := by
  refine from_transaction (t := (claimFailoverRecovery execution.id attempt at_ : AgentTx _))
    fun s hs hok claimed s' hrun _ => ?_
  obtain ⟨⟨hstep,hok'⟩,⟨current,hcurrent,hsame⟩,hclaimed,hattempt⟩ := commit_claimFailoverRecovery hok hx hrun
  obtain ⟨row,hrow,hexec⟩ := hcopy.after hs
  obtain rfl : row = current := Option.some.inj (hrow.symm.trans hcurrent)
  have hboth : SameExecution execution claimed := hexec.trans hsame
  refine ⟨hstep,hok',⟨claimed,?_,.refl claimed⟩,?_,attempt,hattempt,hx.trans hboth.id⟩
  · rw [← hboth.id]
    exact hclaimed
  · exact ⟨hfence.1.trans hboth.instanceId,hfence.2.trans hboth.operationGeneration,
      hfence.3.trans (congrArg some hboth.operationOwnerRef)⟩

theorem from_claimRecovery (session : AgentSession) (hcopy : ExecutionCopy u execution)
    (hfence : FenceFor operation execution) :
    recoveryDiscipline.From (Claimed operation) (claimRecovery cfg execution session) u := by
  unfold claimRecovery
  refine from_sound_bind fun id u₁ h₁ => from_sound_bind fun createdAt u₂ h₂ => from_sound_bind fun updatedAt u₃ h₃ => ?_
  dsimp only
  refine from_sound_bind fun _ u₄ h₄ => from_sound_bind fun _ u₅ h₅ => from_sound_bind fun claimedAt u₆ h₆ => ?_
  have hcopy' := hcopy.after (h₁.trans (h₂.trans (h₃.trans (h₄.trans (h₅.trans h₆)))))
  refine from_bind (from_rescue (from_claimFailoverRecovery hcopy' hfence rfl) fun e u' _ => ?_) fun claimed u₇ _ h => h
  split <;> trivial

theorem pays_recoverWithDriver (driver : AgentProvider) (session : AgentSession) {own : String → Prop}
    (hcopy : ExecutionCopy u execution) (hfence : FenceFor operation execution) :
    RecoveryPays (fun _ _ _ => True) own (recoverWithDriver cfg driver execution session operation) u := by
  unfold recoverWithDriver
  have hlast : ∀ r u' own' f, Claimed operation r u' → f none = recordRecovery cfg driver r.1 session operation r.2 →
      (∀ outcome, f (some outcome) = resumeOutcome cfg r.1 session operation r.2 outcome) →
      RecoveryPays (fun _ _ _ => True) own' (recoveryOutcomeForAttempt r.2.id >>= f) u' := by
    rintro r u' own' f ⟨hcopy,hfence,hattempt⟩ hnone hsome
    refine pays_sound_bind fun o u₁ own₁ h₁ _ => ?_
    cases o with
    | some outcome =>
      have hresume := from_resumeOutcome cfg session r.2 outcome (hcopy.after h₁) hfence
      rw [hsome]
      exact pays_last hresume
    | none =>
      rw [hnone]
      exact pays_recordRecovery cfg driver session (hattempt.after h₁) (hcopy.after h₁) hfence
  split
  · refine pays_sound_bind fun result u₁ own₁ h₁ _ => pays_sound_bind fun _ u₂ own₂ h₂ _ => ?_
    refine pays_sound_bind fun _ u₃ own₃ h₃ _ => ?_
    exact pays_last (from_finalizeFailoverRecovery _ (hcopy.after (h₁.trans (h₂.trans h₃))) hfence)
  · refine pays_from_bind (from_attemptFor execution.id) fun found u₁ own₁ h₁ hfound _ => ?_
    dsimp only
    split
    · refine pays_require_bind fun _ => ?_
      exact pays_from_bind (from_claimRecovery cfg session (hcopy.after h₁) hfence) fun r u₂ own₂ _ h _ =>
        hlast r u₂ own₂ _ h rfl fun _ => rfl
    · refine pays_orRaise_bind fun attempt hattempt => ?_
      exact hlast (execution,attempt) u₁ own₁ _ ⟨hcopy.after h₁,hfence,hfound attempt hattempt⟩ rfl fun _ => rfl

/-- A recovery keeps the records and calls the provider only with the right to. -/
theorem pays_recoverFailoverExecution (executionId by_ approvalId : String) {own : String → Prop} :
    RecoveryPays (fun _ _ _ => True) own (recoverFailoverExecution cfg executionId by_ approvalId) u := by
  unfold recoverFailoverExecution loadFailoverExecution
  refine pays_require_bind fun _ => ?_
  have hload : recoveryDiscipline.From (fun e s => s.executions.get? executionId = some e ∧ e.id = executionId)
      (loadAgentRecord executionTable executionId : AgentProg _) u := by
    refine from_read_bind fun s _ hok => (from_orRaise _ _).mono ?_
    rintro e s₁ - ⟨rfl,he⟩
    exact ⟨he,RecoveryOk.executions hok _ e he⟩
  refine pays_from_bind hload ?_
  rintro execution u₁ own₁ - ⟨hrow,rfl⟩ -
  have hcopy : ExecutionCopy u₁ execution := ⟨execution,hrow,.refl execution⟩
  refine pays_require_bind fun _ => pays_sound_bind fun _ u₂ own₂ h₂ _ => ?_
  have hop : recoveryDiscipline.From (fun o _ => o.instanceId = execution.instanceId)
      (loadAgentOperation execution.instanceId : AgentProg _) u₂ := by
    refine from_read_bind fun s _ hok => (from_bind (from_orRaise _ _) ?_)
    rintro row s₁ - ⟨rfl,hop⟩
    exact from_pure (RecoveryOk.fence hok _ row hop).instanceId
  refine pays_from_bind hop fun operation u₃ own₃ h₃ hx _ => pays_require_bind fun hbound => ?_
  have hfence : FenceFor operation execution := ⟨hx,hbound.1,hbound.2.1⟩
  refine pays_sound_bind fun _ u₄ own₄ h₄ _ => pays_require_bind fun _ => ?_
  refine pays_sound_bind fun outgoing u₅ own₅ h₅ _ => pays_sound_bind fun opened u₆ own₆ h₆ _ => ?_
  refine pays_require_bind fun _ => ?_
  have h₁₆ := h₂.trans (h₃.trans (h₄.trans (h₅.trans h₆)))
  split
  · exact pays_last (from_finalizeFailoverRecovery _ (hcopy.after h₁₆) hfence)
  · refine pays_sound_bind fun stored u₇ own₇ h₇ _ => ?_
    dsimp only
    refine pays_sound_bind fun driver u₈ own₈ h₈ _ => ?_
    exact pays_recoverWithDriver cfg driver _ (hcopy.after (h₁₆.trans (h₇.trans h₈))) hfence

end Programs

theorem recoverySystem_pays {p : AgentProg Unit} (hp : recoverySystem.start p) (u : AgentStore) :
    RecoveryPays (fun _ _ _ => True) (fun _ => False) p u := by
  obtain ⟨cfg,c,hc,rfl⟩ := hp
  cases c with
  | recoverFailoverExecution executionId by_ approvalId =>
    exact pays_bind (pays_recoverFailoverExecution cfg executionId by_ approvalId) fun _ _ _ _ _ => trivial
  | _ => cases hc

/-! ### Whole runs -/

/-- How often a driver was called to recover the execution. -/
def recoverCalls (log : List (ℕ × Σ q, Answer q)) (executionId : String) : ℕ := recoveryTickets.put log executionId

/-- The attempts two states have for one execution are one, and so are its outcomes. -/
def OneRecovery (s s' : AgentStore) : Prop := ∀ k k' a a', s.attempts.get? k = some a → s'.attempts.get? k' = some a' →
  a.executionId = a'.executionId → k = k' ∧ ∀ l l' o o', s.outcomes.get? l = some o → s'.outcomes.get? l' = some o' →
    o.attemptId = a.id → o'.attemptId = a'.id → o = o'

theorem oneRecovery_symm : Std.Symm OneRecovery := by
  refine ⟨fun s s' h k k' a a' ha ha' hx => ?_⟩
  obtain ⟨hk,ho⟩ := h k' k a' a ha' ha hx.symm
  exact ⟨hk.symm,fun l l' o o' hl hl' hid hid' => (ho l' l o' o hl' hl hid' hid).symm⟩

theorem oneRecovery_of_kept {s s' : AgentStore} (hs' : RecoveryOk s') (hattempts : RowsKept AttemptKept s.attempts s'.attempts)
    (houtcomes : RowsKept Eq s.outcomes s'.outcomes) : OneRecovery s s' := by
  intro k k' a a' ha ha' hx
  obtain ⟨b,hb,hkept⟩ := hattempts k a ha
  have hk : k = k' := hs'.oneAttempt k k' b a' hb ha' (hkept.executionId.symm.trans hx)
  refine ⟨hk,fun l l' o o' hl hl' hid hid' => ?_⟩
  obtain ⟨o₁,ho₁,rfl⟩ := houtcomes l o hl
  have hsame : b = a' := Option.some.inj (hb.symm.trans (hk ▸ ha'))
  have hll : l = l' := hs'.oneOutcome l l' o o' ho₁ hl' (by rw [hid,hid',hkept.id,hsame])
  rw [hll,hl'] at ho₁
  exact (Option.some.inj ho₁).symm

theorem oneRecovery_history {history : List AgentStore} (hok : ∀ s ∈ history, RecoveryOk s)
    (hchain : List.IsChain (fun s' s => RecoveryStep s s') history) :
    ∀ s ∈ history, ∀ s' ∈ history, OneRecovery s s' := by
  have hattempts : history.Pairwise fun s' s => RowsKept AttemptKept s.attempts s'.attempts :=
    World.pairwise_of_chain hchain (fun _ _ h => h.attempts) fun _ _ _ => .trans AttemptKept.trans
  have houtcomes : history.Pairwise fun s' s => RowsKept Eq s.outcomes s'.outcomes :=
    World.pairwise_of_chain hchain (fun _ _ h => h.outcomes) fun _ _ _ => .trans Eq.trans
  have hpair : history.Pairwise fun s' s => RecoveryOk s' → OneRecovery s' s := by
    refine (hattempts.and houtcomes).imp fun {s' s} h hs' => ?_
    exact oneRecovery_symm.symm _ _ (oneRecovery_of_kept hs' h.1 h.2)
  have hone : history.Pairwise OneRecovery := hpair.imp_of_mem fun hs' _ h => h (hok _ hs')
  have := oneRecovery_symm
  intro s hs s' hs'
  refine hone.forall_of_forall (fun s hs => ?_) hs hs'
  exact oneRecovery_of_kept (hok s hs) (.refl AttemptKept.refl _) (.refl (fun _ => rfl) _)

/-- Crash-safe recovery, over every interleaving of recoveries cut at any point. A provider
is called to recover an execution at most once; over the whole run an execution has one
attempt and one outcome; and it becomes recovered in the commit that releases its fence. -/
theorem recovery_at_most_once {s₀ : AgentStore} {w : ManagerWorld} (h₀ : RecoveryOk s₀)
    (h : World.Reachable recoverySystem (World.init s₀) w) :
    (∀ executionId, recoverCalls w.trace.log executionId ≤ 1) ∧
    (∀ s ∈ w.trace.history, ∀ s' ∈ w.trace.history, ∀ k k' a a', s.attempts.get? k = some a →
      s'.attempts.get? k' = some a' → a.executionId = a'.executionId → k = k' ∧
      ∀ l l' o o', s.outcomes.get? l = some o → s'.outcomes.get? l' = some o' → o.attemptId = a.id →
        o'.attemptId = a'.id → o = o') ∧
    List.IsChain (fun s' s => ∀ k e e', s.executions.get? k = some e → s'.executions.get? k = some e' →
      (Fenced s e → ((e.state ≠ .recovered ∧ e'.state = .recovered) ↔ ¬ Fenced s' e)) ∧
      (e.state ≠ .recovered → e'.state = .recovered → Fenced s e)) w.trace.history := by
  have hsound : ∀ p, recoverySystem.start p → recoveryDiscipline.Sound p :=
    fun p hp => ⟨fun u => (recoverySystem_pays hp u).disciplined⟩
  obtain ⟨hok,hchain⟩ := World.Reachable.disciplined recoveryDiscipline hsound h₀ h
  refine ⟨fun x => ?_,?_,?_⟩
  · exact (World.Reachable.tickets (T := recoveryTickets) (fun p hp u => recoverySystem_pays hp u)
      (fun _ _ _ _ => recoveryTickets_gone) h₀ h x).1
  · exact oneRecovery_history hok hchain
  · refine hchain.imp fun s' s hstep k e e' he he' => ?_
    exact ⟨hstep.together k e e' he he',hstep.recovered k e e' he he'⟩

/-! ### Two managers and one execution -/

def blockedExecution : FailoverExecution where
  id := "execution.1"
  decisionId := "decision.1"
  instanceId := "dock"
  outgoingEpochId := "epoch.1"
  outgoingSessionId := "session.1"
  outgoingProviderId := "codex"
  checkpointId := "checkpoint.1"
  operationGeneration := 1
  operationOwnerRef := "operation.1"
  state := .blockedPreimport
  createdAt := 2
  updatedAt := 2

def recoveryStore : AgentStore := { dockStore with
  operations := Dict.empty.set "dock" ⟨1,.fenced,some "operation.1",⟨"dock",1,.fenced,some "operation.1",2⟩⟩
  executions := Dict.empty.set "execution.1" blockedExecution }

theorem recoveryStore_ok : RecoveryOk recoveryStore where
  fence := FenceOk.put (s := dockStore) (o := ⟨"dock",1,.fenced,some "operation.1",2⟩)
    (fun x row hx => by simp [dockStore] at hx) (by simp)
  executions := (Dict.Filed.empty FailoverExecution.id).set blockedExecution
  fences k k' e e' he he' _ := by
    simp only [recoveryStore,Dict.get?_set,Dict.get?_empty] at he he'
    split at he <;> split at he'
    · next hk hk' => exact hk.trans hk'.symm
    all_goals simp_all
  attempts := Dict.Filed.empty _
  oneAttempt k k' a a' ha := by simp [recoveryStore,dockStore] at ha
  oneOutcome k k' o o' ho := by simp [recoveryStore,dockStore] at ho

/-- The outgoing provider can be inspected but does not answer a recovery. -/
def recoveryAnswers (now : Timestamp) (suffix : String) : (q : AgentQuery) → Answer q
  | .inspect _ _ => some { id := "inspect." ++ suffix, requestId := "inspect", instanceId := "dock"
                           sessionId := "session.1", driverEpochId := "epoch.1", providerId := "codex"
                           state := .running }
  | q => plainAnswers now suffix q

def recoveryCall : ManagerCall := .recoverFailoverExecution "execution.1" "operator" "approval.1"

/-- The first manager has started the attempt and is about to call the provider; the second
finds it started, inspects and finalizes; then the first makes its call. -/
def recoveryRace : List (Move AgentStore Held Answer AgentError Unit) :=
  [.start (recoveryCall.program dockConfig)] ++ World.steps 0 19 (recoveryAnswers 3 "a") ++
  [.start (recoveryCall.program dockConfig)] ++ World.steps 1 19 (recoveryAnswers 4 "b") ++
  World.steps 0 1 (recoveryAnswers 5 "c")

theorem recovery_at_most_once_race : ∃ w : ManagerWorld,
    (w.trace.store.executions.get? "execution.1").map (·.state) = some .recovered ∧
    w.trace.log.any (fun e => recoveryTickets.needs e.2.1 = some "execution.1") = true ∧
    ∀ executionId, recoverCalls w.trace.log executionId ≤ 1 := by
  have hcall : ∀ mv ∈ [Move.start (recoveryCall.program dockConfig)], mv.Allowed recoverySystem :=
    World.allowed_start recoverySystem ⟨dockConfig,recoveryCall,trivial,rfl⟩
  have hallowed : ∀ mv ∈ recoveryRace, mv.Allowed recoverySystem := by
    simp only [recoveryRace,List.forall_mem_append]
    exact ⟨⟨⟨⟨hcall,World.allowed_steps _ _ _⟩,hcall⟩,World.allowed_steps _ _ _⟩,World.allowed_steps _ _ _⟩
  have hplay : ((World.init recoveryStore).play validAnswer idsFresh recoveryRace).any (fun w =>
      decide ((w.trace.store.executions.get? "execution.1").map (·.state) = some .recovered) &&
      w.trace.log.any (fun e => recoveryTickets.needs e.2.1 = some "execution.1")) = true := by decide +kernel
  obtain ⟨w,hw,hc⟩ := World.exists_reachable _ _ _ (fun _ _ _ h => h) freshIds_of_idsFresh hallowed hplay
  simp only [Bool.and_eq_true] at hc
  exact ⟨w,of_decide_eq_true hc.1,hc.2,(recovery_at_most_once recoveryStore_ok hw).1⟩

end Overseer.Agent
