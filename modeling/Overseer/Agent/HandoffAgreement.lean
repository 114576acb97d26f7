import Overseer.Agent.HandoffGuarantees

/-! # Agreement on the end of a handoff

Completions, reconciliations and rollbacks of one handoff race for its transition. While
every commit finds the epochs it worked from as open or as closed as they were loaded, the
epochs agree with the transition: a completed handoff runs the incoming epoch and has
closed the outgoing one, a rolled back one the other way round.
-/
namespace Overseer.Agent
open Overseer.Library
open Discipline

/-- The records one handoff is about. -/
structure HandoffIdentity where
  instanceId : String
  handoffId : String
  outgoingId : String
  incomingId : String
  distinct : outgoingId ≠ incomingId

variable (H : HandoffIdentity)

structure HandoffIdentity.NamedBy (p : AgentHandoffPackage) : Prop where
  id : p.id = H.handoffId
  instanceId : p.instanceId = H.instanceId
  outgoingEpochId : p.outgoingEpochId = H.outgoingId
  incomingEpochId : p.incomingEpochId = some H.incomingId

structure HandoffIdentity.MovedBy (t : AgentInstanceTransition) : Prop where
  instanceId : t.instanceId = H.instanceId
  handoffId : t.handoffId = H.handoffId
  outgoingEpochId : t.outgoingEpochId = H.outgoingId
  incomingEpochId : t.incomingEpochId = H.incomingId

/-- What the state of the transition says of the two epochs. -/
def HandoffIdentity.Settles (outgoing incoming : DriverEpoch) : AgentTransitionState → Prop
  | .importAcknowledged => incoming.closedAt = none
  | .completed => (incoming.closedAt = none ∧ incoming.state = .running) ∧
      outgoing.closedAt ≠ none ∧ outgoing.replacementEpochId = some H.incomingId
  | .rolledBack => incoming.closedAt ≠ none ∧ outgoing.closedAt = none ∧ outgoing.state = .running
  | _ => True

structure AgreementOk (s : AgentStore) : Prop where
  epochs : Dict.Filed DriverEpoch.id s.epochs
  package : ∀ p, s.handoffs.get? H.handoffId = some p → H.NamedBy p
  transition : ∀ t, s.transitions.get? H.instanceId = some t → H.MovedBy t
  settled : ∃ outgoing incoming, s.epochs.get? H.outgoingId = some outgoing ∧
    s.epochs.get? H.incomingId = some incoming ∧
    ∀ t, s.transitions.get? H.instanceId = some t → H.Settles outgoing incoming t.state

/-- The copies of epochs a commit works from are as open or as closed as their rows. -/
def Held.Current (held : Held) (s : AgentStore) : Prop :=
  ∀ e ∈ held.epochs ++ held.otherEpochs, ∀ row, s.epochs.get? e.id = some row →
    (row.closedAt = none ↔ e.closedAt = none)

/-- The calls on one handoff. A completion works from a copy of the package and of the
incoming epoch, which its caller has created or found open. -/
inductive HandoffCall : AgentProg DriverEpoch → Prop where
  | complete (cfg : Config) {p : AgentHandoffPackage} {outgoing incoming : DriverEpoch}
      (result : AgentDispatchResult) (invalid : InvalidState) (hp : H.NamedBy p)
      (hid : incoming.id = H.incomingId) (hopen : incoming.closedAt = none) :
      HandoffCall (completeHandoff cfg p outgoing incoming result invalid)
  | reconcile (cfg : Config) (result : Option AgentDispatchResult) (by_ : String) :
      HandoffCall (reconcileHandoff cfg H.handoffId result by_)
  | rollback (cfg : Config) (by_ : String) : HandoffCall (rollbackHandoff cfg H.handoffId by_)

/-- Any number of managers make calls on the handoff. -/
def agreementSystem (guard : AgentStore → Held → AgentStore → Prop) :
    System AgentStore Held Answer AgentError Unit where
  start p := ∃ q, HandoffCall H q ∧ p = dropResult q
  valid t q a := validAnswer t q a = true
  guard := guard

def CurrentCopies (s : AgentStore) (held : Held) (s' : AgentStore) : Prop := s' ≠ s → held.Current s

def agreementDiscipline : Discipline AgentStore Held Answer AgentError Unit where
  sys := agreementSystem H CurrentCopies
  ok := AgreementOk H
  step s s' := Grew s.results s'.results
  idle _ := .refl _

variable {H} {s s' u : AgentStore} {p p' : AgentHandoffPackage}

theorem HandoffIdentity.NamedBy.same (h : H.NamedBy p) (hsame : SamePackage p p') : H.NamedBy p' :=
  ⟨hsame.id.symm.trans h.id,hsame.instanceId.symm.trans h.instanceId,hsame.outgoingEpochId.symm.trans h.outgoingEpochId,
    hsame.incomingEpochId.symm.trans h.incomingEpochId⟩

instance : Tolerant (agreementDiscipline H) where
  untouched s s' (hs : AgreementOk H s) h := by
    refine ⟨h.results,?_⟩
    exact ⟨h.epochs ▸ hs.epochs,h.handoffs ▸ hs.package,h.transitions ▸ hs.transition,
      h.epochs ▸ h.transitions ▸ hs.settled⟩
  results _ _ _ h := h

/-! ### The commits -/

/-- The records after a commit that writes a package of the handoff and moves its transition. -/
theorem AgreementOk.moved (hs : AgreementOk H s) (hp : H.NamedBy p) (hh : s'.handoffs = s.handoffs.set p.id p)
    {t : AgentInstanceTransition} (hmove : TransitionMoves s t) (hx : t.instanceId = H.instanceId)
    (ht : s'.transitions = s.transitions.set t.instanceId t) (epochs : Dict.Filed DriverEpoch.id s'.epochs)
    (outgoing incoming : DriverEpoch) (hout : s'.epochs.get? H.outgoingId = some outgoing)
    (hin : s'.epochs.get? H.incomingId = some incoming) (hsettles : H.Settles outgoing incoming t.state) :
    AgreementOk H s' := by
  have hrow : s'.transitions.get? H.instanceId = some t := by rw [ht,Dict.get?_set,if_pos hx.symm]
  refine ⟨epochs,fun q hq => ?_,fun t' ht' => ?_,outgoing,incoming,hout,hin,fun t' ht' => ?_⟩
  · rw [hh,Dict.get?_set,if_pos hp.id.symm] at hq
    cases hq
    exact hp
  · rw [hrow] at ht'
    cases ht'
    obtain ⟨current,hcurrent,hid,ho,hi,-⟩ := hmove.row
    have hold := hs.transition current (hx ▸ hcurrent)
    exact ⟨hx,hid.symm.trans hold.handoffId,ho.symm.trans hold.outgoingEpochId,hi.symm.trans hold.incomingEpochId⟩
  · rw [hrow] at ht'
    cases ht'
    exact hsettles

section Commits
variable {held : Held} {cfg : Config} {t : AgentInstanceTransition} {outgoing incoming e : DriverEpoch}
  {result : AgentDispatchResult}

theorem agrees_failHandoffTx {failure : AgentErrorCategory} {invalid : InvalidState} {a b : Timestamp}
    (hs : AgreementOk H s) (hp : H.NamedBy p) (hid : incoming.id = H.incomingId)
    (hrun : failHandoffTx cfg p incoming result failure invalid a b s = .ok (e,s')) :
    Grew s.results s'.results ∧ AgreementOk H s' := by
  obtain ⟨current,p',hp',rfl,hresult,-,-,hrow,hmove,hs'⟩ := (post_failHandoffTx ..).of_ok hrun
  have hcurrent := hs.transition current (hp.instanceId ▸ hrow)
  obtain ⟨outgoing,-,hout,-⟩ := hs.settled
  have hnamed : H.NamedBy p' := hp.same (hp' ▸ samePackage_noted cfg p _ (by simp))
  have hfid : (failedEpoch incoming failure a invalid).id = H.incomingId := by cases invalid <;> exact hid
  subst hs'
  refine ⟨Grew.saveResult hresult,hs.moved hnamed rfl hmove hcurrent.instanceId rfl (hs.epochs.set _)
    outgoing (failedEpoch incoming failure a invalid) ?_ ?_ trivial⟩
  · exact (Dict.get?_set ..).trans ((if_neg fun h => H.distinct (h.trans hfid)).trans hout)
  · exact (Dict.get?_set ..).trans (if_pos hfid.symm)

theorem agrees_persistAcknowledgementTx {external : String} {a b : Timestamp} (hs : AgreementOk H s)
    (hp : H.NamedBy p) (hid : incoming.id = H.incomingId) (hopen : incoming.closedAt = none)
    (hcurrent : Held.Current { otherEpochs := [incoming] } s)
    (hrun : persistAcknowledgementTx cfg p incoming result external a b s = .ok (p',s')) :
    Grew s.results s'.results ∧ AgreementOk H s' := by
  obtain ⟨current,session,rfl,hresult,-,-,-,hrow,hmove,rfl⟩ := (post_persistAcknowledgementTx ..).of_ok hrun
  have hmoved := hs.transition current (hp.instanceId ▸ hrow)
  obtain ⟨out,inc,hout,hin,-⟩ := hs.settled
  have hnow : inc.closedAt = none := (hcurrent incoming (by simp) inc (hid ▸ hin)).mpr hopen
  exact ⟨Grew.saveResult hresult,hs.moved (hp.same (samePackage_noted cfg p _ (by simp))) rfl hmove hmoved.instanceId
    rfl hs.epochs out inc hout hin hnow⟩

theorem agrees_reconcileTx {a : Timestamp} (hs : AgreementOk H s) (hp : H.NamedBy p) (ht : H.MovedBy t)
    (hrun : reconcileTx cfg p t a s = .ok (p',s')) :
    Grew s.results s'.results ∧ AgreementOk H s' ∧ H.NamedBy p' := by
  obtain ⟨hp',-,hmove,rfl⟩ := (post_reconcileTx ..).of_ok hrun
  have hnamed : H.NamedBy p' := hp.same (hp' ▸ samePackage_noted cfg p _ (by simp))
  obtain ⟨out,inc,hout,hin,-⟩ := hs.settled
  exact ⟨.refl _,hs.moved hnamed rfl hmove ht.instanceId rfl hs.epochs out inc hout hin trivial,hnamed⟩

theorem agrees_promoteTx {a b c : Timestamp} (hs : AgreementOk H s) (hp : H.NamedBy p) (ht : H.MovedBy t)
    (hout : outgoing.id = H.outgoingId) (hin : incoming.id = H.incomingId)
    (hcurrent : Held.Current { epochs := [incoming], otherEpochs := [outgoing] } s)
    (hrun : promoteTx cfg p t outgoing incoming a b c s = .ok (e,s')) :
    Grew s.results s'.results ∧ AgreementOk H s' := by
  obtain ⟨row,p',hp',hrunning,-,-,-,hmove,-,rfl⟩ := (post_promoteTx ..).of_ok hrun
  have hnamed : H.NamedBy p' := hp.same (hp' ▸ samePackage_noted cfg p _ (by simp))
  obtain ⟨out,inc,-,hinc,hsettles⟩ := hs.settled
  -- only an acknowledged import can complete, and then the incoming epoch is open
  have hopen : incoming.closedAt = none := by
    obtain ⟨current,hrow,-,-,-,hsucc⟩ := hmove.row
    have hstate : current.state = .importAcknowledged := by
      cases hc : current.state <;> rw [hc] at hsucc <;> simp [AgentTransitionState.successors] at hsucc
    have hnow := hsettles current (ht.instanceId ▸ hrow)
    rw [hstate] at hnow
    exact (hcurrent incoming (by simp) inc (hin ▸ hinc)).mp hnow
  refine ⟨.refl _,hs.moved hnamed rfl hmove ht.instanceId rfl ((hs.epochs.set (closedEpoch outgoing incoming.id a)).set e)
    (closedEpoch outgoing incoming.id a) e ?_ ?_ ⟨⟨?_,?_⟩,?_,?_⟩⟩
  · have hne : H.outgoingId ≠ e.id := by
      rw [hrunning]
      exact fun h => H.distinct (h.trans hin)
    refine (Dict.get?_set ..).trans ((if_neg hne).trans ((Dict.get?_set ..).trans (if_pos hout.symm)))
  · refine (Dict.get?_set ..).trans (if_pos ?_)
    rw [hrunning]
    exact hin.symm
  · rw [hrunning]
    exact hopen
  · rw [hrunning]
  · simp [closedEpoch]
  · simp [closedEpoch,hin]

theorem agrees_rollbackTx {operation : AgentOperationReservation} {a b c : Timestamp} (hs : AgreementOk H s)
    (hp : H.NamedBy p) (ht : H.MovedBy t) (hout : outgoing.id = H.outgoingId) (hin : incoming.id = H.incomingId)
    (hopen : outgoing.closedAt = none) (hheld : incoming.closedAt ≠ none → incoming ∈ held.epochs)
    (hcurrent : held.Current s)
    (hrun : rollbackTx cfg p t outgoing incoming operation a b c s = .ok (e,s')) :
    Grew s.results s'.results ∧ AgreementOk H s' := by
  obtain ⟨s₁,p',hfirst,hp',rfl,-,-,hmove,hs'⟩ := (post_rollbackTx ..).of_ok hrun
  have hnamed : H.NamedBy p' := hp.same (hp' ▸ samePackage_noted cfg p _ (by simp))
  have hresumed : (resumedEpoch outgoing).id = H.outgoingId := hout
  have hne : H.incomingId ≠ (resumedEpoch outgoing).id := fun h => H.distinct (hresumed.symm.trans h.symm)
  rcases hfirst with ⟨-,-,rfl⟩ | ⟨hclosed,rfl⟩
  · subst hs'
    refine ⟨.refl _,hs.moved hnamed rfl ⟨hmove.1⟩ ht.instanceId rfl ((hs.epochs.set (cancelledEpoch incoming a)).set _)
      (resumedEpoch outgoing) (cancelledEpoch incoming a) ?_ ?_ ⟨by simp [cancelledEpoch],hopen,rfl⟩⟩
    · exact (Dict.get?_set ..).trans (if_pos hresumed.symm)
    · exact (Dict.get?_set ..).trans ((if_neg hne).trans ((Dict.get?_set ..).trans (if_pos hin.symm)))
  · subst hs'
    obtain ⟨-,inc,-,hinc,-⟩ := hs.settled
    have hkept : inc.closedAt ≠ none := fun h =>
      hclosed ((hcurrent incoming (List.mem_append_left _ (hheld hclosed)) inc (hin ▸ hinc)).mp h)
    refine ⟨.refl _,hs.moved hnamed rfl hmove ht.instanceId rfl (hs.epochs.set _) (resumedEpoch outgoing) inc ?_ ?_
      ⟨hkept,hopen,rfl⟩⟩
    · exact (Dict.get?_set ..).trans (if_pos hresumed.symm)
    · exact (Dict.get?_set ..).trans ((if_neg hne).trans hinc)

theorem agrees_blockRollbackTx {a : Timestamp} (hs : AgreementOk H s) (hp : H.NamedBy p) (ht : H.MovedBy t)
    (hout : outgoing.id = H.outgoingId) (hin : incoming.id = H.incomingId) (hopen : outgoing.closedAt = none)
    (hcurrent : Held.Current { epochs := [incoming], otherEpochs := [outgoing] } s)
    (hrun : blockRollbackTx cfg p t incoming a s = .ok (e,s')) :
    Grew s.results s'.results ∧ AgreementOk H s' := by
  obtain ⟨p',hp',-,-,hcases⟩ := (post_blockRollbackTx ..).of_ok hrun
  have hnamed : H.NamedBy p' := hp.same (hp' ▸ samePackage_noted cfg p _ (by simp))
  obtain ⟨out,inc,hout',hinc,hsettles⟩ := hs.settled
  have hne : H.outgoingId ≠ (blockedEpoch incoming).id := fun h => H.distinct (h.trans hin)
  have hgetOut : (s.epochs.set (blockedEpoch incoming).id (blockedEpoch incoming)).get? H.outgoingId = some out :=
    (Dict.get?_set ..).trans ((if_neg hne).trans hout')
  have hgetIn : (s.epochs.set (blockedEpoch incoming).id (blockedEpoch incoming)).get? H.incomingId =
      some (blockedEpoch incoming) := (Dict.get?_set ..).trans (if_pos hin.symm)
  rcases hcases with ⟨-,rfl⟩ | ⟨hmove,rfl⟩
  · -- a stale copy of the transition: what it had become decides
    refine ⟨.refl _,hs.epochs.set _,fun q hq => ?_,hs.transition,out,_,hgetOut,hgetIn,fun t' ht' => ?_⟩
    · have hq' : some p' = some q := ((Dict.get?_set ..).trans (if_pos hnamed.id.symm)).symm.trans hq
      cases hq'
      exact hnamed
    · have hiff := hcurrent incoming (by simp) inc (hin ▸ hinc)
      have hthen := hsettles t' ht'
      cases hstate : t'.state <;> rw [hstate] at hthen
      · trivial
      · exact hiff.mp hthen
      · trivial
      · trivial
      · exact absurd ((hcurrent outgoing (by simp) out (hout ▸ hout')).mpr hopen) hthen.2.1
      · exact ⟨fun h => hthen.1 (hiff.mpr h),hthen.2⟩
  · exact ⟨.refl _,hs.moved hnamed rfl hmove ht.instanceId rfl (hs.epochs.set _) out _ hgetOut hgetIn trivial⟩

end Commits

/-! ### The programs -/

section Programs
variable (cfg : Config)

/-- A transaction of the handoff: where it leaves the store as it was there is nothing to show. -/
theorem from_agrees {α : Type} {held : Held} {t : AgentTx α} {R : α → Prop}
    (h : ∀ s a s', AgreementOk H s → held.Current s → t s = .ok (a,s') →
      Grew s.results s'.results ∧ AgreementOk H s')
    (hr : ∀ s a s', t s = .ok (a,s') → R a) :
    (agreementDiscipline H).From (fun a _ => R a) (Prog.transaction held t) u := by
  refine from_transaction fun s _ hok a s' hrun hg => ?_
  by_cases hne : s' = s
  · subst hne
    exact ⟨.refl _,hok,hr _ _ _ hrun⟩
  · obtain ⟨hstep,hok'⟩ := h s a s' hok (hg hne) hrun
    exact ⟨hstep,hok',hr _ _ _ hrun⟩

theorem from_promoteAcknowledgedHandoff :
    (agreementDiscipline H).From (fun _ _ => True) (promoteAcknowledgedHandoff cfg H.handoffId) u := by
  unfold promoteAcknowledgedHandoff
  refine from_load_bind handoffTable fun s₁ p _ (hok₁ : AgreementOk H s₁) hp => ?_
  have hnamed := hok₁.package p hp
  refine from_sound_bind fun _ u₂ _ => ?_
  rw [hnamed.instanceId]
  refine from_loadTransition_bind fun s₃ t _ (hok₃ : AgreementOk H s₃) ht => from_require_bind fun _ => ?_
  have hmoved := hok₃.transition t ht
  refine from_load_bind epochTable fun s₄ incoming _ (hok₄ : AgreementOk H s₄) hincoming => ?_
  refine from_load_bind epochTable fun s₅ outgoing _ (hok₅ : AgreementOk H s₅) houtgoing => ?_
  have hin := (hok₄.epochs _ _ hincoming).trans hmoved.incomingEpochId
  have hout := (hok₅.epochs _ _ houtgoing).trans hmoved.outgoingEpochId
  refine from_sound_bind fun session u₆ _ => from_orRaise_bind fun external _ => from_orRaise_bind fun resultId _ => ?_
  unfold loadAgentDispatchResult
  refine from_sound_bind fun found u₇ _ => from_orRaise_bind fun result _ => from_require_bind fun _ => ?_
  refine from_sound_bind fun a u₈ _ => from_sound_bind fun b u₉ _ => from_sound_bind fun c u₁₀ _ => ?_
  exact from_agrees (fun s e s' hok hcurrent hrun => agrees_promoteTx hok hnamed hmoved hout hin hcurrent hrun)
    fun _ _ _ _ => trivial

theorem from_completeHandoff_agrees {outgoing incoming : DriverEpoch} {result : AgentDispatchResult}
    {invalid : InvalidState} (hp : H.NamedBy p) (hid : incoming.id = H.incomingId)
    (hopen : incoming.closedAt = none) :
    (agreementDiscipline H).From (fun _ _ => True) (completeHandoff cfg p outgoing incoming result invalid) u := by
  unfold completeHandoff
  cases handoffFailure p incoming result with
  | some failure =>
    refine from_sound_bind fun a u₁ _ => from_sound_bind fun b u₂ _ => ?_
    refine from_bind (M := fun _ _ => True) (from_agrees ?_ fun _ _ _ _ => trivial) fun _ _ _ _ => trivial
    exact fun s e s' hok _ hrun => agrees_failHandoffTx hok hp hid hrun
  | none =>
    refine from_orRaise_bind fun external _ => from_sound_bind fun a u₁ _ => from_sound_bind fun b u₂ _ => ?_
    refine from_bind (M := fun p' _ => p'.id = H.handoffId) (from_agrees ?_ ?_) ?_
    · exact fun s e s' hok hcurrent hrun => agrees_persistAcknowledgementTx hok hp hid hopen hcurrent hrun
    · intro s p' s' hrun
      obtain ⟨-,-,rfl,-⟩ := (post_persistAcknowledgementTx ..).of_ok hrun
      exact hp.id
    · rintro p' u₃ - hp'
      rw [hp']
      exact from_promoteAcknowledgedHandoff cfg

theorem from_reconcileHandoff (result : Option AgentDispatchResult) (by_ : String) :
    (agreementDiscipline H).From (fun _ _ => True) (reconcileHandoff cfg H.handoffId result by_) u := by
  unfold reconcileHandoff
  refine from_sound_bind fun _ u₀ _ => from_load_bind handoffTable fun s₁ p _ (hok₁ : AgreementOk H s₁) hp => ?_
  have hnamed := hok₁.package p hp
  refine from_sound_bind fun _ u₂ _ => ?_
  rw [hnamed.instanceId,hnamed.id]
  refine from_loadTransition_bind fun s₃ t _ (hok₃ : AgreementOk H s₃) ht => from_require_bind fun _ => ?_
  have hmoved := hok₃.transition t ht
  refine from_orRaise_bind fun incomingId hincomingId => ?_
  have htext : incomingId.text = H.incomingId := by
    apply Json.text_of_asStr?
    rw [← hnamed.incomingEpochId,AgentHandoffPackage.incomingEpochId,evidenceText,hincomingId,Option.bind_some]
  rw [htext]
  refine from_load_bind epochTable fun s₄ incoming _ (hok₄ : AgreementOk H s₄) hincoming => ?_
  have hin := hok₄.epochs _ _ hincoming
  refine from_sound_bind fun outgoing u₅ _ => from_require_bind fun hopen => ?_
  split
  · cases result with
    | none => exact from_promoteAcknowledgedHandoff cfg
    | some result =>
      unfold loadAgentDispatchResult
      refine from_sound_bind fun found u₆ _ => from_orRaise_bind fun durable _ => from_require_bind fun _ => ?_
      exact from_promoteAcknowledgedHandoff cfg
  · refine from_orRaise_bind fun result _ => from_sound_bind fun a u₆ _ => ?_
    refine from_bind (M := fun p' _ => H.NamedBy p') (from_agrees ?_ ?_) ?_
    · intro s p' s' hok _ hrun
      obtain ⟨hstep,hok',-⟩ := agrees_reconcileTx hok hnamed hmoved hrun
      exact ⟨hstep,hok'⟩
    · intro s p' s' hrun
      obtain ⟨hp',-⟩ := (post_reconcileTx ..).of_ok hrun
      exact hnamed.same (hp' ▸ samePackage_noted cfg p _ (by simp))
    · rintro p' u₇ - hnamed'
      exact from_completeHandoff_agrees cfg hnamed' hin hopen

theorem from_rollbackHandoff (by_ : String) :
    (agreementDiscipline H).From (fun _ _ => True) (rollbackHandoff cfg H.handoffId by_) u := by
  unfold rollbackHandoff
  refine from_sound_bind fun _ u₀ _ => from_load_bind handoffTable fun s₁ p _ (hok₁ : AgreementOk H s₁) hp => ?_
  have hnamed := hok₁.package p hp
  refine from_sound_bind fun _ u₂ _ => ?_
  rw [hnamed.instanceId]
  refine from_loadTransition_bind fun s₃ t _ (hok₃ : AgreementOk H s₃) ht => from_require_bind fun _ => ?_
  have hmoved := hok₃.transition t ht
  refine from_load_bind epochTable fun s₄ outgoing _ (hok₄ : AgreementOk H s₄) houtgoing => ?_
  refine from_load_bind epochTable fun s₅ incoming _ (hok₅ : AgreementOk H s₅) hincoming => ?_
  have hout := (hok₄.epochs _ _ houtgoing).trans hmoved.outgoingEpochId
  have hin := (hok₅.epochs _ _ hincoming).trans hmoved.incomingEpochId
  refine from_require_bind fun hopen => from_sound_bind fun operation u₆ _ => from_sound_bind fun driver u₇ _ => ?_
  refine from_sound_bind fun cancelled u₈ _ => ?_
  split
  · refine from_sound_bind fun a u₉ _ => from_agrees ?_ fun _ _ _ _ => trivial
    exact fun s e s' hok hcurrent hrun => agrees_blockRollbackTx hok hnamed hmoved hout hin hopen hcurrent hrun
  · refine from_sound_bind fun a u₉ _ => from_sound_bind fun b u₁₀ _ => from_sound_bind fun c u₁₁ _ => ?_
    refine from_agrees ?_ fun _ _ _ _ => trivial
    intro s e s' hok hcurrent hrun
    refine agrees_rollbackTx hok hnamed hmoved hout hin hopen (fun hclosed => ?_) hcurrent hrun
    rw [if_neg hclosed]
    simp

theorem HandoffCall.sound {q : AgentProg DriverEpoch} (h : HandoffCall H q) : (agreementDiscipline H).Sound q := by
  cases h with
  | complete cfg result invalid hp hid hopen => exact ⟨fun _ => from_completeHandoff_agrees cfg hp hid hopen⟩
  | reconcile cfg result by_ => exact ⟨fun _ => from_reconcileHandoff cfg result by_⟩
  | rollback cfg by_ => exact ⟨fun _ => from_rollbackHandoff cfg by_⟩

end Programs

/-! ### The runs -/

/-- The epochs agree with the transition of the handoff. -/
def HandoffIdentity.Agrees (H : HandoffIdentity) (s : AgentStore) : Prop :=
  ∀ t, s.transitions.get? H.instanceId = some t → t.handoffId = H.handoffId →
    (t.state = .completed →
      (∃ incoming, s.epochs.get? H.incomingId = some incoming ∧ incoming.closedAt = none ∧ incoming.state = .running) ∧
      ∃ outgoing, s.epochs.get? H.outgoingId = some outgoing ∧ outgoing.closedAt ≠ none ∧
        outgoing.replacementEpochId = some H.incomingId) ∧
    (t.state = .rolledBack →
      (∃ incoming, s.epochs.get? H.incomingId = some incoming ∧ incoming.closedAt ≠ none) ∧
      ∃ outgoing, s.epochs.get? H.outgoingId = some outgoing ∧ outgoing.closedAt = none ∧ outgoing.state = .running)

theorem AgreementOk.agrees (hs : AgreementOk H s) : H.Agrees s := by
  intro t ht _
  obtain ⟨out,inc,hout,hin,hsettles⟩ := hs.settled
  have hthen := hsettles t ht
  constructor
  · intro hstate
    rw [hstate] at hthen
    exact ⟨⟨inc,hin,hthen.1⟩,out,hout,hthen.2⟩
  · intro hstate
    rw [hstate] at hthen
    exact ⟨⟨inc,hin,hthen.1⟩,out,hout,hthen.2⟩

/-- In every run of completions, reconciliations and rollbacks of one handoff whose commits
find the epochs they worked from as open or as closed as they were loaded, the epochs
agree with the transition in every state. -/
theorem handoff_agreement {s₀ : AgentStore} (h₀ : AgreementOk H s₀) {w : ManagerWorld}
    (h : World.Reachable (agreementSystem H CurrentCopies) (World.init s₀) w) :
    ∀ s ∈ w.trace.history, H.Agrees s := by
  have hstart : ∀ p, (agreementDiscipline H).sys.start p → (agreementDiscipline H).Sound p := by
    rintro p ⟨q,hq,rfl⟩
    have := hq.sound
    infer_instance
  intro s hs
  exact ((h.disciplined (agreementDiscipline H) hstart h₀).1 s hs).agrees

/-! ### A handoff that has begun -/

def handedOver : HandoffIdentity := ⟨"dock","handoff.1","epoch.1","epoch.2",by decide⟩

def handedOutgoing : DriverEpoch := ⟨"epoch.1","dock","session.1","codex",1,.running,some 0,none,none,none⟩
def handedIncoming : DriverEpoch := ⟨"epoch.2","dock","session.2","claude",2,.queued,some 1,none,none,none⟩

def handedPackage : AgentHandoffPackage := signedPackage relayConfig.hmac {
  id := "handoff.1", instanceId := "dock", outgoingEpochId := "epoch.1", incomingProviderId := "claude"
  objective := handoffObjective, checkpointId := some "checkpoint.1", createdAt := some 1
  evidence := importingEvidence Dict.empty handedIncoming ⟨"dock",1,.fenced,some "operation.1",1⟩ }

def handedStore : AgentStore where
  sessions := (Dict.empty.set "session.1" dockSession).set "session.2"
    { dockSession with id := "session.2", providerId := "claude", externalSessionId := none }
  epochs := (Dict.empty.set "epoch.1" handedOutgoing).set "epoch.2" handedIncoming
  handoffs := Dict.empty.set "handoff.1" handedPackage
  transitions := Dict.empty.set "dock" (importingTransition "dock" "handoff.1" "epoch.1" "epoch.2" 1)
  operations := Dict.empty.set "dock" ⟨1,.fenced,some "operation.1",⟨"dock",1,.fenced,some "operation.1",1⟩⟩

theorem handedPackage_named : handedOver.NamedBy handedPackage :=
  ⟨rfl,rfl,rfl,by decide⟩

theorem handedStore_ok : AgreementOk handedOver handedStore where
  epochs := ((Dict.Filed.empty DriverEpoch.id).set handedOutgoing).set handedIncoming
  package p hp := by
    obtain rfl : handedPackage = p := Option.some.inj hp
    exact handedPackage_named
  transition t ht := by
    obtain rfl := Option.some.inj ht
    exact ⟨rfl,rfl,rfl,rfl⟩
  settled := by
    refine ⟨handedOutgoing,handedIncoming,rfl,rfl,fun t ht => ?_⟩
    obtain rfl := Option.some.inj ht
    trivial

/-- The incoming provider acknowledged the import. -/
def handedResult : AgentDispatchResult where
  id := "import.1"
  requestId := "handoff.handoff.1"
  instanceId := "dock"
  sessionId := "session.2"
  driverEpochId := "epoch.2"
  providerId := "claude"
  state := .running
  externalSessionId := some "external.2"

/-- The incoming provider verifies a cancellation. -/
def cancelAnswers (now : Timestamp) (suffix : String) : (q : AgentQuery) → Answer q
  | .cancel _ _ => some { handedResult with id := "cancel." ++ suffix, requestId := "cancel", state := .cancelled }
  | q => plainAnswers now suffix q

def handedCompletion : AgentProg DriverEpoch :=
  completeHandoff relayConfig handedPackage handedOutgoing handedIncoming handedResult .blocked

def handedRollback : AgentProg DriverEpoch := rollbackHandoff relayConfig "handoff.1" "operator"

section Schedules
variable {guard : AgentStore → Held → AgentStore → Prop}

theorem handedCompletion_allowed :
    ∀ mv ∈ [Move.start (dropResult handedCompletion)], mv.Allowed (agreementSystem handedOver guard) :=
  World.allowed_start _ ⟨_,.complete relayConfig handedResult .blocked handedPackage_named rfl rfl,rfl⟩

theorem handedRollback_allowed :
    ∀ mv ∈ [Move.start (dropResult handedRollback)], mv.Allowed (agreementSystem handedOver guard) :=
  World.allowed_start _ ⟨_,.rollback relayConfig "operator",rfl⟩

/-- The import is acknowledged and the completion cut off; a first rollback cannot verify
the cancellation. -/
def rollbackBlocked : List (Move AgentStore Held Answer AgentError Unit) :=
  [.start (dropResult handedCompletion)] ++ World.steps 0 3 (plainAnswers 1 "a") ++
  [.start (dropResult handedRollback)] ++ World.steps 1 14 (plainAnswers 2 "b")

theorem rollbackBlocked_allowed : ∀ mv ∈ rollbackBlocked, mv.Allowed (agreementSystem handedOver guard) := by
  simp only [rollbackBlocked,List.forall_mem_append]
  and_intros
  · exact handedCompletion_allowed
  · exact World.allowed_steps _ _ _
  · exact handedRollback_allowed
  · exact World.allowed_steps _ _ _

end Schedules

/-- The copies of epochs are as open or as closed as their rows. -/
def epochsCurrent (s : AgentStore) (held : Held) (_ : AgentStore) : Bool :=
  (held.epochs ++ held.otherEpochs).all fun e => (s.epochs.get? e.id).all fun row =>
    decide (row.closedAt = none) = decide (e.closedAt = none)

theorem currentCopies_of_epochsCurrent (s : AgentStore) (held : Held) (s' : AgentStore)
    (h : epochsCurrent s held s' = true) : CurrentCopies s held s' := by
  intro _ e he row hrow
  have hall := List.all_eq_true.mp h e he
  simpa [hrow] using hall

/-- A second rollback verifies the cancellation. -/
theorem handoff_agreement_rolled_back : ∃ w : ManagerWorld,
    (w.trace.store.transitions.get? "dock").map (·.state) = some .rolledBack ∧
    ∀ s ∈ w.trace.history, handedOver.Agrees s := by
  have hallowed : ∀ mv ∈ rollbackBlocked ++ [.start (dropResult handedRollback)] ++
      World.steps 2 17 (cancelAnswers 3 "c"), mv.Allowed (agreementSystem handedOver CurrentCopies) := by
    simp only [List.forall_mem_append]
    exact ⟨⟨rollbackBlocked_allowed,handedRollback_allowed⟩,World.allowed_steps _ _ _⟩
  have hplay : ((World.init handedStore).play validAnswer epochsCurrent (rollbackBlocked ++
      [.start (dropResult handedRollback)] ++ World.steps 2 17 (cancelAnswers 3 "c"))).any (fun w =>
        decide ((w.trace.store.transitions.get? "dock").map (·.state) = some .rolledBack)) = true := by decide +kernel
  obtain ⟨w,hw,hc⟩ := World.exists_reachable _ _ _ (fun _ _ _ h => h) currentCopies_of_epochsCurrent hallowed hplay
  exact ⟨w,of_decide_eq_true hc,handoff_agreement handedStore_ok hw⟩

/-- Without the restriction the epochs disagree with the transition. Two rollbacks have
loaded the failed transition with its open incoming epoch; the one verifies the
cancellation and rolls back, the other cannot verify it and stores its copy of the
incoming epoch as blocked and open. -/
theorem handoff_disagreement : ∃ w : ManagerWorld,
    World.Reachable (agreementSystem handedOver fun _ _ _ => True) (World.init handedStore) w ∧
    ¬ ∀ s ∈ w.trace.history, handedOver.Agrees s := by
  have hallowed : ∀ mv ∈ rollbackBlocked ++ [.start (dropResult handedRollback)] ++
      World.steps 2 11 (plainAnswers 3 "c") ++ [.start (dropResult handedRollback)] ++
      World.steps 3 17 (cancelAnswers 4 "d") ++ World.steps 2 3 (plainAnswers 5 "e"),
      mv.Allowed (agreementSystem handedOver fun _ _ _ => True) := by
    simp only [List.forall_mem_append]
    exact ⟨⟨⟨⟨⟨rollbackBlocked_allowed,handedRollback_allowed⟩,World.allowed_steps _ _ _⟩,handedRollback_allowed⟩,
      World.allowed_steps _ _ _⟩,World.allowed_steps _ _ _⟩
  have hplay : ((World.init handedStore).play validAnswer (fun _ _ _ => true) (rollbackBlocked ++
      [.start (dropResult handedRollback)] ++ World.steps 2 11 (plainAnswers 3 "c") ++
      [.start (dropResult handedRollback)] ++ World.steps 3 17 (cancelAnswers 4 "d") ++
      World.steps 2 3 (plainAnswers 5 "e"))).any (fun w =>
        decide ((w.trace.store.transitions.get? "dock").map (fun t => (t.handoffId,t.state)) =
          some ("handoff.1",.rolledBack)) &&
        decide ((w.trace.store.epochs.get? "epoch.2").map (·.closedAt) = some none)) = true := by decide +kernel
  obtain ⟨w,hw,hc⟩ := World.exists_reachable _ _ _ (fun _ _ _ h => h) (fun _ _ _ _ => trivial) hallowed hplay
  refine ⟨w,hw,fun hagrees => ?_⟩
  simp only [Bool.and_eq_true,decide_eq_true_eq,Option.map_eq_some_iff,Prod.mk.injEq] at hc
  obtain ⟨⟨t,ht,hid,hstate⟩,e,he,hopen⟩ := hc
  obtain ⟨⟨e',he',hclosed⟩,-⟩ := (hagrees _ w.trace.store_mem_history t ht hid).2 hstate
  obtain rfl : e = e' := Option.some.inj (he.symm.trans he')
  exact hclosed hopen

end Overseer.Agent
