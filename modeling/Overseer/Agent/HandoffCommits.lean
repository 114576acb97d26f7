import Overseer.Agent.HandoffSound

/-! # The commits of a handoff

What each transaction of a handoff does to the records, given the copy of the
package its program holds.
-/
namespace Overseer.Agent
open Overseer.Library
open Discipline

variable {calls : ManagerCall → Prop} {guard : AgentStore → Held → AgentStore → Prop}
  {s s' s₁ u : AgentStore} {p p' : AgentHandoffPackage}

/-! ### Copies of a package -/

/-- The package is a copy of a stored one, whose import result is stored. -/
def Copy (s : AgentStore) (p : AgentHandoffPackage) : Prop :=
  ImportBound s p ∧ ∃ q, s.handoffs.get? p.id = some q ∧ SamePackage q p

theorem ImportBound.grew (h : ImportBound s p) (hr : Grew s.results s'.results) : ImportBound s' p := by
  intro id hid
  obtain ⟨r,hr',hdriver⟩ := h id hid
  exact ⟨r,hr id r hr',hdriver⟩

theorem SamePackage.symm (h : SamePackage p p') : SamePackage p' p :=
  ⟨h.1.symm,h.2.symm,h.3.symm,h.4.symm,h.5.symm⟩

theorem Copy.after (h : Copy u p) (hs : (handoffDiscipline calls guard).After u s) : Copy s p := by
  obtain ⟨hbound,q,hq,hsame⟩ := h
  obtain ⟨q',hq',hsame'⟩ := after_handoffs hs _ _ hq
  exact ⟨hbound.grew (after_results hs),q',hq',hsame'.symm.trans hsame⟩

theorem HandoffOk.copy (hs : HandoffOk s) {h : String} (hp : s.handoffs.get? h = some p) : Copy s p :=
  ⟨hs.imported h p hp,p,(hs.handoffs h p hp).symm ▸ hp,.refl p⟩

section Noted
variable (cfg : Config) (p : AgentHandoffPackage) (status : String) {more : List (String × Json)}

theorem evidenceText_noted {key : String} (hstatus : key ≠ "status") (hmore : key ∉ more.map Prod.fst) :
    evidenceText (signedPackage cfg.hmac (p.noted status more)).evidence key = evidenceText p.evidence key := by
  change evidenceText ((p.evidence.set "status" (.str status)).merge more) key = _
  rw [evidenceText,evidenceText,Dict.get?_merge_of_notMem _ _ hmore,Dict.get?_set,if_neg hstatus]

theorem samePackage_noted (hmore : "incoming_epoch_id" ∉ more.map Prod.fst) :
    SamePackage p (signedPackage cfg.hmac (p.noted status more)) :=
  ⟨rfl,rfl,rfl,rfl,(evidenceText_noted cfg p status (by decide) hmore).symm⟩

theorem ImportBound.noted (h : ImportBound s p) (hincoming : "incoming_epoch_id" ∉ more.map Prod.fst)
    (hresult : "import_result_id" ∉ more.map Prod.fst) :
    ImportBound s (signedPackage cfg.hmac (p.noted status more)) := by
  intro id hid
  rw [AgentHandoffPackage.importResultId,evidenceText_noted cfg p status (by decide) hresult] at hid
  obtain ⟨r,hr,hdriver⟩ := h id hid
  exact ⟨r,hr,(evidenceText_noted cfg p status (by decide) hincoming).trans hdriver⟩

end Noted

/-! ### The transition of an instance -/

/-- The transitions are as they were, or one row moved. -/
def TransitionsMoved (s s' : AgentStore) : Prop :=
  s'.transitions = s.transitions ∨ ∃ t, TransitionMoves s t ∧ s'.transitions = s.transitions.set t.instanceId t ∧
    (t.state = .completed → Acknowledged s' t)

theorem TransitionsMoved.moves (h : TransitionsMoved s s') (x : String) :
    TransitionMove s s' (s.transitions.get? x) (s'.transitions.get? x) := by
  rcases h with h | ⟨t,⟨current,hrow,hid,hout,hin,hsucc⟩,h,hack⟩
  · rw [h]
    exact .idle _
  · rw [h,Dict.get?_set]
    split
    · next hx =>
      rw [hx,hrow]
      exact .move ⟨hid,hout,hin⟩ hsucc hack
    · exact .idle _

theorem TransitionsMoved.rows (hs : HandoffOk s) (h : TransitionsMoved s s') (x : String)
    (t' : AgentInstanceTransition) (ht' : s'.transitions.get? x = some t') :
    t'.instanceId = x ∧ ∃ t, s.transitions.get? x = some t ∧ SameHandoff t t' := by
  rcases h with h | ⟨t,⟨current,hrow,hid,hout,hin,hsucc⟩,h,-⟩
  · rw [h] at ht'
    exact ⟨hs.transitions x t' ht',t',ht',rfl,rfl,rfl⟩
  · rw [h,Dict.get?_set] at ht'
    split at ht'
    · next hx =>
      cases ht'
      exact ⟨hx.symm,current,hx ▸ hrow,hid,hout,hin⟩
    · exact ⟨hs.transitions x t' ht',t',ht',rfl,rfl,rfl⟩

/-- A commit that writes a package from a copy and moves at most one transition. -/
theorem HandoffOk.writes {G : AgentStore → Held → AgentStore → Prop} (hs : HandoffOk s) (hcopy : Copy s p) (hsame : SamePackage p p')
    (hh : s'.handoffs = s.handoffs.set p'.id p') (hbound : ImportBound s' p')
    (ht : TransitionsMoved s s') (results : Grew s.results s'.results)
    (epochs : RowsKept SameEpoch s.epochs s'.epochs) (epochsFiled : Dict.Filed DriverEpoch.id s'.epochs)
    (sessions : RowsKept KeepsExternal s.sessions s'.sessions)
    (sessionsFiled : Dict.Filed AgentSession.id s'.sessions)
    (closed : (∀ held, G s held s' → held.StillOpen s) → ClosedStays s s') :
    Commit G s s' ∧ HandoffOk s' ∧ Copy s' p' := by
  obtain ⟨-,q,hq,hqp⟩ := hcopy
  rw [hsame.id] at hq
  have hqp' := hqp.trans hsame
  have hrew : Rewritten s s' := {
    sessionsFiled, results, epochs, epochsFiled
    handoffs := by
      rw [hh]
      refine .set SamePackage.refl fun v hv => ?_
      rw [hq] at hv
      cases hv
      exact hqp'
    handoffRows := by
      intro k v hv
      rw [hh,Dict.get?_set] at hv
      split at hv
      · next hk =>
        cases hv
        exact ⟨q,hk ▸ hq,hqp',hbound⟩
      · exact ⟨v,hv,.refl v,(hs.imported k v hv).grew results⟩
    transitionRows := ht.rows hs }
  obtain ⟨hstep,hok⟩ := hs.commit hrew sessions ht.moves closed
  refine ⟨hstep,hok,hbound,p',?_,.refl p'⟩
  rw [hh,Dict.get?_set,if_pos rfl]

/-! ### The transactions -/

theorem Held.StillOpen.row {held : Held} {e row : DriverEpoch} (h : held.StillOpen s) (he : e ∈ held.epochs)
    (hopen : e.closedAt = none) (hrow : s.epochs.get? e.id = some row) (hclosed : row.closedAt ≠ none) : False :=
  hclosed (h e he hopen row hrow)

section Commits
variable {G : AgentStore → Held → AgentStore → Prop} {held : Held} {cfg : Config} {t : AgentInstanceTransition}
  {outgoing incoming e : DriverEpoch} {result : AgentDispatchResult}

theorem commit_failHandoffTx {failure : AgentErrorCategory} {invalid : InvalidState} {a b : Timestamp}
    (hs : HandoffOk s) (hcopy : Copy s p)
    (hopen : invalid = .blocked → incoming.closedAt = none ∧ incoming ∈ held.epochs) (hg : G s held s')
    (hrun : failHandoffTx cfg p incoming result failure invalid a b s = .ok (e,s')) :
    Commit G s s' ∧ HandoffOk s' := by
  obtain ⟨current,p',hp',rfl,hresult,hepoch,-,hrow,hmove,hs'⟩ := (post_failHandoffTx ..).of_ok hrun
  suffices h : Commit G s s' ∧ HandoffOk s' ∧ Copy s' p' from ⟨h.1,h.2.1⟩
  have hgrew : Grew s.results s'.results := hs' ▸ Grew.saveResult hresult
  subst hp' hs'
  refine hs.writes hcopy (samePackage_noted cfg p _ (by simp)) rfl
    ((hcopy.1.grew hgrew).noted cfg p _ (by simp) (by simp)) (.inr ⟨_,hmove,rfl,fun h => by simp at h⟩) hgrew
    (RowsKept.saveEpoch hepoch) (hs.epochs.set _) (.refl KeepsExternal.refl _) hs.sessions fun hstill => ?_
  refine RowsKept.set (fun _ h => h) fun row hrow' hclosed => ?_
  cases invalid with
  | blocked =>
    obtain ⟨hnone,hmem⟩ := hopen rfl
    exact ((hstill held hg).row hmem hnone hrow' hclosed).elim
  | quarantined => exact Option.some_ne_none a

theorem commit_persistAcknowledgementTx {external : String} {a b : Timestamp} (hs : HandoffOk s) (hcopy : Copy s p)
    (hincoming : p.incomingEpochId = some result.driverEpochId)
    (hrun : persistAcknowledgementTx cfg p incoming result external a b s = .ok (p',s')) :
    Commit G s s' ∧ HandoffOk s' ∧ Copy s' p' := by
  obtain ⟨current,session,rfl,hresult,hsession,hext,-,hrow,hmove,rfl⟩ := (post_persistAcknowledgementTx ..).of_ok hrun
  refine hs.writes hcopy (samePackage_noted cfg p _ (by simp)) rfl ?_ (.inr ⟨_,hmove,rfl,fun h => by simp at h⟩)
    (Grew.saveResult hresult) (.refl SameEpoch.refl _) hs.epochs ?_ ?_ fun _ => .refl (fun _ h => h) _
  · intro id hid
    obtain rfl : result.id = id := by
      simpa [AgentHandoffPackage.importResultId,evidenceText,signedPackage,AgentHandoffPackage.noted,Dict.merge,
        Json.asStr?] using hid
    refine ⟨durableResult result,?_,?_⟩
    · exact (Dict.get?_set ..).trans (if_pos rfl)
    · exact (evidenceText_noted cfg p _ (by decide) (by simp)).trans hincoming
  · refine RowsKept.set KeepsExternal.refl fun row hrow' y hy => ?_
    exact (hext row hrow' (by simp [hy])).symm.trans hy
  · exact hs.sessions.set { session with
      externalSessionId := some external, lastObservedAt := some (.instant a) }

theorem commit_reconcileTx {a : Timestamp} (hs : HandoffOk s) (hcopy : Copy s p)
    (hrun : reconcileTx cfg p t a s = .ok (p',s')) :
    Commit G s s' ∧ HandoffOk s' ∧ Copy s' p' ∧ p'.incomingEpochId = p.incomingEpochId := by
  obtain ⟨hp',-,hmove,hs'⟩ := (post_reconcileTx ..).of_ok hrun
  have hincoming : p'.incomingEpochId = p.incomingEpochId := by
    rw [hp']
    exact evidenceText_noted cfg p _ (by decide) (by simp)
  suffices h : Commit G s s' ∧ HandoffOk s' ∧ Copy s' p' from ⟨h.1,h.2.1,h.2.2,hincoming⟩
  subst hp' hs'
  exact hs.writes hcopy (samePackage_noted cfg p _ (by simp)) rfl
    (ImportBound.noted cfg p _ hcopy.1 (by simp) (by simp)) (.inr ⟨_,hmove,rfl,fun h => by simp at h⟩) (.refl _)
    (.refl SameEpoch.refl _) hs.epochs (.refl KeepsExternal.refl _) hs.sessions fun _ => .refl (fun _ h => h) _

theorem commit_blockRollbackTx {a : Timestamp} (hs : HandoffOk s) (hcopy : Copy s p) (hheld : incoming ∈ held.epochs)
    (hg : G s held s') (hrun : blockRollbackTx cfg p t incoming a s = .ok (e,s')) :
    Commit G s s' ∧ HandoffOk s' := by
  obtain ⟨p',hp',-,hepoch,hcases⟩ := (post_blockRollbackTx ..).of_ok hrun
  suffices h : Commit G s s' ∧ HandoffOk s' ∧ Copy s' p' from ⟨h.1,h.2.1⟩
  have hclosed : (∀ held, G s held s' → held.StillOpen s) →
      RowsKept (fun e e' => e.closedAt ≠ none → e'.closedAt ≠ none) s.epochs
        (s.epochs.set (blockedEpoch incoming).id (blockedEpoch incoming)) := by
    intro hstill
    refine RowsKept.set (fun _ h => h) fun row hrow hclosed hnone => ?_
    exact (hstill held hg).row hheld hnone hrow hclosed
  subst hp'
  rcases hcases with ⟨-,rfl⟩ | ⟨hmove,rfl⟩
  · exact hs.writes hcopy (samePackage_noted cfg p _ (by simp)) rfl
      (ImportBound.noted cfg p _ hcopy.1 (by simp) (by simp)) (.inl rfl) (.refl _)
      (RowsKept.saveEpoch hepoch) (hs.epochs.set _) (.refl KeepsExternal.refl _) hs.sessions hclosed
  · exact hs.writes hcopy (samePackage_noted cfg p _ (by simp)) rfl
      (ImportBound.noted cfg p _ hcopy.1 (by simp) (by simp)) (.inr ⟨_,hmove,rfl,fun h => by simp at h⟩) (.refl _)
      (RowsKept.saveEpoch hepoch) (hs.epochs.set _) (.refl KeepsExternal.refl _) hs.sessions hclosed

theorem RowsKept.saveEpochs {e e' : DriverEpoch} (h : epochTable.Saves s e) (h' : epochTable.Saves (epochTable.put s e) e') :
    RowsKept SameEpoch s.epochs ((s.epochs.set e.id e).set e'.id e') :=
  (RowsKept.saveEpoch h).trans SameEpoch.trans (RowsKept.saveEpoch h')

theorem closedStays_set_set {e e' : DriverEpoch} (he : e.closedAt ≠ none)
    (he' : ∀ row, s.epochs.get? e'.id = some row → row.closedAt ≠ none → e'.closedAt ≠ none) :
    RowsKept (fun e e' => e.closedAt ≠ none → e'.closedAt ≠ none) s.epochs ((s.epochs.set e.id e).set e'.id e') := by
  intro k v hv
  simp only [Dict.get?_set]
  split
  · next hk => exact ⟨e',rfl,he' v (hk ▸ hv)⟩
  · split
    · exact ⟨e,rfl,fun _ => he⟩
    · exact ⟨v,hv,id⟩

theorem commit_rollbackTx {operation : AgentOperationReservation} {a b c : Timestamp} (hs : HandoffOk s)
    (hcopy : Copy s p) (hout : outgoing ∈ held.epochs) (hg : G s held s')
    (hrun : rollbackTx cfg p t outgoing incoming operation a b c s = .ok (e,s')) :
    Commit G s s' ∧ HandoffOk s' := by
  obtain ⟨s₁,p',hfirst,hp',rfl,hepoch,-,hmove,hs'⟩ := (post_rollbackTx ..).of_ok hrun
  suffices h : Commit G s s' ∧ HandoffOk s' ∧ Copy s' p' from ⟨h.1,h.2.1⟩
  have hkept : (∀ held, G s held s' → held.StillOpen s) → outgoing.closedAt = none →
      ∀ row, s.epochs.get? outgoing.id = some row → row.closedAt = none := by
    intro hstill hnone row hrow
    exact hstill held hg outgoing hout hnone row hrow
  subst hp'
  rcases hfirst with ⟨hnone,hcancel,rfl⟩ | ⟨hclosed,rfl⟩
  · subst hs'
    refine hs.writes hcopy (samePackage_noted cfg p _ (by simp)) rfl
      (ImportBound.noted cfg p _ hcopy.1 (by simp) (by simp)) (.inr ⟨_,⟨hmove.1⟩,rfl,fun h => by simp at h⟩) (.refl _)
      (RowsKept.saveEpochs hcancel hepoch) ((hs.epochs.set _).set _) (.refl KeepsExternal.refl _) hs.sessions
      fun hstill => ?_
    refine closedStays_set_set (by simp [cancelledEpoch]) fun row hrow hclosed hnone' => ?_
    exact hclosed (hkept hstill hnone' row hrow)
  · subst hs'
    refine hs.writes hcopy (samePackage_noted cfg p _ (by simp)) rfl
      (ImportBound.noted cfg p _ hcopy.1 (by simp) (by simp)) (.inr ⟨_,hmove,rfl,fun h => by simp at h⟩) (.refl _)
      (RowsKept.saveEpoch hepoch) (hs.epochs.set _) (.refl KeepsExternal.refl _) hs.sessions fun hstill => ?_
    refine RowsKept.set (fun _ h => h) fun row hrow hclosed hnone => ?_
    exact hclosed (hkept hstill hnone row hrow)

/-- A promotion: `r` is the stored result that the package names and that acknowledges
the import, `session` the session of the incoming epoch. -/
theorem commit_promoteTx {a b c : Timestamp} {external resultId : String} {session : AgentSession}
    (hs : HandoffOk s) (hcopy : Copy s p) (hin : incoming ∈ held.epochs)
    (hincoming : ∃ e, s.epochs.get? t.incomingEpochId = some e ∧ SameEpoch e incoming)
    (hsession : s.sessions.get? incoming.sessionId = some session)
    (hext : session.externalSessionId = some external) (hnamed : p.importResultId = some resultId)
    (hresult : s.results.get? resultId = some result)
    (hack : acknowledges p incoming external result = true ∧ result.id = resultId ∧
      result.instanceId = p.instanceId ∧ result.providerId = p.incomingProviderId)
    (hg : G s held s') (hrun : promoteTx cfg p t outgoing incoming a b c s = .ok (e,s')) :
    Commit G s s' ∧ HandoffOk s' := by
  obtain ⟨row,p',hp',hrunning,-,hclose,hopen,hmove,-,hs'⟩ := (post_promoteTx ..).of_ok hrun
  suffices h : Commit G s s' ∧ HandoffOk s' ∧ Copy s' p' from ⟨h.1,h.2.1⟩
  obtain ⟨was,hwas,hsame⟩ := hincoming
  have hid : incoming.id = t.incomingEpochId := hsame.id.symm.trans (hs.epochs _ _ hwas)
  obtain ⟨hbound,q,hq,hqp⟩ := id hcopy
  simp only [acknowledges,Bool.and_eq_true,decide_eq_true_eq] at hack
  obtain ⟨⟨⟨⟨⟨hrequest,hrsession⟩,hrepoch⟩,hrext⟩,hstate⟩,-,hrinstance,hrprovider⟩ := hack
  -- the package names the incoming epoch of the transition, so it is the package of the transition
  have hnames : p.incomingEpochId = some t.incomingEpochId := by
    obtain ⟨r,hr,hdriver⟩ := hbound _ hnamed
    obtain rfl : r = result := Option.some.inj (hr.symm.trans hresult)
    rw [hdriver,hrepoch,hid]
  have hhandoff : p.id = t.handoffId := by
    obtain ⟨current,hcurrent,hcid,-,hcin,-⟩ := hmove.row
    obtain ⟨p₂,hp₂,hin₂,-⟩ := hs.transition _ _ hcurrent
    rw [show current.handoffId = t.handoffId from hcid] at hp₂
    refine hs.unique _ _ q p₂ hq hp₂ ?_
    rw [hqp.incomingEpochId,hnames,hin₂,show current.incomingEpochId = t.incomingEpochId from hcin]
  obtain ⟨hinstance,hprovider⟩ : incoming.instanceId = p.instanceId ∧ incoming.providerId = p.incomingProviderId := by
    obtain ⟨k,e',hk,he',hx,hprov⟩ := hs.incoming _ q hq
    rw [hqp.incomingEpochId,hnames] at hk
    cases hk
    obtain rfl : e' = was := Option.some.inj (he'.symm.trans hwas)
    exact ⟨hsame.instanceId.symm.trans (hx.trans hqp.instanceId),
      hsame.providerId.symm.trans (hprov.trans hqp.incomingProviderId)⟩
  subst hp' hs'
  refine hs.writes hcopy (samePackage_noted cfg p _ (by simp)) rfl
    (ImportBound.noted cfg p _ hcopy.1 (by simp) (by simp)) (.inr ⟨_,hmove,rfl,fun _ => ?_⟩) (.refl _)
    (RowsKept.saveEpochs hclose hopen) ((hs.epochs.set (closedEpoch outgoing incoming.id a)).set e)
    (.refl KeepsExternal.refl _) hs.sessions fun hstill => ?_
  · have hget : ((s.epochs.set outgoing.id (closedEpoch outgoing incoming.id a)).set e.id e).get?
        t.incomingEpochId = some e := by
      rw [Dict.get?_set,if_pos]
      rw [hrunning,← hid]
    refine ⟨e,session,resultId,result,hget,?_,hresult,?_,hstate,?_,?_,?_,?_,by simp [hrext],by rw [hrext,hext]⟩
    · rw [hrunning]
      exact hsession
    · rw [hrequest,hhandoff]
    · rw [hrunning,hrinstance,hinstance]
    · rw [hrunning,hrprovider,hprovider]
    · rw [hrunning,hrsession]
    · rw [hrunning,hrepoch]
  · refine closedStays_set_set (e := closedEpoch outgoing incoming.id a) (by simp [closedEpoch]) ?_
    intro row hrow hclosed hnone
    rw [hrunning] at hrow hnone
    exact (hstill held hg).row hin hnone hrow hclosed

/-! ### New epochs and new handoffs -/

theorem OpensSession.sessions (h : OpensSession s s₁) : ∃ d, s₁ = { s with sessions := d } ∧
    RowsKept KeepsExternal s.sessions d ∧ (Dict.Filed AgentSession.id s.sessions → Dict.Filed AgentSession.id d) := by
  rcases h with rfl | ⟨session,hnone,rfl⟩
  · exact ⟨s₁.sessions,rfl,.refl KeepsExternal.refl _,id⟩
  · refine ⟨_,rfl,.set KeepsExternal.refl fun v hv => ?_,fun hfiled => hfiled.set session⟩
    cases hnone.symm.trans hv

theorem mem_ids_of_handoff {id : String} (h : s.handoffs.get? id = some p) : id ∈ s.ids := by
  have hkey : id ∈ s.handoffs.keys := (s.handoffs.mem_keys_iff id).mpr ⟨p,h⟩
  simp [AgentStore.ids,hkey]

theorem get?_eq_none_of_epochFree {id : String} (h : id ∉ s.ids) : s.epochs.get? id = none := by
  by_contra hne
  obtain ⟨e,he⟩ := Option.ne_none_iff_exists'.mp hne
  exact h (mem_ids_of_epoch he)

theorem get?_eq_none_of_handoffFree {id : String} (h : id ∉ s.ids) : s.handoffs.get? id = none := by
  by_contra hne
  obtain ⟨p,hp⟩ := Option.ne_none_iff_exists'.mp hne
  exact h (mem_ids_of_handoff hp)

theorem commit_activateTx {x providerId by_ externalSessionId reservationId : String} {generation : ℕ}
    {updatedAt : Timestamp} {draws : EpochDraws} (hs : HandoffOk s) (hfresh : s' ≠ s → draws.id ∉ s.ids)
    (hrun : activateTx cfg x by_ providerId externalSessionId reservationId generation updatedAt draws s = .ok (e,s')) :
    Commit G s s' ∧ HandoffOk s' := by
  by_cases hne : s' = s
  · subst hne
    exact ⟨.refl _ _,hs⟩
  · obtain ⟨operations,s₁,a,hopens,-,hsession,hsaves,rfl⟩ := (post_activateTx ..).of_ok hrun
    obtain ⟨d,rfl,hkept,hfiled⟩ := hsession.sessions
    have hnew : s.epochs.get? e.id = none := get?_eq_none_of_epochFree (hopens.id ▸ hfresh hne)
    have habsent : ∀ {P : DriverEpoch → Prop} row, s.epochs.get? e.id = some row → P row := by
      intro P row hrow
      rw [hnew] at hrow
      cases hrow
    exact hs.commit (hs.rewritten_of_eq rfl rfl (.refl _) (.set SameEpoch.refl habsent) (hs.epochs.set e)
      (hfiled hs.sessions)) hkept (fun _ => .idle _) fun _ => RowsKept.set (fun _ h => h) habsent

/-- The records with a new package and its transition and incoming epoch. -/
structure Begun (s s' : AgentStore) (x : String) (p : AgentHandoffPackage) (e : DriverEpoch) : Prop where
  results : s'.results = s.results
  sessions : RowsKept KeepsExternal s.sessions s'.sessions
  sessionsFiled : Dict.Filed AgentSession.id s'.sessions
  epochs : s'.epochs = s.epochs.set e.id e
  handoffs : ∀ k, s'.handoffs.get? k = if k = p.id then some p else s.handoffs.get? k
  transitions : ∃ t, s'.transitions = s.transitions.set x t ∧ t.instanceId = x ∧ t.handoffId = p.id ∧
    t.incomingEpochId = e.id ∧ t.state = .importing
  ended : TransitionEnded s x
  epochFree : s.epochs.get? e.id = none
  handoffFree : s.handoffs.get? p.id = none
  incoming : p.incomingEpochId = some e.id
  importFree : p.importResultId = none
  instanceId : p.instanceId = x ∧ e.instanceId = x
  providerId : e.providerId = p.incomingProviderId

theorem Begun.handoffsKept {x : String} (h : Begun s s' x p e) : RowsKept SamePackage s.handoffs s'.handoffs := by
  intro k q hq
  refine ⟨q,?_,.refl q⟩
  rw [h.handoffs,if_neg]
  · exact hq
  · rintro rfl
    rw [h.handoffFree] at hq
    cases hq

theorem Begun.epochsKept {x : String} {R : DriverEpoch → DriverEpoch → Prop} (hR : ∀ e, R e e)
    (h : Begun s s' x p e) : RowsKept R s.epochs s'.epochs := by
  rw [h.epochs]
  refine .set hR fun row hrow => ?_
  rw [h.epochFree] at hrow
  cases hrow

theorem Begun.ok {x : String} (h : Begun s s' x p e) (hs : HandoffOk s) : HandoffOk s' where
  sessions := h.sessionsFiled
  epochs := h.epochs ▸ hs.epochs.set e
  handoffs k q hq := by
    rw [h.handoffs] at hq
    split at hq
    · next hk =>
      cases hq
      exact hk.symm
    · exact hs.handoffs k q hq
  transitions y t ht := by
    obtain ⟨t₀,htr,hx,-⟩ := h.transitions
    rw [htr,Dict.get?_set] at ht
    split at ht
    · next hy =>
      cases ht
      exact hx.trans hy.symm
    · exact hs.transitions y t ht
  incoming k q hq := by
    rw [h.handoffs] at hq
    split at hq
    · cases hq
      refine ⟨e.id,e,h.incoming,?_,h.instanceId.2.trans h.instanceId.1.symm,h.providerId⟩
      rw [h.epochs,Dict.get?_set,if_pos rfl]
    · obtain ⟨i,e',hi,he',hx',hprov'⟩ := hs.incoming k q hq
      obtain ⟨e'',he'',hsame⟩ := h.epochsKept SameEpoch.refl i e' he'
      exact ⟨i,e'',hi,he'',hsame.instanceId ▸ hx',hsame.providerId ▸ hprov'⟩
  unique k k' q q' hq hq' heq := by
    -- the incoming epoch of the new package is new, so no other package names it
    have hother : ∀ j v, s.handoffs.get? j = some v → v.incomingEpochId ≠ p.incomingEpochId := by
      intro j v hv hsame
      obtain ⟨i,e',hi,he',-⟩ := hs.incoming j v hv
      rw [hsame,h.incoming] at hi
      cases hi
      rw [h.epochFree] at he'
      cases he'
    rw [h.handoffs] at hq hq'
    split at hq
    · next hk =>
      cases hq
      split at hq'
      · next hk' => exact hk.trans hk'.symm
      · exact absurd heq.symm (hother k' q' hq')
    · split at hq'
      · cases hq'
        exact absurd heq (hother k q hq)
      · exact hs.unique k k' q q' hq hq' heq
  imported k q hq := by
    rw [h.handoffs] at hq
    split at hq
    · cases hq
      intro id hid
      rw [h.importFree] at hid
      cases hid
    · exact (hs.imported k q hq).grew (h.results ▸ .refl _)
  transition y t ht := by
    obtain ⟨t₀,htr,hx,hid,hin,-⟩ := h.transitions
    rw [htr,Dict.get?_set] at ht
    split at ht
    · next hy =>
      cases ht
      refine ⟨p,?_,?_,h.instanceId.1.trans hy.symm⟩
      · rw [h.handoffs,hid,if_pos rfl]
      · rw [h.incoming,hin]
    · obtain ⟨q,hq,hi,hx'⟩ := hs.transition y t ht
      obtain ⟨q',hq',hsame⟩ := h.handoffsKept _ q hq
      exact ⟨q',hq',hsame.incomingEpochId ▸ hi,hsame.instanceId ▸ hx'⟩

theorem Begun.commit {x : String} (h : Begun s s' x p e) : Commit G s s' where
  results := h.results ▸ .refl _
  sessions := h.sessions
  epochs := h.epochsKept SameEpoch.refl
  handoffs := h.handoffsKept
  transitions y := by
    obtain ⟨t,htr,hx,hid,hin,hstate⟩ := h.transitions
    rw [htr,Dict.get?_set]
    split
    · next hy => exact .start (fun old hold => h.ended old (hy ▸ hold)) (hid ▸ h.handoffFree) hstate
    · exact .idle _
  closed _ := h.epochsKept fun _ h => h

theorem commit_beginHandoffTx {x incomingProviderId reason by_ : String} {checkpoint : AgentCheckpoint}
    {incomingProvider : AgentProvider} {operation : AgentOperationReservation} {draws : HandoffDraws}
    {r : AgentHandoffPackage × DriverEpoch} (hs : HandoffOk s)
    (hdrawn : s' ≠ s → draws.handoffId ∉ s.ids ∧ draws.epoch.id ∉ s.ids)
    (hrun : beginHandoffTx cfg x outgoing checkpoint incomingProvider incomingProviderId reason by_ operation draws s =
      .ok (r,s')) :
    Commit G s s' ∧ HandoffOk s' ∧ Copy s' r.1 ∧ r.1.incomingEpochId = some r.2.id ∧ r.2.closedAt = none := by
  obtain ⟨s₁,s₂,built,hopens,hbid,hr,hx,hout,hprov,hev,-,rfl,hsession,hended,-,hsaves,hs'⟩ :=
    (post_beginHandoffTx ..).of_ok hrun
  obtain ⟨d,rfl,hkept,hfiled⟩ := hsession.sessions
  -- an instance that has no active transition gets one, so the store changes
  have hfresh := hdrawn (by
    rintro rfl
    have hrow := congrArg (fun s => s.transitions.get? x) hs'
    have hget := hrow.trans ((Dict.get?_set ..).trans (if_pos rfl))
    rcases hended _ hget with h | h <;> cases h)
  have hnoEpoch : s.epochs.get? r.2.id = none := get?_eq_none_of_epochFree (hopens.id ▸ hfresh.2)
  have hnoHandoff : s.handoffs.get? draws.handoffId = none := get?_eq_none_of_handoffFree hfresh.1
  have hincoming : r.1.incomingEpochId = some r.2.id := by
    rw [hr]
    simp [AgentHandoffPackage.incomingEpochId,signedPackage,evidenceText,importingEvidence,Json.asStr?]
  have hresult : r.1.importResultId = none := by
    rw [hr]
    simp [AgentHandoffPackage.importResultId,signedPackage,evidenceText,importingEvidence,hev,checkpointEvidence]
  have hrid : r.1.id = draws.handoffId := by
    rw [hr,← hbid]
    rfl
  obtain ⟨hrx,hrprov⟩ : r.1.instanceId = x ∧ r.1.incomingProviderId = incomingProviderId := by
    rw [hr]
    exact ⟨hx,hprov⟩
  have hhandoffs : ∀ k, ((s.handoffs.set built.id built).set r.1.id r.1).get? k =
      if k = draws.handoffId then some r.1 else s.handoffs.get? k := by
    intro k
    simp only [Dict.get?_set,hrid,hbid]
    split <;> rfl
  have hbegun : Begun s s' x r.1 r.2 := by
    subst hs'
    exact {
      results := rfl, sessions := hkept, sessionsFiled := hfiled hs.sessions, epochs := rfl
      handoffs := hrid ▸ hhandoffs
      transitions := ⟨importingTransition x draws.handoffId outgoing.id r.2.id draws.updatedAt,rfl,rfl,hrid.symm,
        rfl,rfl⟩
      ended := hended, epochFree := hnoEpoch, handoffFree := hrid ▸ hnoHandoff, incoming := hincoming
      importFree := hresult, instanceId := ⟨hrx,hopens.instanceId⟩
      providerId := hopens.providerId.trans hrprov.symm }
  refine ⟨hbegun.commit,hbegun.ok hs,?_,hincoming,hopens.isOpen⟩
  exact (hbegun.ok hs).copy (h := r.1.id) ((hbegun.handoffs _).trans (if_pos rfl))

end Commits

end Overseer.Agent
