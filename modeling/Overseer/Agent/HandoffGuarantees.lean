import Overseer.Agent.HandoffRuns
import Overseer.Agent.DispatchGuarantees

/-! # Guarantees of handoffs

The transition of an instance follows the protocol of its handoff and completes only
under a durable acknowledgement. A closed epoch stays closed as long as no commit
stores an open copy of it that has become stale.
-/
namespace Overseer.Agent
open Overseer.Library

variable {calls : ManagerCall → Prop} {guard : AgentStore → Held → AgentStore → Prop} {s₀ : AgentStore}
  {w : ManagerWorld}

theorem handoff_commits (h₀ : HandoffOk s₀) (h : World.Reachable (managerSystem calls guard) (World.init s₀) w) :
    (∀ s ∈ w.trace.history, HandoffOk s) ∧
    List.IsChain (fun s' s => Commit (managerSystem calls guard).guard s s') w.trace.history := by
  refine h.disciplined (handoffDiscipline calls guard) ?_ h₀
  rintro p ⟨cfg,c,-,rfl⟩
  exact c.sound cfg

/-! ### The transitions of one handoff -/

/-- The row of an instance while it is about the handoff. -/
def AgentStore.transitionOf (s : AgentStore) (x handoffId : String) : Option AgentInstanceTransition :=
  (s.transitions.get? x).filter (·.handoffId = handoffId)

theorem transitionOf_eq_some {s : AgentStore} {x handoffId : String} {t : AgentInstanceTransition} :
    s.transitionOf x handoffId = some t ↔ s.transitions.get? x = some t ∧ t.handoffId = handoffId := by
  simp [AgentStore.transitionOf,Option.filter_eq_some_iff]

/-- One step of a handoff: the row stays or moves along an edge, its identity unchanged. -/
def HandoffStep (t t' : AgentInstanceTransition) : Prop :=
  SameHandoff t t' ∧ (t' = t ∨ t'.state ∈ t.state.successors)

/-- A handoff whose package is not stored has no row in any earlier state. -/
theorem notBegun {G : AgentStore → Held → AgentStore → Prop} {s' s : AgentStore} {past : List AgentStore}
    (hok : ∀ s₁ ∈ s' :: s :: past, HandoffOk s₁) (hc : List.IsChain (fun s' s => Commit G s s') (s' :: s :: past))
    {x handoffId : String} (hfree : s.handoffs.get? handoffId = none) :
    (s :: past).filterMap (·.transitionOf x handoffId) = [] := by
  have hkept : (s :: past).Pairwise fun s' s => RowsKept SamePackage s.handoffs s'.handoffs :=
    World.pairwise_of_chain hc.tail (fun _ _ hcommit => hcommit.handoffs) fun _ _ _ => .trans SamePackage.trans
  refine List.filterMap_eq_nil_iff.mpr fun s₁ hs₁ => ?_
  by_contra hne
  obtain ⟨t,ht⟩ := Option.ne_none_iff_exists'.mp hne
  obtain ⟨hrow,hid⟩ := transitionOf_eq_some.mp ht
  obtain ⟨p,hp,-⟩ := (hok s₁ (List.mem_cons_of_mem _ hs₁)).transition x t hrow
  rw [hid] at hp
  rcases List.mem_cons.mp hs₁ with rfl | hs₁
  · rw [hfree] at hp
    cases hp
  · obtain ⟨q,hq,-⟩ := (List.pairwise_cons.mp hkept).1 s₁ hs₁ _ p hp
    rw [hfree] at hq
    cases hq

/-- The rows of one handoff, over the states of a run, are a path. -/
theorem handoffSteps_chain {G : AgentStore → Held → AgentStore → Prop} {history : List AgentStore}
    (hok : ∀ s ∈ history, HandoffOk s) (hc : List.IsChain (fun s' s => Commit G s s') history) (x handoffId : String) :
    List.IsChain (fun t' t => HandoffStep t t') (history.filterMap (·.transitionOf x handoffId)) := by
  induction history with
  | nil => exact List.isChain_nil
  | cons s' past ih =>
    have hpast := ih (fun s hs => hok s (List.mem_cons_of_mem _ hs)) hc.tail
    rw [List.filterMap_cons]
    split
    · exact hpast
    · next t' ht' =>
      refine List.isChain_cons.mpr ⟨?_,hpast⟩
      cases past with
      | nil => simp
      | cons s past =>
        obtain ⟨hrow',hid'⟩ := transitionOf_eq_some.mp ht'
        have hmove := (List.isChain_cons_cons.mp hc).1.transitions x
        rw [hrow'] at hmove
        -- a row of the state before comes first among the earlier ones
        have hhead : ∀ t, s.transitions.get? x = some t → SameHandoff t t' →
            ((s :: past).filterMap (·.transitionOf x handoffId)).head? = some t := by
          intro t ht hsame
          have hof : s.transitionOf x handoffId = some t := transitionOf_eq_some.mpr ⟨ht,hsame.handoffId.trans hid'⟩
          rw [List.filterMap_cons,hof,List.head?_cons]
        generalize hrow : s.transitions.get? x = o at hmove
        cases hmove with
        | idle =>
          rw [hhead t' hrow ⟨rfl,rfl,rfl⟩]
          rintro _ ⟨⟩
          exact ⟨⟨rfl,rfl,rfl⟩,.inl rfl⟩
        | start _ fresh _ =>
          rw [hid'] at fresh
          rw [notBegun hok hc fresh]
          simp
        | move same edge _ =>
          rw [hhead _ hrow same]
          rintro _ ⟨⟩
          exact ⟨same,.inr edge⟩

/-- A handoff is one of one instance, in whatever states its rows are. -/
theorem handoff_oneInstance {G : AgentStore → Held → AgentStore → Prop} {history : List AgentStore}
    (hok : ∀ s ∈ history, HandoffOk s) (hc : List.IsChain (fun s' s => Commit G s s') history) :
    ∀ s ∈ history, ∀ s' ∈ history, ∀ x y t t', s.transitions.get? x = some t → s'.transitions.get? y = some t' →
      t.handoffId = t'.handoffId → x = y := by
  let OneInstance (s s' : AgentStore) : Prop := HandoffOk s → HandoffOk s' → ∀ x y t t',
    s.transitions.get? x = some t → s'.transitions.get? y = some t' → t.handoffId = t'.handoffId → x = y
  have hsymm : Std.Symm OneInstance :=
    ⟨fun s s' h hs' hs x y t t' ht ht' hid => (h hs hs' y x t' t ht' ht hid.symm).symm⟩
  have hkept : history.Pairwise fun s' s => RowsKept SamePackage s.handoffs s'.handoffs :=
    World.pairwise_of_chain hc (fun _ _ hcommit => hcommit.handoffs) fun _ _ _ => .trans SamePackage.trans
  have hone : history.Pairwise OneInstance := by
    refine hkept.imp fun {s' s} hk hs' hs x y t t' ht ht' hid => ?_
    obtain ⟨p,hp,-,hx⟩ := hs'.transition x t ht
    obtain ⟨q,hq,-,hy⟩ := hs.transition y t' ht'
    obtain ⟨q',hq',hsame⟩ := hk _ q hq
    rw [← hid,hp] at hq'
    cases hq'
    rw [← hx,← hy,hsame.instanceId]
  intro s hs s' hs'
  refine hone.forall_of_forall (fun s hs => ?_) hs hs' (hok s hs) (hok s' hs')
  intro hs _ x y t t' ht ht' hid
  obtain ⟨p,hp,-,hx⟩ := hs.transition x t ht
  obtain ⟨q,hq,-,hy⟩ := hs.transition y t' ht'
  rw [hid,hq] at hp
  cases hp
  rw [← hx,← hy]

/-- The handoff protocol, over every interleaving of the managers' operations. The rows of
one handoff are a path of the protocol with one identity, and of one instance; an instance
has one row; and a commit that completes a handoff leaves a durable result that
acknowledges it. -/
theorem handoff_protocol (h₀ : HandoffOk s₀) (h : World.Reachable (managerSystem calls guard) (World.init s₀) w) :
    (∀ x handoffId, List.IsChain (fun t' t => HandoffStep t t')
      (w.trace.history.filterMap (·.transitionOf x handoffId))) ∧
    (∀ s ∈ w.trace.history, ∀ s' ∈ w.trace.history, ∀ x y t t', s.transitions.get? x = some t →
      s'.transitions.get? y = some t' → t.handoffId = t'.handoffId → x = y) ∧
    (∀ s ∈ w.trace.history, ∀ k k' t t', s.transitions.get? k = some t → s.transitions.get? k' = some t' →
      t.instanceId = t'.instanceId → t = t') ∧
    List.IsChain (fun s' s => ∀ x t', s'.transitions.get? x = some t' → t'.state = .completed →
      s.transitions.get? x = some t' ∨ Acknowledged s' t') w.trace.history := by
  obtain ⟨hok,hc⟩ := handoff_commits h₀ h
  refine ⟨handoffSteps_chain hok hc,handoff_oneInstance hok hc,?_,hc.imp ?_⟩
  · intro s hs k k' t t' ht ht' hx
    have hk := (hok s hs).transitions k t ht
    have hk' := (hok s hs).transitions k' t' ht'
    rw [← hk,hx,hk',ht'] at ht
    exact (Option.some.inj ht).symm
  · intro s' s hcommit x t' ht' hstate
    have hmove := hcommit.transitions x
    rw [ht'] at hmove
    generalize hrow : s.transitions.get? x = o at hmove
    cases hmove with
    | idle => exact .inl rfl
    | start _ _ importing => rw [hstate] at importing; cases importing
    | move _ _ acknowledged => exact .inr (acknowledged hstate)

/-! ### A dock with a second provider -/

def relayProvider : AgentProvider where
  id := "claude"
  adapterId := "claude-cli"
  transports := [.noninteractiveCli]
  capabilities := { handoffImport := true }

def relayConfig : Config := { dockConfig with
  providers := dockConfig.providers.set "claude" relayProvider
  profiles := Dict.empty.set "dock" {
    id := "dock", primaryProviderId := "codex", transport := .noninteractiveCli, workspace := "/srv/dock"
    approvedFallbackProviderIds := ["claude"] }
  adapterFactories := ["codex-cli","claude-cli"] }

/-- The dock after a recovery that its provider rejected. -/
def relayStore : AgentStore := { dockStore with
  epochs := Dict.empty.set "epoch.1" ⟨"epoch.1","dock","session.1","codex",1,.blocked,some 0,none,none,none⟩ }

theorem relayStore_ok : HandoffOk relayStore where
  sessions := (Dict.Filed.empty _).set dockSession
  epochs := (Dict.Filed.empty DriverEpoch.id).set
    ⟨"epoch.1","dock","session.1","codex",1,.blocked,some 0,none,none,none⟩
  handoffs := Dict.Filed.empty _
  transitions := Dict.Filed.empty _
  incoming h p hp := by simp [relayStore,dockStore] at hp
  unique h h' p p' hp := by simp [relayStore,dockStore] at hp
  imported h p hp := by simp [relayStore,dockStore] at hp
  transition x t ht := by simp [relayStore,dockStore] at ht

/-- The first provider resumes and gives a checkpoint, the second acknowledges the import. -/
def relayAnswers (now : Timestamp) (suffix : String) : (q : AgentQuery) → Answer q
  | .resume _ _ => some { id := "resume", requestId := "resume", instanceId := "dock", sessionId := "external.1"
                          driverEpochId := "epoch.1", providerId := "codex", state := .running }
  | .checkpoint _ _ => some { id := "checkpoint", instanceId := "dock", sessionId := "session.1"
                              driverEpochId := "epoch.1", evidence := Dict.empty.set "status" (.str "ready")
                              createdAt := some (.instant now) }
  | .importHandoff _ _ package => some {
      id := "import." ++ suffix, requestId := s!"handoff.{package.id}", instanceId := "dock"
      sessionId := (evidenceText package.evidence "incoming_session_id").getD ""
      driverEpochId := package.incomingEpochId.getD "", providerId := "claude", state := .running
      externalSessionId := some "external.2" }
  | q => plainAnswers now suffix q

def relayRecover : ManagerCall := .recover "session.1" "operator"
def relayHandoff : ManagerCall := .manualHandoff "dock" "claude" "operator" "approval.1"

/-- A recovery and then a handoff, each to its end. -/
def relayed (i : ℕ) : List (Move AgentStore Held Answer AgentError Unit) :=
  [.start (relayRecover.program relayConfig)] ++ World.steps i 10 (relayAnswers 1 "a") ++
  [.start (relayHandoff.program relayConfig)] ++ World.steps (i + 1) 49 (relayAnswers 2 "b")

/-- The operations that close epochs or store them again. -/
def ManagerCall.closesEpochs : ManagerCall → Prop
  | .recover _ _ | .manualHandoff _ _ _ _ | .reconcileHandoff _ _ _ | .rollbackHandoff _ _ => True
  | _ => False

theorem ManagerCall.allowed (c : ManagerCall) (hc : c.closesEpochs) (cfg : Config) :
    ∀ mv ∈ [Move.start (c.program cfg)], mv.Allowed (managerSystem ManagerCall.closesEpochs guard) :=
  World.allowed_start _ ⟨cfg,c,hc,rfl⟩

theorem relayed_allowed (i : ℕ) : ∀ mv ∈ relayed i, mv.Allowed (managerSystem ManagerCall.closesEpochs guard) := by
  simp only [relayed,List.forall_mem_append]
  and_intros
  · exact relayRecover.allowed trivial _
  · exact World.allowed_steps _ _ _
  · exact relayHandoff.allowed trivial _
  · exact World.allowed_steps _ _ _

/-- A schedule over the relay's store whose last world passes the check. -/
theorem exists_relayWorld {pass : AgentStore → Held → AgentStore → Bool}
    (hpass : ∀ s held s', pass s held s' = true → FreshIds s held s' ∧ guard s held s')
    {moves : List (Move AgentStore Held Answer AgentError Unit)} {check : ManagerWorld → Bool}
    (hmoves : ∀ mv ∈ moves, mv.Allowed (managerSystem ManagerCall.closesEpochs guard))
    (h : ((World.init relayStore).play validAnswer pass moves).any check = true) :
    ∃ w, World.Reachable (managerSystem ManagerCall.closesEpochs guard) (World.init relayStore) w ∧ check w = true :=
  World.exists_reachable _ moves check (fun _ _ _ h => h) hpass hmoves h

/-- The ids a commit inserts are fresh. -/
def idsFresh (s : AgentStore) (held : Held) (_ : AgentStore) : Bool := held.fresh.all (· ∉ s.ids)

theorem freshIds_of_idsFresh (s : AgentStore) (held : Held) (s' : AgentStore) (h : idsFresh s held s' = true) :
    FreshIds s held s' ∧ True :=
  ⟨fun _ id hid => by simpa using List.all_eq_true.mp h id hid,trivial⟩

theorem handoff_protocol_relay : ∃ w : ManagerWorld,
    (w.trace.store.transitions.get? "dock").map (fun t => (t.handoffId,t.state)) = some ("handoff.b",.completed) ∧
    List.IsChain (fun s' s => ∀ x t', s'.transitions.get? x = some t' → t'.state = .completed →
      s.transitions.get? x = some t' ∨ Acknowledged s' t') w.trace.history := by
  have hplay : ((World.init relayStore).play validAnswer idsFresh (relayed 0)).any
      (fun w => decide ((w.trace.store.transitions.get? "dock").map (fun t => (t.handoffId,t.state)) =
        some ("handoff.b",.completed))) = true := by decide +kernel
  obtain ⟨w,hw,hc⟩ := exists_relayWorld freshIds_of_idsFresh (relayed_allowed 0) hplay
  exact ⟨w,of_decide_eq_true hc,(handoff_protocol relayStore_ok hw).2.2.2⟩

/-! ### Closed epochs -/

/-- A commit that changes the store finds the epochs open whose open copies it stores again. -/
def OpenCopies (s : AgentStore) (held : Held) (s' : AgentStore) : Prop := s' ≠ s → held.StillOpen s

/-- An epoch that is closed in one state is closed in every later one. -/
def ClosedForGood (w : ManagerWorld) : Prop := w.trace.history.Pairwise fun s' s =>
  ∀ id e, s.epochs.get? id = some e → e.closedAt ≠ none → ∃ e', s'.epochs.get? id = some e' ∧ e'.closedAt ≠ none

/-- Closed epochs stay closed in every run whose commits find the epochs still open whose
open copies they store again. -/
theorem closed_epochs_stay_closed (h₀ : HandoffOk s₀)
    (h : World.Reachable (managerSystem calls OpenCopies) (World.init s₀) w) : ClosedForGood w := by
  obtain ⟨-,hc⟩ := handoff_commits h₀ h
  have hclosed : w.trace.history.Pairwise fun s' s => ClosedStays s s' := by
    refine World.pairwise_of_chain hc (fun s s' hcommit => ?_) fun _ _ _ h h' => RowsKept.trans (fun h h' => h' ∘ h) h h'
    by_cases hne : s' = s
    · rw [hne]
      exact .refl (fun _ h => h) _
    · exact hcommit.closed fun held hg => hg.2 hne
  refine hclosed.imp fun hstays id e he hclosed => ?_
  obtain ⟨e',he',hkept⟩ := hstays id e he
  exact ⟨e',he',hkept hclosed⟩

/-- The ids are fresh and the copies of open epochs are copies of open ones. -/
def copiesCurrent (s : AgentStore) (held : Held) (s' : AgentStore) : Bool :=
  idsFresh s held s' && held.epochs.all fun e => e.closedAt ≠ none || (s.epochs.get? e.id).all (·.closedAt = none)

theorem openCopies_of_current (s : AgentStore) (held : Held) (s' : AgentStore) (h : copiesCurrent s held s' = true) :
    FreshIds s held s' ∧ OpenCopies s held s' := by
  simp only [copiesCurrent,Bool.and_eq_true] at h
  constructor
  · exact (freshIds_of_idsFresh s held s' h.1).1
  · intro _ e he hopen row hrow
    simpa [hopen,hrow] using List.all_eq_true.mp h.2 e he

/-- The relay, and a handoff after it that stores its package. -/
def relayedTwice : List (Move AgentStore Held Answer AgentError Unit) :=
  relayed 0 ++ [.start (relayHandoff.program relayConfig)] ++ World.steps 2 32 (relayAnswers 3 "c")

theorem closed_epochs_stay_closed_relay : ∃ w : ManagerWorld, ∃ s ∈ w.trace.past,
    (s.epochs.get? "epoch.1").map (·.closedAt) = some (some 2) ∧ s.handoffs.get? "handoff.c" = none ∧
    (w.trace.store.handoffs.get? "handoff.c").isSome = true ∧
    (w.trace.store.epochs.get? "epoch.1").map (·.closedAt) = some (some 2) ∧ ClosedForGood w := by
  have hallowed : ∀ mv ∈ relayedTwice, mv.Allowed (managerSystem ManagerCall.closesEpochs OpenCopies) := by
    simp only [relayedTwice,List.forall_mem_append]
    exact ⟨⟨relayed_allowed 0,relayHandoff.allowed trivial _⟩,World.allowed_steps _ _ _⟩
  have hplay : ((World.init relayStore).play validAnswer copiesCurrent relayedTwice).any (fun w =>
      w.trace.past.any (fun s => decide ((s.epochs.get? "epoch.1").map (·.closedAt) = some (some 2)) &&
        (s.handoffs.get? "handoff.c").isNone) &&
      ((w.trace.store.handoffs.get? "handoff.c").isSome &&
        decide ((w.trace.store.epochs.get? "epoch.1").map (·.closedAt) = some (some 2)))) = true := by decide +kernel
  obtain ⟨w,hw,hc⟩ := exists_relayWorld openCopies_of_current hallowed hplay
  simp only [Bool.and_eq_true,decide_eq_true_eq,List.any_eq_true,Option.isNone_iff_eq_none] at hc
  obtain ⟨⟨s,hs,hclosed,hnone⟩,hstored,hkept⟩ := hc
  exact ⟨w,s,hs,hclosed,hnone,hstored,hkept,closed_epochs_stay_closed relayStore_ok hw⟩

/-- Without the restriction a closed epoch is opened. A recovery has loaded the blocked
epoch and waits for its provider; another recovery resumes the epoch and a handoff
replaces and closes it; then the first recovery stores its copy. -/
theorem closed_epoch_reopened : ∃ w : ManagerWorld,
    World.Reachable (managerSystem ManagerCall.closesEpochs fun _ _ _ => True) (World.init relayStore) w ∧
    ¬ ClosedForGood w := by
  have hallowed : ∀ mv ∈ [Move.start (relayRecover.program relayConfig)] ++
      World.steps 0 6 (relayAnswers 1 "c") ++ relayed 1 ++ World.steps 0 4 (relayAnswers 3 "d"),
      mv.Allowed (managerSystem ManagerCall.closesEpochs fun _ _ _ => True) := by
    simp only [List.forall_mem_append]
    and_intros
    · exact relayRecover.allowed trivial _
    · exact World.allowed_steps _ _ _
    · exact relayed_allowed 1
    · exact World.allowed_steps _ _ _
  have hplay : ((World.init relayStore).play validAnswer idsFresh
      ([Move.start (relayRecover.program relayConfig)] ++
        World.steps 0 6 (relayAnswers 1 "c") ++ relayed 1 ++ World.steps 0 4 (relayAnswers 3 "d"))).any (fun w =>
      decide ((w.trace.store.epochs.get? "epoch.1").map (·.closedAt) = some none) &&
      w.trace.past.any fun s => decide ((s.epochs.get? "epoch.1").map (·.closedAt) = some (some 2))) = true := by
    decide +kernel
  obtain ⟨w,hw,hc⟩ := exists_relayWorld freshIds_of_idsFresh hallowed hplay
  refine ⟨w,hw,fun hclosed => ?_⟩
  simp only [Bool.and_eq_true,decide_eq_true_eq,List.any_eq_true,Option.map_eq_some_iff] at hc
  obtain ⟨⟨e,he,hopen⟩,s,hs,e₀,he₀,hclosed₀⟩ := hc
  obtain ⟨e',he',hne⟩ := (List.pairwise_cons.mp hclosed).1 s hs "epoch.1" e₀ he₀ (by simp [hclosed₀])
  obtain rfl : e = e' := by simpa [he] using he'
  exact hne hopen

end Overseer.Agent
