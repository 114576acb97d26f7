import Overseer.Agent.Outside

/-! # The managers keep the handoff records

Every operation of the manager keeps the discipline of the handoff records, also
while other managers run theirs. A manager works from copies it loaded before its
transactions; what makes that safe is that identities and results never change.
-/
namespace Overseer.Agent
open Overseer.Library
open Discipline

variable {calls : ManagerCall → Prop} {guard : AgentStore → Held → AgentStore → Prop} {s s' u : AgentStore}

/-- A commit that rewrites rows is one of the discipline. -/
theorem HandoffOk.commit (hs : HandoffOk s) (h : Rewritten s s')
    (sessions : RowsKept KeepsExternal s.sessions s'.sessions)
    (transitions : ∀ x, TransitionMove s s' (s.transitions.get? x) (s'.transitions.get? x))
    (closed : (∀ held, guard s held s' → held.StillOpen s) → ClosedStays s s') :
    Commit guard s s' ∧ HandoffOk s' :=
  ⟨⟨h.results,sessions,h.epochs,h.handoffs,transitions,closed⟩,hs.rewritten h⟩

/-- The packages and the transitions of a store are rewritten by themselves. -/
theorem HandoffOk.rewritten_of_eq (hs : HandoffOk s) (hh : s'.handoffs = s.handoffs)
    (ht : s'.transitions = s.transitions) (results : Grew s.results s'.results)
    (epochs : RowsKept SameEpoch s.epochs s'.epochs) (epochsFiled : Dict.Filed DriverEpoch.id s'.epochs)
    (sessionsFiled : Dict.Filed AgentSession.id s'.sessions) : Rewritten s s' where
  sessionsFiled := sessionsFiled
  results := results
  epochs := epochs
  epochsFiled := epochsFiled
  handoffs := hh ▸ .refl SamePackage.refl _
  handoffRows k p hp := by
    rw [hh] at hp
    refine ⟨p,hp,.refl p,fun id hid => ?_⟩
    obtain ⟨r,hr,hdriver⟩ := hs.imported k p hp id hid
    exact ⟨r,results _ _ hr,hdriver⟩
  transitionRows x t hx := by
    rw [ht] at hx
    exact ⟨hs.transitions x t hx,t,hx,rfl,rfl,rfl⟩

instance : Tolerant (handoffDiscipline calls guard) where
  untouched s s' (hs : HandoffOk s) h := by
    have hrew := hs.rewritten_of_eq h.handoffs h.transitions h.results (h.epochs ▸ .refl SameEpoch.refl _)
      (h.epochs ▸ hs.epochs) (h.sessionsFiled hs.sessions)
    refine hs.commit hrew h.sessions (fun x => h.transitions ▸ .idle _) fun _ => ?_
    rw [ClosedStays,h.epochs]
    exact .refl (fun _ h => h) _
  results _ _ _ h := h.results

section After
variable (h : (handoffDiscipline calls guard).After u s)
include h

theorem after_rows {α : Type} {R : α → α → Prop} (rows : AgentStore → Dict α) (hrefl : ∀ v, R v v)
    (htrans : ∀ {a b c}, R a b → R b c → R a c)
    (hstep : ∀ s s', Commit (managerSystem calls guard).guard s s' → RowsKept R (rows s) (rows s')) :
    RowsKept R (rows u) (rows s) := by
  refine h.lift (L := fun s s' => RowsKept R (rows s) (rows s')) (fun _ => .refl hrefl _) ?_ fun s s' _ => hstep s s'
  intro a b c h₁ h₂
  exact RowsKept.trans htrans h₁ h₂

theorem after_epochs : RowsKept SameEpoch u.epochs s.epochs :=
  after_rows h AgentStore.epochs SameEpoch.refl SameEpoch.trans fun _ _ hc => hc.epochs

theorem after_sessions : RowsKept KeepsExternal u.sessions s.sessions :=
  after_rows h AgentStore.sessions KeepsExternal.refl KeepsExternal.trans fun _ _ hc => hc.sessions

theorem after_handoffs : RowsKept SamePackage u.handoffs s.handoffs :=
  after_rows h AgentStore.handoffs SamePackage.refl SamePackage.trans fun _ _ hc => hc.handoffs

end After

section Loads
variable {D : Discipline AgentStore Held Answer AgentError Unit} {α β : Type} {Ret : β → AgentStore → Prop}
  (T : Table α) {id : String}

theorem from_load_bind {f : α → AgentProg β}
    (h : ∀ s r, D.After u s → D.ok s → (T.rows s).get? id = some r → D.From Ret (f r) s) :
    D.From Ret (loadAgentRecord T id >>= f) u := by
  refine from_bind (M := fun r s => D.After u s ∧ D.ok s ∧ (T.rows s).get? id = some r) ?_ ?_
  · refine from_read_bind fun s hs hok => (from_orRaise _ _).mono ?_
    rintro r u' - ⟨rfl,hr⟩
    exact ⟨hs,hok,hr⟩
  · rintro r s - ⟨hs,hok,hr⟩
    exact h s r hs hok hr

omit T in
theorem from_loadTransition_bind {x : String} {f : AgentInstanceTransition → AgentProg β}
    (h : ∀ s t, D.After u s → D.ok s → s.transitions.get? x = some t → D.From Ret (f t) s) :
    D.From Ret (loadAgentTransition x >>= f) u := by
  refine from_bind (M := fun t s => D.After u s ∧ D.ok s ∧ s.transitions.get? x = some t) ?_ ?_
  · refine from_read_bind fun s hs hok => (from_orRaise _ _).mono ?_
    rintro t u' - ⟨rfl,ht⟩
    exact ⟨hs,hok,ht⟩
  · rintro t s - ⟨hs,hok,ht⟩
    exact h s t hs hok ht

theorem unlessMissing_load : (unlessMissing (loadAgentRecord T id) : AgentProg (Option α)) =
    Prog.transaction default (Tx.read fun s => (T.rows s).get? id) := by
  have hk : ∀ o : Option α, ((orRaise o (keyError id) : AgentProg α).bind fun r => .ret (some r)).handle
      (fun e => if e.kind = .key then .ret none else .fail e) = .ret o := by
    intro o
    cases o <;> rfl
  exact congrArg (Prog.tx default fun s => s) (funext fun s => hk _)

theorem from_unlessMissing_bind {f : Option α → AgentProg β}
    (h : ∀ s, D.After u s → D.ok s → D.From Ret (f ((T.rows s).get? id)) s) :
    D.From Ret (unlessMissing (loadAgentRecord T id) >>= f) u := by
  rw [unlessMissing_load]
  exact from_read_bind h

end Loads

/-! ### Epochs outside handoffs -/

theorem HandoffOk.putEpoch (hs : HandoffOk s) {e : DriverEpoch}
    (hsame : ∀ row, s.epochs.get? e.id = some row → SameEpoch row e) :
    Rewritten s (epochTable.put s e) :=
  hs.rewritten_of_eq rfl rfl (.refl _) (.set SameEpoch.refl hsame) (hs.epochs.set e) hs.sessions

theorem closedStays_put {e : DriverEpoch}
    (h : ∀ row, s.epochs.get? e.id = some row → row.closedAt ≠ none → e.closedAt ≠ none) :
    ClosedStays s (epochTable.put s e) := .set (fun _ h => h) h

/-- An epoch saved on its own: `closes` says why no closed epoch is opened. -/
theorem from_saveDriverEpoch (held : Held) (e : DriverEpoch)
    (closes : ∀ s s', FreshIds s held s' → held.StillOpen s → s' ≠ s →
      ∀ row, s.epochs.get? e.id = some row → row.closedAt ≠ none → e.closedAt ≠ none) :
    (handoffDiscipline calls guard).From (fun _ _ => True) (Prog.holding held (saveDriverEpoch e)) u := by
  have hcommit : ∀ s, HandoffOk s → (∀ row, s.epochs.get? e.id = some row → SameEpoch row e) →
      (managerSystem calls guard).guard s held (epochTable.put s e) →
      Commit (managerSystem calls guard).guard s (epochTable.put s e) ∧ HandoffOk (epochTable.put s e) := by
    intro s hs hsame hg
    refine hs.commit (hs.putEpoch hsame) (.refl KeepsExternal.refl _) (fun _ => .idle _) fun hopen => ?_
    by_cases heq : epochTable.put s e = s
    · rw [heq]
      exact .refl (fun _ h => h) _
    · exact closedStays_put (closes s _ hg.1 (hopen held hg) heq)
  refine from_holding_bind (M := fun _ _ => True) ?_ fun _ u₁ _ _ => ?_
  · have hcheck : Reads (rejectAgentSecondaryCollision epochTable e "driver epoch instance_id and ordinal") := by
      unfold rejectAgentSecondaryCollision
      refine @Prog.bind_quiet _ _ _ _ _ _ _ _ _ _ _ _ fun row => ?_
      cases row <;> infer_instance
    exact from_reads
  · refine from_holding_bind (M := fun o s₁ => o = s₁.epochs.get? e.id) (from_holding_atomically ?_) ?_
    · exact from_read fun s₁ _ _ => rfl
    · rintro o s₁ - rfl
      cases hrow : s₁.epochs.get? e.id with
      | some existing =>
        refine from_holding_bind (from_holding_require _) ?_
        rintro - s₂ - ⟨rfl,hid⟩
        refine from_holding_atomically (from_transaction fun s hs hok a s' hrun hg => ?_)
        rcases update_cases epochTable hrun with ⟨-,rfl⟩ | ⟨-,-,rfl⟩
        · exact ⟨.refl _ _,hok,trivial⟩
        · have hsame : ∀ row, s.epochs.get? e.id = some row → SameEpoch row e := fun row hnow => by
            obtain ⟨row',hrow',hsame⟩ := after_epochs hs _ _ hrow
            obtain rfl : row' = row := Option.some.inj (hrow'.symm.trans hnow)
            exact hsame.symm.trans (sameEpoch_of_identity hid)
          obtain ⟨hstep,hok'⟩ := hcommit s hok hsame hg
          exact ⟨hstep,hok',trivial⟩
      | none =>
        refine from_holding_atomically (from_transaction fun s hs hok a s' hrun hg => ?_)
        obtain ⟨hn,-,-,rfl⟩ := insert_cases epochTable hrun
        obtain ⟨hstep,hok'⟩ := hcommit s hok (fun row hnow => by
          rw [show s.epochs.get? e.id = none from hn] at hnow
          cases hnow) hg
        exact ⟨hstep,hok',trivial⟩

theorem mem_ids_of_epoch {id : String} {e : DriverEpoch} (h : s.epochs.get? id = some e) : id ∈ s.ids := by
  have hkey : id ∈ s.epochs.keys := (s.epochs.mem_keys_iff id).mpr ⟨e,h⟩
  simp [AgentStore.ids,hkey]

/-- Opening an epoch for a session that is stored: no session is written. -/
theorem from_openEpoch (cfg : Config) (x providerId sessionId reason by_ : String) (external : Option String)
    (state : AgentOperationState) (draws : EpochDraws) (hsession : ∃ a, u.sessions.get? sessionId = some a) :
    (handoffDiscipline calls guard).From (fun _ _ => True) (Prog.holding { fresh := [draws.id] }
      (openEpoch cfg x providerId (some sessionId) external reason by_ state true draws)) u := by
  obtain ⟨a,ha⟩ := hsession
  refine from_holding_bind from_reads fun profile u₁ hu₁ _ => ?_
  refine from_holding_bind from_reads fun epochs u₂ hu₂ _ => ?_
  refine from_holding_bind (M := fun _ _ => True) ?_ fun _ u₃ _ _ => ?_
  · refine from_holding_bind (M := fun o s => o = (sessionTable.rows s).get? sessionId ∧
      (handoffDiscipline calls guard).After u₂ s) ?_ ?_
    · have hload : (unlessMissing (loadAgentSession sessionId) : AgentProg _) = _ := unlessMissing_load sessionTable
      rw [Option.getD_some,hload,Prog.holding_transaction]
      exact from_read fun s hs _ => ⟨rfl,hs⟩
    · rintro o s - ⟨rfl,hs⟩
      obtain ⟨b,hb,-⟩ := after_sessions (hu₁.trans (hu₂.trans hs)) _ _ ha
      rw [show (sessionTable.rows s).get? sessionId = some b from hb]
      trivial
  · rw [if_pos rfl]
    refine from_holding_bind from_reads fun _ u₄ _ _ => ?_
    refine from_holding_bind (from_holding_require _) ?_
    rintro - u₅ - -
    refine from_holding_bind (from_saveDriverEpoch _ _ ?_) fun _ u₆ _ _ => trivial
    intro s s' hfresh _ hne row hrow _
    exact absurd (mem_ids_of_epoch hrow) (hfresh hne _ (by simp))

theorem from_closeStale (activeId : String) (stale : List DriverEpoch) :
    (handoffDiscipline calls guard).From (fun _ _ => True) (closeStale activeId stale) u := by
  induction stale generalizing u with
  | nil => trivial
  | cons e rest ih =>
    rw [closeStale]
    split
    · refine from_sound_bind fun closedAt u₁ _ => ?_
      refine from_bind (from_saveDriverEpoch _ _ ?_) fun _ u₂ _ _ => ih
      intro _ _ _ _ _ _ _ _
      simp
    · exact ih

theorem from_resumeEpoch (cfg : Config) (driver : AgentProvider) (session : AgentSession) (x by_ : String)
    (active : Option DriverEpoch) (hsession : ∃ a, u.sessions.get? session.id = some a) :
    (handoffDiscipline calls guard).From (fun _ _ => True) (resumeEpoch cfg driver session x by_ active) u := by
  rw [resumeEpoch]
  refine from_sound_bind fun answer u₁ hu₁ => ?_
  refine from_orRaise_bind fun result _ => from_require_bind fun _ => ?_
  cases active with
  | some active =>
    refine from_bind (from_saveDriverEpoch _ _ ?_) fun _ u₂ _ _ => trivial
    intro s s' _ hopen _ row hrow hclosed hnone
    exact hclosed (hopen active (by simp) hnone row hrow)
  | none =>
    refine from_sound_bind fun draws u₂ hu₂ => from_openEpoch _ _ _ _ _ _ _ _ _ ?_
    obtain ⟨a,ha⟩ := hsession
    obtain ⟨b,hb,-⟩ := after_sessions (hu₁.trans hu₂) _ _ ha
    exact ⟨b,hb⟩

instance (cfg : Config) (sessionId by_ : String) : (handoffDiscipline calls guard).Sound (recover cfg sessionId by_) := by
  refine ⟨fun u => ?_⟩
  refine from_load_bind sessionTable fun s₁ session _ hok hsession => ?_
  have hid : session.id = sessionId := hok.sessions _ _ hsession
  have hrow : ∀ u, (handoffDiscipline calls guard).After s₁ u → ∃ a, u.sessions.get? session.id = some a := by
    intro u hu
    obtain ⟨b,hb,-⟩ := after_sessions hu _ _ hsession
    exact ⟨b,hid ▸ hb⟩
  refine from_orRaise_bind fun x _ => from_sound_bind fun _ u₁ hu₁ => from_sound_bind fun _ u₂ hu₂ => ?_
  refine from_sound_bind fun driver u₃ hu₃ => from_sound_bind fun epochs u₄ hu₄ => ?_
  have hu := hu₁.trans (hu₂.trans (hu₃.trans hu₄))
  cases epochs with
  | nil => exact from_resumeEpoch _ _ _ _ _ _ (hrow _ hu)
  | cons first rest =>
    have hlast : ∀ (active : DriverEpoch) u, (handoffDiscipline calls guard).After s₁ u →
        (handoffDiscipline calls guard).From (fun _ _ => True) (if active.state ∈ dispatchableStates then pure active
          else if active.sessionId ≠ session.id then pure active
          else resumeEpoch cfg driver session x by_ (some active)) u := by
      intro active u hu
      split
      · trivial
      · split
        · trivial
        · exact from_resumeEpoch _ _ _ _ _ _ (hrow _ hu)
    dsimp only
    split
    · exact from_bind (from_closeStale _ _) fun _ u₅ hu₅ _ => hlast _ _ (hu.trans hu₅)
    · exact hlast _ _ hu

end Overseer.Agent
