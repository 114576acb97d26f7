import Overseer.Agent.DispatchCallers

/-! # The fence owner keeps the protocol

Reserving and releasing leave the dispatches alone. Draining writes rows back as
cancelled while they are in flight, and returns only after it has seen the
instance quiescent behind its own fence.
-/
namespace Overseer.Agent
open Overseer.Library
open Protocol (safe_bind safe_read safe_commit)

variable {strict : Prop} {i : ℕ} {t : AgentTrace} {F : AgentTrace → Prop} {α : Type}

/-- What a cancellation does: each row stays or becomes cancelled. -/
structure Cancels (s s' : AgentStore) : Prop where
  ok : DispatchOk s'
  before : DispatchBefore s s'
  settled : SettledBefore s s'
  inserted : ∀ id, s.dispatches.get? id = none → s'.dispatches.get? id = none
  rows : ∀ id d, s.dispatches.get? id = some d → s'.dispatches.get? id = some d ∨
    ∃ d', s'.dispatches.get? id = some d' ∧ d'.status = some (.str "cancelled")

theorem Cancels.refl {s : AgentStore} (h : DispatchOk s) : Cancels s s :=
  ⟨h,.refl s,.of_same rfl,fun _ h => h,fun _ _ h => .inl h⟩

theorem Cancels.trans {s s' s'' : AgentStore} (h : Cancels s s') (h' : Cancels s' s'') : Cancels s s'' where
  ok := h'.ok
  before := h.before.trans h'.before
  settled := h.settled.trans h'.settled
  inserted id hn := h'.inserted id (h.inserted id hn)
  rows id d hd := by
    rcases h.rows id d hd with hd' | ⟨d',hd',hst⟩
    · exact h'.rows id d hd'
    · rcases h'.rows id d' hd' with hd'' | hd''
      · exact .inr ⟨d',hd'',hst⟩
      · exact .inr hd''

/-- The row of `d` is there with the same identity and generation. -/
def Present (s : AgentStore) (d : AgentDispatchRequest) : Prop := ∃ d₀, s.dispatches.get? d.id = some d₀ ∧
  SameDispatch d₀ d ∧ d.boundGeneration = d₀.boundGeneration

theorem cancels_put {s : AgentStore} {d : AgentDispatchRequest} (hok : DispatchOk s) (h : Present s d) :
    Cancels s (dispatchTable.put s (d.withStatus "cancelled")) := by
  obtain ⟨d₀,hd₀,hs,hg⟩ := h
  have hst := status_withStatus d "cancelled"
  have hrow : s.dispatches.get? (d.withStatus "cancelled").id = some d₀ := hd₀
  have hsame : SameDispatch d₀ (d.withStatus "cancelled") := hs.trans (same_withStatus d _)
  have hset : (d.withStatus "cancelled").stopped ∧ (d.withStatus "cancelled").terminal :=
    stopped_of_status .cancelled hst (.inl rfl)
  refine ⟨hok.update hrow hsame,.update hrow hsame ?_ ?_ ?_,fun id e he => ?_,fun id hn => ?_,fun id e he => ?_⟩
  · rw [boundGeneration_withStatus,hg]
  · intro ha
    simp [AgentDispatchRequest.accepted,hst] at ha
  · intro he
    simp [AgentDispatchRequest.executing,hst] at he
  all_goals rw [put_dispatches,Dict.get?_set]
  · split
    · exact ⟨_,rfl,fun _ => hset.1,fun _ => hset.2⟩
    · exact ⟨e,he,fun h => h,fun h => h⟩
  · rw [if_neg fun h : id = _ => by simp [h,hrow] at hn]
    exact hn
  · split
    · exact .inr ⟨_,rfl,hst⟩
    · exact .inl he

theorem Cancels.present {s s' : AgentStore} (h : Cancels s s') {d : AgentDispatchRequest} (hd : Present s d) :
    Present s' d := by
  obtain ⟨d₀,hd₀,hs,hg⟩ := hd
  obtain ⟨d₁,hd₁,hr⟩ := h.before.rows _ d₀ hd₀
  exact ⟨d₁,hd₁,hr.same.symm.trans hs,hg.trans hr.generation.symm⟩

theorem post_cancelEach {s : AgentStore} (l : List AgentDispatchRequest) (hok : DispatchOk s)
    (hl : ∀ d ∈ l, Present s d) : Tx.Post (cancelEach l : AgentTx Unit) s fun _ s' => Cancels s s' := by
  induction l generalizing s with
  | nil => exact .refl hok
  | cons d rest ih =>
    rw [cancelEach,Tx.post_bind]
    refine (post_saveAgentDispatch _ s).mono ?_
    rintro _ _ ⟨rfl,-⟩
    have hput := cancels_put hok (hl d List.mem_cons_self)
    exact (ih hput.ok fun e he => hput.present (hl e (List.mem_cons_of_mem _ he))).mono fun _ _ h => hput.trans h

theorem present_of_sorted {s : AgentStore} (hok : DispatchOk s) {d : AgentDispatchRequest}
    (hd : d ∈ dispatchTable.sorted s) : Present s d := by
  obtain ⟨k,hk⟩ := (mem_sorted dispatchTable s d).mp hd
  have hid := hok.filed k d hk
  exact ⟨d,hid ▸ hk,.refl d,rfl⟩

/-- A transaction that checks the reservation and cancels some of the dispatches in flight. -/
theorem post_cancelSome {s : AgentStore} (hok : DispatchOk s) (r : AgentOperationReservation) (e : AgentError)
    (f : List AgentDispatchRequest → List AgentDispatchRequest) (hf : ∀ l d, d ∈ f l → d ∈ l) :
    Tx.Post (do
      let current ← loadAgentOperation r.instanceId
      require (current = r) e
      let waiting ← inflight r
      cancelEach (f waiting) : AgentTx Unit) s fun _ s' => Cancels s s' := by
  simp only [Tx.post_bind,post_loadAgentOperation,Tx.post_require,inflight,listAgentDispatches,listAgentRecords,
    Tx.post_atomically,Tx.post_read,Tx.post_pure]
  intro row _ _
  exact post_cancelEach _ hok fun d hd => present_of_sorted hok (List.mem_filter.mp (hf _ d hd)).1

theorem sound_cancels (hF : ∀ t t', t.Extends t' → F t → F t') {tx : AgentTx Unit}
    (htx : ∀ s, DispatchOk s → Tx.Post tx s fun _ s' => Cancels s s') (ht : F t) :
    Sound strict i (fun _ => F) (atomically tx) t := by
  have hk : Knows strict i F := .of_extends hF
  refine safe_commit calm hk.lasting ht (fun t' hi hF' a s' hrun _ => ?_) fun _ _ _ _ => trivial
  have hc := (htx _ (hi.ok _ t'.store_mem_history)).of_ok hrun
  refine ⟨⟨fun id hn hs => absurd (hc.inserted id hn) hs,fun _ id d hd _ => hc.rows id d hd⟩,?_,?_⟩
  · exact hi.commit hc.ok hc.before fun _ => hc.settled
  · exact fun t'' hl => hk.lasting.later hl (hF _ _ (Trace.extends_commit t' s') hF')

theorem sound_cancelUnclaimed (hF : ∀ t t', t.Extends t' → F t → F t') (r : AgentOperationReservation) (ht : F t) :
    Sound strict i (fun _ => F) (cancelUnclaimed r) t :=
  sound_cancels hF (fun _ hok => post_cancelSome hok r _ (fun l => l.filter _) fun _ _ h => (List.mem_filter.mp h).1) ht

theorem sound_cancelInflight (hF : ∀ t t', t.Extends t' → F t → F t') (r : AgentOperationReservation) (ht : F t) :
    Sound strict i (fun _ => F) (cancelInflight r) t :=
  sound_cancels hF (fun _ hok => post_cancelSome hok r _ (fun l => l) fun _ _ h => h) ht

instance (driver : AgentProvider) (session : AgentSession) :
    Prog.Silent AgentQuery.special (ask (.cancel driver session)) := ⟨Prog.asks_ask id⟩

theorem sound_cancelAndVerify (hF : ∀ t t', t.Extends t' → F t → F t') (r : AgentOperationReservation)
    (driver : AgentProvider) (session : AgentSession) (ht : F t) :
    Sound strict i (fun _ => F) (cancelAndVerify r driver session) t := by
  have hk : Knows strict i F := .of_extends hF
  refine safe_bind (sound_reads hk _ ht) fun _ t₁ _ _ h₁ => ?_
  refine safe_bind (sound_frame hk (Prog.steps_ask _) h₁) fun _ t₂ _ _ h₂ => ?_
  refine safe_bind (sound_reads hk _ h₂) fun _ t₃ _ _ h₃ => ?_
  refine safe_bind (sound_reads hk _ h₃) fun _ t₄ _ _ h₄ => ?_
  exact safe_bind (sound_cancelInflight hF r h₄) fun _ t₅ _ _ h₅ t₆ hl => hk.lasting.later hl h₅

/-- A state behind the fence of `r` without a dispatch in flight. -/
structure Quiesced (r : AgentOperationReservation) (s : AgentStore) : Prop where
  fenced : ∃ row, s.operations.get? r.instanceId = some row ∧ r.generation ≤ row.generation ∧
    (row.generation = r.generation → row.state = .fenced)
  drained : ∀ id d, s.dispatches.get? id = some d → isInflight r d = false

/-- The reservation was made some time ago. -/
def Reserved (r : AgentOperationReservation) (t : AgentTrace) : Prop :=
  ∃ s ∈ t.history, ∃ row, s.operations.get? r.instanceId = some row ∧ row.generation = r.generation ∧
    row.state = .fenced

theorem Reserved.extends {r : AgentOperationReservation} {t t' : AgentTrace} (he : t.Extends t')
    (h : Reserved r t) : Reserved r t' := by
  obtain ⟨s,hs,hrow⟩ := h
  exact ⟨s,he.1 hs,hrow⟩

theorem Reserved.fenced {r : AgentOperationReservation} (h : Reserved r t) (hi : DispatchInv strict t) :
    ∃ row, t.store.operations.get? r.instanceId = some row ∧ r.generation ≤ row.generation ∧
      (row.generation = r.generation → row.state = .fenced) := by
  obtain ⟨s,hs,row,hrow,hg,hf⟩ := h
  obtain ⟨row',hrow',hlt⟩ := (hi.seen hs).fence _ row hrow
  refine ⟨row',hrow',by omega,fun heq => ?_⟩
  rcases hlt with hlt | ⟨-,hsame⟩
  · omega
  · exact (hsame hf).1

/-- The instance was seen quiescent behind the fence. -/
def SeenQuiesced (r : AgentOperationReservation) (t : AgentTrace) : Prop := ∃ s ∈ t.history, Quiesced r s

theorem SeenQuiesced.extends {r : AgentOperationReservation} {t t' : AgentTrace} (he : t.Extends t')
    (h : SeenQuiesced r t) : SeenQuiesced r t' := by
  obtain ⟨s,hs,hq⟩ := h
  exact ⟨s,he.1 hs,hq⟩

theorem sound_verifyQuiescent (r : AgentOperationReservation) (h : Reserved r t) :
    Sound strict i (fun _ t' => SeenQuiesced r t') (verifyQuiescent r) t := by
  have hk : Knows strict i (Reserved r) := .of_extends fun _ _ => Reserved.extends
  refine safe_bind (M := fun l t' => l = [] → SeenQuiesced r t') ?_ fun l t₁ _ _ h₁ => ?_
  · refine safe_bind (M := fun l t' => l.filter (isInflight r) = [] → SeenQuiesced r t') ?_ ?_
    · refine safe_read calm hk.lasting h fun t' hi hF t'' _ hl hnil => ⟨t'.store,?_,hF.fenced hi,fun id d hd => ?_⟩
      · exact hl.extends.1 (List.mem_cons_of_mem _ t'.store_mem_history)
      · have := List.filter_eq_nil_iff.mp hnil d ((mem_sorted dispatchTable _ d).mpr ⟨id,hd⟩)
        simpa using this
    · exact fun l t₁ _ _ h₁ t₂ hl hnil => (h₁ hnil).extends hl.extends
  · unfold require
    split
    · next hnil => exact fun t₂ hl => (h₁ hnil).extends hl.extends
    · exact fun _ _ => trivial

theorem sound_drain {Ret : Unit → AgentTrace → Prop} (hF : ∀ t t', t.Extends t' → F t → F t')
    (r : AgentOperationReservation) (driver : AgentProvider) (session : AgentSession) (ht : F t)
    (hverify : ∀ t', F t' → Sound strict i Ret (verifyQuiescent r) t') :
    Sound strict i Ret (drain r driver session) t := by
  have hk : Knows strict i F := .of_extends hF
  refine safe_bind (sound_cancelUnclaimed hF r ht) fun _ t₁ _ _ h₁ => ?_
  refine safe_bind (sound_reads hk _ h₁) fun polls t₂ _ _ h₂ => ?_
  refine safe_bind (sound_reads hk _ h₂) fun _ t₃ _ _ h₃ => ?_
  refine safe_bind (sound_reads hk _ h₃) fun waiting t₄ _ _ h₄ => ?_
  split
  · refine safe_bind (sound_cancelAndVerify hF r driver session h₄) fun _ t₅ _ _ h₅ => ?_
    exact hverify t₅ h₅
  · exact hverify t₄ h₄

theorem ensureOperation_dispatches (s : AgentStore) (x : String) (at_ : Timestamp) :
    (s.ensureOperation x at_).dispatches = s.dispatches := by
  unfold AgentStore.ensureOperation
  split <;> rfl

theorem sound_reserve (x token : String) (a b : Timestamp) :
    Sound strict i (fun r t' => Reserved r t') (reserve x token a b) t := by
  refine safe_commit calm (Knows.true (i := i)).lasting trivial (fun t' hi _ r s' hrun _ => ?_) fun _ _ _ _ => trivial
  have hok := hi.ok _ t'.store_mem_history
  have hkept := reserve_kept x token a b t'.store
  have hn : (reserve x token a b : AgentTx _).next t'.store = s' := by
    unfold Tx.next
    rw [show (reserve x token a b : AgentTx _) t'.store = _ from hrun]
  rw [hn] at hkept
  obtain ⟨rfl,hst,-,rfl,-⟩ := (post_reserve x token a b t'.store hok.fence).of_ok hrun
  have hd : ((t'.store.ensureOperation r.instanceId a).putOperation r).dispatches = t'.store.dispatches :=
    ensureOperation_dispatches _ _ _
  obtain ⟨hp,hi'⟩ := frame_promise (i := i) hi (show frameRel _ default _ from ⟨hd,hkept⟩)
  refine ⟨hp,hi',fun t'' hl => ⟨_,hl.extends.1 List.mem_cons_self,⟨r.generation,r.state,r.ownerToken,r⟩,?_,rfl,hst⟩⟩
  simp [AgentStore.putOperation]

theorem releaseRel_frame {r : AgentOperationReservation} {s s' : AgentStore} {held : Held}
    (h : releaseRel r s held s') : frameRel s held s' := by
  refine ⟨?_,releaseRel_kept h⟩
  rcases h with rfl | ⟨-,at_,rfl⟩ <;> rfl

instance (r : AgentOperationReservation) (at_ : Timestamp) {isIt : AgentQuery → Prop} :
    Prog.Silent isIt (release r at_ : AgentProg _) := by
  unfold release saveAgentOperation
  infer_instance

instance (r : AgentOperationReservation) (at_ : Timestamp) {isIt : AgentQuery → Prop} :
    Prog.Silent isIt (releaseIfOwned r at_ : AgentProg _) := by
  unfold releaseIfOwned
  infer_instance

/-- Every call keeps the protocol, and an owner that returns has seen its instance quiescent. -/
theorem DispatchCall.sound (c : DispatchCall) :
    Sound strict i (fun o t' => ∀ r, o = some r → SeenQuiesced r t') c.program t := by
  have hnone : ∀ {β : Type} {p : AgentProg β} {t : AgentTrace}, Sound strict i (fun _ _ => True) p t →
      Sound strict i (fun o t' => ∀ r, o = some r → SeenQuiesced r t')
        (p >>= fun _ => (pure none : AgentProg (Option AgentOperationReservation))) t :=
    fun hp => safe_bind hp fun _ _ _ _ _ _ _ r hr => by cases hr
  cases c with
  | dispatch cfg x prompt key requestedBy => exact hnone (sound_dispatch cfg x prompt key requestedBy)
  | reserve x token =>
    refine safe_bind (sound_reads .true clock trivial) fun a t₁ _ _ _ => ?_
    refine safe_bind (sound_reads .true clock trivial) fun b t₂ _ _ _ => ?_
    exact hnone ((sound_reserve x token a b).imp fun _ _ _ _ _ => trivial)
  | release r =>
    refine safe_bind (sound_reads .true clock trivial) fun at_ t₁ _ _ _ => ?_
    exact hnone (sound_frame .true ((steps_release r at_).mono fun _ _ _ => releaseRel_frame) trivial)
  | releaseIfOwned r =>
    refine safe_bind (sound_reads .true clock trivial) fun at_ t₁ _ _ _ => ?_
    exact hnone (sound_frame .true ((steps_releaseIfOwned r at_).mono fun _ _ _ => releaseRel_frame) trivial)
  | drain r driver session =>
    exact hnone (sound_drain (F := fun _ => True) (fun _ _ _ h => h) r driver session trivial fun _ _ =>
      sound_reads .true _ trivial)
  | quiesce x token driver session =>
    refine safe_bind (sound_reads .true clock trivial) fun a t₁ _ _ _ => ?_
    refine safe_bind (sound_reads .true clock trivial) fun b t₂ _ _ _ => ?_
    refine safe_bind (sound_reserve x token a b) fun r t₃ _ _ h₃ => ?_
    refine safe_bind (sound_drain (fun _ _ => Reserved.extends) r driver session h₃ fun _ => sound_verifyQuiescent r)
      fun _ t₄ _ _ h₄ t₅ hl r' hr => ?_
    cases hr
    exact h₄.extends hl.extends

end Overseer.Agent
