import Overseer.Agent.DispatchProtocol
import Overseer.Agent.Tables

/-! # The dispatch caller keeps the protocol

Each part of `dispatch` in turn: the request gets an id of its own, its row is
inserted by this thread alone, the execution claim comes before the provider call,
and every write-back keeps the identity and the generation of the row.
-/
namespace Overseer.Agent
open Overseer.Library
open Protocol (safe_holding_bind safe_holding_atomically safe_bind safe_rescue safe_require safe_read safe_commit safe_ask)

variable {strict : Prop} {i : ℕ} {t : AgentTrace} {F : AgentTrace → Prop} {α : Type}

/-- Safe in the dispatch protocol, with nothing promised when an exception ends the program. -/
abbrev Sound (strict : Prop) (i : ℕ) (Ret : α → AgentTrace → Prop) (p : AgentProg α) (t : AgentTrace) : Prop :=
  (dispatchProtocol strict).Safe i Ret (fun _ _ => True) p t

theorem sound_of_safe {Ret : α → AgentTrace → Prop} {Err : AgentError → AgentTrace → Prop} {p : AgentProg α}
    (h : (dispatchProtocol strict).Safe i Ret Err p t) : Sound strict i Ret p t :=
  h.mono (fun _ _ _ _ hr => hr) fun _ _ _ _ _ => trivial

theorem Sound.imp {Ret Ret' : α → AgentTrace → Prop} {p : AgentProg α} (h : Sound strict i Ret p t)
    (hr : ∀ a t', t.Extends t' → DispatchInv strict t' → Ret a t' → Ret' a t') : Sound strict i Ret' p t :=
  h.mono hr fun _ _ _ _ _ => trivial

theorem sound_reads (hF : Knows strict i F) (p : AgentProg α) [Reads p] (ht : F t) :
    Sound strict i (fun _ => F) p t := sound_of_safe (safe_reads hF p ht)

theorem sound_frame (hF : Knows strict i F) {p : AgentProg α} [hp : Prog.Silent AgentQuery.special p]
    (hsteps : p.Steps frameRel) (ht : F t) : Sound strict i (fun _ => F) p t :=
  sound_of_safe (safe_frame hF hsteps hp.asks ht)

theorem sound_newId (hF : Knows strict i F) (tag : String) (ht : F t) :
    Sound strict i (fun x t' => F t' ∧ Unborn i x t') (newId tag) t := by
  refine safe_ask fun t' hl x hx => ⟨?_,fun t'' hl' => ?_⟩
  · refine hl.1.record (fun tag' x' hq => ?_) (fun driver request r hq => by cases hq)
    cases hq
    exact (of_decide_eq_true hx.1).1
  · have hnone : t'.store.dispatches.get? x = none := by
      by_contra hne
      obtain ⟨d,hd⟩ := Option.ne_none_iff_exists'.mp hne
      refine (of_decide_eq_true hx.1).2 ?_
      simp only [AgentStore.ids,List.mem_append]
      exact Or.inl (Or.inl (Or.inl (Or.inl (Or.inl (Or.inl (Or.inl (Or.inl (Or.inl
        ((Dict.mem_keys_iff _ x).mpr ⟨d,hd⟩)))))))))
    have hborn : Unborn i x (t'.record i (.newId tag) x) := ⟨issued_record.mpr (.inr ⟨rfl,tag,rfl⟩),hnone⟩
    exact ((hF.and (knows_unborn x)).lasting.later hl' ⟨hF.record t' _ _ (hF.lasting.later hl ht),hborn⟩)

/-- The dispatch was read under `F`, and what the thread knew then it still knows. -/
def LoadedUnder (strict : Prop) (i : ℕ) (F : AgentTrace → Prop) (id : String) (d : AgentDispatchRequest)
    (t : AgentTrace) : Prop :=
  ∃ t₀, DispatchInv strict t₀ ∧ F t₀ ∧ t₀.store.dispatches.get? id = some d ∧ ∀ G, Knows strict i G → G t₀ → G t

section Loaded
variable {x : String} {d : AgentDispatchRequest} (h : LoadedUnder strict i F x d t)
include h

theorem LoadedUnder.id : d.id = x := by
  obtain ⟨t₀,hi,-,hd,-⟩ := h
  exact (hi.ok _ t₀.store_mem_history).filed x d hd

theorem LoadedUnder.seen : Seen d t := by
  have hid := h.id
  obtain ⟨t₀,-,-,hd,hk⟩ := h
  exact hk _ (.of_extends fun _ _ he hs => hs.extends he) ⟨t₀.store,t₀.store_mem_history,hid ▸ hd⟩

end Loaded

theorem knows_loaded (id : String) (d : AgentDispatchRequest) : Knows strict i (LoadedUnder strict i F id d) where
  other t t' h hh := hh.imp fun _ h₀ => ⟨h₀.1,h₀.2.1,h₀.2.2.1,fun G hG hG₀ => hG.other t t' h (h₀.2.2.2 G hG hG₀)⟩
  commit t s h hh := hh.imp fun _ h₀ => ⟨h₀.1,h₀.2.1,h₀.2.2.1,fun G hG hG₀ => hG.commit t s h (h₀.2.2.2 G hG hG₀)⟩
  record t q a hh := hh.imp fun _ h₀ => ⟨h₀.1,h₀.2.1,h₀.2.2.1,fun G hG hG₀ => hG.record t q a (h₀.2.2.2 G hG hG₀)⟩

theorem safe_loadAgentDispatch (hF : Knows strict i F) (id : String) (ht : F t) :
    (dispatchProtocol strict).Safe i (fun d t' => F t' ∧ LoadedUnder strict i F id d t') (fun _ => F)
      (loadAgentDispatch id) t := by
  refine safe_bind (M := fun o t' => F t' ∧ ∀ d ∈ o, LoadedUnder strict i F id d t') ?_ ?_
  · refine safe_read calm hF.lasting ht fun t' hi hF' t'' hF'' hl => ⟨hF'',fun d hd => ?_⟩
    exact ⟨t',hi,hF',hd,fun G hG hG' => hG.lasting.later hl (hG.commit t' _ rfl hG')⟩
  · rintro (_ | d) t' - - ⟨hF',hd⟩
    · exact fun t'' hl => hF.lasting.later hl hF'
    · exact fun t'' hl => ⟨hF.lasting.later hl hF',(knows_loaded id d).lasting.later hl (hd d rfl)⟩

/-! ### Statements -/

/-- The unique-key check of a save reads only. -/
instance (T : Table α) (r : α) (label : String) : Reads (rejectAgentSecondaryCollision T r label) := by
  unfold rejectAgentSecondaryCollision
  refine @Prog.bind_quiet _ _ _ _ _ _ _ _ _ _ _ _ fun row => ?_
  cases row <;> infer_instance

/-- The thread writes a new version of a row that is there. -/
theorem update_promise {d d₀ : AgentDispatchRequest} (hi : DispatchInv strict t)
    (h₀ : t.store.dispatches.get? d.id = some d₀) (hs : SameDispatch d₀ d)
    (hg : d.boundGeneration = d₀.boundGeneration) (ha : ¬ d.accepted)
    (he : d.executing → d₀.executing ∨ OpenBetween t.store t.store d₀)
    (hset : strict → (d₀.stopped → d.stopped) ∧ (d₀.terminal → d.terminal)) (hown : strict → Issued t i d.id) :
    (dispatchProtocol strict).promise i t (dispatchTable.put t.store d) ∧
      DispatchInv strict (t.commit (dispatchTable.put t.store d)) := by
  refine ⟨⟨fun id hn hs' => ?_,fun hstrict id e hid hissued => .inl ?_⟩,?_⟩
  · rw [put_dispatches,Dict.get?_set] at hs'
    split at hs'
    · next hid => rw [hid,h₀] at hn; cases hn
    · exact absurd hn hs'
  · rw [put_dispatches,Dict.get?_set,if_neg fun hx : id = d.id => hissued (hx ▸ hown hstrict)]
    exact hid
  · refine hi.commit ((hi.ok _ t.store_mem_history).update h₀ hs)
      (.update h₀ hs hg (fun h => absurd h ha) he) fun hstrict id e hid => ?_
    rw [put_dispatches,Dict.get?_set]
    split
    · next hx =>
      obtain rfl : d₀ = e := by simpa [h₀,hx] using hid
      exact ⟨d.payload,rfl,(hset hstrict).1,(hset hstrict).2⟩
    · exact ⟨e,hid,fun h => h,fun h => h⟩

theorem ownRow_put {d : AgentDispatchRequest} {text : String} (hown : Issued t i d.id)
    (hst : d.status = some (.str text)) :
    OwnRow strict i d.id [text] (t.commit (dispatchTable.put t.store d)) := by
  refine ⟨hown,fun _ => ⟨d.payload,by simp,.inl ?_⟩⟩
  have : d.payload.status = some (.str text) := hst
  simp [this,statusIn]

/-- Saving a version worked out from `loaded`: it keeps identity and generation, and
in the strict system it is the thread's own row and never revives it. -/
theorem sound_writeBackDispatch {loaded updated : AgentDispatchRequest} {text : String}
    (hseen : Seen loaded t) (hs : SameDispatch loaded updated)
    (hg : updated.boundGeneration = loaded.boundGeneration) (ha : ¬ updated.accepted) (he : ¬ updated.executing)
    (hst : updated.status = some (.str text)) (hown : strict → Issued t i updated.id)
    (hset : strict → (loaded.stopped → updated.stopped) ∧ (loaded.terminal → updated.terminal)) :
    Sound strict i (fun _ t' => strict → OwnRow strict i updated.id [text] t') (writeBackDispatch loaded updated) t := by
  have hF : Knows strict i fun t' => Seen loaded t' ∧ (strict → Issued t' i updated.id) :=
    .of_extends fun t t' he h => ⟨h.1.extends he,fun hstrict => (h.2 hstrict).extends he⟩
  refine safe_holding_bind (sound_reads hF _ ⟨hseen,hown⟩) fun _ t₁ _ _ h₁ => ?_
  refine safe_holding_bind (M := fun o t' => (Seen loaded t' ∧ (strict → Issued t' i updated.id)) ∧ o ≠ none)
    (safe_holding_atomically ?_) ?_
  · refine safe_read calm hF.lasting h₁ fun t' hi hF' t'' hF'' _ => ⟨hF'',?_⟩
    obtain ⟨d',hd',-⟩ := hF'.1.row hi
    change t'.store.dispatches.get? updated.id ≠ none
    rw [← hs.id,hd']
    exact Option.some_ne_none d'
  · rintro (_ | existing) t₂ - - ⟨h₂,hne⟩
    · exact absurd rfl hne
    refine safe_holding_bind (sound_reads hF _ h₂) fun _ t₃ _ _ h₃ => safe_holding_atomically ?_
    refine safe_commit calm hF.lasting h₃ (fun t₄ hi ⟨hseen',hown'⟩ a s' hrun hguard => ?_) fun _ _ _ _ => trivial
    obtain ⟨d₀,hd₀,hs₀,hg₀⟩ := hseen'.row hi
    have hrow : t₄.store.dispatches.get? updated.id = some d₀ := hs.id ▸ hd₀
    obtain rfl : s' = dispatchTable.put t₄.store updated := by
      rcases update_cases dispatchTable hrun with ⟨hn,-⟩ | ⟨-,-,h⟩
      · exact absurd (hrow.symm.trans hn) (by simp)
      · exact h
    have hsettled : strict → (d₀.stopped → updated.stopped) ∧ (d₀.terminal → updated.terminal) := by
      intro hstrict
      by_cases hsame : dispatchTable.put t₄.store updated = t₄.store
      · have hd : updated.payload = d₀ := by
          rw [← hsame,put_dispatches,Dict.get?_set,if_pos rfl] at hrow
          exact Option.some.inj hrow
        exact hd ▸ ⟨fun h => h,fun h => h⟩
      · have hd := hguard hstrict hsame loaded (by simp)
        obtain rfl : loaded = d₀ := by simpa [hd₀] using hd.symm
        exact hset hstrict
    obtain ⟨hp,hi'⟩ := update_promise hi hrow (hs₀.symm.trans hs) (hg.trans hg₀.symm) ha
      (fun h => absurd h he) hsettled hown'
    exact ⟨hp,hi',fun t₅ hl' hstrict =>
      (knows_ownRow _ _).lasting.later hl' (ownRow_put (hown' hstrict) hst)⟩

/-- The thread's own request has a row; `texts` are the statuses it may have unless cancelled. -/
structure Placed (strict : Prop) (i : ℕ) (request : AgentDispatchRequest) (texts : List String) (t : AgentTrace) :
    Prop where
  own : OwnRow strict i request.id texts t
  seen : ∃ d, Seen d t ∧ SameDispatch d request

theorem knows_placed (request : AgentDispatchRequest) (texts : List String) :
    Knows strict i (Placed strict i request texts) where
  other t t' h hh := ⟨(knows_ownRow _ _).other t t' h hh.own,
    hh.seen.imp fun _ hd => ⟨hd.1.extends h.extends,hd.2⟩⟩
  commit t s h hh := ⟨(knows_ownRow _ _).commit t s h hh.own,
    hh.seen.imp fun _ hd => ⟨hd.1.extends (Trace.extends_commit t s),hd.2⟩⟩
  record t q a hh := ⟨(knows_ownRow _ _).record t q a hh.own,
    hh.seen.imp fun _ hd => ⟨hd.1.extends (Trace.extends_record t i q a),hd.2⟩⟩

theorem Placed.row {request : AgentDispatchRequest} {texts : List String} (h : Placed strict i request texts t)
    (hi : DispatchInv strict t) : ∃ d, t.store.dispatches.get? request.id = some d ∧ SameDispatch d request := by
  obtain ⟨d,hseen,hs⟩ := h.seen
  obtain ⟨d',hd',hs',-⟩ := hseen.row hi
  exact ⟨d',hs.id ▸ hd',hs'.symm.trans hs⟩

theorem steps_ensureAgentOperation_frame (x : String) (at_ : Timestamp) :
    (ensureAgentOperation x at_ : AgentProg _).Steps frameRel := by
  refine Prog.steps_bind (Prog.steps_atomically fun s => ⟨?_,ensureOperation_kept s x at_⟩) fun _ =>
    steps_loadAgentOperation x
  change (s.ensureOperation x at_).dispatches = s.dispatches
  unfold AgentStore.ensureOperation
  split <;> rfl

instance (x : String) (at_ : Timestamp) {isIt : AgentQuery → Prop} :
    Prog.Silent isIt (ensureAgentOperation x at_ : AgentProg _) := by
  unfold ensureAgentOperation
  infer_instance

/-- The insertion of a row under an id of the thread's own. -/
theorem insert_promise {d : AgentDispatchRequest} (hi : DispatchInv strict t) (hborn : Unborn i d.id t)
    (hfree : dispatchTable.taken t.store d = false) (hf : dispatchFenced t.store d = false) :
    (dispatchProtocol strict).promise i t (dispatchTable.put t.store d) ∧
      DispatchInv strict (t.commit (dispatchTable.put t.store d)) := by
  have others : ∀ id, id ≠ d.id → (dispatchTable.put t.store d).dispatches.get? id = t.store.dispatches.get? id :=
    fun id hid => by rw [put_dispatches,Dict.get?_set,if_neg hid]
  refine ⟨⟨fun id hn hs => ?_,fun _ id e hid _ => .inl ?_⟩,?_⟩
  · by_cases hid : id = d.id
    · exact hid ▸ hborn.1
    · exact absurd (others id hid ▸ hn) hs
  · exact (others id fun h => by simp [h,hborn.2] at hid).trans hid
  · refine hi.commit ((hi.ok _ t.store_mem_history).insert hfree) (.insert hborn.2 hf) fun _ id e hid => ?_
    exact ⟨e,(others id fun h => by simp [h,hborn.2] at hid).trans hid,fun h => h,fun h => h⟩

theorem sound_insertDispatch {d : AgentDispatchRequest} (hst : d.status = some (.str "accepted"))
    (hborn : Unborn i d.id t) :
    Sound strict i (fun _ t' => Placed strict i d ["accepted"] t') (saveAgentDispatch d) t := by
  have hF : Knows strict i (Unborn i d.id) := knows_unborn d.id
  refine safe_bind (sound_reads hF _ hborn) fun _ t₁ _ _ h₁ => ?_
  refine safe_bind (M := fun o t' => Unborn i d.id t' ∧ o = none) ?_ ?_
  · exact safe_read calm hF.lasting h₁ fun t' _ hF' t'' hF'' _ => ⟨hF'',hF'.2⟩
  · rintro _ t₂ - - ⟨h₂,rfl⟩
    refine safe_commit calm hF.lasting h₂ (fun t' hi hb a s' hrun _ => ?_) fun _ _ _ _ => trivial
    obtain ⟨-,hfree,hfence,rfl⟩ := insert_cases dispatchTable hrun
    obtain ⟨hp,hi'⟩ := insert_promise hi hb hfree hfence
    refine ⟨hp,hi',fun t'' hl => (knows_placed _ _).lasting.later hl ⟨ownRow_put hb.1 hst,d.payload,?_,?_⟩⟩
    · exact ⟨_,List.mem_cons_self,by simp [AgentDispatchRequest.payload]⟩
    · exact (same_payload d).symm

theorem sound_acceptDispatch {request : AgentDispatchRequest} (at_ : Timestamp) (hborn : Unborn i request.id t) :
    Sound strict i (fun a t' => Placed strict i a ["accepted"] t') (acceptDispatch request at_) t := by
  have hF : Knows strict i (Unborn i request.id) := knows_unborn request.id
  refine safe_bind (sound_frame hF (steps_ensureAgentOperation_frame _ _) hborn) fun operation t₁ _ _ h₁ => ?_
  refine safe_bind (sound_reads hF _ h₁) fun _ t₂ _ _ h₂ => ?_
  refine safe_bind (sound_insertDispatch (by simp [AgentDispatchRequest.status]) h₂) fun _ t₃ _ _ h₃ t₄ hl => ?_
  exact (knows_placed _ _).lasting.later hl h₃

theorem sound_acceptOrReplay {request : AgentDispatchRequest} (hborn : Unborn i request.id t) :
    Sound strict i (fun a t' => ∀ d, a = .inl d → Placed strict i d ["accepted"] t') (acceptOrReplay request) t := by
  refine safe_rescue (M := fun _ _ => True) ?_ fun e t₁ _ _ _ => ?_
  · refine safe_bind (sound_reads (knows_unborn request.id) clock hborn) fun at_ t₁ _ _ h₁ => ?_
    refine safe_bind (sound_acceptDispatch at_ h₁) fun a t₂ _ _ h₂ t₃ hl d hd => ?_
    cases hd
    exact (knows_placed _ _).lasting.later hl h₂
  · split
    · exact fun _ _ => trivial
    split
    · refine safe_bind (sound_reads .true _ trivial) fun winner t₂ _ _ _ => ?_
      cases winner with
      | none => exact safe_bind (sound_reads .true _ trivial) fun _ t₃ _ _ _ _ _ => trivial
      | some winner =>
        exact safe_bind (sound_reads .true _ trivial) fun _ t₃ _ _ _ t₄ _ d hd => by cases hd
    · exact fun _ _ => trivial

/-- What the execution claim does to the row of the request. -/
theorem claim_cases (request : AgentDispatchRequest) (s : AgentStore) :
    Tx.Post (claimDispatchExecution request : AgentTx Bool) s fun claimed s' =>
      ∃ current, s.dispatches.get? request.id = some current ∧
        (¬ current.accepted ∧ s' = s ∧ (claimed = true → current.executing) ∨
        current.accepted ∧ (claimed = true → ∃ row, s.operations.get? request.instanceId = some row ∧
          row.payload.state = .opened ∧ current.boundGeneration = some (row.payload.generation : Int)) ∧
          s' = dispatchTable.put s (current.withStatus (if claimed then "executing" else "cancelled"))) := by
  simp only [claimDispatchExecution,Tx.post_atomically,Tx.post_bind,loadAgentDispatch,post_loadAgentRecord,
    post_loadAgentOperation,Tx.post_ite,Tx.post_pure]
  intro current hrow row hop
  refine ⟨fun hst => ⟨current,hrow,.inl ⟨hst,trivial,of_decide_eq_true⟩⟩,fun hst => ?_⟩
  refine (post_saveAgentDispatch _ s).mono fun _ s' hs' => ⟨current,hrow,.inr ⟨not_not.mp hst,fun h => ?_,?_⟩⟩
  · exact ⟨row,hop,of_decide_eq_true h⟩
  · simpa using hs'.1

theorem boundGeneration_withStatus (d : AgentDispatchRequest) (text : String) :
    (d.withStatus text).boundGeneration = d.boundGeneration := by
  simp [AgentDispatchRequest.boundGeneration,AgentDispatchRequest.generation,AgentDispatchRequest.withStatus]

theorem status_withStatus (d : AgentDispatchRequest) (text : String) :
    (d.withStatus text).status = some (.str text) := by
  simp [AgentDispatchRequest.status,AgentDispatchRequest.withStatus]

theorem same_withStatus (d : AgentDispatchRequest) (text : String) : SameDispatch d (d.withStatus text) :=
  ⟨rfl,rfl,rfl,rfl,rfl,rfl,rfl⟩

/-- Some time in the past the request was executing. -/
def WasExecuting (request : AgentDispatchRequest) (t : AgentTrace) : Prop :=
  ∃ s ∈ t.history, ∃ d, s.dispatches.get? request.id = some d ∧ SameDispatch d request ∧ d.executing

theorem WasExecuting.extends {request : AgentDispatchRequest} {t t' : AgentTrace} (h : WasExecuting request t)
    (he : t.Extends t') : WasExecuting request t' := by
  obtain ⟨s,hs,hd⟩ := h
  exact ⟨s,he.1 hs,hd⟩

theorem OwnRow.status_of {x : String} {text : String} {d : AgentDispatchRequest} (h : OwnRow strict i x [text] t)
    (hstrict : strict) (hd : t.store.dispatches.get? x = some d) :
    d.status = some (.str text) ∨ d.status = some (.str "cancelled") := by
  obtain ⟨d',hd',hst⟩ := h.2 hstrict
  obtain rfl : d' = d := by simpa [hd'] using hd
  refine hst.imp_left fun hst => ?_
  unfold statusIn at hst
  split at hst
  · next text' heq => rw [heq,List.mem_singleton.mp (of_decide_eq_true hst)]
  · cases hst

theorem not_settled_of_accepted {d : AgentDispatchRequest} (h : d.accepted) : ¬ d.stopped ∧ ¬ d.terminal := by
  unfold AgentDispatchRequest.accepted at h
  constructor <;> intro hc
  · simp [AgentDispatchRequest.stopped,h,statusIn,AgentOperationState.value] at hc
  · simp [AgentDispatchRequest.terminal,h,statusIn,terminalDispatchStatuses,AgentOperationState.value] at hc

theorem not_settled_of_executing {d : AgentDispatchRequest} (h : d.executing) : ¬ d.stopped ∧ ¬ d.terminal := by
  unfold AgentDispatchRequest.executing at h
  constructor <;> intro hc
  · simp [AgentDispatchRequest.stopped,h,statusIn,AgentOperationState.value] at hc
  · simp [AgentDispatchRequest.terminal,h,statusIn,terminalDispatchStatuses,AgentOperationState.value] at hc

theorem openBetween_of_row {s : AgentStore} {d : AgentDispatchRequest} {row : OperationRow} (hs : FenceOk s)
    (hrow : s.operations.get? d.instanceId = some row) (hopen : row.payload.state = .opened)
    (hg : d.boundGeneration = some (row.payload.generation : Int)) : OpenBetween s s d := by
  have hw := hs _ row hrow
  refine ⟨row.payload.generation,hg,fun row' hrow' => .inr ?_,row,hrow,by rw [hw.generation]⟩
  obtain rfl : row = row' := by simpa [hrow] using hrow'
  exact ⟨hw.generation,hw.state.trans hopen⟩

theorem sound_claimDispatchExecution {request : AgentDispatchRequest} (h : Placed strict i request ["accepted"] t) :
    Sound strict i (fun claimed t' => Placed strict i request [if claimed then "executing" else "cancelled"] t' ∧
      (claimed = true → WasExecuting request t')) (claimDispatchExecution request) t := by
  refine safe_commit calm (knows_placed request _).lasting h (fun t' hi hplaced claimed s' hrun _ => ?_)
    fun _ _ _ _ => trivial
  obtain ⟨current,hrow,hcase⟩ := (claim_cases request t'.store).of_ok hrun
  obtain ⟨d,hd,hsame⟩ := hplaced.row hi
  obtain rfl : d = current := by simpa [hd] using hrow
  rcases hcase with ⟨hna,rfl,hexec⟩ | ⟨hacc,hopen,rfl⟩
  · refine ⟨(calm.idle i t' hi).1,(calm.idle i t' hi).2,fun t'' hl => ⟨?_,fun hc => ?_⟩⟩
    · refine (knows_placed _ _).lasting.later hl ⟨⟨hplaced.own.1,fun hstrict => ⟨d,hd,.inr ?_⟩⟩,?_⟩
      · exact (hplaced.own.status_of hstrict hd).resolve_left hna
      · exact hplaced.seen.imp fun _ hd => ⟨hd.1.extends (Trace.extends_commit t' _),hd.2⟩
    · exact ⟨t'.store,hl.extends.1 (List.mem_cons_self),d,hd,hsame,hexec hc⟩
  · generalize htext : (if claimed = true then "executing" else "cancelled") = text at *
    have hid : (d.withStatus text).id = request.id := hsame.id
    have hst := status_withStatus d text
    have hna : ¬ (d.withStatus text).accepted := fun hc => by
      rw [AgentDispatchRequest.accepted,hst] at hc
      cases claimed <;> simp [← htext] at hc
    have hexec : (d.withStatus text).executing → d.executing ∨ OpenBetween t'.store t'.store d := fun hc => by
      rw [AgentDispatchRequest.executing,hst] at hc
      have hclaimed : claimed = true := by
        cases claimed
        · simp [← htext] at hc
        · rfl
      obtain ⟨row,hop,hopened,hg⟩ := hopen hclaimed
      exact .inr (openBetween_of_row (hi.ok _ t'.store_mem_history).fence (hsame.instanceId ▸ hop) hopened hg)
    obtain ⟨hp,hi'⟩ := update_promise (i := i) hi (hid ▸ hd) (same_withStatus d text) (boundGeneration_withStatus d text)
      hna hexec (fun _ => ⟨fun hc => absurd hc (not_settled_of_accepted hacc).1,
        fun hc => absurd hc (not_settled_of_accepted hacc).2⟩) (fun _ => hid ▸ hplaced.own.1)
    refine ⟨hp,hi',fun t'' hl => ⟨(knows_placed _ _).lasting.later hl ⟨?_,?_⟩,fun hc => ?_⟩⟩
    · exact hid ▸ ownRow_put (hid ▸ hplaced.own.1) hst
    · exact hplaced.seen.imp fun _ hd => ⟨hd.1.extends (Trace.extends_commit t' _),hd.2⟩
    · refine ⟨_,hl.extends.1 List.mem_cons_self,(d.withStatus text).payload,?_,?_,?_⟩
      · rw [Trace.commit_store,put_dispatches,hid,Dict.get?_set,if_pos rfl]
      · exact ((same_withStatus d text).trans (same_payload _)).symm.trans hsame
      · rw [hc,if_pos rfl] at htext
        exact htext ▸ status_withStatus d text

/-! ### Recording -/

section Evidence
variable (request : AgentDispatchRequest) (result : AgentDispatchResult)

theorem get?_setText (e : Evidence) (key key' : String) (value : Option String) (h : key' ≠ key) :
    Dict.get? (setText e key value) key' = Dict.get? e key' := by
  cases value with
  | none => rfl
  | some text => simp [setText,h]

/-- Keys of the recorded evidence that the texts and the references of a result leave alone. -/
theorem recordedEvidence_get? (key : String) (href : referenceKey key = false) (h₁ : key ≠ "reason")
    (h₂ : key ≠ "result_id") (h₃ : key ≠ "provider_id") :
    (recordedEvidence request result).get? key =
      if key = "operation_generation" ∧ (request.generation.bind Json.asInt?).isSome then request.generation
      else if key = "status" then some (.str result.state.value) else none := by
  have hne : ∀ name, referenceKey name = true → key ≠ name := fun name hname h => by simp [← h,href] at hname
  unfold recordedEvidence
  simp only
  rw [Dict.get?_merge_of_notMem]
  · rw [get?_setText _ _ _ _ (hne "completed_at" (by decide)),get?_setText _ _ _ _ (hne "acknowledged_at" (by decide)),
      get?_setText _ _ _ _ h₁,get?_setText _ _ _ _ (hne "external_session_id" (by decide)),
      get?_setText _ _ _ _ (hne "provider_ref" (by decide))]
    cases hg : request.generation with
    | none => simp [h₂,h₃]
    | some g =>
      cases hint : g.asInt? with
      | none => simp [h₂,h₃,hint]
      | some n => by_cases hk : key = "operation_generation" <;> simp [h₂,h₃,hint,hk]
  · simp only [List.mem_map,List.mem_filter,not_exists,not_and]
    rintro ⟨k,v⟩ hkv rfl
    simp [href] at hkv

theorem recordedEvidence_status : (recordedEvidence request result).get? "status" = some (.str result.state.value) := by
  rw [recordedEvidence_get? request result "status" (by decide) (by decide) (by decide) (by decide)]
  simp

theorem recordedEvidence_generation :
    ((recordedEvidence request result).get? "operation_generation").bind Json.asInt? = request.boundGeneration := by
  rw [recordedEvidence_get? request result "operation_generation" (by decide) (by decide) (by decide) (by decide)]
  cases hg : request.generation with
  | none => simp [AgentDispatchRequest.boundGeneration,hg]
  | some g => cases hint : g.asInt? <;> simp [AgentDispatchRequest.boundGeneration,hg,hint]

theorem completedEvidence_status :
    (completedEvidence request result).get? "status" = some (.str result.state.value) := by
  unfold completedEvidence
  cases result.errorCategory <;> simp

theorem completedEvidence_generation :
    (completedEvidence request result).get? "operation_generation" = request.generation := by
  unfold completedEvidence AgentDispatchRequest.generation
  cases result.errorCategory <;> simp

end Evidence

theorem value_ne_live (state : AgentOperationState) : state.value ≠ "accepted" ∧ state.value ≠ "executing" := by
  cases state <;> decide

theorem steps_saveAgentDispatchResult (r : AgentDispatchResult) :
    (saveAgentDispatchResult r : AgentProg Unit).Steps frameRel := by
  refine Prog.steps_bind (Prog.steps_read _) fun o => ?_
  have hkeep : ∀ tx : AgentTx Unit, (∀ s a s', tx s = .ok (a,s') → s' = s ∨ s' = resultTable.put s r) →
      (atomically tx : AgentProg Unit).Steps frameRel := fun tx htx => Prog.steps_atomically fun s => by
    refine Tx.next_of_post (R := fun s' => frameRel s default s') ⟨rfl,.refl s⟩ ?_
    unfold Tx.Post
    split
    · next a s' hrun => rcases htx s a s' hrun with rfl | rfl <;> exact ⟨rfl,.of_eq rfl⟩
    · trivial
  cases o with
  | some existing =>
    refine Prog.steps_bind (Prog.steps_require _ _) fun _ => hkeep _ fun s a s' hrun => ?_
    rcases update_cases resultTable hrun with ⟨-,h⟩ | ⟨-,-,h⟩
    · exact .inl h
    · exact .inr h
  | none => exact hkeep _ fun s a s' hrun => .inr (insert_cases resultTable hrun).2.2.2

instance (T : Table α) (r : α) {isIt : AgentQuery → Prop} : Prog.Silent isIt (saveAgentRecord T r : AgentProg Unit) := by
  unfold saveAgentRecord
  refine @Prog.bind_silent _ _ _ _ _ _ _ _ _ _ _ _ fun o => ?_
  cases o <;> infer_instance

instance (r : AgentDispatchResult) {isIt : AgentQuery → Prop} :
    Prog.Silent isIt (saveAgentDispatchResult r : AgentProg Unit) :=
  inferInstanceAs (Prog.Silent isIt (saveAgentRecord _ _))

theorem sound_quarantineResult (hF : Knows strict i F) (result : AgentDispatchResult) (reason : String) (ht : F t) :
    Sound strict i (fun r t' => F t' ∧ r.state = .quarantined) (quarantineResult result reason) t := by
  refine safe_bind (sound_newId hF _ ht) fun id t₁ _ _ h₁ => ?_
  refine safe_bind (sound_frame hF (steps_saveAgentDispatchResult _) h₁.1) fun _ t₂ _ _ h₂ t₃ hl => ?_
  exact ⟨hF.lasting.later hl h₂,rfl⟩

theorem stopped_of_status {d : AgentDispatchRequest} (state : AgentOperationState)
    (h : d.status = some (.str state.value)) (hs : state = .cancelled ∨ state = .quarantined) :
    d.stopped ∧ d.terminal := by
  unfold AgentDispatchRequest.stopped AgentDispatchRequest.terminal
  rw [h]
  rcases hs with rfl | rfl <;> decide

theorem Placed.rewritten {request : AgentDispatchRequest} {texts texts' : List String} {t t' : AgentTrace}
    (h : Placed strict i request texts t) (he : t.Extends t')
    (hown : strict → OwnRow strict i request.id texts' t') : Placed strict i request texts' t' :=
  ⟨⟨h.own.1.extends he,fun hstrict => (hown hstrict).2 hstrict⟩,h.seen.imp fun _ hd => ⟨hd.1.extends he,hd.2⟩⟩

/-- Recording a result for a row that is executing or cancelled: an executing row gets
the state of the result, a cancelled one stays. -/
theorem sound_recordDispatchResult {request : AgentDispatchRequest} {result : AgentDispatchResult} {text : String}
    (htext : text = "executing" ∨ text = "cancelled") (hreq : strict → result.requestId = request.id)
    (h : Placed strict i request [text] t) :
    Sound strict i (fun r t' => Placed strict i request [result.state.value] t' ∧ r.state = result.state)
      (recordDispatchResult result) t := by
  have hF : Knows strict i (Placed strict i request [text]) := knows_placed request [text]
  refine safe_bind (sound_of_safe (safe_loadAgentDispatch hF result.requestId h)) fun loaded t₁ _ _ h₁ => ?_
  have hF₁ : Knows strict i fun t => Placed strict i request [text] t ∧
      LoadedUnder strict i (Placed strict i request [text]) result.requestId loaded t := hF.and (knows_loaded result.requestId loaded)
  refine safe_bind (sound_frame hF₁ (steps_saveAgentDispatchResult _) h₁) fun _ t₂ _ _ h₂ => ?_
  have hloaded : strict → loaded.status = some (.str text) ∨ loaded.status = some (.str "cancelled") := fun hstrict => by
    obtain ⟨t₀,-,hp,hd,-⟩ := h₂.2
    exact hp.own.status_of hstrict (hreq hstrict ▸ hd)
  split
  · next hdone =>
    refine fun t₃ hl => ⟨?_,rfl⟩
    refine (knows_placed _ _).lasting.later hl ⟨⟨h₂.1.own.1,fun hstrict => ?_⟩,h₂.1.seen⟩
    have hcancelled : loaded.status = some (.str "cancelled") := by
      rcases hloaded hstrict with hs | hs
      · rcases htext with rfl | rfl
        · simp [hs,statusIn,terminalResultStates,AgentOperationState.value] at hdone
        · exact hs
      · exact hs
    obtain ⟨t₀,-,hp,hd,hk⟩ := h₂.2
    have hown : OwnRow strict i request.id [] t₂ :=
      hk _ (knows_ownRow _ _) ⟨hp.own.1,fun _ => ⟨loaded,hreq hstrict ▸ hd,.inr hcancelled⟩⟩
    obtain ⟨d,hd,hst⟩ := hown.2 hstrict
    refine ⟨d,hd,.inr (hst.resolve_left fun hc => ?_)⟩
    unfold statusIn at hc
    split at hc <;> simp at hc
  · next hlive =>
    have hid : strict → loaded.id = request.id := fun hstrict => h₂.2.id.trans (hreq hstrict)
    obtain ⟨hna,hne⟩ := value_ne_live result.state
    have hst : ({ loaded with evidence := recordedEvidence loaded result } : AgentDispatchRequest).status =
        some (.str result.state.value) := recordedEvidence_status loaded result
    refine safe_bind (sound_writeBackDispatch h₂.2.seen ⟨rfl,rfl,rfl,rfl,rfl,rfl,rfl⟩
      (recordedEvidence_generation loaded result) (fun ha => ?_) (fun he => ?_) hst
      (fun hstrict => (hid hstrict).symm ▸ h₂.1.own.1) fun hstrict => ?_) fun _ t₃ he _ h₃ t₄ hl => ⟨?_,rfl⟩
    · rw [AgentDispatchRequest.accepted,hst] at ha
      exact hna (by simpa using ha)
    · rw [AgentDispatchRequest.executing,hst] at he
      exact hne (by simpa using he)
    · have hexec : loaded.executing := by
        have hcancelled : loaded.status ≠ some (.str "cancelled") := fun hs => by
          simp [hs,statusIn,terminalResultStates,AgentOperationState.value] at hlive
        rcases hloaded hstrict with hs | hs
        · rcases htext with rfl | rfl
          · exact hs
          · exact absurd hs hcancelled
        · exact absurd hs hcancelled
      obtain ⟨hstop,hterm⟩ := not_settled_of_executing hexec
      exact ⟨fun hc => absurd hc hstop,fun hc => absurd hc hterm⟩
    · exact (knows_placed _ _).lasting.later hl (h₂.1.rewritten he fun hstrict => hid hstrict ▸ h₃ hstrict)

/-- Completing a request: a stopped state always goes in; any other is the one the row
has already, unless the row was cancelled. -/
theorem sound_completeDispatch {request : AgentDispatchRequest} {result : AgentDispatchResult} {text : String}
    (htext : (result.state = .cancelled ∨ result.state = .quarantined) ∨ text = result.state.value)
    (h : Placed strict i request [text] t) :
    Sound strict i (fun _ t' => Placed strict i request [text] t' ∨ Placed strict i request [result.state.value] t')
      (completeDispatch request result) t := by
  have hF : Knows strict i (Placed strict i request [text]) := knows_placed request [text]
  refine safe_bind (sound_of_safe (safe_loadAgentDispatch hF request.id h)) fun loaded t₁ _ _ h₁ => ?_
  have hF₁ : Knows strict i fun t => Placed strict i request [text] t ∧
      LoadedUnder strict i (Placed strict i request [text]) request.id loaded t := hF.and (knows_loaded request.id loaded)
  refine safe_bind (sound_reads hF₁ _ h₁) fun _ t₂ _ _ h₂ => ?_
  have hloaded : strict → loaded.status = some (.str text) ∨ loaded.status = some (.str "cancelled") := fun hstrict => by
    obtain ⟨t₀,-,hp,hd,-⟩ := h₂.2
    exact hp.own.status_of hstrict hd
  split
  · exact fun t₃ hl => .inl (hF.lasting.later hl h₂.1)
  · next hlive =>
    obtain ⟨completed,hcompleted⟩ : ∃ d, ({ loaded with evidence := completedEvidence loaded result } :
        AgentDispatchRequest) = d := ⟨_,rfl⟩
    rw [hcompleted]
    have hsame : SameDispatch loaded completed := hcompleted ▸ ⟨rfl,rfl,rfl,rfl,rfl,rfl,rfl⟩
    have hst : completed.status = some (.str result.state.value) := hcompleted ▸ completedEvidence_status loaded result
    have hgen : completed.boundGeneration = loaded.boundGeneration := hcompleted ▸
      congrArg (Option.bind · Json.asInt?) (completedEvidence_generation loaded result)
    have hid : completed.id = request.id := hsame.id.symm.trans h₂.2.id
    obtain ⟨hna,hne⟩ := value_ne_live result.state
    refine safe_bind (sound_writeBackDispatch h₂.2.seen hsame hgen
      (fun ha => ?_) (fun he => ?_) hst (fun _ => hid.symm ▸ h₂.1.own.1) fun hstrict => ?_)
      fun _ t₃ he _ h₃ t₄ hl => .inr ?_
    · rw [AgentDispatchRequest.accepted,hst] at ha
      exact hna (by simpa using ha)
    · rw [AgentDispatchRequest.executing,hst] at he
      exact hne (by simpa using he)
    · by_cases hstop : result.state = .cancelled ∨ result.state = .quarantined
      · obtain ⟨hs,ht⟩ := stopped_of_status result.state hst hstop
        exact ⟨fun _ => hs,fun _ => ht⟩
      · -- the row already has this status: a cancelled one was left alone above
        have heq : loaded.status = completed.status := by
          rcases hloaded hstrict with hs | hs
          · rw [hs,hst,htext.resolve_left hstop]
          · refine absurd ⟨?_,by simpa using hstop⟩ hlive
            rw [hs]
            decide
        rw [AgentDispatchRequest.stopped,AgentDispatchRequest.terminal,heq]
        exact ⟨fun hc => hc,fun hc => hc⟩
    · exact (knows_placed _ _).lasting.later hl (h₂.1.rewritten he fun hstrict => hid ▸ h₃ hstrict)

/-- After the result of a provider is recorded the row is executing, cancelled, or has
the state that was recorded. -/
theorem sound_recordProviderResult {request : AgentDispatchRequest} (epochId : String) {result : AgentDispatchResult}
    (hreq : strict → result.requestId = request.id) (h : Placed strict i request ["executing"] t) :
    Sound strict i (fun r t' => ∃ text, Placed strict i request [text] t' ∧
        ((r.state = .cancelled ∨ r.state = .quarantined) ∨ text = r.state.value))
      (recordProviderResult epochId result) t := by
  have hF : Knows strict i (Placed strict i request ["executing"]) := knows_placed request ["executing"]
  have hquarantine : ∀ {t' : AgentTrace} (reason : String), Placed strict i request ["executing"] t' →
      Sound strict i (fun r t' => ∃ text, Placed strict i request [text] t' ∧
        ((r.state = .cancelled ∨ r.state = .quarantined) ∨ text = r.state.value)) (quarantineResult result reason) t' :=
    fun reason hp => (sound_quarantineResult hF result reason hp).imp fun r t' _ _ hr =>
      ⟨_,hr.1,.inl (.inr hr.2)⟩
  refine safe_bind (sound_reads hF _ h) fun _ t₁ _ _ h₁ => ?_
  refine safe_bind (sound_reads hF _ h₁) fun found t₂ _ _ h₂ => ?_
  cases found with
  | none => exact hquarantine _ h₂
  | some loaded =>
    dsimp only
    split
    · exact hquarantine _ h₂
    refine safe_bind (sound_reads hF _ h₂) fun found t₃ _ _ h₃ => ?_
    rcases found with _ | ⟨epoch,active⟩
    · exact hquarantine _ h₃
    dsimp only
    split
    · exact hquarantine _ h₃
    split
    · exact hquarantine _ h₃
    · exact (sound_recordDispatchResult (.inl rfl) hreq h₃).imp fun r t' _ _ hr => ⟨_,hr.1,.inr (by rw [hr.2])⟩

/-- The provider is called for a row of the thread's own that was claimed. -/
theorem sound_askDispatch (driver : AgentProvider) {request : AgentDispatchRequest} {texts : List String}
    (h : Placed strict i request texts t) (hexec : WasExecuting request t) :
    Sound strict i (fun a t' => Placed strict i request texts t' ∧
        (strict → ∀ result, a = some result → result.requestId = request.id))
      (ask (.dispatch driver request)) t := by
  have hF : Knows strict i (Placed strict i request texts) := knows_placed request texts
  refine safe_ask fun t' hl a ha => ⟨?_,fun t'' hl' => ⟨?_,fun hstrict result hr => ?_⟩⟩
  · refine hl.1.record (fun tag x hq => by cases hq) fun driver' request' r hq => ?_
    cases hq
    exact ⟨h.own.1.extends hl.extends,hexec.extends hl.extends⟩
  · exact hF.lasting.later hl' (hF.record t' _ _ (hF.lasting.later hl h))
  · subst hr
    exact of_decide_eq_true (ha.2 hstrict)

theorem sound_dispatchAnswer {request : AgentDispatchRequest} (providerId : String) (hF : Knows strict i F)
    {a : Option AgentDispatchResult} (ht : F t)
    (ha : strict → ∀ result, a = some result → result.requestId = request.id) :
    Sound strict i (fun r t' => F t' ∧ (strict → r.requestId = request.id)) (dispatchAnswer request providerId a) t := by
  cases a with
  | some result => exact fun t' hl => ⟨hF.lasting.later hl ht,fun hstrict => ha hstrict result rfl⟩
  | none =>
    refine safe_bind (sound_newId hF _ ht) fun id t₁ _ _ h₁ t₂ hl => ?_
    exact ⟨hF.lasting.later hl h₁.1,fun _ => rfl⟩

theorem sound_executeDispatch (cfg : Config) (epoch : DriverEpoch) {request : AgentDispatchRequest}
    (h : Placed strict i request ["accepted"] t) :
    Sound strict i (fun _ _ => True) (executeDispatch cfg epoch request) t := by
  refine safe_bind (sound_reads (knows_placed _ _) _ h) fun driver t₁ _ _ h₁ => ?_
  refine safe_bind (sound_claimDispatchExecution h₁) fun claimed t₂ _ _ h₂ => ?_
  cases claimed with
  | true =>
    refine safe_bind (sound_askDispatch driver h₂.1 (h₂.2 rfl)) fun answer t₃ _ _ h₃ => ?_
    refine safe_bind (sound_dispatchAnswer epoch.providerId (knows_placed _ _) h₃.1 h₃.2) fun result t₄ _ _ h₄ => ?_
    refine safe_bind (sound_recordProviderResult epoch.id h₄.2 h₄.1) fun recorded t₅ _ _ ⟨text,h₅,htext⟩ => ?_
    exact safe_bind (sound_completeDispatch htext h₅) fun _ t₆ _ _ _ _ _ => trivial
  | false =>
    refine safe_bind (sound_newId (knows_placed _ _) _ h₂.1) fun id t₃ _ _ h₃ => ?_
    refine safe_bind (sound_completeDispatch (.inl (.inl rfl)) h₃.1) fun _ t₄ _ _ h₄ => ?_
    exact (sound_recordDispatchResult (.inr rfl) (fun _ => rfl) (h₄.elim (fun h => h) fun h => h)).imp
      fun _ _ _ _ _ => trivial

theorem sound_dispatch (cfg : Config) (x prompt key : String) (requestedBy : Option String) :
    Sound strict i (fun _ _ => True) (dispatch cfg x prompt key requestedBy) t := by
  refine safe_bind (sound_reads .true _ trivial) fun _ t₁ _ _ _ => ?_
  refine safe_bind (sound_reads .true _ trivial) fun recorded t₂ _ _ _ => ?_
  cases recorded with
  | some recorded => exact sound_reads .true _ trivial
  | none =>
    refine safe_bind (sound_reads .true _ trivial) fun epoch t₃ _ _ _ => ?_
    refine safe_bind (sound_reads .true _ trivial) fun _ t₄ _ _ _ => ?_
    refine safe_bind (sound_reads .true _ trivial) fun _ t₅ _ _ _ => ?_
    refine safe_bind (sound_newId .true "dispatch" trivial) fun id t₆ _ _ h₆ => ?_
    have hF : Knows strict i (Unborn i id) := knows_unborn id
    refine safe_bind (sound_reads hF _ h₆.2) fun requestedAt t₇ _ _ h₇ => ?_
    refine safe_bind (sound_reads hF _ h₇) fun _ t₈ _ _ h₈ => ?_
    refine safe_bind (sound_reads hF _ h₈) fun _ t₉ _ _ h₉ => ?_
    refine safe_bind (sound_reads hF _ h₉) fun _ t₁₀ _ _ h₁₀ => ?_
    refine safe_bind (sound_acceptOrReplay h₁₀) fun accepted t₁₁ _ _ h₁₁ => ?_
    cases accepted with
    | inr replayed => exact fun _ _ => trivial
    | inl accepted => exact sound_executeDispatch cfg epoch (h₁₁ accepted rfl)

end Overseer.Agent
