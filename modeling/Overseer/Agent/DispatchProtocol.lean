import Overseer.Agent.DispatchRows
import Overseer.Agent.Reads

/-! # The protocol of dispatch callers and fence owners

Dispatch callers and fence owners share one store. A row belongs to the thread
that was issued its id; only that thread inserts it and calls the provider for it.
The runs of the strict system moreover write a dispatch back only onto the version
it was read from, and get replies that name the request they answer.
-/
namespace Overseer.Agent
open Overseer.Library

/-- The callers, with arguments of their choice; `quiesce` is a fence owner that
reserves and drains, and answers with the reservation it has drained. -/
inductive DispatchCall where
  | dispatch (cfg : Config) (instanceId prompt idempotencyKey : String) (requestedBy : Option String)
  | reserve (x ownerToken : String)
  | release (r : AgentOperationReservation)
  | releaseIfOwned (r : AgentOperationReservation)
  | drain (r : AgentOperationReservation) (driver : AgentProvider) (session : AgentSession)
  | quiesce (x ownerToken : String) (driver : AgentProvider) (session : AgentSession)

def DispatchCall.program : DispatchCall → AgentProg (Option AgentOperationReservation)
  | .dispatch cfg x prompt key requestedBy => do
    let _ ← Overseer.Agent.dispatch cfg x prompt key requestedBy
    return none
  | .reserve x token => do
    let ensuredAt ← clock
    let reservedAt ← clock
    let _ ← Overseer.Agent.reserve x token ensuredAt reservedAt
    return none
  | .release r => do
    let _ ← Overseer.Agent.release r (← clock)
    return none
  | .releaseIfOwned r => do
    let _ ← Overseer.Agent.releaseIfOwned r (← clock)
    return none
  | .drain r driver session => do
    Overseer.Agent.drain r driver session
    return none
  | .quiesce x token driver session => do
    let ensuredAt ← clock
    let reservedAt ← clock
    let r ← Overseer.Agent.reserve x token ensuredAt reservedAt
    Overseer.Agent.drain r driver session
    return some r

/-- The reply of a provider to a dispatch names the request. -/
def namesItsRequest : (q : AgentQuery) → Answer q → Bool
  | .dispatch _ request, some result => result.requestId = request.id
  | _, _ => true

def dispatchSystem (strict : Prop) : System AgentStore Held Answer AgentError (Option AgentOperationReservation) where
  start p := ∃ c : DispatchCall, p = c.program
  valid t q a := validAnswer t q a = true ∧ (strict → namesItsRequest q a = true)
  guard s held s' := strict → s' ≠ s → ∀ d ∈ held.dispatches, s.dispatches.get? d.id = some d

/-- The id was given out to the thread. -/
def Issued (t : AgentTrace) (i : ℕ) (x : String) : Prop := ∃ tag, (i,⟨AgentQuery.newId tag,x⟩) ∈ t.log

structure DispatchInv (strict : Prop) (t : AgentTrace) : Prop where
  ok : ∀ s ∈ t.history, DispatchOk s
  before : t.history.Pairwise fun s' s => DispatchBefore s s'
  settled : strict → t.history.Pairwise fun s' s => SettledBefore s s'
  issued : ∀ i j x, Issued t i x → Issued t j x → i = j
  /-- A provider call was made by the thread the row belongs to, after it was executing. -/
  called : ∀ i driver request a, (i,⟨AgentQuery.dispatch driver request,a⟩) ∈ t.log → Issued t i request.id ∧
    ∃ s ∈ t.history, ∃ d, s.dispatches.get? request.id = some d ∧ SameDispatch d request ∧ d.executing

/-- A row that is not the thread's own stays as it is or becomes cancelled. -/
def LeavesOthers (t : AgentTrace) (i : ℕ) (s' : AgentStore) : Prop :=
  ∀ id d, t.store.dispatches.get? id = some d → ¬ Issued t i id → s'.dispatches.get? id = some d ∨
    ∃ d', s'.dispatches.get? id = some d' ∧ d'.status = some (.str "cancelled")

def dispatchProtocol (strict : Prop) :
    Protocol AgentStore Held Answer AgentError (Option AgentOperationReservation) where
  sys := dispatchSystem strict
  inv := DispatchInv strict
  promise i t s' := (∀ id, t.store.dispatches.get? id = none → s'.dispatches.get? id ≠ none → Issued t i id) ∧
    (strict → LeavesOthers t i s')

/-- The questions the invariant speaks about. -/
def AgentQuery.special : AgentQuery → Prop
  | .newId _ | .dispatch _ _ => True
  | _ => False

theorem AgentQuery.notable_of_special {q : AgentQuery} (h : q.special) : q.notable := by
  cases q <;> simp_all [AgentQuery.special,AgentQuery.notable]

section Protocol
variable {strict : Prop} {i : ℕ} {t : AgentTrace}

theorem Issued.extends {t t' : AgentTrace} {x : String} (h : Issued t i x) (he : t.Extends t') : Issued t' i x :=
  h.imp fun _ hm => he.2 hm

/-- A commit that continues the relations keeps the invariant. -/
theorem DispatchInv.commit (h : DispatchInv strict t) {s : AgentStore} (hok : DispatchOk s)
    (hb : DispatchBefore t.store s) (hs : strict → SettledBefore t.store s) :
    DispatchInv strict (t.commit s) where
  ok s' hs' := by
    rcases List.mem_cons.mp hs' with rfl | hs'
    · exact hok
    · exact h.ok s' hs'
  before := by
    refine List.pairwise_cons.mpr ⟨fun s' hs' => ?_,h.before⟩
    rcases List.mem_cons.mp hs' with rfl | hs'
    · exact hb
    · exact ((List.pairwise_cons.mp h.before).1 s' hs').trans hb
  settled hstrict := by
    refine List.pairwise_cons.mpr ⟨fun s' hs' => ?_,h.settled hstrict⟩
    rcases List.mem_cons.mp hs' with rfl | hs'
    · exact hs hstrict
    · exact ((List.pairwise_cons.mp (h.settled hstrict)).1 s' hs').trans (hs hstrict)
  issued := h.issued
  called j driver request a hm := by
    obtain ⟨hi,s',hs',hrow⟩ := h.called j driver request a hm
    exact ⟨hi,s',List.mem_cons_of_mem _ hs',hrow⟩

theorem DispatchInv.seen (h : DispatchInv strict t) {s : AgentStore} (hs : s ∈ t.history) :
    DispatchBefore s t.store := by
  rcases List.mem_cons.mp hs with rfl | hs
  · exact .refl _
  · exact (List.pairwise_cons.mp h.before).1 s hs

theorem issued_record {j : ℕ} {q : AgentQuery} {a : Answer q} {x : String} :
    Issued (t.record i q a) j x ↔ Issued t j x ∨ i = j ∧ ∃ tag, (⟨q,a⟩ : Σ q, Answer q) = ⟨.newId tag,x⟩ := by
  constructor
  · rintro ⟨tag,hm⟩
    rcases List.mem_cons.mp hm with hm | hm
    · cases hm
      exact .inr ⟨rfl,tag,rfl⟩
    · exact .inl ⟨tag,hm⟩
  · rintro (⟨tag,hm⟩ | ⟨rfl,tag,hq⟩)
    · exact ⟨tag,List.mem_cons_of_mem _ hm⟩
    · exact ⟨tag,by rw [← hq]; exact List.mem_cons_self⟩

theorem issued_mem {x : String} (h : Issued t i x) : x ∈ issuedIds t.log := by
  obtain ⟨tag,hm⟩ := h
  exact List.mem_filterMap.mpr ⟨_,hm,rfl⟩

/-- Recording a question keeps the invariant when a new id is fresh and a provider
call is for an executing row of the thread's own. -/
theorem DispatchInv.record (h : DispatchInv strict t) {q : AgentQuery} {a : Answer q}
    (hnew : ∀ tag x, (⟨q,a⟩ : Σ q, Answer q) = ⟨.newId tag,x⟩ → x ∉ issuedIds t.log)
    (hcall : ∀ driver request r, (⟨q,a⟩ : Σ q, Answer q) = ⟨.dispatch driver request,r⟩ → Issued t i request.id ∧
      ∃ s ∈ t.history, ∃ d, s.dispatches.get? request.id = some d ∧ SameDispatch d request ∧ d.executing) :
    DispatchInv strict (t.record i q a) where
  ok := h.ok
  before := h.before
  settled := h.settled
  issued j k x hj hk := by
    rw [issued_record] at hj hk
    rcases hj with hj | ⟨rfl,tag,hq⟩
    · rcases hk with hk | ⟨rfl,tag,hq⟩
      · exact h.issued j k x hj hk
      · exact absurd (issued_mem hj) (hnew tag x hq)
    · rcases hk with hk | ⟨rfl,-⟩
      · exact absurd (issued_mem hk) (hnew tag x hq)
      · rfl
  called j driver request r hm := by
    have keep : ∀ {j : ℕ} {request : AgentDispatchRequest}, (Issued t j request.id ∧
        ∃ s ∈ t.history, ∃ d, s.dispatches.get? request.id = some d ∧ SameDispatch d request ∧ d.executing) →
        Issued (t.record i q a) j request.id ∧ ∃ s ∈ (t.record i q a).history, ∃ d,
          s.dispatches.get? request.id = some d ∧ SameDispatch d request ∧ d.executing :=
      fun hh => ⟨issued_record.mpr (.inl hh.1),hh.2⟩
    rcases List.mem_cons.mp hm with hm | hm
    · obtain ⟨rfl,hq⟩ := Prod.mk.inj hm
      exact keep (hcall driver request r hq.symm)
    · exact keep (h.called j driver request r hm)

theorem calm : (dispatchProtocol strict).Calm AgentQuery.special where
  idle i t h := by
    refine ⟨⟨fun id hn hs => absurd hn hs,fun _ id d hd _ => .inl hd⟩,?_⟩
    exact h.commit (h.ok _ t.store_mem_history) (.refl _) fun _ => .of_same rfl
  record i t q a h ha hq := by
    refine h.record (fun tag x hx => ?_) (fun driver request r hx => ?_)
    · cases hx
      exact absurd trivial hq
    · cases hx
      exact absurd trivial hq

theorem calm_notable : (dispatchProtocol strict).Calm AgentQuery.notable :=
  ⟨calm.idle,fun i t q a h ha hq => calm.record i t q a h ha fun hs => hq (AgentQuery.notable_of_special hs)⟩

/-- What a thread knows about its own row and about the past: the other threads do
not undo it, nor do its own commits that leave the dispatches alone. -/
structure Knows (strict : Prop) (i : ℕ) (F : AgentTrace → Prop) : Prop where
  other : ∀ t t', (dispatchProtocol strict).Other i t t' → F t → F t'
  commit : ∀ t s, s.dispatches = t.store.dispatches → F t → F (t.commit s)
  record : ∀ t q a, F t → F (t.record i q a)

theorem Knows.lasting {F : AgentTrace → Prop} (h : Knows strict i F) : (dispatchProtocol strict).Lasting i F :=
  ⟨h.other,fun t => h.commit t t.store rfl,h.record⟩

theorem Knows.and {F G : AgentTrace → Prop} (hF : Knows strict i F) (hG : Knows strict i G) :
    Knows strict i fun t => F t ∧ G t where
  other t t' h hh := ⟨hF.other t t' h hh.1,hG.other t t' h hh.2⟩
  commit t s h hh := ⟨hF.commit t s h hh.1,hG.commit t s h hh.2⟩
  record t q a hh := ⟨hF.record t q a hh.1,hG.record t q a hh.2⟩

theorem Knows.of_extends {F : AgentTrace → Prop} (hF : ∀ t t', t.Extends t' → F t → F t') : Knows strict i F where
  other t t' h := hF t t' h.extends
  commit t s _ := hF _ _ (Trace.extends_commit t s)
  record t q a := hF _ _ (Trace.extends_record t i q a)

theorem Knows.true : Knows strict i fun _ => True := .of_extends fun _ _ _ _ => trivial

/-- The thread was issued the id and no row has it yet. -/
def Unborn (i : ℕ) (x : String) (t : AgentTrace) : Prop := Issued t i x ∧ t.store.dispatches.get? x = none

theorem knows_unborn (x : String) : Knows strict i (Unborn i x) where
  other t t' h hF := by
    refine ⟨hF.1.extends h.extends,?_⟩
    cases h with
    | commit j s hj ht hp hi =>
      by_contra hne
      exact hj (ht.issued j i x (hp.1 x hF.2 hne) hF.1)
    | record j q a hj ht ha hi => exact hF.2
  commit t s hs hF := ⟨hF.1,by rw [Trace.commit_store,hs]; exact hF.2⟩
  record t q a hF := ⟨issued_record.mpr (.inl hF.1),hF.2⟩

/-- In the strict system the thread knows the status of its own row, up to a cancellation. -/
def OwnRow (strict : Prop) (i : ℕ) (x : String) (texts : List String) (t : AgentTrace) : Prop :=
  Issued t i x ∧ (strict → ∃ d, t.store.dispatches.get? x = some d ∧
    (statusIn d.status texts = true ∨ d.status = some (.str "cancelled")))

theorem knows_ownRow (x : String) (texts : List String) : Knows strict i (OwnRow strict i x texts) where
  other t t' h hF := by
    refine ⟨hF.1.extends h.extends,fun hstrict => ?_⟩
    obtain ⟨d,hd,hst⟩ := hF.2 hstrict
    cases h with
    | commit j s hj ht hp hi =>
      rcases hp.2 hstrict x d hd (fun hx => hj (ht.issued j i x hx hF.1)) with hd' | ⟨d',hd',hc⟩
      · exact ⟨d,hd',hst⟩
      · exact ⟨d',hd',.inr hc⟩
    | record j q a hj ht ha hi => exact ⟨d,hd,hst⟩
  commit t s hs hF := ⟨hF.1,fun hstrict => by rw [Trace.commit_store,hs]; exact hF.2 hstrict⟩
  record t q a hF := ⟨issued_record.mpr (.inl hF.1),hF.2⟩

/-- A version of a dispatch that was stored at some time. -/
def Seen (d : AgentDispatchRequest) (t : AgentTrace) : Prop :=
  ∃ s ∈ t.history, s.dispatches.get? d.id = some d

theorem Seen.extends {t t' : AgentTrace} {d : AgentDispatchRequest} (h : Seen d t) (he : t.Extends t') : Seen d t' := by
  obtain ⟨s,hs,hd⟩ := h
  exact ⟨s,he.1 hs,hd⟩

theorem Seen.row {d : AgentDispatchRequest} (h : Seen d t) (hi : DispatchInv strict t) :
    ∃ d', t.store.dispatches.get? d.id = some d' ∧ SameDispatch d d' ∧ d'.boundGeneration = d.boundGeneration := by
  obtain ⟨s,hs,hd⟩ := h
  obtain ⟨d',hd',hr⟩ := (hi.seen hs).rows _ d hd
  exact ⟨d',hd',hr.same,hr.generation⟩

/-- Transactions that leave the dispatches alone and keep the fence. -/
def frameRel (s : AgentStore) (_ : Held) (s' : AgentStore) : Prop :=
  s'.dispatches = s.dispatches ∧ FenceKept s s'

instance : Prog.Idle frameRel := ⟨fun s _ => ⟨rfl,.refl s⟩⟩

theorem frame_promise (hi : DispatchInv strict t) {held : Held} {s : AgentStore} (h : frameRel t.store held s) :
    (dispatchProtocol strict).promise i t s ∧ DispatchInv strict (t.commit s) := by
  obtain ⟨hd,hk⟩ := h
  have hok := hi.ok _ t.store_mem_history
  obtain ⟨hok',hlink⟩ := hk hok.fence
  refine ⟨⟨fun id hn hs => absurd (hd ▸ hn) hs,fun _ id d hid _ => .inl (by rw [hd]; exact hid)⟩,?_⟩
  refine hi.commit ⟨hok',?_,?_⟩ (.of_same hd hlink.before) fun _ => .of_same hd
  · rw [hd]; exact hok.filed
  · rw [hd]; exact hok.unique

theorem safe_frame {α : Type} {F : AgentTrace → Prop} (hF : Knows strict i F) {p : AgentProg α}
    (hsteps : p.Steps frameRel) (hasks : p.Asks AgentQuery.special 0) (ht : F t) :
    (dispatchProtocol strict).Safe i (fun _ => F) (fun _ => F) p t := by
  induction p generalizing t with
  | ret a => exact fun t' hl => hF.lasting.later hl ht
  | fail e => exact fun t' hl => hF.lasting.later hl ht
  | tx held next k ih =>
    intro t' hl _
    obtain ⟨hp,hi⟩ := frame_promise (i := i) hl.1 (hsteps.1 t'.store)
    exact ⟨hp,hi,ih _ (hsteps.2 _) (hasks _) (hF.commit t' _ (hsteps.1 t'.store).1 (hF.lasting.later hl ht))⟩
  | call q k ih =>
    intro t' hl a ha
    have hq : ¬ q.special := fun hq => by
      obtain ⟨m,hm,-⟩ := hasks.1 hq
      omega
    exact ⟨calm.record i t' q a hl.1 ha hq,
      ih a (hsteps a) (hasks.2 hq a) (hF.record t' q a (hF.lasting.later hl ht))⟩

theorem safe_reads {α : Type} {F : AgentTrace → Prop} (hF : Knows strict i F) (p : AgentProg α) [Reads p]
    (ht : F t) : (dispatchProtocol strict).Safe i (fun _ => F) (fun _ => F) p t :=
  Protocol.safe_quiet calm_notable hF.lasting p ht

end Protocol
end Overseer.Agent
