import Overseer.Agent.Operations
import Overseer.Library.Schedule

/-! # The operation fence

The reservation row of an instance moves in one cycle: created open, fenced by an
owner, released into the next generation. Any number of callers run the
coordinator's fence operations with reservations of their choice.
-/
namespace Overseer.Agent
open Overseer.Library

/-- The columns repeat the payload, and the row is open exactly when it has no owner. -/
structure OperationRow.WellFormed (row : OperationRow) (x : String) : Prop where
  instanceId : row.payload.instanceId = x
  generation : row.generation = row.payload.generation
  state : row.state = row.payload.state
  ownerToken : row.ownerToken = row.payload.ownerToken
  open_iff : row.state = .opened ↔ row.ownerToken = none

def FenceOk (s : AgentStore) : Prop := ∀ x row, s.operations.get? x = some row → row.WellFormed x

/-- What one transaction can do to the row of an instance. -/
inductive FenceMove : Option OperationRow → Option OperationRow → Prop where
  | idle (r : Option OperationRow) : FenceMove r r
  | create {row : OperationRow} (hg : row.generation = 1) : FenceMove none (some row)
  | reserve {row row' : OperationRow} (hs : row.state = .opened) (hg : row'.generation = row.generation)
      (hs' : row'.state = .fenced) : FenceMove (some row) (some row')
  | release {row row' : OperationRow} (hs : row.state = .fenced) (hg : row'.generation = row.generation + 1)
      (hs' : row'.state = .opened) : FenceMove (some row) (some row')

def FenceLink (s s' : AgentStore) : Prop :=
  ∀ x, FenceMove (s.operations.get? x) (s'.operations.get? x)

/-- A later row has a later generation, or is the same reservation once that is fenced. -/
def FenceBefore (s s' : AgentStore) : Prop := ∀ x row, s.operations.get? x = some row →
  ∃ row', s'.operations.get? x = some row' ∧ (row.generation < row'.generation ∨
    row.generation = row'.generation ∧
      (row.state = .fenced → row'.state = .fenced ∧ row'.ownerToken = row.ownerToken))

theorem FenceMove.before {r r' : Option OperationRow} (h : FenceMove r r') {row : OperationRow}
    (hr : r = some row) : ∃ row', r' = some row' ∧ (row.generation < row'.generation ∨
      row.generation = row'.generation ∧
        (row.state = .fenced → row'.state = .fenced ∧ row'.ownerToken = row.ownerToken)) := by
  cases h with
  | idle => exact ⟨row,hr,.inr ⟨rfl,fun h => ⟨h,rfl⟩⟩⟩
  | create => cases hr
  | reserve hs hg hs' =>
    cases hr
    exact ⟨_,rfl,.inr ⟨hg.symm,fun h => by rw [hs] at h; cases h⟩⟩
  | release hs hg hs' =>
    cases hr
    exact ⟨_,rfl,.inl (by omega)⟩

theorem FenceBefore.trans {s s' s'' : AgentStore} (h : FenceBefore s s') (h' : FenceBefore s' s'') :
    FenceBefore s s'' := by
  intro x row hrow
  obtain ⟨row',hrow',hlt⟩ := h x row hrow
  obtain ⟨row'',hrow'',hlt'⟩ := h' x row' hrow'
  refine ⟨row'',hrow'',?_⟩
  rcases hlt with hlt | ⟨heq,hf⟩
  · rcases hlt' with hlt' | ⟨heq',-⟩
    · exact .inl (hlt.trans hlt')
    · exact .inl (heq' ▸ hlt)
  · rcases hlt' with hlt' | ⟨heq',hf'⟩
    · exact .inl (heq ▸ hlt')
    · refine .inr ⟨heq.trans heq',fun hs => ?_⟩
      obtain ⟨hs',ho⟩ := hf hs
      obtain ⟨hs'',ho'⟩ := hf' hs'
      exact ⟨hs'',ho'.trans ho⟩

theorem FenceLink.refl (s : AgentStore) : FenceLink s s := fun _ => .idle _

theorem FenceLink.put {s : AgentStore} {o : AgentOperationReservation}
    (h : FenceMove (s.operations.get? o.instanceId) (some ⟨o.generation,o.state,o.ownerToken,o⟩)) :
    FenceLink s (s.putOperation o) := by
  intro x
  simp only [AgentStore.putOperation,Dict.get?_set]
  split
  · next hx => exact hx ▸ h
  · exact .idle _

theorem FenceOk.put {s : AgentStore} (hs : FenceOk s) {o : AgentOperationReservation}
    (ho : o.state = .opened ↔ o.ownerToken = none) : FenceOk (s.putOperation o) := by
  intro x row hx
  simp only [AgentStore.putOperation,Dict.get?_set] at hx
  split at hx
  · next h =>
    cases hx
    exact ⟨h.symm,rfl,rfl,rfl,ho⟩
  · exact hs x row hx

/-- From a well-formed store the transaction keeps it well formed and moves each row once. -/
def FenceKept (s s' : AgentStore) : Prop := FenceOk s → FenceOk s' ∧ FenceLink s s'

theorem FenceKept.refl (s : AgentStore) : FenceKept s s := fun h => ⟨h,.refl s⟩

theorem FenceKept.of_eq {s s' : AgentStore} (h : s'.operations = s.operations) : FenceKept s s' := by
  intro hs
  exact ⟨fun x row hx => hs x row (h ▸ hx),fun x => h ▸ .idle _⟩

theorem ensureOperation_kept (s : AgentStore) (x : String) (at_ : Timestamp) :
    FenceKept s (s.ensureOperation x at_) := by
  intro hs
  unfold AgentStore.ensureOperation
  split
  · exact ⟨hs,.refl s⟩
  · next hx => exact ⟨hs.put (by simp),.put (hx ▸ .create rfl)⟩

theorem ensureOperation_get (s : AgentStore) (x : String) (at_ : Timestamp) :
    ∃ row, (s.ensureOperation x at_).operations.get? x = some row ∧
      (s.operations.get? x = none → row.state = .opened ∧ row.generation = 1) ∧
      (∀ row', s.operations.get? x = some row' → row = row') := by
  unfold AgentStore.ensureOperation
  split
  · next row hx => exact ⟨row,hx,fun h => by simp [hx] at h,fun row' h => by simpa [hx] using h⟩
  · next hx => exact ⟨⟨1,.opened,none,⟨x,1,.opened,none,at_⟩⟩,by simp [AgentStore.putOperation],by simp,by simp [hx]⟩

@[simp] theorem post_updateAgentOperation (o : AgentOperationReservation) (g : ℕ)
    (st : AgentOperationFenceState) (token : Option String) (s : AgentStore) (Q : Unit → AgentStore → Prop) :
    Tx.Post (updateAgentOperation o g st token) s Q ↔ ∀ row, s.operations.get? o.instanceId = some row →
      row.generation = g → row.state = st → row.ownerToken = token → Q () (s.putOperation o) := by
  simp only [updateAgentOperation,Tx.Post]
  cases hx : s.operations.get? o.instanceId with
  | none => simp
  | some row =>
    by_cases h : row.generation = g ∧ row.state = st ∧ row.ownerToken = token
    · simp [h]
    · simp only [h,↓reduceIte,Option.some.injEq,forall_eq',true_iff]
      exact fun h₁ h₂ h₃ => absurd ⟨h₁,h₂,h₃⟩ h

/-- The current row is the one the reservation names. -/
def Owns (s : AgentStore) (r : AgentOperationReservation) : Prop := ∃ row,
  s.operations.get? r.instanceId = some row ∧ row.generation = r.generation ∧ row.state = .fenced ∧
    row.ownerToken = r.ownerToken

/-- The reservation a release writes. -/
def released (r : AgentOperationReservation) (at_ : Timestamp) : AgentOperationReservation :=
  { r with generation := r.generation + 1, state := .opened, ownerToken := none, updatedAt := at_ }

theorem released_kept {s : AgentStore} {r : AgentOperationReservation} (at_ : Timestamp) (h : Owns s r) :
    FenceKept s (s.putOperation (released r at_)) := by
  intro hs
  obtain ⟨row,hrow,hg,hst,-⟩ := h
  exact ⟨hs.put (by simp [released]),.put (by
    rw [show (released r at_).instanceId = r.instanceId from rfl,hrow]
    exact .release hst (by simp [released,hg]) rfl)⟩

theorem post_release (r : AgentOperationReservation) (at_ : Timestamp) (s : AgentStore) :
    Tx.Post (release r at_ : AgentTx _) s fun o s' =>
      o = released r at_ ∧ Owns s r ∧ s' = s.putOperation (released r at_) := by
  simp only [release,saveAgentOperation,Tx.post_bind,Tx.post_atomically,post_updateAgentOperation,Tx.post_pure]
  intro row hrow hg hst ho
  exact ⟨rfl,⟨row,hrow,hg,hst,ho⟩,rfl⟩

theorem post_reserve (x token : String) (a b : Timestamp) (s : AgentStore) (hs : FenceOk s) :
    Tx.Post (reserve x token a b : AgentTx _) s fun o s' => o.instanceId = x ∧ o.state = .fenced ∧
      o.ownerToken = some token ∧ s' = (s.ensureOperation x a).putOperation o ∧ FenceOk s' ∧
      (∀ row, s.operations.get? x = some row → row.state = .opened ∧ row.generation = o.generation) ∧
      (s.operations.get? x = none → o.generation = 1) := by
  simp only [reserve,ensureAgentOperation,saveAgentOperation,Tx.post_bind,Tx.post_atomically,Tx.post_write,
    Tx.post_read,Tx.post_orRaise,Tx.post_require,Tx.post_pure,post_updateAgentOperation]
  intro row hrow hopen row' _ hg hst _
  have hs' := (ensureOperation_kept s x a hs).1
  have hw := hs' x row hrow
  obtain ⟨row₀,hrow₀,hnew,hold⟩ := ensureOperation_get s x a
  obtain rfl : row₀ = row := by simpa [hrow₀] using hrow
  refine ⟨hw.instanceId,trivial,trivial,trivial,hs'.put (by simp),fun row₁ h₁ => ?_,fun h₁ => ?_⟩
  · cases hold row₁ h₁
    exact ⟨hw.state.trans hopen,hw.generation⟩
  · exact hw.generation.symm.trans (hnew h₁).2

theorem reserve_kept (x token : String) (a b : Timestamp) (s : AgentStore) :
    FenceKept s ((reserve x token a b : AgentTx _).next s) := by
  intro hs
  refine Tx.next_of_post (R := fun s' => FenceOk s' ∧ FenceLink s s') ⟨hs,.refl s⟩
    ((post_reserve x token a b s hs).mono ?_)
  rintro o s' ⟨rfl,hst,ho,rfl,hok,hold,hnew⟩
  refine ⟨hok,fun y => ?_⟩
  simp only [AgentStore.putOperation,Dict.get?_set]
  by_cases hy : y = o.instanceId
  · rw [if_pos hy,hy]
    cases hx : s.operations.get? o.instanceId with
    | none => exact .create (hnew hx)
    | some row => exact .reserve (hold row hx).1 (hold row hx).2.symm hst
  · rw [if_neg hy]
    exact (ensureOperation_kept s _ a hs).2 y

/-- Across the transactions of a program the fence is kept. -/
def fenceRel (s : AgentStore) (_ : Held) (s' : AgentStore) : Prop := FenceKept s s'

instance : Prog.Idle fenceRel := ⟨fun s _ => .refl s⟩

/-- A program that releases `r` changes the store only while `r` is the current reservation. -/
def releaseRel (r : AgentOperationReservation) (s : AgentStore) (_ : Held) (s' : AgentStore) : Prop :=
  s' = s ∨ Owns s r ∧ ∃ at_, s' = s.putOperation (released r at_)

theorem releaseRel_kept {r : AgentOperationReservation} {s s' : AgentStore} {held : Held}
    (h : releaseRel r s held s') : fenceRel s held s' := by
  rcases h with rfl | ⟨ho,at_,rfl⟩
  · exact .refl _
  · exact released_kept at_ ho

section Programs
variable {Rel : AgentStore → Held → AgentStore → Prop}

@[simp] theorem steps_clock : clock.Steps Rel := Prog.steps_ask _
@[simp] theorem steps_newId (tag : String) : (newId tag).Steps Rel := Prog.steps_ask _

@[simp] theorem steps_loadAgentRecord [Prog.Idle Rel] {α : Type} (T : Table α) (id : String) :
    (loadAgentRecord T id : AgentProg α).Steps Rel := by
  simp [loadAgentRecord]

@[simp] theorem steps_unlessMissing {α : Type} {load : AgentProg α} (h : load.Steps Rel) :
    (unlessMissing load).Steps Rel := by
  simp [unlessMissing,h]

@[simp] theorem steps_loadAgentOperation [Prog.Idle Rel] (x : String) :
    (loadAgentOperation x : AgentProg _).Steps Rel := by
  simp [loadAgentOperation]

@[simp] theorem steps_verifyOwned [Prog.Idle Rel] (r : AgentOperationReservation) :
    (verifyOwned r : AgentProg _).Steps Rel := by
  simp [verifyOwned]

end Programs

theorem steps_ensureAgentOperation (x : String) (at_ : Timestamp) :
    (ensureAgentOperation x at_ : AgentProg _).Steps fenceRel :=
  Prog.steps_bind (Prog.steps_atomically fun s => ensureOperation_kept s x at_) fun _ =>
    steps_loadAgentOperation x

theorem steps_reserve (x token : String) (a b : Timestamp) :
    (reserve x token a b : AgentProg _).Steps fenceRel :=
  Prog.steps_atomically fun s => reserve_kept x token a b s

theorem steps_release (r : AgentOperationReservation) (at_ : Timestamp) :
    (release r at_ : AgentProg _).Steps (releaseRel r) := by
  have hsave : (saveAgentOperation (released r at_) r.generation .fenced r.ownerToken : AgentProg Unit).Steps
      (releaseRel r) := Prog.steps_atomically fun s => Tx.next_of_post (.inl rfl)
    ((post_updateAgentOperation ..).mpr fun row hrow hg hst ho => .inr ⟨⟨row,hrow,hg,hst,ho⟩,at_,rfl⟩)
  exact Prog.steps_bind hsave fun _ => trivial

theorem post_verifyOwned (r : AgentOperationReservation) (s : AgentStore) :
    Tx.Post (verifyOwned r : AgentTx _) s fun _ s' => s' = s ∧
      ∃ row, s.operations.get? r.instanceId = some row ∧ row.payload = r := by
  simp only [verifyOwned,unlessMissing,Tx.post_bind,Tx.post_orRaise,Tx.post_require]
  refine Tx.post_rescue ?_ fun e => ?_
  · simp only [loadAgentOperation,Tx.post_bind,Tx.post_atomically,Tx.post_read,Tx.post_orRaise,Tx.post_pure,
      Option.some.injEq]
    rintro row hrow _ rfl hr
    exact ⟨trivial,row,hrow,hr⟩
  · simp

theorem steps_releaseIfOwned (r : AgentOperationReservation) (at_ : Timestamp) :
    (releaseIfOwned r at_ : AgentProg _).Steps (releaseRel r) := by
  refine Prog.steps_atomically fun s => Tx.next_of_post (.inl rfl) ?_
  rw [Tx.post_bind]
  have hverify : Tx.Post (rescue (do verifyOwned r; return true) fun e =>
      if e.kind = .operationBlocked then pure false else raise e : AgentTx Bool) s fun _ s' => s' = s := by
    refine Tx.post_rescue ?_ fun e => by simp
    simpa using (post_verifyOwned r s).mono fun _ _ h => h.1
  refine hverify.mono ?_
  rintro owned s' rfl
  simp only [Tx.post_ite,Tx.post_bind,Tx.post_pure]
  exact ⟨fun _ => (post_release r at_ s').mono fun _ _ h => .inr ⟨h.2.1,at_,h.2.2⟩,fun _ => .inl rfl⟩

/-- The calls of the fence protocol, with arguments of the caller's choice. A call
answers with the reservation it got, if any. -/
inductive FenceCall where
  | ensure (x : String)
  | reserve (x ownerToken : String)
  | verify (r : AgentOperationReservation)
  | release (r : AgentOperationReservation)
  | releaseIfOwned (r : AgentOperationReservation)

def FenceCall.program : FenceCall → AgentProg (Option AgentOperationReservation)
  | .ensure x => do return some (← ensureAgentOperation x (← clock))
  | .reserve x ownerToken => do
    let ensuredAt ← clock
    let reservedAt ← clock
    return some (← Overseer.Agent.reserve x ownerToken ensuredAt reservedAt)
  | .verify r => do
    verifyOwned r
    return none
  | .release r => do return some (← Overseer.Agent.release r (← clock))
  | .releaseIfOwned r => do
    let _ ← Overseer.Agent.releaseIfOwned r (← clock)
    return none

/-- The reservation a call gives up. -/
def FenceCall.releases : FenceCall → Option AgentOperationReservation
  | .release r | .releaseIfOwned r => some r
  | _ => none

def fenceSystem : System AgentStore Held Answer AgentError (Option AgentOperationReservation) where
  start p := ∃ c : FenceCall, p = c.program
  valid t q a := validAnswer t q a = true
  guard _ _ _ := True

theorem FenceCall.steps_releases {c : FenceCall} {r : AgentOperationReservation} (h : c.releases = some r) :
    c.program.Steps (releaseRel r) := by
  cases c with
  | release r' =>
    cases h
    exact Prog.steps_bind steps_clock fun at_ => Prog.steps_bind (steps_release r at_) fun _ => trivial
  | releaseIfOwned r' =>
    cases h
    exact Prog.steps_bind steps_clock fun at_ => Prog.steps_bind (steps_releaseIfOwned r at_) fun _ => trivial
  | _ => cases h

theorem FenceCall.steps (c : FenceCall) : c.program.Steps fenceRel := by
  cases c with
  | ensure x =>
    exact Prog.steps_bind steps_clock fun at_ => Prog.steps_bind (steps_ensureAgentOperation x at_) fun _ => trivial
  | reserve x token =>
    exact Prog.steps_bind steps_clock fun a => Prog.steps_bind steps_clock fun b =>
      Prog.steps_bind (steps_reserve x token a b) fun _ => trivial
  | verify r => exact Prog.steps_bind (steps_verifyOwned r) fun _ => trivial
  | release r => exact (steps_releases (c := .release r) rfl).mono fun _ _ _ => releaseRel_kept
  | releaseIfOwned r => exact (steps_releases (c := .releaseIfOwned r) rfl).mono fun _ _ _ => releaseRel_kept

theorem fence_links {s₀ : AgentStore} (h₀ : FenceOk s₀)
    {w : World AgentStore Held Answer AgentError (Option AgentOperationReservation)}
    (h : World.Reachable fenceSystem (World.init s₀) w) :
    (∀ s ∈ w.trace.history, FenceOk s) ∧ List.IsChain (fun s' s => FenceLink s s') w.trace.history := by
  have hsteps : ∀ p, fenceSystem.start p → p.Steps fenceRel := by
    rintro p ⟨c,rfl⟩
    exact c.steps
  exact h.steps hsteps (fun s held s' hs _ hk => hk hs) h₀

/-- Rows of one instance fenced in one generation have one owner. -/
def OneOwner (s s' : AgentStore) : Prop := ∀ x row row', s.operations.get? x = some row →
  s'.operations.get? x = some row' → row.state = .fenced → row'.state = .fenced →
  row.generation = row'.generation → row.ownerToken = row'.ownerToken

instance : Std.Symm OneOwner :=
  ⟨fun _ _ h x row row' hr hr' hf hf' hg => (h x row' row hr' hr hf' hf hg.symm).symm⟩

theorem FenceBefore.oneOwner {s s' : AgentStore} (h : FenceBefore s s') : OneOwner s s' := by
  intro x row row' hrow hrow' hf _ hg
  obtain ⟨row'',hrow'',hlt⟩ := h x row hrow
  obtain rfl : row'' = row' := by simpa [hrow''] using hrow'
  rcases hlt with hlt | ⟨-,hlt⟩
  · omega
  · exact (hlt hf).2.symm

theorem OneOwner.refl (s : AgentStore) : OneOwner s s := by
  intro x row row' hrow hrow' _ _ _
  rw [hrow] at hrow'
  cases hrow'
  rfl

/-- The fence protocol, over every interleaving of its calls. Every state reached has
well-formed rows, one transaction moves a row by at most one edge of the cycle, the
generation never decreases, a generation has one owner ever, a call that releases
changes nothing unless its reservation is the current one, and a release that
returns has opened the next generation. -/
theorem fence_protocol {s₀ : AgentStore} (h₀ : FenceOk s₀)
    {w : World AgentStore Held Answer AgentError (Option AgentOperationReservation)}
    (h : World.Reachable fenceSystem (World.init s₀) w) :
    (∀ s ∈ w.trace.history, FenceOk s) ∧
    List.IsChain (fun s' s => FenceLink s s') w.trace.history ∧
    w.trace.history.Pairwise (fun s' s => ∀ x row, s.operations.get? x = some row →
      ∃ row', s'.operations.get? x = some row' ∧ row.generation ≤ row'.generation) ∧
    (∀ s ∈ w.trace.history, ∀ s' ∈ w.trace.history, OneOwner s s') ∧
    (∀ (c : FenceCall) r, c.releases = some r → c.program.Steps (releaseRel r)) ∧
    (∀ r at_ s o s', (release r at_ : AgentTx _) s = .ok (o,s') →
      Owns s r ∧ s' = s.putOperation (released r at_)) := by
  obtain ⟨hok,hchain⟩ := fence_links h₀ h
  have hbefore : w.trace.history.Pairwise fun s' s => FenceBefore s s' :=
    World.pairwise_of_chain hchain (fun s s' hl x row hrow => (hl x).before hrow) fun _ _ _ => .trans
  refine ⟨hok,hchain,hbefore.imp ?_,?_,fun c r => c.steps_releases,?_⟩
  · intro s' s hb x row hrow
    obtain ⟨row',hrow',hlt⟩ := hb x row hrow
    exact ⟨row',hrow',by omega⟩
  · have hone : w.trace.history.Pairwise OneOwner :=
      hbefore.imp fun hb => (inferInstance : Std.Symm OneOwner).symm _ _ hb.oneOwner
    exact fun s hs s' hs' => hone.forall_of_forall (fun s _ => .refl s) hs hs'
  · intro r at_ s o s' hrun
    exact ((post_release r at_ s).of_ok hrun).2

theorem FenceCall.allowed (c : FenceCall) : ∀ mv ∈ [Move.start c.program], mv.Allowed fenceSystem :=
  World.allowed_start fenceSystem ⟨c,rfl⟩

/-- Alpha reserves, beta is refused, alpha releases, beta reserves the next generation. -/
def fenceCycle : List (Move AgentStore Held Answer AgentError (Option AgentOperationReservation)) :=
  [.start (FenceCall.reserve "dock" "alpha").program] ++ [.start (FenceCall.reserve "dock" "beta").program] ++
  World.steps 0 3 (plainAnswers 1 "a") ++ World.steps 1 3 (plainAnswers 2 "b") ++
  [.start (FenceCall.releaseIfOwned ⟨"dock",1,.fenced,some "alpha",1⟩).program] ++
  World.steps 2 2 (plainAnswers 3 "c") ++
  [.start (FenceCall.reserve "dock" "beta").program] ++ World.steps 3 3 (plainAnswers 4 "d")

theorem fence_protocol_cycle : ∃ w : World AgentStore Held Answer AgentError (Option AgentOperationReservation),
    w.trace.store.operations.get? "dock" =
      some ⟨2,.fenced,some "beta",⟨"dock",2,.fenced,some "beta",4⟩⟩ ∧
    ∀ s ∈ w.trace.history, ∀ s' ∈ w.trace.history, OneOwner s s' := by
  have hallowed : ∀ mv ∈ fenceCycle, mv.Allowed fenceSystem := by
    simp only [fenceCycle,List.forall_mem_append]
    and_intros
    all_goals first | exact FenceCall.allowed _ | exact World.allowed_steps _ _ _
  have hplay : ((World.init {}).play validAnswer (fun _ _ _ => true) fenceCycle).any (fun w =>
      decide (w.trace.store.operations.get? "dock" =
        some ⟨2,.fenced,some "beta",⟨"dock",2,.fenced,some "beta",4⟩⟩)) = true := by decide +kernel
  obtain ⟨w,hreach,hrow⟩ := World.exists_reachable _ _ _ (fun _ _ _ h => h) (fun _ _ _ _ => trivial) hallowed hplay
  exact ⟨w,of_decide_eq_true hrow,(fence_protocol (fun x row hx => by simp at hx) hreach).2.2.2.1⟩

end Overseer.Agent
