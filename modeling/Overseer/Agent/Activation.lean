import Overseer.Agent.HandoffGuarantees
import Overseer.Library.Owned

/-! # The activation lease

Managers that activate an instance take a reservation with a lease; the provider is
started outside any transaction, so the lease may run out and be taken over before the
epoch is opened. A reservation is finished once, by the call that took it, and the epoch
of an activation is committed with it.
-/
namespace Overseer.Agent
open Overseer.Library
open Prog

/-- The calls that activate an instance. -/
def ManagerCall.activates : ManagerCall → Prop
  | .activate _ _ _ => True
  | _ => False

def activationSystem : System AgentStore Held Answer AgentError Unit :=
  managerSystem ManagerCall.activates fun _ _ _ => True

/-! ### One commit -/

/-- The reservation of an instance after a finish. -/
def finished (a : AgentActivationReservation) (state : ActivationState) (epochId reason : Option String) :
    AgentActivationReservation := { a with state, epochId, reason }

/-- A first reservation, or one that takes over from a reservation that is not active. -/
def Reserves (row : Option AgentActivationReservation) (a : AgentActivationReservation) : Prop :=
  a.state = .starting ∧ (row = none ∧ a.generation = 1 ∨
    ∃ b, row = some b ∧ b.state ≠ .active ∧ a.generation = b.generation + 1)

/-- What a commit of an activation does, by a call that drew the reservation ids `mine`. -/
inductive ActivationCommit (mine : String → Prop) (s : AgentStore) : AgentStore → Prop
  | idle : ActivationCommit mine s s
  | reserve {a : AgentActivationReservation} (hmine : mine a.reservationId)
      (row : Reserves (s.activations.get? a.instanceId) a) : ActivationCommit mine s (s.putActivation a)
  | block {x : String} {a : AgentActivationReservation} (hmine : mine a.reservationId)
      (row : s.activations.get? x = some a) (starting : a.state = .starting) (reason : Option String) :
      ActivationCommit mine s (s.putActivation (finished a .blocked none reason))
  | activate {x : String} {a : AgentActivationReservation} {e : DriverEpoch} {s₁ : AgentStore}
      {operations : Dict OperationRow} (hmine : mine a.reservationId)
      (row : s.activations.get? x = some a) (starting : a.state = .starting) (hx : e.instanceId = x)
      (opens : OpensSession { s with operations := operations } s₁) :
      ActivationCommit mine s ((epochTable.put s₁ e).putActivation (finished a .active (some e.id) none))

theorem commit_upsertAgentActivation {mine : String → Prop} {x r owner : String} {a b : Timestamp} {retry : Bool}
    {c : Timestamp} (hr : mine r) (s : AgentStore) :
    ActivationCommit mine s ((upsertAgentActivation x r owner a b retry c).next s) := by
  simp only [Tx.next,upsertAgentActivation]
  cases hrow : s.activations.get? x with
  | none =>
    apply ActivationCommit.reserve hr
    exact ⟨rfl,.inl ⟨hrow,rfl⟩⟩
  | some current =>
    by_cases htake : (current.state = .blocked ∧ retry = true) ∨
        (current.state = .starting ∧ current.leaseExpiresAt ≤ c)
    · simp only [if_pos htake]
      apply ActivationCommit.reserve hr
      refine ⟨rfl,.inr ⟨current,hrow,?_,rfl⟩⟩
      rcases htake with ⟨h,-⟩ | ⟨h,-⟩ <;> simp [h]
    · simp only [if_neg htake]
      exact .idle

/-- The row a finish finds. -/
structure Finishes (s : AgentStore) (x r owner : String) (generation : ℕ) (a : AgentActivationReservation) : Prop where
  row : s.activations.get? x = some a
  reservationId : a.reservationId = r
  ownerId : a.ownerId = owner
  generation : a.generation = generation
  starting : a.state = .starting

theorem post_updateAgentActivation (x r owner : String) (generation : ℕ) (state : ActivationState)
    (epochId reason : Option String) (s : AgentStore) :
    Tx.Post (updateAgentActivation x r owner generation state epochId reason) s fun _ s' =>
      ∃ a, Finishes s x r owner generation a ∧ s' = s.putActivation (finished a state epochId reason) := by
  simp only [Tx.Post,updateAgentActivation]
  cases hrow : s.activations.get? x with
  | none => trivial
  | some current =>
    by_cases hown : current.reservationId = r ∧ current.ownerId = owner ∧ current.generation = generation ∧
        current.state = .starting
    · simp only [if_pos hown]
      obtain ⟨hr,ho,hg,hst⟩ := hown
      exact ⟨current,⟨hrow,hr,ho,hg,hst⟩,rfl⟩
    · simp only [if_neg hown]

theorem commit_updateAgentActivation {mine : String → Prop} {x r owner : String} {generation : ℕ}
    {reason : Option String} (hr : mine r) (s : AgentStore) :
    ActivationCommit mine s ((updateAgentActivation x r owner generation .blocked none reason).next s) := by
  refine Tx.next_of_post .idle ((post_updateAgentActivation ..).mono ?_)
  rintro _ _ ⟨a,ha,rfl⟩
  exact .block (ha.reservationId ▸ hr) ha.row ha.starting reason

section Activate
variable (cfg : Config) (x by_ providerId external r : String) (generation : ℕ) (updatedAt : Timestamp)
  (draws : EpochDraws) (s : AgentStore)

/-- The epoch is opened with the reservation of the call, found as the call took it. -/
theorem post_activateTx_finishes :
    Tx.Post (activateTx cfg x by_ providerId external r generation updatedAt draws) s fun e s' =>
      ∃ operations s₁ a, e.instanceId = x ∧ Finishes s x r cfg.activationOwnerId generation a ∧
        OpensSession { s with operations := operations } s₁ ∧
        s' = (epochTable.put s₁ e).putActivation (finished a .active (some e.id) none) := by
  simp only [activateTx,ensureAgentOperation,Tx.post_bind,Tx.post_atomically,Tx.post_write,Tx.post_read,
    Tx.post_orRaise,Tx.post_pure]
  intro _ _
  refine (post_openEpoch ..).mono ?_
  rintro e _ ⟨hopens,s₁,hs₁,⟨hfalse,-⟩ | ⟨-,-,-,rfl⟩⟩
  · cases hfalse
  · refine (post_updateAgentActivation ..).mono ?_
    rintro _ _ ⟨a,ha,rfl⟩
    obtain ⟨operations,hop⟩ := ensureOperation_eq x s updatedAt
    rw [hop] at hs₁
    refine ⟨operations,s₁,a,hopens.instanceId,⟨?_,ha.2,ha.3,ha.4,ha.5⟩,hs₁,rfl⟩
    have hrow := ha.row
    rcases hs₁ with rfl | ⟨session,-,rfl⟩ <;> exact hrow

theorem commit_activateTx_own {mine : String → Prop} (hr : mine r) :
    ActivationCommit mine s ((activateTx cfg x by_ providerId external r generation updatedAt draws).next s) := by
  refine Tx.next_of_post .idle ((post_activateTx_finishes ..).mono ?_)
  rintro e _ ⟨operations,s₁,a,hx,ha,hs₁,rfl⟩
  exact .activate (ha.reservationId ▸ hr) ha.row ha.starting hx hs₁

end Activate

/-! ### The calls -/

/-- The reservations among the answers of a call. -/
def Drew (own : List (Σ q, Answer q)) (r : String) : Prop := ⟨.newId "activation",r⟩ ∈ own

abbrev ActivationOwned {α : Type} (own : List (Σ q, Answer q)) (p : AgentProg α) : Prop :=
  p.Owned (fun own s s' => ActivationCommit (Drew own) s s') own

variable {α β : Type} {own : List (Σ q, Answer q)}

theorem activationOwned_of_steps {p : AgentProg α} (hp : p.Steps fun s _ s' => s' = s) : ActivationOwned own p :=
  Owned.of_steps hp (fun _ _ _ h => h ▸ .idle) own

theorem activationOwned_reads_bind {p : AgentProg α} [hp : Reads p] {f : α → AgentProg β}
    (hf : ∀ a own', own ⊆ own' → ActivationOwned own' (f a)) : ActivationOwned own (p >>= f) :=
  owned_bind (activationOwned_of_steps hp.idles) hf

theorem steps_drawEpoch : drawEpoch.Steps fun s _ s' => s' = s := by
  unfold drawEpoch
  exact steps_bind (steps_ask _) fun _ => steps_bind (steps_ask _) fun _ =>
    steps_bind (steps_ask _) fun _ => steps_bind (steps_ask _) fun _ => trivial

theorem activate_owned (cfg : Config) (x by_ : String) (retryBlocked : Bool) :
    ActivationOwned [] (activate cfg x by_ retryBlocked) := by
  unfold activate
  refine activationOwned_reads_bind fun _ own₁ _ => activationOwned_reads_bind fun _ own₂ _ => ?_
  refine activationOwned_reads_bind fun epochs own₃ _ => ?_
  rcases epochs with _ | ⟨epoch,_ | _⟩
  · refine activationOwned_reads_bind fun profile own₄ _ => activationOwned_reads_bind fun driver own₅ _ => ?_
    refine owned_ask_bind fun r => activationOwned_reads_bind fun startedAt own₆ h₆ => ?_
    have hr₆ : Drew own₆ r := h₆ List.mem_cons_self
    refine owned_bind (owned_transaction fun s => commit_upsertAgentActivation hr₆ s) fun reserved own₇ h₇ => ?_
    split
    · exact activationOwned_reads_bind fun polls own₈ _ =>
        activationOwned_of_steps (inferInstance : Reads (awaitActivationWinner x polls)).idles
    · refine activationOwned_reads_bind fun activation own₈ h₈ => ?_
      refine owned_ask_bind fun answer => ?_
      have hr₉ : Drew (⟨.start driver profile,answer⟩ :: own₈) r := List.mem_cons_of_mem _ (h₈ (h₇ hr₆))
      have hblock : ∀ category : AgentErrorCategory, ∀ e : AgentError, ActivationOwned
          (⟨.start driver profile,answer⟩ :: own₈) (do
            finishAgentActivation x r cfg.activationOwnerId activation.generation .blocked none (some category.value)
            raise e : AgentProg DriverEpoch) := fun category e =>
        owned_bind (owned_transaction fun s => commit_updateAgentActivation hr₉ s) fun _ _ _ => trivial
      cases answer with
      | none => exact hblock _ _
      | some result =>
        dsimp only
        split
        · refine activationOwned_reads_bind fun updatedAt own₁₀ h₁₀ => ?_
          refine owned_bind (activationOwned_of_steps steps_drawEpoch) fun draws own₁₁ h₁₁ => ?_
          exact owned_transaction fun s => commit_activateTx_own _ _ _ _ _ _ _ _ _ s (h₁₁ (h₁₀ hr₉))
        · exact hblock _ _
  · trivial
  · trivial

/-! ### Whole runs -/

/-- An epoch that is new or changed is committed with the reservation that is set to it. -/
def EpochWithActivation (s s' : AgentStore) : Prop := ∀ k e, s'.epochs.get? k = some e → s.epochs.get? k ≠ some e →
  ∃ a, s.activations.get? e.instanceId = some a ∧ a.state = .starting ∧
    s'.activations.get? e.instanceId = some (finished a .active (some k) none)

/-- How the reservation of an instance goes on. Another holder has a later generation, a
generation is finished once, and an active reservation stays. -/
structure LeaseGrows (a a' : AgentActivationReservation) : Prop where
  generation : a.generation ≤ a'.generation
  holder : a'.generation = a.generation → a'.reservationId = a.reservationId ∧ a'.ownerId = a.ownerId
  once : a'.generation = a.generation → a.state ≠ .starting → a' = a
  active : a.state = .active → a' = a

theorem LeaseGrows.refl (a : AgentActivationReservation) : LeaseGrows a a :=
  ⟨le_refl _,fun _ => ⟨rfl,rfl⟩,fun _ _ => rfl,fun _ => rfl⟩

theorem LeaseGrows.trans {a b c : AgentActivationReservation} (h : LeaseGrows a b) (h' : LeaseGrows b c) :
    LeaseGrows a c := by
  have hab := h.generation
  have hbc := h'.generation
  constructor
  · exact hab.trans hbc
  · intro hca
    have hb := h.holder (by omega)
    have hc := h'.holder (by omega)
    exact ⟨hc.1.trans hb.1,hc.2.trans hb.2⟩
  · intro hca hended
    obtain rfl := h.once (by omega) hended
    exact h'.once hca hended
  · intro hactive
    obtain rfl := h.active hactive
    exact h'.active hactive

abbrev Reservations : Dict AgentActivationReservation → Prop := Dict.Filed AgentActivationReservation.instanceId

theorem rowsKept_set {d : Dict AgentActivationReservation} {x : String} {a' : AgentActivationReservation}
    (h : ∀ a, d.get? x = some a → LeaseGrows a a') : RowsKept LeaseGrows d (d.set x a') := by
  intro k a hk
  rw [Dict.get?_set]
  by_cases hx : k = x
  · subst hx
    exact ⟨a',by simp,h a hk⟩
  · exact ⟨a,by simp [hx,hk],.refl a⟩

theorem finished_grows {a : AgentActivationReservation} (starting : a.state = .starting) (state : ActivationState)
    (epochId reason : Option String) : LeaseGrows a (finished a state epochId reason) := by
  constructor
  · exact le_refl _
  · exact fun _ => ⟨rfl,rfl⟩
  · exact fun _ hended => absurd starting hended
  · intro hactive
    rw [starting] at hactive
    cases hactive

theorem OpensSession.epochs_eq {s s' : AgentStore} (h : OpensSession s s') :
    s'.epochs = s.epochs ∧ s'.activations = s.activations := by
  rcases h with rfl | ⟨session,-,rfl⟩ <;> exact ⟨rfl,rfl⟩

/-- One commit: the reservations go on and epochs come with theirs. -/
theorem ActivationCommit.link {mine : String → Prop} {s s' : AgentStore} (hfiled : Reservations s.activations)
    (h : ActivationCommit mine s s') :
    Reservations s'.activations ∧ RowsKept LeaseGrows s.activations s'.activations ∧ EpochWithActivation s s' := by
  cases h with
  | idle => exact ⟨hfiled,.refl LeaseGrows.refl _,fun k e hk hne => absurd hk hne⟩
  | @reserve a hmine row =>
    refine ⟨hfiled.set a,rowsKept_set fun b hb => ?_,fun k e hk hne => absurd hk hne⟩
    obtain ⟨hnone,-⟩ | ⟨b',hb',hopen,hnext⟩ := row.2
    · rw [hnone] at hb
      cases hb
    · obtain rfl : b' = b := by simpa [hb'] using hb
      exact ⟨by omega,fun _ => by omega,fun _ => by omega,fun hactive => absurd hactive hopen⟩
  | @block x a hmine row starting reason =>
    refine ⟨hfiled.set (finished a .blocked none reason),rowsKept_set fun b hb => ?_,fun k e hk hne => absurd hk hne⟩
    obtain rfl : a = b := by
      have hx : a.instanceId = x := hfiled x a row
      have hb' : s.activations.get? a.instanceId = some b := hb
      rw [hx,row] at hb'
      exact Option.some.inj hb'
    exact finished_grows starting _ _ _
  | @activate x a e s₁ operations hmine row starting hx opens =>
    obtain ⟨hepochs,hactivations⟩ := opens.epochs_eq
    have hax : a.instanceId = x := hfiled x a row
    have hset : ((epochTable.put s₁ e).putActivation (finished a .active (some e.id) none)).activations =
        s.activations.set a.instanceId (finished a .active (some e.id) none) := by
      change s₁.activations.set _ _ = _
      rw [hactivations]
      rfl
    refine ⟨?_,?_,?_⟩
    · rw [hset]
      exact hfiled.set (finished a .active (some e.id) none)
    · rw [hset]
      refine rowsKept_set fun b hb => ?_
      rw [hax,row] at hb
      cases hb
      exact finished_grows starting _ _ _
    · intro k e' hk hne
      have hk' : (s₁.epochs.set e.id e).get? k = some e' := hk
      rw [Dict.get?_set,hepochs] at hk'
      split at hk'
      · next hid =>
        cases hk'
        refine ⟨a,hx ▸ row,starting,?_⟩
        rw [hset,Dict.get?_set,if_pos (hx.trans hax.symm),hid]
      · exact absurd hk' hne

theorem activationSystem_owned {p : AgentProg Unit} (hp : activationSystem.start p) : ActivationOwned [] p := by
  obtain ⟨cfg,c,hc,rfl⟩ := hp
  cases c with
  | activate x by_ retryBlocked => exact owned_bind (activate_owned cfg x by_ retryBlocked) fun _ _ _ => trivial
  | _ => cases hc

variable {s₀ : AgentStore} {w : ManagerWorld}

/-- An id is given out to one call only. -/
theorem issued_once {calls : ManagerCall → Prop} {guard : AgentStore → Held → AgentStore → Prop}
    (h : World.Reachable (managerSystem calls guard) (World.init s₀) w) :
    ∀ i j x, Issued w.trace i x → Issued w.trace j x → i = j := by
  refine h.invariant (P := fun w => ∀ i j x, Issued w.trace i x → Issued w.trace j x → i = j) ?_ ?_
  · rintro i j x ⟨tag,hm⟩
    cases hm
  · intro w w' hw hs
    cases hs with
    | start p hp => exact hw
    | tx i hi hg => exact hw
    | call i hi a ha =>
      intro j k x hj hk
      have hnew : ∀ tag, (⟨_,a⟩ : Σ q, Answer q) = ⟨.newId tag,x⟩ → x ∉ issuedIds w.trace.log := by
        rintro tag ⟨⟩
        exact (of_decide_eq_true ha).1
      rw [issued_record] at hj hk
      rcases hj with hj | ⟨rfl,tag,hq⟩
      · rcases hk with hk | ⟨rfl,tag,hq⟩
        · exact hw j k x hj hk
        · exact absurd (issued_mem hj) (hnew tag hq)
      · rcases hk with hk | ⟨rfl,-⟩
        · exact absurd (issued_mem hk) (hnew tag hq)
        · rfl

/-- The activation lease, over every interleaving of activations. An epoch is committed
with the reservation that is set to it; reservations go on by generations, each finished
once; a call that is about to commit takes and finishes only reservations whose id it drew
itself, and no two calls drew one; and a finish that does not find its reservation changes
nothing. -/
theorem activation_lease (h₀ : Reservations s₀.activations)
    (h : World.Reachable activationSystem (World.init s₀) w) :
    List.IsChain (fun s' s => EpochWithActivation s s') w.trace.history ∧
    w.trace.history.Pairwise (fun s' s => RowsKept LeaseGrows s.activations s'.activations) ∧
    (∀ (i : ℕ) held next k, w.threads[i]? = some (.tx held next k) →
      ActivationCommit (Drew (World.answersOf w.trace i)) w.trace.store (next w.trace.store)) ∧
    (∀ i j r, Drew (World.answersOf w.trace i) r → Drew (World.answersOf w.trace j) r → i = j) ∧
    (∀ cfg x by_ providerId external r generation updatedAt draws reason s,
      (∀ a, ¬ Finishes s x r cfg.activationOwnerId generation a) →
      (activateTx cfg x by_ providerId external r generation updatedAt draws).next s = s ∧
      (updateAgentActivation x r cfg.activationOwnerId generation .blocked none reason).next s = s) := by
  have hsteps : ∀ p, activationSystem.start p → p.Steps fun s _ s' => ∃ mine, ActivationCommit mine s s' :=
    fun p hp => (activationSystem_owned hp).steps fun own s s' hc => ⟨Drew own,hc⟩
  have hlink : ∀ (s : AgentStore) (held : Held) (s' : AgentStore), Reservations s.activations →
      activationSystem.guard s held s' → (∃ mine, ActivationCommit mine s s') → Reservations s'.activations ∧
        RowsKept LeaseGrows s.activations s'.activations ∧ EpochWithActivation s s' :=
    fun s _ s' hok _ ⟨_,hc⟩ => hc.link hok
  obtain ⟨-,hchain⟩ := h.steps hsteps hlink h₀
  refine ⟨hchain.imp fun _ _ hl => hl.2,?_,?_,?_,?_⟩
  · exact World.pairwise_of_chain hchain (fun _ _ hl => hl.1) fun _ _ _ => .trans LeaseGrows.trans
  · intro i held next k hi
    have howned := h.owned (fun p hp => activationSystem_owned hp) i _ hi
    exact howned.1 _
  · intro i j r hi hj
    exact issued_once h i j r ⟨_,World.mem_answersOf.mp hi⟩ ⟨_,World.mem_answersOf.mp hj⟩
  · intro cfg x by_ providerId external r generation updatedAt draws reason s hstale
    constructor
    · refine Tx.next_of_post (R := fun s' => s' = s) rfl ((post_activateTx_finishes ..).mono ?_)
      rintro e _ ⟨operations,s₁,a,-,ha,-⟩
      exact absurd ha (hstale a)
    · refine Tx.next_of_post (R := fun s' => s' = s) rfl ((post_updateAgentActivation ..).mono ?_)
      rintro _ _ ⟨a,ha,-⟩
      exact absurd ha (hstale a)

/-! ### A lease that is taken over -/

def activationCall : ManagerCall := .activate "dock" "operator" false

/-- The provider starts. -/
def activationAnswers (now : Timestamp) (suffix : String) : (q : AgentQuery) → Answer q
  | .start _ _ => some { id := "start." ++ suffix, requestId := "start", instanceId := "dock"
                         sessionId := "external." ++ suffix, driverEpochId := "start", providerId := "codex"
                         state := .running }
  | q => plainAnswers now suffix q

/-- The first call is about to open its epoch when the lease runs out and the second call
takes over; the first is refused, the second opens its epoch. -/
def activationRace : List (Move AgentStore Held Answer AgentError Unit) :=
  [.start (activationCall.program dockConfig)] ++ World.steps 0 16 (activationAnswers 1 "a") ++
  [.start (activationCall.program dockConfig)] ++ World.steps 1 12 (activationAnswers 40 "b") ++
  World.steps 0 1 (activationAnswers 41 "c") ++ World.steps 1 5 (activationAnswers 42 "d")

theorem activation_lease_race : ∃ w : ManagerWorld, w.trace.store.epochs.keys = ["epoch.d"] ∧
    (w.trace.store.activations.get? "dock").map (fun a => (a.reservationId,a.generation,a.state,a.epochId)) =
      some ("activation.b",2,.active,some "epoch.d") ∧
    List.IsChain (fun s' s => EpochWithActivation s s') w.trace.history ∧
    w.trace.history.Pairwise (fun s' s => RowsKept LeaseGrows s.activations s'.activations) := by
  have hcall : ∀ mv ∈ [Move.start (activationCall.program dockConfig)], mv.Allowed activationSystem :=
    World.allowed_start activationSystem ⟨dockConfig,activationCall,trivial,rfl⟩
  have hallowed : ∀ mv ∈ activationRace, mv.Allowed activationSystem := by
    simp only [activationRace,List.forall_mem_append]
    exact ⟨⟨⟨⟨⟨hcall,World.allowed_steps _ _ _⟩,hcall⟩,World.allowed_steps _ _ _⟩,World.allowed_steps _ _ _⟩,
      World.allowed_steps _ _ _⟩
  have hplay : ((World.init {}).play validAnswer idsFresh activationRace).any (fun w =>
      decide (w.trace.store.epochs.keys = ["epoch.d"]) &&
      decide ((w.trace.store.activations.get? "dock").map (fun a => (a.reservationId,a.generation,a.state,a.epochId)) =
        some ("activation.b",2,.active,some "epoch.d"))) = true := by decide +kernel
  obtain ⟨w,hw,hc⟩ := World.exists_reachable _ _ _ (fun _ _ _ h => h) freshIds_of_idsFresh hallowed hplay
  simp only [Bool.and_eq_true,decide_eq_true_eq] at hc
  have hlease := activation_lease (Dict.Filed.empty _) hw
  exact ⟨w,hc.1,hc.2,hlease.1,hlease.2.1⟩

end Overseer.Agent
