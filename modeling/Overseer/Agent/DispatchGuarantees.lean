import Overseer.Agent.FenceOwners

/-! # What dispatching guarantees

Over every interleaving of dispatch callers and fence owners, cut anywhere: the
provider is called at most once for an idempotency key, the fence closes the gate,
and, where no stale copy is written back, quiescence is stable.
-/
namespace Overseer.Agent
open Overseer.Library

abbrev DispatchWorld := World AgentStore Held Answer AgentError (Option AgentOperationReservation)

section Runs
variable {strict : Prop} {s₀ : AgentStore} {w : DispatchWorld}

theorem dispatch_inv (h₀ : DispatchOk s₀) (h : World.Reachable (dispatchSystem strict) (World.init s₀) w) :
    DispatchInv strict w.trace ∧
      ∀ (i : ℕ) r, w.threads[i]? = some (.ret (some r)) → SeenQuiesced r w.trace := by
  have hstart : (dispatchProtocol strict).inv (Trace.start s₀) := by
    refine ⟨fun s hs => ?_,by simp [Trace.history,Trace.start],by simp [Trace.history,Trace.start],?_,?_⟩
    · obtain rfl : s = s₀ := by simpa [Trace.history,Trace.start] using hs
      exact h₀
    · rintro i j x ⟨tag,hm⟩
      simp [Trace.start] at hm
    · intro i driver request a hm
      simp [Trace.start] at hm
  obtain ⟨hinv,hsafe⟩ := World.Reachable.safe (P := dispatchProtocol strict) hstart (by
    rintro p ⟨c,rfl⟩ i t - -
    exact c.sound) h
  exact ⟨hinv,fun i r hr => hsafe i _ hr w.trace (.refl hinv) r rfl⟩

end Runs

/-! ### A dock with one running driver -/

def dockProvider : AgentProvider := { id := "codex", adapterId := "codex-cli", transports := [.noninteractiveCli] }

def dockConfig : Config where
  providers := Dict.empty.set "codex" dockProvider
  profiles := Dict.empty.set "dock"
    { id := "dock", primaryProviderId := "codex", transport := .noninteractiveCli, workspace := "/srv/dock" }
  adapterFactories := ["codex-cli"]
  activationOwnerId := "manager.1"
  activationLease := 30
  hmac _ := "mac"
  sha256 text := text
  sensitiveKey _ := false
  sensitiveValue _ := false
  secretLike _ := false
  isAlnum c := c.isAlphanum

def dockSession : AgentSession where
  id := "session.1"
  providerId := "codex"
  externalSessionId := some "external.1"
  workspace := "/srv/dock"
  transport := .noninteractiveCli
  capabilities := {}
  instanceId := some "dock"

def dockStore : AgentStore where
  sessions := Dict.empty.set "session.1" dockSession
  epochs := Dict.empty.set "epoch.1" ⟨"epoch.1","dock","session.1","codex",1,.running,some 0,none,none,none⟩

theorem dockStore_ok : DispatchOk dockStore where
  fence x row hx := by simp [dockStore] at hx
  filed := Dict.Filed.empty _
  unique i j d e hd := by simp [dockStore] at hd

/-- The dock's driver answers a dispatch with `state` and verifies a cancellation. -/
def dockAnswers (now : Timestamp) (suffix : String) (state : AgentOperationState) : (q : AgentQuery) → Answer q
  | .dispatch _ request => some ⟨"result." ++ suffix,request.id,"dock","session.1","epoch.1","codex",state,
      none,none,none,some "external.1",none,none,.empty⟩
  | .cancel _ _ => some ⟨"cancel." ++ suffix,"cancel","dock","session.1","epoch.1","codex",.cancelled,
      none,none,none,some "external.1",none,none,.empty⟩
  | q => plainAnswers now suffix q

def dockDispatch : DispatchCall := .dispatch dockConfig "dock" "run the tests" "key" none
def dockQuiesce : DispatchCall := .quiesce "dock" "owner" dockProvider dockSession

theorem DispatchCall.allowed {strict : Prop} (c : DispatchCall) :
    ∀ mv ∈ [Move.start c.program], mv.Allowed (dispatchSystem strict) :=
  World.allowed_start (dispatchSystem strict) ⟨c,rfl⟩

theorem exists_dispatchWorld (moves : List (Move AgentStore Held Answer AgentError (Option AgentOperationReservation)))
    (check : DispatchWorld → Bool) (hmoves : ∀ mv ∈ moves, mv.Allowed (dispatchSystem False))
    (h : ((World.init dockStore).play validAnswer (fun _ _ _ => true) moves).any check = true) :
    ∃ w, World.Reachable (dispatchSystem False) (World.init dockStore) w ∧ check w = true :=
  World.exists_reachable _ moves check (fun _ _ _ h => ⟨h,False.elim⟩) (fun _ _ _ _ => False.elim) hmoves h

/-! ### One call of the provider -/

/-- A driver's dispatch for an instance under an idempotency key. -/
def AgentQuery.dispatchesFor (x key : String) : AgentQuery → Bool
  | .dispatch _ request => request.instanceId = x && request.idempotencyKey = key
  | _ => false

def AgentQuery.dispatches : AgentQuery → Bool
  | .dispatch _ _ => true
  | _ => false

/-- A program that never calls a driver's dispatch. -/
abbrev Undispatching {α : Type} (p : AgentProg α) : Prop :=
  Prog.Silent (fun q => AgentQuery.dispatches q = true) p

section Asks
variable {α : Type}

instance (p : AgentProg α) [hp : Reads p] : Undispatching p :=
  ⟨hp.asks.weaken fun q hq => by cases q <;> simp_all [AgentQuery.dispatches,AgentQuery.notable]⟩

instance (tag : String) : Undispatching (newId tag) := ⟨Prog.asks_ask (by simp [AgentQuery.dispatches])⟩
instance (driver : AgentProvider) (session : AgentSession) : Undispatching (ask (.cancel driver session)) :=
  ⟨Prog.asks_ask (by simp [AgentQuery.dispatches])⟩

instance (d : AgentDispatchRequest) : Undispatching (saveAgentDispatch d) := by
  unfold saveAgentDispatch
  infer_instance

instance (d d' : AgentDispatchRequest) : Undispatching (writeBackDispatch d d') := by
  unfold writeBackDispatch
  infer_instance

instance (r : AgentDispatchResult) (reason : String) : Undispatching (quarantineResult r reason) := by
  unfold quarantineResult
  infer_instance

instance (r : AgentDispatchResult) : Undispatching (recordDispatchResult r) := by
  unfold recordDispatchResult
  infer_instance

instance (epochId : String) (r : AgentDispatchResult) : Undispatching (recordProviderResult epochId r) := by
  unfold recordProviderResult
  refine @Prog.bind_silent _ _ _ _ _ _ _ _ _ _ _ _ fun _ => ?_
  refine @Prog.bind_silent _ _ _ _ _ _ _ _ _ _ _ _ fun o => ?_
  cases o with
  | none => infer_instance
  | some request =>
    dsimp only
    split
    · infer_instance
    · refine @Prog.bind_silent _ _ _ _ _ _ _ _ _ _ _ _ fun o => ?_
      rcases o with _ | ⟨epoch,active⟩ <;> infer_instance

instance (request : AgentDispatchRequest) (r : AgentDispatchResult) : Undispatching (completeDispatch request r) := by
  unfold completeDispatch
  infer_instance

instance (request : AgentDispatchRequest) (providerId : String) (a : Option AgentDispatchResult) :
    Undispatching (dispatchAnswer request providerId a) := by
  cases a <;> unfold dispatchAnswer <;> infer_instance

instance (request : AgentDispatchRequest) (at_ : Timestamp) : Undispatching (acceptDispatch request at_) := by
  unfold acceptDispatch
  infer_instance

instance (request : AgentDispatchRequest) : Undispatching (acceptOrReplay request) := by
  unfold acceptOrReplay
  refine @Prog.rescue_silent _ _ _ _ _ _ _ _ _ _ _ fun e => ?_
  split
  · infer_instance
  split
  · refine @Prog.bind_silent _ _ _ _ _ _ _ _ _ _ _ _ fun o => ?_
    cases o <;> infer_instance
  · infer_instance

instance (r : AgentOperationReservation) : Undispatching (cancelUnclaimed r) := by
  unfold cancelUnclaimed
  infer_instance

instance (r : AgentOperationReservation) : Undispatching (cancelInflight r) := by
  unfold cancelInflight
  infer_instance

instance (r : AgentOperationReservation) (driver : AgentProvider) (session : AgentSession) :
    Undispatching (cancelAndVerify r driver session) := by
  unfold cancelAndVerify
  infer_instance

instance (r : AgentOperationReservation) (driver : AgentProvider) (session : AgentSession) :
    Undispatching (drain r driver session) := by
  unfold drain
  infer_instance

theorem asks_executeDispatch (cfg : Config) (epoch : DriverEpoch) (request : AgentDispatchRequest) :
    (executeDispatch cfg epoch request).Asks (fun q => q.dispatches = true) 1 := by
  refine Prog.asks_bind_one fun driver => ?_
  have hclaim : Undispatching (claimDispatchExecution request) := by
    unfold claimDispatchExecution
    infer_instance
  refine Prog.asks_bind_one fun claimed => ?_
  cases claimed with
  | true => exact Prog.Asks.bind (m := 0) (Prog.asks_ask_one _) fun answer => Prog.Silent.asks
  | false =>
    rw [if_neg (by decide)]
    exact Prog.asks_one_of_silent _

theorem asks_dispatch (cfg : Config) (x prompt key : String) (requestedBy : Option String) :
    (dispatch cfg x prompt key requestedBy).Asks (fun q => q.dispatches = true) 1 := by
  refine Prog.asks_bind_one fun _ => Prog.asks_bind_one fun recorded => ?_
  cases recorded with
  | some recorded => exact Prog.asks_one_of_silent _
  | none =>
    refine Prog.asks_bind_one fun epoch => Prog.asks_bind_one fun _ => Prog.asks_bind_one fun _ => ?_
    refine Prog.asks_bind_one fun id => Prog.asks_bind_one fun _ => Prog.asks_bind_one fun _ => ?_
    refine Prog.asks_bind_one fun _ => Prog.asks_bind_one fun _ => Prog.asks_bind_one fun accepted => ?_
    cases accepted with
    | inr replayed => exact Prog.asks_one_of_silent _
    | inl accepted => exact asks_executeDispatch cfg epoch accepted

instance (x token : String) (a b : Timestamp) : Undispatching (reserve x token a b) := by
  unfold reserve
  infer_instance

theorem DispatchCall.asks (c : DispatchCall) : c.program.Asks (fun q => q.dispatches = true) 1 := by
  cases c with
  | dispatch cfg x prompt key requestedBy =>
    exact Prog.Asks.bind (m := 0) (asks_dispatch cfg x prompt key requestedBy) fun _ => Prog.Silent.asks
  | reserve x token | release r | releaseIfOwned r | drain r driver session | quiesce x token driver session =>
    unfold DispatchCall.program
    exact Prog.asks_one_of_silent _

end Asks

theorem DispatchInv.one_caller {strict : Prop} {t : AgentTrace} (h : DispatchInv strict t) {x key : String}
    {e e' : ℕ × Σ q, Answer q} (he : e ∈ t.log) (he' : e' ∈ t.log) (hq : e.2.1.dispatchesFor x key = true)
    (hq' : e'.2.1.dispatchesFor x key = true) : e.1 = e'.1 := by
  have hrow : ∀ {e : ℕ × Σ q, Answer q}, e ∈ t.log → e.2.1.dispatchesFor x key = true → ∃ id d,
      Issued t e.1 id ∧ t.store.dispatches.get? id = some d ∧ d.instanceId = x ∧ d.idempotencyKey = key := by
    rintro ⟨i,q,a⟩ hm hq
    cases q <;> simp only [AgentQuery.dispatchesFor,Bool.and_eq_true,decide_eq_true_eq,reduceCtorEq] at hq
    next driver request =>
      obtain ⟨hi,s,hs,d,hd,hsame,-⟩ := h.called i driver request a hm
      obtain ⟨d',hd',hr⟩ := (h.seen hs).rows _ d hd
      refine ⟨request.id,d',hi,hd',?_,?_⟩
      · rw [← hr.same.instanceId,hsame.instanceId,hq.1]
      · rw [← hr.same.idempotencyKey,hsame.idempotencyKey,hq.2]
  obtain ⟨id,d,hi,hd,hx,hk⟩ := hrow he hq
  obtain ⟨id',d',hi',hd',hx',hk'⟩ := hrow he' hq'
  obtain rfl := (h.ok _ t.store_mem_history).unique id id' d d' hd hd' (hx.trans hx'.symm) (hk.trans hk'.symm)
  exact h.issued _ _ id hi hi'

/-- At most once: whatever the callers and the fence owners do, and wherever they
stop, the providers are called once at most for an instance and an idempotency key. -/
theorem dispatch_at_most_once {s₀ : AgentStore} (h₀ : DispatchOk s₀) {w : DispatchWorld}
    (h : World.Reachable (dispatchSystem False) (World.init s₀) w) (x key : String) :
    (w.trace.log.countP fun e => e.2.1.dispatchesFor x key) ≤ 1 := by
  obtain ⟨hinv,-⟩ := dispatch_inv h₀ h
  by_cases hany : ∃ e ∈ w.trace.log, e.2.1.dispatchesFor x key = true
  · obtain ⟨e,he,hq⟩ := hany
    have hasks : ∀ p, (dispatchSystem False).start p → p.Asks (fun q => q.dispatches = true) 1 := by
      rintro p ⟨c,rfl⟩
      exact c.asks
    have hasked := h.asked_le_one hasks e.1
    refine le_trans (List.countP_mono_left fun e' he' hq' => ?_) hasked
    simp only [decide_eq_true_eq]
    refine ⟨hinv.one_caller he' he hq' hq,?_⟩
    obtain ⟨j,q',a'⟩ := e'
    cases q' <;> simp_all [AgentQuery.dispatchesFor,AgentQuery.dispatches]
  · rw [List.countP_eq_zero.mpr fun e he hq => hany ⟨e,he,hq⟩]
    exact Nat.zero_le 1

/-- Two callers under one key: the first calls the driver, the second, which found no
recorded dispatch, loses the insertion and replays. -/
theorem dispatch_at_most_once_race : ∃ w : DispatchWorld,
    w.trace.log.any (fun e => e.2.1.dispatchesFor "dock" "key") = true ∧
    (w.threads.map fun p => p.result?.isSome) = [true,true] ∧
    (w.trace.log.countP fun e => e.2.1.dispatchesFor "dock" "key") ≤ 1 := by
  obtain ⟨w,hw,hc⟩ := exists_dispatchWorld ([.start dockDispatch.program] ++ [.start dockDispatch.program] ++
      World.steps 1 8 (dockAnswers 1 "b" .succeeded) ++ World.steps 0 32 (dockAnswers 1 "a" .succeeded) ++
      World.steps 1 6 (dockAnswers 2 "b" .succeeded))
    (fun w => w.trace.log.any (fun e => e.2.1.dispatchesFor "dock" "key") &&
      decide ((w.threads.map fun p => p.result?.isSome) = [true,true]))
    (by
      simp only [List.forall_mem_append]
      and_intros
      all_goals first | exact dockDispatch.allowed | exact World.allowed_steps _ _ _)
    (by decide +kernel)
  simp only [Bool.and_eq_true,decide_eq_true_eq] at hc
  exact ⟨w,hc.1,hc.2,dispatch_at_most_once dockStore_ok hw "dock" "key"⟩

/-! ### The gate -/

/-- In both states the instance is fenced in the same generation. -/
def FencedThrough (x : String) (s s' : AgentStore) : Prop := ∃ row row',
  s.operations.get? x = some row ∧ s'.operations.get? x = some row' ∧ row.state = .fenced ∧
    row'.generation = row.generation

/-- The generation of `d` is fenced or over. -/
def GateClosed (s : AgentStore) (d : AgentDispatchRequest) : Prop := ∃ (g : ℕ) (row : OperationRow),
  d.boundGeneration = some (g : Int) ∧ s.operations.get? d.instanceId = some row ∧
    (g < row.generation ∨ g = row.generation ∧ row.state = .fenced)

theorem OpenBetween.not_closed {s s' : AgentStore} {d : AgentDispatchRequest} (h : OpenBetween s s' d) :
    ¬ GateClosed s d := by
  rintro ⟨g,row,hg,hrow,hclosed⟩
  obtain ⟨g',hg',hopen,-⟩ := h
  obtain rfl : g = g' := by exact_mod_cast Option.some.inj (hg.symm.trans hg')
  rcases hopen row hrow with hlt | ⟨heq,hst⟩
  · omega
  · rcases hclosed with hlt | ⟨-,hf⟩
    · omega
    · rw [hst] at hf
      cases hf

/-- While the fence is held rows neither appear nor begin to execute. -/
theorem DispatchBefore.gate {s s' : AgentStore} (h : DispatchBefore s s') {x : String} (hx : FencedThrough x s s')
    {id : String} {d' : AgentDispatchRequest} (hd' : s'.dispatches.get? id = some d') (hi : d'.instanceId = x) :
    ∃ d, s.dispatches.get? id = some d ∧ (d.accepted → ¬ d'.executing) := by
  obtain ⟨row,row',hrow,hrow',hf,hg⟩ := hx
  subst hi
  cases hd : s.dispatches.get? id with
  | none =>
    obtain ⟨row'',hrow'',hlt⟩ := h.inserted id d' hd' hd row hrow hf
    obtain rfl : row' = row'' := by simpa [hrow'] using hrow''
    omega
  | some d =>
    obtain ⟨e,he,hr⟩ := h.rows id d hd
    obtain rfl : e = d' := by simpa [he] using hd'
    refine ⟨d,rfl,fun ha hexec => ?_⟩
    rcases hr.executing hexec with hexec' | ⟨g,hg',hopen,row'',hrow'',hle⟩
    · rw [AgentDispatchRequest.accepted] at ha
      simp [AgentDispatchRequest.executing,ha] at hexec'
    · rw [hr.same.instanceId] at hopen hrow''
      obtain rfl : row' = row'' := by simpa [hrow'] using hrow''
      rcases hopen row hrow with hlt | ⟨-,hst⟩
      · omega
      · rw [hf] at hst
        cases hst

/-- The fence closes the dispatch gate. From the commit of a reservation until that of
its release no row of the instance is inserted and none moves from accepted to
executing; and a dispatch that was not executing by the time its generation was
fenced never reaches a driver. -/
theorem fence_closes_gate {s₀ : AgentStore} (h₀ : DispatchOk s₀) {w : DispatchWorld}
    (h : World.Reachable (dispatchSystem False) (World.init s₀) w) :
    w.trace.history.Pairwise (fun s' s => ∀ x, FencedThrough x s s' → ∀ id d',
      s'.dispatches.get? id = some d' → d'.instanceId = x →
      ∃ d, s.dispatches.get? id = some d ∧ (d.accepted → ¬ d'.executing)) ∧
    ∀ later s earlier, w.trace.history = later ++ s :: earlier → ∀ id d, s.dispatches.get? id = some d →
      GateClosed s d → (∀ s₁ ∈ s :: earlier, ∀ d₁, s₁.dispatches.get? id = some d₁ → ¬ d₁.executing) →
      ∀ i driver request a, (i,⟨AgentQuery.dispatch driver request,a⟩) ∈ w.trace.log → request.id ≠ id := by
  obtain ⟨hinv,-⟩ := dispatch_inv h₀ h
  refine ⟨hinv.before.imp ?_,?_⟩
  · intro s' s hb x hx id d' hd' hi
    exact hb.gate hx hd' hi
  rintro later s earlier hsplit id d hd hclosed hnever i driver request a hm rfl
  obtain ⟨-,s₁,hs₁,d₁,hd₁,-,hexec⟩ := hinv.called i driver request a hm
  rw [hsplit] at hs₁
  rcases List.mem_append.mp hs₁ with hs₁ | hs₁
  · have hb : DispatchBefore s s₁ := by
      have hpair := hinv.before
      rw [hsplit] at hpair
      exact (List.pairwise_append.mp hpair).2.2 s₁ hs₁ s List.mem_cons_self
    obtain ⟨e,he,hr⟩ := hb.rows _ d hd
    obtain rfl : e = d₁ := by simpa [he] using hd₁
    rcases hr.executing hexec with hexec' | hopen
    · exact hnever s List.mem_cons_self d hd hexec'
    · exact hopen.not_closed hclosed
  · exact hnever s₁ hs₁ d₁ hd₁ hexec

/-- An accepted dispatch waits while its instance is fenced and released; its caller then
cancels it and no driver is called. -/
theorem fence_closes_gate_delayed : ∃ w : DispatchWorld,
    (w.trace.store.dispatches.get? "dispatch.a").map (·.status) = some (some (.str "cancelled")) ∧
    w.trace.history.any (fun s => (s.operations.get? "dock").any (·.state = .fenced)) = true ∧
    w.trace.history.Pairwise fun s' s => ∀ x, FencedThrough x s s' → ∀ id d', s'.dispatches.get? id = some d' →
      d'.instanceId = x → ∃ d, s.dispatches.get? id = some d ∧ (d.accepted → ¬ d'.executing) := by
  obtain ⟨w,hw,hc⟩ := exists_dispatchWorld ([.start dockDispatch.program] ++
      World.steps 0 14 (dockAnswers 1 "a" .succeeded) ++ [.start (DispatchCall.reserve "dock" "owner").program] ++
      World.steps 1 3 (plainAnswers 2 "b") ++
      [.start (DispatchCall.release ⟨"dock",1,.fenced,some "owner",2⟩).program] ++
      World.steps 2 2 (plainAnswers 3 "c") ++ World.steps 0 3 (dockAnswers 4 "d" .succeeded))
    (fun w => decide ((w.trace.store.dispatches.get? "dispatch.a").map (·.status) =
        some (some (.str "cancelled"))) &&
      w.trace.history.any (fun s => (s.operations.get? "dock").any (·.state = .fenced)))
    (by
      simp only [List.forall_mem_append]
      and_intros
      all_goals first | exact DispatchCall.allowed _ | exact World.allowed_steps _ _ _)
    (by decide +kernel)
  simp only [Bool.and_eq_true,decide_eq_true_eq] at hc
  exact ⟨w,hc.1,hc.2,(fence_closes_gate dockStore_ok hw).1⟩

/-! ### Quiescence -/

/-- Behind an unreleased fence a quiescent instance stays quiescent. -/
theorem Quiesced.stays {r : AgentOperationReservation} {s s' : AgentStore} (h : Quiesced r s)
    (hb : DispatchBefore s s') (hs : SettledBefore s s') {row : OperationRow}
    (hrow : s'.operations.get? r.instanceId = some row) (hg : row.generation = r.generation)
    {id : String} {d : AgentDispatchRequest} {g : Int} (hd : s'.dispatches.get? id = some d)
    (hx : d.instanceId = r.instanceId) (hbound : d.boundGeneration = some g) (hle : g ≤ r.generation) :
    d.terminal := by
  obtain ⟨row₀,hrow₀,hle₀,hf⟩ := h.fenced
  obtain ⟨row₁,hrow₁,hlt⟩ := hb.fence _ row₀ hrow₀
  obtain rfl : row = row₁ := by simpa [hrow] using hrow₁
  have hg₀ : row₀.generation = r.generation := by omega
  cases hd₀ : s.dispatches.get? id with
  | none =>
    rw [← hx] at hrow₀ hrow
    obtain ⟨row₂,hrow₂,hlt₂⟩ := hb.inserted id d hd hd₀ row₀ hrow₀ (hf hg₀)
    obtain rfl : row = row₂ := by simpa [hrow] using hrow₂
    omega
  | some d₀ =>
    obtain ⟨d₁,hd₁,hr⟩ := hb.rows id d₀ hd₀
    obtain rfl : d = d₁ := by simpa [hd] using hd₁
    obtain ⟨d₂,hd₂,-,hterm⟩ := hs id d₀ hd₀
    obtain rfl : d = d₂ := by simpa [hd] using hd₂
    refine hterm ?_
    have hdrained := h.drained id d₀ hd₀
    have hb₀ : d₀.generation.bind Json.asInt? = some g := hr.generation.symm.trans hbound
    simpa [isInflight,hr.same.instanceId,hx,hb₀,hle,AgentDispatchRequest.terminal] using hdrained

/-- Once a drain has returned and until its fence is released, every dispatch of the
instance bound to the fenced generation or an earlier one is terminal. -/
def DrainedStays (w : DispatchWorld) : Prop := ∀ (i : ℕ) r row, w.threads[i]? = some (.ret (some r)) →
  w.trace.store.operations.get? r.instanceId = some row → row.generation = r.generation →
  ∀ id d g, w.trace.store.dispatches.get? id = some d → d.instanceId = r.instanceId →
    d.boundGeneration = some g → g ≤ r.generation → d.terminal

/-- A dispatch that was cancelled or quarantined is so in every later state. -/
def StoppedStays (w : DispatchWorld) : Prop := w.trace.history.Pairwise fun s' s =>
  ∀ id d, s.dispatches.get? id = some d → d.stopped → ∃ d', s'.dispatches.get? id = some d' ∧ d'.stopped

/-- Quiescence is stable in every run in which each write-back finds the row as the call
read it and each provider reply names the request it answers. -/
theorem quiescence_stable {s₀ : AgentStore} (h₀ : DispatchOk s₀) {w : DispatchWorld}
    (h : World.Reachable (dispatchSystem True) (World.init s₀) w) : DrainedStays w ∧ StoppedStays w := by
  obtain ⟨hinv,hquiesced⟩ := dispatch_inv h₀ h
  have hsettled := hinv.settled trivial
  refine ⟨fun i r row hr hrow hg id d g hd hx hbound hle => ?_,hsettled.imp fun hs id d hd hstop => ?_⟩
  · obtain ⟨s,hs,hq⟩ := hquiesced i r hr
    refine hq.stays (hinv.seen hs) ?_ hrow hg hd hx hbound hle
    rcases List.mem_cons.mp hs with rfl | hs
    · exact .of_same rfl
    · exact (List.pairwise_cons.mp hsettled).1 s hs
  · obtain ⟨d',hd',hstop',-⟩ := hs id d hd
    exact ⟨d',hd',hstop' hstop⟩

/-- The driver answers after the drain has cancelled the dispatch, and the caller is cut
before it writes the quarantined result back. -/
def lateReply : List (Move AgentStore Held Answer AgentError (Option AgentOperationReservation)) :=
  [.start dockDispatch.program] ++ World.steps 0 16 (dockAnswers 1 "a" .running) ++
  [.start dockQuiesce.program] ++ World.steps 1 10 (dockAnswers 2 "b" .running) ++
  World.steps 0 6 (dockAnswers 3 "c" .running)

theorem quiescence_stable_late_reply : ∃ w : DispatchWorld,
    (w.trace.store.dispatches.get? "dispatch.a").map (·.status) = some (some (.str "cancelled")) ∧
    (w.threads.map fun p => p.result?.isSome) = [false,true] ∧ DrainedStays w ∧ StoppedStays w := by
  have hallowed : ∀ mv ∈ lateReply, mv.Allowed (dispatchSystem True) := by
    simp only [lateReply,List.forall_mem_append]
    and_intros
    all_goals first | exact DispatchCall.allowed _ | exact World.allowed_steps _ _ _
  have hplay : ((World.init dockStore).play (fun t q a => validAnswer t q a && namesItsRequest q a)
      (fun _ held _ => held.dispatches.isEmpty) lateReply).any (fun w =>
        decide ((w.trace.store.dispatches.get? "dispatch.a").map (·.status) = some (some (.str "cancelled"))) &&
        decide ((w.threads.map fun p => p.result?.isSome) = [false,true])) = true := by decide +kernel
  have hvalid : ∀ t q a, (validAnswer t q a && namesItsRequest q a) = true → (dispatchSystem True).valid t q a :=
    fun _ _ _ h => ⟨(Bool.and_eq_true_iff.mp h).1,fun _ => (Bool.and_eq_true_iff.mp h).2⟩
  obtain ⟨w,hw,hc⟩ := World.exists_reachable _ _ _ hvalid
    (fun _ _ _ h _ _ d hd => by simp [List.isEmpty_iff.mp h] at hd) hallowed hplay
  simp only [Bool.and_eq_true,decide_eq_true_eq] at hc
  exact ⟨w,hc.1,hc.2,quiescence_stable dockStore_ok hw⟩

/-- The owner has returned, its fence stands in the first generation, and the dispatch,
bound to it, is running although it was cancelled before. -/
def revivedDispatch (w : DispatchWorld) : Bool :=
  decide (w.threads[1]?.bind Prog.result? = some (some ⟨"dock",1,.fenced,some "owner",2⟩)) &&
  decide ((w.trace.store.operations.get? "dock").map (·.generation) = some 1) &&
  decide ((w.trace.store.dispatches.get? "dispatch.a").map (fun d => (d.instanceId,d.boundGeneration,d.status)) =
    some ("dock",some 1,some (.str "running"))) &&
  w.trace.past.any fun s => decide ((s.dispatches.get? "dispatch.a").map (·.status) = some (some (.str "cancelled")))

/-- Without the restriction quiescence breaks. The caller has loaded its executing row to
record a running result when the owner drains, cancels the row and returns; the caller
then writes its copy back, and the row is running behind the fence. -/
theorem quiescence_broken_by_stale_copy : ∃ w : DispatchWorld,
    World.Reachable (dispatchSystem False) (World.init dockStore) w ∧ ¬ DrainedStays w ∧ ¬ StoppedStays w := by
  obtain ⟨w,hw,hc⟩ := exists_dispatchWorld ([.start dockDispatch.program] ++
      World.steps 0 27 (dockAnswers 1 "a" .running) ++ [.start dockQuiesce.program] ++
      World.steps 1 10 (dockAnswers 2 "b" .running) ++ World.steps 0 1 (dockAnswers 3 "c" .running)) revivedDispatch
    (by
      simp only [List.forall_mem_append]
      and_intros
      all_goals first | exact DispatchCall.allowed _ | exact World.allowed_steps _ _ _)
    (by decide +kernel)
  simp only [revivedDispatch,Bool.and_eq_true,decide_eq_true_eq,Option.map_eq_some_iff,Option.bind_eq_some_iff,
    List.any_eq_true,Prod.mk.injEq] at hc
  obtain ⟨⟨⟨⟨p,hp,hret⟩,row,hrow,hg⟩,d,hd,hx,hbound,hst⟩,s,hs,d₀,hd₀,hst₀⟩ := hc
  obtain rfl := Prog.eq_ret hret
  refine ⟨w,hw,fun hdrained => ?_,fun hstays => ?_⟩
  · have hterm := hdrained 1 _ row hp hrow hg "dispatch.a" d 1 hd hx hbound le_rfl
    simp [AgentDispatchRequest.terminal,hst,statusIn,terminalDispatchStatuses,AgentOperationState.value] at hterm
  · have hstop : d₀.stopped := by
      rw [AgentDispatchRequest.stopped,hst₀]
      decide
    obtain ⟨d',hd',hstop'⟩ := (List.pairwise_cons.mp hstays).1 s hs "dispatch.a" d₀ hd₀ hstop
    obtain rfl : d = d' := by simpa [hd] using hd'
    simp [AgentDispatchRequest.stopped,hst,statusIn,AgentOperationState.value] at hstop'

end Overseer.Agent
