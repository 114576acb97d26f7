import Overseer.Core.RestartRuns
import Overseer.Library.Schedule

/-! # Exclusion across processes

Each process builds a registry from the store, decides one claim on it and writes the claim
back. What other processes store in between is not in its registry.
-/
namespace Overseer.Core
open Overseer.Library ResourceRegistry

/-- The registry a save was decided on. -/
inductive Snapshot where
  | none
  | of (reg : ResourceRegistry)

instance : Inhabited Snapshot := ⟨.none⟩

abbrev NoAnswer : Empty → Type := fun _ => Unit
abbrev ClaimProg := Prog CoordStore Snapshot NoAnswer CoordError
abbrev ClaimWorld := World CoordStore Snapshot NoAnswer CoordError Unit

namespace Process

/-- What a process does with the registry it has built. -/
def perform (reg : ResourceRegistry) : RegistryOp → ClaimProg Unit
  | .registerResource resource => do
    let _ ← Coordinator.registerResource reg resource
    return ()
  | .requestClaim claim => do
    let _ ← Coordinator.requestClaim reg claim
    return ()
  | .activateClaim claimId approvalId => do
    let _ ← Coordinator.activateClaim reg claimId approvalId
    return ()
  | .releaseClaim claimId => do
    let _ ← Coordinator.releaseClaim reg claimId
    return ()

/-- A process: load, then one operation. -/
def process (rop : RegistryOp) : ClaimProg Unit := do
  let reg ← coordinatorFromStore
  Prog.holding (.of reg) (perform reg rop)

/-- An active exclusive claim. -/
def HoldsResource (c : Claim) : Prop := c.status = .active ∧ c.isExclusive = true

/-- No two active exclusive claims on one resource. -/
def Exclusive (s : CoordStore) : Prop :=
  ∀ j k a b, s.claims.get? j = some a → s.claims.get? k = some b → j ≠ k → HoldsResource a → HoldsResource b →
    a.resourceId ≠ b.resourceId

/-- A claim that is stored as active and exclusive meets only claims on its resource that
were active when its process built its registry. -/
def Seen (s : CoordStore) : Snapshot → CoordStore → Prop
  | .none, _ => True
  | .of reg, s' => ∀ k c, s'.claims.get? k = some c → HoldsResource c → s.claims.get? k ≠ some c →
      ∀ j other, j ≠ k → s.claims.get? j = some other → HoldsResource other → other.resourceId = c.resourceId →
        ∃ known ∈ reg.activeClaims, known.id = j ∧ known.resourceId = c.resourceId

/-- Processes that may do as they please. -/
def claimSystem : System CoordStore Snapshot NoAnswer CoordError Unit where
  start p := ∃ rop, p = process rop
  valid _ _ _ := True
  guard _ _ _ := True

/-- Processes that have seen what they could collide with. -/
def seenSystem : System CoordStore Snapshot NoAnswer CoordError Unit where
  start p := ∃ rop, p = process rop
  valid _ _ _ := True
  guard := Seen

/-! ### One commit -/

/-- What a commit of a process keeps. -/
def Keeps (s : CoordStore) (held : Snapshot) (s' : CoordStore) : Prop := Exclusive s → Seen s held s' → Exclusive s'

instance : Prog.Idle Keeps := ⟨fun _ _ h _ => h⟩

theorem keeps_of_claims {s s' : CoordStore} {held : Snapshot} (h : s'.claims = s.claims) : Keeps s held s' := by
  intro hexclusive _
  unfold Exclusive
  rw [h]
  exact hexclusive

/-- The claim that a registry admits is alone on its resource there. -/
def AloneIn (reg : ResourceRegistry) (c : Claim) : Prop :=
  HoldsResource c → ∀ known ∈ reg.activeClaims, known.id ≠ c.id → known.resourceId ≠ c.resourceId

theorem keeps_saveClaim {reg : ResourceRegistry} {c : Claim} (halone : AloneIn reg c) {s s' : CoordStore}
    (hs' : s'.claims = s.claims.set c.id c) : Keeps s (.of reg) s' := by
  intro hexclusive hseen
  have hnew : ∀ j other, j ≠ c.id → s.claims.get? j = some other → HoldsResource other → HoldsResource c →
      s.claims.get? c.id ≠ some c → other.resourceId ≠ c.resourceId := by
    intro j other hj hother hholds hc hchanged hres
    have hself : s'.claims.get? c.id = some c := by rw [hs',Dict.get?_set,if_pos rfl]
    obtain ⟨known,hknown,hid,hknownRes⟩ := hseen c.id c hself hc hchanged j other hj hother hholds hres
    exact halone hc known hknown (hid.symm ▸ hj) hknownRes
  have hpair : ∀ j other, j ≠ c.id → s.claims.get? j = some other → HoldsResource other → HoldsResource c →
      other.resourceId ≠ c.resourceId := by
    intro j other hj hother hholds hc
    by_cases hchanged : s.claims.get? c.id = some c
    · exact hexclusive j c.id other c hother hchanged hj hholds hc
    · exact hnew j other hj hother hholds hc hchanged
  intro j k a b ha hb hjk hholdsA hholdsB
  rw [hs',Dict.get?_set] at ha hb
  split at ha
  · next hj =>
    cases ha
    rw [if_neg fun hk => hjk (hj.trans hk.symm)] at hb
    exact (hpair k b (fun hk => hjk (hj.trans hk.symm)) hb hholdsB hholdsA).symm
  · next hj =>
    split at hb
    · next hk =>
      cases hb
      exact hpair j a hj ha hholdsA hholdsB
    · exact hexclusive j k a b ha hb hjk hholdsA hholdsB

theorem admitted_alone {resource : Resource} {claim : Claim} {actives : List Claim} {resourcesById : Dict Resource}
    (hadmits : Admits (decideClaim resource claim actives resourcesById)) (hexcl : claim.isExclusive = true) {known : Claim}
    (hknown : known ∈ actives) (hlike : known.isActiveLike = true) : known.resourceId ≠ claim.resourceId := by
  obtain ⟨hretired,hquarantined,hid⟩ := admits_resource hadmits
  have hnone := (admits_exclusive_iff hretired hquarantined hid hexcl).mp hadmits
  intro hres
  have hblocks : known ∈ blockingClaims resource claim actives resourcesById := by
    refine List.mem_filter.mpr ⟨hknown,?_⟩
    simp [blocks,hlike,claimsOverlap,hres]
  rw [hnone] at hblocks
  cases hblocks

theorem request_alone {reg reg' : ResourceRegistry} {claim : Claim} {record : ClaimRecord}
    (h : reg.requestClaim claim = .ok (reg',record)) : AloneIn reg record.claim := by
  obtain ⟨resource,hr,hdecision,hclaim,-⟩ := requestClaim_ok h
  rintro ⟨hactive,hexcl⟩ known hknown -
  rw [hclaim] at hactive
  obtain ⟨hadmits,hstored⟩ := claimWithStatus_active (isActiveLike_of_active hactive)
  rw [hclaim,hstored] at hexcl ⊢
  rw [hdecision] at hadmits
  exact admitted_alone hadmits hexcl hknown (mem_activeClaims_iff.mp hknown).1

theorem activate_alone {reg reg' : ResourceRegistry} {claimId : String} {approvalId : Option String} {record : ClaimRecord}
    (hfiled : reg.claims.Filed Claim.id) (h : reg.activateClaim claimId approvalId = .ok (reg',record)) :
    record.claim.id = claimId ∧ AloneIn reg record.claim := by
  obtain ⟨claim,resource,status,approval,hclaim,hclaims,hadmits,-⟩ := activateClaim_ok h
  have hrecord : record.claim = { claim with status := status, approvalId := approval } := by
    have hboth := (activateClaim_filed h).symm.trans hclaims
    have hget := congrArg (fun d => d.get? claimId) hboth
    simpa [Dict.get?_set] using hget
  have hid : claim.id = claimId := hfiled _ _ hclaim
  rw [hrecord]
  refine ⟨hid,?_⟩
  rintro ⟨hactive,hexcl⟩ known hknown hne
  have hother : known ∈ reg.activeClaims.filter fun active => active.id != claimId :=
    List.mem_filter.mpr ⟨hknown,by simpa [hid] using hne⟩
  exact admitted_alone (hadmits hactive) hexcl hother (mem_activeClaims_iff.mp hknown).1

/-! ### A process -/

section Steps
variable {reg : ResourceRegistry}

/-- The commits of a process that has built `reg`. -/
def KeepsFrom (reg : ResourceRegistry) (s : CoordStore) (_ : Snapshot) (s' : CoordStore) : Prop := Keeps s (.of reg) s'

theorem steps_liftRegistry {α : Type} {Rel : CoordStore → Snapshot → CoordStore → Prop} (r : Except RegistryError α) :
    (Coordinator.liftRegistry r : ClaimProg α).Steps Rel := by
  cases r <;> trivial

theorem steps_claim {c : Claim} (halone : AloneIn reg c) (d : Option ConflictDecision) :
    (saveClaim c d : ClaimProg Unit).Steps (KeepsFrom reg) := Prog.steps_atomically fun _ => keeps_saveClaim halone rfl

theorem steps_resource (r : Resource) : (saveResource r : ClaimProg Unit).Steps (KeepsFrom reg) :=
  Prog.steps_atomically fun _ => keeps_of_claims rfl

theorem steps_saveIfAny (approval : Option ApprovalRequest) : (Coordinator.saveIfAny approval : ClaimProg Unit).Steps (KeepsFrom reg) := by
  cases approval with
  | none => trivial
  | some a => exact Prog.steps_atomically fun _ => keeps_of_claims rfl

theorem steps_event (event : AuditEvent) : (saveAuditEvent event : ClaimProg Unit).Steps (KeepsFrom reg) :=
  Prog.steps_atomically fun _ => keeps_of_claims rfl

theorem steps_rest (reg' : ResourceRegistry) (record : ClaimRecord) (approval : Option ApprovalRequest) (event : AuditEvent)
    (halone : AloneIn reg record.claim) :
    (Coordinator.persistResult reg' record approval event : ClaimProg Unit).Steps (KeepsFrom reg) := by
  refine Prog.steps_bind (steps_claim halone _) fun _ => Prog.steps_bind (steps_liftRegistry _) fun r => ?_
  exact Prog.steps_bind (steps_resource r) fun _ => Prog.steps_bind (steps_saveIfAny approval) fun _ => steps_event event

theorem released_alone {reg' : ResourceRegistry} {claimId : String} {released : Claim} (h : reg.releaseClaim claimId = .ok (reg',released)) :
    AloneIn reg released := by
  rintro ⟨hactive,-⟩
  simp only [ResourceRegistry.releaseClaim,getClaim] at h
  cases hc : reg.claims.get? claimId with
  | none => simp [hc,bind,Except.bind] at h
  | some claim =>
    simp only [hc,bind,Except.bind,pure,Except.pure,Except.ok.injEq,Prod.mk.injEq] at h
    rw [← h.2] at hactive
    cases hactive

theorem perform_steps (hfiled : reg.claims.Filed Claim.id) (rop : RegistryOp) : (perform reg rop).Steps (KeepsFrom reg) := by
  cases rop with
  | registerResource resource =>
    refine Prog.steps_bind (Prog.steps_bind (steps_liftRegistry _) fun p => ?_) fun _ => trivial
    exact Prog.steps_bind (steps_resource _) fun _ => trivial
  | requestClaim claim =>
    refine Prog.steps_bind ?_ fun _ => trivial
    unfold Coordinator.requestClaim
    cases h : reg.requestClaim claim with
    | error e => trivial
    | ok p =>
      obtain ⟨reg',record⟩ := p
      have hrest := steps_rest reg' record (Coordinator.approvalOf claim record) (Coordinator.auditOf claim record) (request_alone h)
      exact hrest.bind fun _ => trivial
  | activateClaim claimId approvalId =>
    refine Prog.steps_bind ?_ fun _ => trivial
    unfold Coordinator.activateClaim
    cases h : reg.activateClaim claimId approvalId with
    | error e => trivial
    | ok p =>
      obtain ⟨reg',record⟩ := p
      have hclaim := steps_claim (activate_alone hfiled h).2 (some record.decision)
      exact hclaim.bind fun _ => (steps_liftRegistry _).bind fun r => (steps_resource r).bind fun _ => trivial
  | releaseClaim claimId =>
    refine Prog.steps_bind ?_ fun _ => trivial
    unfold Coordinator.releaseClaim
    cases h : reg.releaseClaim claimId with
    | error e => trivial
    | ok p =>
      obtain ⟨reg',released⟩ := p
      have hclaim := steps_claim (released_alone h) none
      exact hclaim.bind fun _ => (steps_liftRegistry _).bind fun r => (steps_resource r).bind fun _ => trivial

/-! The load writes nothing, and files every claim under its id. -/

theorem findDecision_steps (claimId : String) : (findDecision claimId : ClaimProg _).Steps Keeps := by
  refine Prog.steps_bind (Prog.steps_read _) fun row => ?_
  cases row with
  | none => trivial
  | some row => exact Prog.steps_bind (Prog.steps_orRaise _ _) fun _ => trivial

theorem restoreAll_steps (claims : List Claim) (reg : ResourceRegistry) : (restoreAll reg claims : ClaimProg _).Steps Keeps := by
  induction claims generalizing reg with
  | nil => trivial
  | cons c rest ih =>
    unfold restoreAll
    refine Prog.steps_bind (findDecision_steps c.id) fun d => ?_
    cases d with
    | none => exact ih reg
    | some d => exact Prog.steps_bind (steps_liftRegistry _) fun reg => ih reg

theorem coordinatorFromStore_steps : (coordinatorFromStore : ClaimProg _).Steps Keeps := by
  have hlist : ∀ {α : Type} (f : CoordStore → List α) {β : Type} (g : List α → Option β) e,
      ((do let rows ← atomically (Tx.read f); orRaise (g rows) e) : ClaimProg β).Steps Keeps :=
    fun f _ g e => Prog.steps_bind (Prog.steps_read f) fun rows => Prog.steps_orRaise _ _
  refine Prog.steps_bind (hlist _ _ _) fun resources => Prog.steps_bind (steps_liftRegistry _) fun reg => ?_
  exact Prog.steps_bind (hlist _ _ _) fun claims => restoreAll_steps claims reg

end Steps

theorem liftRegistry_returns {α : Type} {Ret : α → Prop} {r : Except RegistryError α} (h : ∀ a, r = .ok a → Ret a) :
    (Coordinator.liftRegistry r : ClaimProg α).Returns Ret := by
  cases r with
  | error e => trivial
  | ok a => exact h a rfl

theorem registerAll_claims (resources : List Resource) {reg reg' : ResourceRegistry} (h : registerAll reg resources = .ok reg') :
    reg'.claims = reg.claims := by
  induction resources generalizing reg with
  | nil =>
    cases h
    rfl
  | cons r rest ih =>
    simp only [registerAll,ResourceRegistry.registerResource] at h
    split at h
    · cases h
    · have hrest : registerAll { reg with resources := reg.resources.set r.id r } rest = .ok reg' := h
      have hkept := ih hrest
      exact hkept

theorem restoreAll_filed (claims : List Claim) {reg : ResourceRegistry} (hfiled : reg.claims.Filed Claim.id) :
    (restoreAll reg claims : ClaimProg _).Returns fun reg' => reg'.claims.Filed Claim.id := by
  induction claims generalizing reg with
  | nil => exact hfiled
  | cons c rest ih =>
    unfold restoreAll
    refine Prog.Returns.bind (Prog.returns_true (findDecision c.id)) fun d _ => ?_
    cases d with
    | none => exact ih hfiled
    | some d =>
      have hrestored : (Coordinator.liftRegistry (reg.restoreClaim c d) : ClaimProg _).Returns fun reg' => reg'.claims.Filed Claim.id := by
        apply liftRegistry_returns
        intro reg' h
        unfold ResourceRegistry.restoreClaim at h
        split at h
        · cases h
        · cases h
          exact hfiled.set c
      exact hrestored.bind fun reg' h => ih h

theorem coordinatorFromStore_filed : (coordinatorFromStore : ClaimProg _).Returns fun reg => reg.claims.Filed Claim.id := by
  refine Prog.Returns.bind (Prog.returns_true listResources) fun resources _ => ?_
  have hempty : (Coordinator.liftRegistry (registerAll .empty resources) : ClaimProg _).Returns fun reg => reg.claims.Filed Claim.id := by
    apply liftRegistry_returns
    intro reg h
    rw [registerAll_claims resources h]
    exact Dict.Filed.empty _
  refine hempty.bind fun reg hfiled => ?_
  exact Prog.Returns.bind (Prog.returns_true listClaims) fun claims _ => restoreAll_filed claims hfiled

theorem process_steps (rop : RegistryOp) : (process rop).Steps Keeps := by
  refine Prog.Steps.bind_returns coordinatorFromStore_steps coordinatorFromStore_filed fun reg hfiled => ?_
  exact (perform_steps hfiled rop).holding fun _ _ _ h => h

/-- As long as no process misses a claim it collides with, no two active exclusive claims on
one resource are ever stored. -/
theorem exclusive_while_seen {s₀ : CoordStore} (h₀ : Exclusive s₀) {w : ClaimWorld} (h : World.Reachable seenSystem (World.init s₀) w) :
    ∀ s ∈ w.trace.history, Exclusive s := by
  have hkeep : ∀ s held s', Exclusive s → Seen s held s' → Keeps s held s' → Exclusive s' ∧ (fun _ _ => True) s s' :=
    fun _ _ _ hs hseen hkeeps => ⟨hkeeps hs hseen,trivial⟩
  have hstart : ∀ p, seenSystem.start p → p.Steps Keeps := by
    rintro p ⟨rop,rfl⟩
    exact process_steps rop
  exact (h.steps hstart hkeep h₀).1

/-! ### Processes at one dock -/

def oneDock : CoordStore := { resources := Dict.empty.set "dock" (serviceNamed "dock") }

theorem exclusive_oneDock : Exclusive oneDock := by
  intro j k a b ha
  cases ha

theorem listResources_eq : (listResources : ClaimProg _) = do
    let rows ← atomically (Tx.read fun s : CoordStore => rowsById s.resources)
    return rows.map Resource.restored := by
  unfold listResources
  congr 1
  funext rows
  rw [CoordState.mapM_of_some Resource.ofJsonable_members]
  rfl

/-- The process that quarantines the dock under a claim of its own. -/
def quarantines (id : String) : ClaimProg Unit := process (.requestClaim (quarantineOf id "dock" 8080))

/-- Whether the dock is held under the claim. -/
def holdsDock (id : String) (w : ClaimWorld) : Bool := match w.trace.store.claims.get? id with
  | some c => c.status = .active && c.isExclusive && c.resourceId = "dock"
  | none => false

theorem get_of_holdsDock {id : String} {w : ClaimWorld} (h : holdsDock id w = true) :
    ∃ c, w.trace.store.claims.get? id = some c ∧ HoldsResource c ∧ c.resourceId = "dock" := by
  unfold holdsDock at h
  split at h
  · next c hc =>
    simp only [Bool.and_eq_true,decide_eq_true_eq] at h
    exact ⟨c,hc,h.1,h.2⟩
  · cases h

def noAnswers : ∀ q, NoAnswer q := fun _ => ()

def bothLoaded : List (Move CoordStore Snapshot NoAnswer CoordError Unit) :=
  [.start (quarantines "first")] ++ [.start (quarantines "second")] ++ World.steps 0 2 noAnswers ++ World.steps 1 2 noAnswers ++
    World.steps 0 1 noAnswers ++ World.steps 1 1 noAnswers

theorem both_hold_the_dock : ∃ w : ClaimWorld, World.Reachable claimSystem (World.init oneDock) w ∧
    ¬ Exclusive w.trace.store := by
  have hplay : ((World.init oneDock).play (fun _ _ _ => true) (fun _ _ _ => true) bothLoaded).any
      (fun w => holdsDock "first" w && holdsDock "second" w) = true := by
    simp only [bothLoaded,quarantines,process,coordinatorFromStore,listResources_eq]
    decide +kernel
  have hstart : ∀ id, claimSystem.start (quarantines id) := fun id => ⟨_,rfl⟩
  have hallowed : ∀ mv ∈ bothLoaded, mv.Allowed claimSystem := by
    simp only [bothLoaded,List.forall_mem_append]
    exact ⟨⟨⟨⟨⟨World.allowed_start _ (hstart _),World.allowed_start _ (hstart _)⟩,World.allowed_steps _ _ _⟩,
      World.allowed_steps _ _ _⟩,World.allowed_steps _ _ _⟩,World.allowed_steps _ _ _⟩
  obtain ⟨w,hw,hc⟩ := World.exists_reachable _ _ _ (fun _ _ _ _ => trivial) (fun _ _ _ _ => trivial) hallowed hplay
  rw [Bool.and_eq_true] at hc
  obtain ⟨a,ha,hholdsA,hdockA⟩ := get_of_holdsDock hc.1
  obtain ⟨b,hb,hholdsB,hdockB⟩ := get_of_holdsDock hc.2
  refine ⟨w,hw,fun hexclusive => ?_⟩
  exact hexclusive "first" "second" a b ha hb (by decide) hholdsA hholdsB (hdockA.trans hdockB.symm)

/-- The second process loads after the first one has saved. -/
def oneAfterAnother : List (Move CoordStore Snapshot NoAnswer CoordError Unit) :=
  [.start (quarantines "first")] ++ World.steps 0 3 noAnswers ++ [.start (quarantines "second")] ++ World.steps 1 4 noAnswers

/-- The registry knows every active exclusive claim that is stored. -/
def knowsHeld (s : CoordStore) (held : Snapshot) (_ : CoordStore) : Bool := match held with
  | .none => true
  | .of reg => s.claims.entries.all fun e => !(e.2.status = .active && e.2.isExclusive) ||
      reg.activeClaims.any fun known => known.id = e.1 && known.resourceId = e.2.resourceId

/-- The dock was refused to the claim, which waits. -/
def waits (id : String) (w : ClaimWorld) : Bool := match w.trace.store.claims.get? id with
  | some c => c.status ≠ .active && c.resourceId = "dock"
  | none => false

theorem exclusive_while_seen_alone : ∃ w : ClaimWorld, World.Reachable seenSystem (World.init oneDock) w ∧
    holdsDock "first" w = true ∧ waits "second" w = true ∧ ∀ s ∈ w.trace.history, Exclusive s := by
  have hplay : ((World.init oneDock).play (fun _ _ _ => true) knowsHeld oneAfterAnother).any
      (fun w => holdsDock "first" w && waits "second" w) = true := by
    simp only [oneAfterAnother,quarantines,process,coordinatorFromStore,listResources_eq]
    decide +kernel
  have hguard : ∀ s h s', knowsHeld s h s' = true → seenSystem.guard s h s' := by
    intro s h s' hknows
    cases h with
    | none => trivial
    | of reg =>
      intro k c _ _ _ j other _ hother hholds hsame
      have hentry := List.all_eq_true.mp hknows (j,other) ((Dict.mem_entries_iff _ _ _).mpr hother)
      simp only [hholds.1,hholds.2,decide_true,Bool.and_self,Bool.not_true,Bool.false_or,List.any_eq_true,Bool.and_eq_true,
        decide_eq_true_eq] at hentry
      obtain ⟨known,hknown,hid,hresource⟩ := hentry
      exact ⟨known,hknown,hid,hresource.trans hsame⟩
  have hallowed : ∀ mv ∈ oneAfterAnother, mv.Allowed seenSystem := by
    simp only [oneAfterAnother,List.forall_mem_append]
    exact ⟨⟨⟨World.allowed_start _ ⟨_,rfl⟩,World.allowed_steps _ _ _⟩,World.allowed_start _ ⟨_,rfl⟩⟩,World.allowed_steps _ _ _⟩
  obtain ⟨w,hw,hc⟩ := World.exists_reachable _ _ _ (fun _ _ _ _ => trivial) hguard hallowed hplay
  rw [Bool.and_eq_true] at hc
  exact ⟨w,hw,hc.1,hc.2,exclusive_while_seen exclusive_oneDock hw⟩

end Process
end Overseer.Core
