import Overseer.Core.CoordinatorRuns

/-! # Decisions in memory and in the store

A request files its decision in the registry and in the store, and so does an activation that
queues or blocks. An activation that puts the claim in force leaves the registry's decision as
it was and stores the one it computed.
-/
namespace Overseer.Core
open Overseer.Library

namespace ResourceRegistry

/-- `decisions()`: each claim with what is filed under it. A claim without a decision raises. -/
def decisionRecords (reg : ResourceRegistry) : List (Claim × Option ConflictDecision) :=
  reg.claims.entries.map fun e => (e.2,reg.decisions.get? e.1)

/-- The decision that an activation computes. -/
def activationDecision (reg : ResourceRegistry) (claimId : String) : Option ConflictDecision := do
  let claim ← reg.claims.get? claimId
  let resource ← reg.resources.get? claim.resourceId
  return decideClaim resource claim (reg.otherActives claimId) reg.resources

/-- The decision that a request computes. -/
def requestDecision (reg : ResourceRegistry) (claim : Claim) : Option ConflictDecision := do
  let resource ← reg.resources.get? claim.resourceId
  return decideClaim resource claim reg.activeClaims reg.resources

section Steps
variable {reg reg' : ResourceRegistry} {record : ClaimRecord}

theorem requestClaim_decision {claim : Claim} (h : reg.requestClaim claim = .ok (reg',record)) :
    record.claim.id = claim.id ∧ reg.requestDecision claim = some record.decision ∧
      reg'.decisions = reg.decisions.set claim.id record.decision := by
  simp only [requestClaim,getResource] at h
  cases hr : reg.resources.get? claim.resourceId with
  | none => simp [hr,bind,Except.bind] at h
  | some resource =>
    simp only [hr,bind,Except.bind,pure,Except.pure,Except.ok.injEq,Prod.mk.injEq] at h
    obtain ⟨rfl,rfl⟩ := h
    have hid : (claimWithStatus claim (decideClaim resource claim reg.activeClaims reg.resources)).id = claim.id := claimWithStatus_id _ _
    refine ⟨hid,?_,?_⟩
    · simp only [requestDecision,hr,Option.bind_eq_bind,Option.bind_some,Option.pure_def]
    · change reg.decisions.set _ _ = _
      rw [hid]

theorem not_admits {d : ConflictDecision} {outcome : ConflictOutcome} (h : d.outcome = outcome) (hallow : outcome ≠ .allow)
    (hescalate : outcome ≠ .escalate) : ¬ Admits d := by
  subst h
  exact fun hadmits => hadmits.elim hallow hescalate

/-- An activation files the decision it computes, unless the claim comes into force. -/
theorem activateClaim_decision {claimId : String} {approvalId : Option String} (h : reg.activateClaim claimId approvalId = .ok (reg',record)) :
    reg.activationDecision claimId = some record.decision ∧
      (Admits record.decision → reg'.decisions = reg.decisions) ∧
      (¬ Admits record.decision → reg'.decisions = reg.decisions.set claimId record.decision) := by
  simp only [activateClaim,getClaim,getResource] at h
  cases hclaim : reg.claims.get? claimId with
  | none => simp [hclaim,bind,Except.bind] at h
  | some claim =>
    simp only [hclaim,bind,Except.bind] at h
    cases hresource : reg.resources.get? claim.resourceId with
    | none => simp [hresource] at h
    | some resource =>
      have hdecision : reg.activationDecision claimId = some (decideClaim resource claim (reg.otherActives claimId) reg.resources) := by
        simp only [activationDecision,hclaim,hresource,Option.bind_eq_bind,Option.bind_some,Option.pure_def]
      rw [hdecision]
      simp only [hresource] at h
      split at h
      · next houtcome =>
        cases h
        exact ⟨rfl,fun hadmits => absurd hadmits (not_admits houtcome (by decide) (by decide)),fun _ => rfl⟩
      · next houtcome =>
        cases h
        exact ⟨rfl,fun hadmits => absurd hadmits (not_admits houtcome (by decide) (by decide)),fun _ => rfl⟩
      · next houtcome =>
        cases h
        exact ⟨rfl,fun hadmits => absurd hadmits (not_admits houtcome (by decide) (by decide)),fun _ => rfl⟩
      · next houtcome =>
        cases h
        exact ⟨rfl,fun _ => rfl,fun hnot => (hnot (Or.inl houtcome)).elim⟩
      · next houtcome =>
        cases h
        exact ⟨rfl,fun _ => rfl,fun hnot => (hnot (Or.inr houtcome)).elim⟩

theorem releaseClaim_decisions {claimId : String} {released : Claim} (h : reg.releaseClaim claimId = .ok (reg',released)) :
    reg'.decisions = reg.decisions ∧ ∃ claim, reg.claims.get? claimId = some claim ∧ released = { claim with status := .released } := by
  simp only [releaseClaim,getClaim] at h
  cases hclaim : reg.claims.get? claimId with
  | none => simp [hclaim,bind,Except.bind] at h
  | some claim =>
    simp only [hclaim,bind,Except.bind,pure,Except.pure,Except.ok.injEq,Prod.mk.injEq] at h
    obtain ⟨rfl,rfl⟩ := h
    exact ⟨rfl,claim,rfl,rfl⟩

end Steps
end ResourceRegistry

namespace CoordState

/-! ### What was computed last -/

/-- The decision that a call computes, and the claim it is of. -/
def decided (st : CoordState) : CoordOp → Option (String × ConflictDecision)
  | .requestClaim claim => (st.registry.requestDecision claim).map fun d => (claim.id,d)
  | .activateClaim claimId _ => (st.registry.activationDecision claimId).map fun d => (claimId,d)
  | _ => none

/-- A state, and the decision computed last of each claim. -/
structure Computed where
  state : CoordState := {}
  last : Dict ConflictDecision := .empty

namespace Computed

def apply (h : Computed) (op : CoordOp) : Computed where
  state := h.state.apply op
  last := (decided h.state op).elim h.last fun e => h.last.set e.1 e.2

def run (ops : List CoordOp) : Computed := ops.foldl apply {}

theorem run_state (ops : List CoordOp) : (run ops).state = CoordState.run ops := by
  induction ops using List.reverseRecOn with
  | nil => rfl
  | append_singleton ops op ih =>
    rw [run,CoordState.run,foldl_concat,foldl_concat]
    exact congrArg (CoordState.apply · op) ih

/-- Every claim is paired with a decision, which is the stored one and the one computed last. -/
def Agrees (h : Computed) : Prop :=
  ∀ p ∈ h.state.registry.decisionRecords, ∃ d, p.2 = some d ∧ h.state.store.decisions.get? p.1.id = some d ∧ h.last.get? p.1.id = some d

end Computed

/-- An activation that puts the claim in force computes the decision that is filed already. -/
def RefilesDecision (st : CoordState) : CoordOp → Prop
  | .activateClaim claimId _ => ∀ d, st.registry.activationDecision claimId = some d → Admits d →
      st.registry.decisions.get? claimId = some d
  | _ => True

/-! ### One call -/

namespace Computed
variable {h : Computed}

theorem agrees_iff (hst : Sound h.state) : h.Agrees ↔ ∀ k c, h.state.registry.claims.get? k = some c →
    ∃ d, h.state.registry.decisions.get? k = some d ∧ h.state.store.decisions.get? k = some d ∧ h.last.get? k = some d := by
  constructor
  · intro hagrees k c hc
    have hid : c.id = k := hst.coherent.excludes.filed _ _ hc
    obtain ⟨d,hd⟩ := hagrees (c,h.state.registry.decisions.get? k)
      (List.mem_map.mpr ⟨(k,c),(Dict.mem_entries_iff _ _ _).mpr hc,rfl⟩)
    rw [hid] at hd
    exact ⟨d,hd⟩
  · intro hall p hp
    obtain ⟨⟨k,c⟩,he,rfl⟩ := List.mem_map.mp hp
    have hc := (Dict.mem_entries_iff _ _ _).mp he
    have hid : c.id = k := hst.coherent.excludes.filed _ _ hc
    obtain ⟨d,hd⟩ := hall k c hc
    rw [← hid] at hd
    exact ⟨d,hid ▸ hd⟩

/-- A claim that was decided has its decision in the store and as the one computed last; the others are as they were. -/
theorem agrees_decided {st' : CoordState} {k : String} {d : ConflictDecision} {last : Dict ConflictDecision} {c : Claim}
    (hst : Sound h.state) (hst' : Sound st') (hagrees : h.Agrees) (hclaims : st'.registry.claims = h.state.registry.claims.set k c)
    (hstored : st'.store.decisions = h.state.store.decisions.set k d) (hlast : last = h.last.set k d)
    (helse : ∀ j, j ≠ k → st'.registry.decisions.get? j = h.state.registry.decisions.get? j) :
    Agrees ⟨st',last⟩ ↔ st'.registry.decisions.get? k = some d := by
  rw [agrees_iff (h := ⟨st',last⟩) hst']
  dsimp only
  rw [hclaims,hstored,hlast]
  constructor
  · intro hall
    obtain ⟨d',hmemory,hstored,-⟩ := hall k c (by rw [Dict.get?_set,if_pos rfl])
    rw [Dict.get?_set,if_pos rfl] at hstored
    rw [hmemory,← hstored]
  · intro hmemory j c' hc'
    by_cases hj : j = k
    · subst hj
      exact ⟨d,hmemory,by rw [Dict.get?_set,if_pos rfl],by rw [Dict.get?_set,if_pos rfl]⟩
    · rw [Dict.get?_set,if_neg hj] at hc'
      rw [Dict.get?_set,Dict.get?_set,if_neg hj,if_neg hj,helse j hj]
      exact (agrees_iff hst).mp hagrees j c' hc'

theorem decided_of_raised {st : CoordState} (hst : Sound st) {op : CoordOp}
    (hidle : ∀ rop, registryOp op = some rop → st.registry.Raises rop ∨ ¬ (st.registry.apply rop).ClaimsPlaced) : decided st op = none := by
  have hraises : ∀ rop, registryOp op = some rop → st.registry.Raises rop := fun rop hrop =>
    (hidle rop hrop).resolve_right (not_not.mpr (placed_apply hst.coherent hst.placed rop))
  cases op with
  | requestClaim claim =>
    obtain ⟨e,he⟩ := hraises _ rfl
    cases hr : st.registry.resources.get? claim.resourceId with
    | none => simp [decided,ResourceRegistry.requestDecision,hr]
    | some resource => simp [ResourceRegistry.requestClaim,ResourceRegistry.getResource,hr,bind,Except.bind,pure,Except.pure] at he
  | activateClaim claimId approvalId =>
    cases hc : st.registry.claims.get? claimId with
    | none => simp [decided,ResourceRegistry.activationDecision,hc]
    | some claim =>
      obtain ⟨resource,hr⟩ := hst.placed claimId claim hc
      obtain ⟨e,he⟩ := hraises _ rfl
      simp only [ResourceRegistry.activateClaim,ResourceRegistry.getClaim,ResourceRegistry.getResource,hc,hr,bind,Except.bind] at he
      split at he <;> cases he
  | _ => rfl

/-- A call keeps the agreement exactly when it files no other decision than it stores. -/
theorem apply_agrees_iff (hst : Sound h.state) (hagrees : h.Agrees) (op : CoordOp) :
    (h.apply op).Agrees ↔ RefilesDecision h.state op := by
  have hst' := hst.apply op
  have heffect := apply_effect h.state op
  unfold Computed.apply
  generalize h.state.apply op = st' at heffect hst' ⊢
  -- a claim that is filed again keeps its decisions
  have hkept : ∀ {st' : CoordState}, Sound st' → (∀ k c, st'.registry.claims.get? k = some c → ∃ c', h.state.registry.claims.get? k = some c') →
      st'.registry.decisions = h.state.registry.decisions → st'.store.decisions = h.state.store.decisions → Agrees ⟨st',h.last⟩ := by
    intro st' hst' hclaims hmemory hstored
    rw [agrees_iff (h := ⟨st',h.last⟩) hst']
    intro k c hc
    obtain ⟨c',hc'⟩ := hclaims k c hc
    dsimp only
    rw [hmemory,hstored]
    exact (agrees_iff hst).mp hagrees k c' hc'
  cases heffect with
  | raised hidle habsent =>
    rw [decided_of_raised hst hidle]
    refine ⟨fun _ => ?_,fun _ => hagrees⟩
    cases op with
    | activateClaim claimId approvalId =>
      intro d hd
      have hnone := decided_of_raised hst hidle
      rw [decided,hd] at hnone
      cases hnone
    | _ => trivial
  | @register resource hnew =>
    have happly : h.state.registry.apply (.registerResource resource) =
        { h.state.registry with resources := h.state.registry.resources.set resource.id resource } := by
      simp only [ResourceRegistry.apply,ResourceRegistry.registerResource,hnew]
    refine ⟨fun _ => trivial,fun _ => hkept hst' (fun k c hc => ⟨c,?_⟩) ?_ rfl⟩
    · change (h.state.registry.apply (.registerResource resource)).claims.get? k = some c at hc
      rw [happly] at hc
      exact hc
    · change (h.state.registry.apply (.registerResource resource)).decisions = _
      rw [happly]
  | @request claim reg' record resource hreg hr =>
    obtain ⟨hid,hdecision,hmemory⟩ := ResourceRegistry.requestClaim_decision hreg
    obtain ⟨-,-,-,-,hfiled⟩ := ResourceRegistry.requestClaim_ok hreg
    refine ⟨fun _ => trivial,fun _ => ?_⟩
    rw [decided,hdecision]
    refine (agrees_decided hst hst' hagrees (hid ▸ hfiled) (hid ▸ rfl) rfl fun j hj => ?_).mpr ?_
    · change reg'.decisions.get? j = _
      rw [hmemory,Dict.get?_set,if_neg hj]
    · change reg'.decisions.get? claim.id = _
      rw [hmemory,Dict.get?_set,if_pos rfl]
  | @activate claimId approvalId reg' record resource hreg hr =>
    obtain ⟨hdecision,hadmitted,hrefused⟩ := ResourceRegistry.activateClaim_decision hreg
    have hfiled := ResourceRegistry.activateClaim_filed hreg
    have hid : record.claim.id = claimId := by
      refine hst'.coherent.excludes.filed _ _ ?_
      change reg'.claims.get? claimId = _
      rw [hfiled,Dict.get?_set,if_pos rfl]
    rw [decided,hdecision]
    have helse : ∀ j, j ≠ claimId → reg'.decisions.get? j = h.state.registry.decisions.get? j := by
      intro j hj
      by_cases hadmits : Admits record.decision
      · rw [hadmitted hadmits]
      · rw [hrefused hadmits,Dict.get?_set,if_neg hj]
    refine (agrees_decided hst hst' hagrees hfiled (hid ▸ rfl) rfl helse).trans ?_
    change reg'.decisions.get? claimId = some record.decision ↔ _
    constructor
    · intro hmemory d hd hadmits
      obtain rfl : record.decision = d := Option.some.inj (hdecision.symm.trans hd)
      rw [← hadmitted hadmits,hmemory]
    · intro hrefiles
      by_cases hadmits : Admits record.decision
      · rw [hadmitted hadmits]
        exact hrefiles record.decision hdecision hadmits
      · rw [hrefused hadmits,Dict.get?_set,if_pos rfl]
  | @release claimId reg' released resource hreg hr =>
    obtain ⟨hmemory,claim,hc,-⟩ := ResourceRegistry.releaseClaim_decisions hreg
    have hfiled := ResourceRegistry.releaseClaim_filed hreg
    refine ⟨fun _ => trivial,fun _ => hkept hst' (fun k c hc' => ?_) hmemory rfl⟩
    change reg'.claims.get? k = some c at hc'
    rw [hfiled,Dict.get?_set] at hc'
    by_cases hk : k = claimId
    · exact ⟨claim,hk ▸ hc⟩
    · rw [if_neg hk] at hc'
      exact ⟨c,hc'⟩
  | approve ha => exact ⟨fun _ => trivial,fun _ => hkept hst' (fun k c hc => ⟨c,hc⟩) rfl rfl⟩

end Computed

/-! ### Runs -/

/-- After every call of a run the registry, the store and the decisions computed last agree, exactly when every activation
that put a claim in force computed the decision that the registry had of it. -/
theorem decisions_agree_iff (ops : List CoordOp) : (∀ pre, pre <+: ops → (Computed.run pre).Agrees) ↔
    ∀ pre op, pre ++ [op] <+: ops → RefilesDecision (run pre) op := by
  have hsound : ∀ pre, Sound (Computed.run pre).state := by
    intro pre
    rw [Computed.run_state]
    exact Sound.run pre
  have hnext : ∀ pre op, Computed.run (pre ++ [op]) = (Computed.run pre).apply op := fun pre op => foldl_concat _ _ _ _
  constructor
  · intro hagree pre op hpre
    have hafter := hagree _ hpre
    rw [hnext,Computed.apply_agrees_iff (hsound pre) (hagree pre ((List.prefix_append pre [op]).trans hpre)),Computed.run_state] at hafter
    exact hafter
  · intro hrefiles pre
    induction pre using List.reverseRecOn with
    | nil => exact fun _ p hp => by simp [Computed.run,ResourceRegistry.decisionRecords,ResourceRegistry.empty,Dict.empty] at hp
    | append_singleton pre op ih =>
      intro hpre
      have hbefore := ih ((List.prefix_append pre [op]).trans hpre)
      rw [hnext,Computed.apply_agrees_iff (hsound pre) hbefore,Computed.run_state]
      exact hrefiles pre op hpre

/-- A claim is queued behind another, which is released before the queued one is activated. -/
def activatedAfterRelease : List CoordOp := [.registerResource (ResourceRegistry.serviceNamed "dock"),.requestClaim (leaseOf "a" "dock"),
  .activateClaim "a" none,.requestClaim (leaseOf "b" "dock"),.releaseClaim "a",.activateClaim "b" none]

/-- In memory the claim is still queued, and the store has the decision of the activation. -/
theorem activated_decisions_differ : ¬ (Computed.run activatedAfterRelease).Agrees ∧
    ((run activatedAfterRelease).registry.decisions.get? "b").map (·.outcome) = some .queue ∧
    ((run activatedAfterRelease).store.decisions.get? "b").map (·.outcome) = some .escalate ∧
    ((run activatedAfterRelease).registry.claims.get? "b").map (·.status) = some .active := by
  have hmemory : ((run activatedAfterRelease).registry.decisions.get? "b").map (·.outcome) = some .queue := by decide +kernel
  have hstored : ((run activatedAfterRelease).store.decisions.get? "b").map (·.outcome) = some .escalate := by decide +kernel
  have hactive : ((run activatedAfterRelease).registry.claims.get? "b").map (·.status) = some .active := by decide +kernel
  refine ⟨fun hagrees => ?_,hmemory,hstored,hactive⟩
  have hstate := Computed.run_state activatedAfterRelease
  have hst : Sound (Computed.run activatedAfterRelease).state := hstate ▸ Sound.run activatedAfterRelease
  obtain ⟨claim,hclaim,-⟩ := Option.map_eq_some_iff.mp hactive
  obtain ⟨d,hd,hd',-⟩ := (Computed.agrees_iff hst).mp hagrees "b" claim (hstate ▸ hclaim)
  rw [hstate] at hd hd'
  rw [hd] at hmemory
  rw [hd'] at hstored
  have hsame : (some ConflictOutcome.queue) = some .escalate := hmemory.symm.trans hstored
  cases hsame

end CoordState
end Overseer.Core
