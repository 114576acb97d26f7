import Overseer.Agent.Failover
import Overseer.Library.Rearranged
import Mathlib.Tactic.Linarith

/-! # What justifies a failover

The conditions under which the evidence justifies a failover, in its own terms, and the
blockers that the evaluation finds where they fail.
-/
namespace Overseer.Agent
open Overseer.Library

/-! ### Histories -/

/-- The histories differ in no more than the order of observations made at different times. -/
def Reordered (health health' : List ProviderHealthObservation) : Prop :=
  ∀ t, health'.filter (·.observedAt = t) = health.filter (·.observedAt = t)

theorem reordered_of_perm {health health' : List ProviderHealthObservation} (h : health'.Perm health)
    (htimes : (health.map (·.observedAt)).Nodup) : Reordered health health' := by
  intro t
  have hall : (health.filter (·.observedAt = t)).map (·.observedAt) = List.replicate (health.filter (·.observedAt = t)).length t := by
    rw [List.eq_replicate_iff]
    refine ⟨by simp,fun u hu => ?_⟩
    obtain ⟨o,ho,rfl⟩ := List.mem_map.mp hu
    exact of_decide_eq_true (List.mem_filter.mp ho).2
  have hsub : ((health.filter (·.observedAt = t)).map (·.observedAt)).Nodup := htimes.sublist (List.filter_sublist.map _)
  rw [hall,List.nodup_replicate] at hsub
  exact eq_of_perm_short (h.filter _) hsub

theorem Reordered.perm {health health' : List ProviderHealthObservation} (h : Reordered health health') : health'.Perm health := by
  rw [List.perm_iff_count]
  intro a
  have hcount : ∀ l : List ProviderHealthObservation, l.count a = (l.filter (·.observedAt = a.observedAt)).count a := by
    intro l
    rw [List.count_filter]
    simp
  rw [hcount health',hcount health,h]

theorem Reordered.filter {health health' : List ProviderHealthObservation} (h : Reordered health health')
    (p : ProviderHealthObservation → Bool) : Reordered (health.filter p) (health'.filter p) := by
  intro t
  have hcomm : ∀ l : List ProviderHealthObservation, (l.filter p).filter (·.observedAt = t) = (l.filter (·.observedAt = t)).filter p := by
    intro l
    rw [List.filter_filter,List.filter_filter]
    congr 1
    funext x
    exact Bool.and_comm _ _
  rw [hcomm,hcomm,h]

theorem Reordered.byObservation {health health' : List ProviderHealthObservation} (h : Reordered health health') :
    Agent.byObservation health' = Agent.byObservation health := by
  have hsorted : ∀ l : List ProviderHealthObservation, (Agent.byObservation l).Pairwise fun x y => x.observedAt ≤ y.observedAt := by
    intro l
    have : Std.Total fun x y : ProviderHealthObservation => x.observedAt ≤ y.observedAt := ⟨fun x y => le_total _ _⟩
    have : IsTrans ProviderHealthObservation fun x y => x.observedAt ≤ y.observedAt := ⟨fun _ _ _ => le_trans⟩
    exact List.pairwise_insertionSort _ l
  refine eq_of_sorted_filter (hsorted _) (hsorted _) fun t => ?_
  unfold Agent.byObservation
  have hkept : ∀ l : List ProviderHealthObservation,
      (l.insertionSort fun x y => x.observedAt ≤ y.observedAt).filter (·.observedAt = t) = l.filter (·.observedAt = t) :=
    fun l => filter_insertionSort l t
  rw [hkept,hkept]
  exact h t

/-! ### What justifies a failover -/

/-- The run of failures that the ordered observations end with. -/
structure MaximalRun (ordered run : List ProviderHealthObservation) : Prop where
  suffix : run <:+ ordered
  failing : ∀ h ∈ run, h.state ∈ [ProviderHealthState.transportFailure,.failed]
  maximal : ∀ run', run' <:+ ordered → (∀ h ∈ run', h.state ∈ [ProviderHealthState.transportFailure,.failed]) → run' <:+ run

theorem MaximalRun.unique {ordered run run' : List ProviderHealthObservation} (h : MaximalRun ordered run)
    (h' : MaximalRun ordered run') : run = run' :=
  (h'.maximal run h.suffix h.failing).eq_of_length_le (h.maximal run' h'.suffix h'.failing).length_le

theorem trailingFailures_maximal (health : List ProviderHealthObservation) :
    MaximalRun (byObservation health) (trailingFailures health) := by
  let failing : ProviderHealthObservation → Bool := fun h => h.state ∈ [ProviderHealthState.transportFailure,.failed]
  constructor
  · have hprefix : (byObservation health).reverse.takeWhile failing <+: (byObservation health).reverse := List.takeWhile_prefix _
    rw [← List.reverse_suffix,List.reverse_reverse] at hprefix
    exact hprefix
  · intro h hh
    have hmem : h ∈ (byObservation health).reverse.takeWhile failing := List.mem_reverse.mp hh
    have hfailing : failing h = true := List.all_eq_true.mp (List.all_takeWhile (p := failing)) h hmem
    exact of_decide_eq_true hfailing
  · rintro run' ⟨earlier,hparts⟩ hfailing
    have hall : ∀ h ∈ run'.reverse, failing h = true := fun h hh => decide_eq_true (hfailing h (List.mem_reverse.mp hh))
    have htake : (byObservation health).reverse.takeWhile failing = run'.reverse ++ earlier.reverse.takeWhile failing := by
      rw [← hparts,List.reverse_append,List.takeWhile_append_of_pos hall]
    refine ⟨(earlier.reverse.takeWhile failing).reverse,?_⟩
    change _ = ((byObservation health).reverse.takeWhile failing).reverse
    rw [htake]
    simp

/-- The checkpoint is bound to the epoch, young enough and not expired. -/
structure Fresh (instanceId : String) (epoch : DriverEpoch) (now : Timestamp) (maxAge : ℕ) (c : AgentCheckpoint) : Prop where
  bound : c.instanceId = instanceId ∧ c.driverEpochId = epoch.id ∧ c.sessionId = epoch.sessionId
  young : ∃ created, c.createdAt = some (.instant created) ∧ created ≤ now ∧ now ≤ created + maxAge * 1000000
  unexpired : ∀ x, c.expiresAt = some x → ∃ expires, x = .instant expires ∧ now < expires

/-- The fallback is healthy, ready, and capable of importing a handoff and of what is required. -/
structure FailoverEvidence.Usable (e : FailoverEvidence) (providerId : String) : Prop where
  healthy : providerId ∈ e.healthyCandidates
  ready : ∃ ref, (providerId,ref) ∈ e.candidateReadiness
  capable : ∃ c, e.candidateCapabilities.lookup providerId = some c ∧ c.handoffImport = true ∧ c.supports e.requiredCapabilities = true

/-- The observations of the outgoing provider. -/
def FailoverEvidence.outgoing (e : FailoverEvidence) (instanceId : String) (epoch : DriverEpoch) : List ProviderHealthObservation :=
  e.health.filter fun h => h.instanceId = instanceId ∧ h.providerId = epoch.providerId

/-- The evidence justifies a failover to the provider. -/
structure FailoverEvidence.Justifies (e : FailoverEvidence) (instanceId : String) (epoch : DriverEpoch) (now : Timestamp)
    (providerId : String) : Prop where
  policy : ∃ policy, e.policy = some policy ∧ policy.approved = true ∧
    ∃ run, MaximalRun (byObservation (e.outgoing instanceId epoch)) run ∧ policy.failureThreshold ≤ run.length ∧
      ∀ h ∈ run, ∃ approvedAt, policy.approvedAt = some approvedAt ∧ approvedAt < h.observedAt
  checkpoint : ∃ c, e.checkpoint = some c ∧ Fresh instanceId epoch now e.maxAge c ∧
    ∃ status ∈ ["ready","completed","checkpointed"], c.evidence.get? "status" = some (.str status)
  risks : ∀ r ∈ e.risks, r.resolved = false → r.riskLevel ≠ .high ∧ r.transferable = true
  unchanged : e.transitionChanged = false
  fallback : ∃ before after, e.approved = before ++ providerId :: after ∧ e.Usable providerId ∧ ∀ p ∈ before, ¬ e.Usable p

/-! ### The blockers -/

section Blockers
variable {e : FailoverEvidence} {instanceId : String} {epoch : DriverEpoch} {now : Timestamp}

theorem usable_iff (e : FailoverEvidence) (p : String) :
    decide (decide (p ∈ e.healthyCandidates ∧ p ∈ e.candidateCapabilities.map Prod.fst ∧ p ∈ e.candidateReadiness.map Prod.fst) = true ∧
      ((e.candidateCapabilities.lookup p).any fun c => c.handoffImport && c.supports e.requiredCapabilities) = true) = true ↔ e.Usable p := by
  rw [decide_eq_true_eq,decide_eq_true_eq,Option.any_eq_true]
  constructor
  · rintro ⟨⟨hhealthy,-,hready⟩,c,hc,hcapable⟩
    rw [Bool.and_eq_true] at hcapable
    obtain ⟨⟨q,ref⟩,hmem,rfl⟩ := List.mem_map.mp hready
    exact ⟨hhealthy,⟨ref,hmem⟩,c,hc,hcapable⟩
  · rintro ⟨hhealthy,⟨ref,href⟩,c,hc,himport,hsupports⟩
    obtain ⟨l₁,l₂,hparts,-⟩ := List.lookup_eq_some_iff.mp hc
    refine ⟨⟨hhealthy,?_,List.mem_map.mpr ⟨_,href,rfl⟩⟩,c,hc,by simp [himport,hsupports]⟩
    rw [hparts]
    simp

theorem candidates_eq (e : FailoverEvidence) : e.candidates = e.approved.filter fun p =>
    p ∈ e.healthyCandidates ∧ p ∈ e.candidateCapabilities.map Prod.fst ∧ p ∈ e.candidateReadiness.map Prod.fst := by
  unfold FailoverEvidence.candidates FailoverEvidence.approved
  cases e.policy <;> rfl

theorem selected_eq_some_iff {p : String} : e.selected = some p ↔
    ∃ before after, e.approved = before ++ p :: after ∧ e.Usable p ∧ ∀ q ∈ before, ¬ e.Usable q := by
  unfold FailoverEvidence.selected
  rw [candidates_eq,List.find?_filter,List.find?_eq_some_iff_append]
  constructor
  · rintro ⟨hp,before,after,hparts,hbefore⟩
    refine ⟨before,after,hparts,(usable_iff e p).mp hp,fun q hq husable => ?_⟩
    have hnot := hbefore q hq
    rw [(usable_iff e q).mpr husable] at hnot
    cases hnot
  · rintro ⟨before,after,hparts,husable,hbefore⟩
    refine ⟨(usable_iff e p).mpr husable,before,after,hparts,fun q hq => ?_⟩
    rw [Bool.not_eq_true',Bool.eq_false_iff]
    exact fun h => hbefore q hq ((usable_iff e q).mp h)

theorem selected_mem {p : String} (h : e.selected = some p) : p ∈ e.approved ∧ e.candidates ≠ [] := by
  have hmem : p ∈ e.candidates := List.mem_of_find?_eq_some h
  refine ⟨?_,List.ne_nil_of_mem hmem⟩
  rw [candidates_eq] at hmem
  exact (List.mem_filter.mp hmem).1

theorem checkpointUsable_iff {maxAge : ℕ} {c : AgentCheckpoint} (hc : ∀ t ∈ c.expiresAt, t.parses = true) :
    checkpointUsable instanceId epoch now maxAge c = true ↔ Fresh instanceId epoch now maxAge c := by
  constructor
  · intro h
    unfold checkpointUsable at h
    rcases hcreated : c.createdAt with _ | (created | text)
    · simp [hcreated] at h
    · simp only [hcreated,Bool.and_eq_true,decide_eq_true_eq] at h
      obtain ⟨⟨⟨⟨hinstance,hepoch⟩,hsession⟩,hpast,hyoung⟩,hexpires⟩ := h
      refine ⟨⟨hinstance,hepoch,hsession⟩,⟨created,hcreated,by linarith,by linarith⟩,fun x hx => ?_⟩
      rw [hx] at hexpires
      cases x with
      | instant t => exact ⟨t,rfl,of_decide_eq_true hexpires⟩
      | malformed text =>
        have hparses := hc _ hx
        cases hparses
    · simp [hcreated] at h
  · rintro ⟨⟨hinstance,hepoch,hsession⟩,⟨created,hcreated,hpast,hyoung⟩,hunexpired⟩
    unfold checkpointUsable
    rw [hcreated]
    simp only [hinstance,hepoch,hsession,decide_true,Bool.true_and,Bool.and_eq_true,decide_eq_true_eq]
    refine ⟨⟨by linarith,by linarith⟩,?_⟩
    cases hx : c.expiresAt with
    | none => rfl
    | some x =>
      obtain ⟨t,rfl,ht⟩ := hunexpired x hx
      exact decide_eq_true ht

theorem statusIn_iff {status : Option Json} {texts : List String} : statusIn status texts = true ↔ ∃ text ∈ texts, status = some (.str text) := by
  unfold statusIn
  split
  · next text => simp
  · next hne =>
    constructor
    · intro h
      cases h
    · rintro ⟨text,-,rfl⟩
      exact absurd rfl (hne text)

/-- Nothing blocks: each of the conditions, in the order of the vocabulary. -/
structure Unblocked (e : FailoverEvidence) (instanceId : String) (epoch : DriverEpoch) (now : Timestamp) : Prop where
  approved : (e.policy.all fun p => !p.approved) = false
  predates : trailingFailures (e.outgoing instanceId epoch) ≠ [] → ((e.policy.bind (·.approvedAt)).all fun a =>
    (trailingFailures (e.outgoing instanceId epoch)).any fun f => f.observedAt ≤ a) = false
  notSlow : e.outgoing instanceId epoch ≠ [] → ((e.outgoing instanceId epoch).all fun h => h.state = .slow) = false
  threshold : ¬ (trailingFailures (e.outgoing instanceId epoch)).length < (e.policy.map (·.failureThreshold)).getD 1
  checkpoint : (e.checkpoint.all fun c => !checkpointUsable instanceId epoch now e.maxAge c) = false
  noHighRisk : ((e.risks.filter fun r => r.instanceId = instanceId ∧ r.resolved = false).any fun r => r.riskLevel = .high) = false
  transferable : ((e.checkpoint.any fun c => !statusIn (c.evidence.get? "status") ["ready","completed","checkpointed"]) ||
    (e.risks.filter fun r => r.instanceId = instanceId ∧ r.resolved = false).any fun r => !r.transferable) = false
  candidates : ¬ e.candidates = []
  selected : e.candidates ≠ [] → ¬ e.selected = none
  unchanged : e.transitionChanged = false

theorem unblocked_iff : e.blockers instanceId epoch now = [] ↔ Unblocked e instanceId epoch now := by
  have hone : ∀ (b : Bool) (text : String), (if b then some text else none) = none ↔ b = false := by
    intro b text
    cases b <;> simp
  unfold FailoverEvidence.blockers
  rw [List.filterMap_eq_nil_iff]
  simp only [List.forall_mem_cons,hone,decide_eq_false_iff_not,Bool.and_eq_false_imp,decide_eq_true_eq]
  constructor
  · rintro ⟨h₁,h₂,h₃,h₄,h₅,h₆,h₇,h₈,h₉,h₁₀,-⟩
    exact ⟨h₁,h₂,h₃,h₄,h₅,h₆,h₇,h₈,h₉,h₁₀⟩
  · intro h
    exact ⟨h.approved,h.predates,h.notSlow,h.threshold,h.checkpoint,h.noHighRisk,h.transferable,h.candidates,h.selected,h.unchanged,
      fun _ hnil => (by cases hnil)⟩

theorem Unblocked.fallback (h : Unblocked e instanceId epoch now) : ∃ p, e.selected = some p :=
  Option.ne_none_iff_exists'.mp (h.selected h.candidates)

theorem risks_iff (hinstance : ∀ r ∈ e.risks, r.instanceId = instanceId) {p : ActiveAgentRisk → Bool} :
    ((e.risks.filter fun r => r.instanceId = instanceId ∧ r.resolved = false).any p) = false ↔
      ∀ r ∈ e.risks, r.resolved = false → p r = false := by
  rw [List.any_eq_false]
  constructor
  · intro h r hr hopen
    exact Bool.eq_false_iff.mpr (h r (List.mem_filter.mpr ⟨hr,decide_eq_true ⟨hinstance r hr,hopen⟩⟩))
  · intro h r hr
    obtain ⟨hmem,hopen⟩ := List.mem_filter.mp hr
    rw [h r hmem (of_decide_eq_true hopen).2]
    exact Bool.false_ne_true

theorem trailingFailures_mem {health : List ProviderHealthObservation} {f : ProviderHealthObservation} (hf : f ∈ trailingFailures health) :
    f ∈ health ∧ f.state ∈ [ProviderHealthState.transportFailure,.failed] := by
  have hrun := trailingFailures_maximal health
  have hmem : f ∈ byObservation health := hrun.suffix.subset hf
  exact ⟨(List.mem_insertionSort _).mp hmem,hrun.failing f hf⟩

theorem unblocked_of_justifies {p : String} (hinstance : ∀ r ∈ e.risks, r.instanceId = instanceId)
    (htimes : ∀ c ∈ e.checkpoint, ∀ t ∈ c.expiresAt, t.parses = true) (hthreshold : ∀ policy ∈ e.policy, 0 < policy.failureThreshold)
    (h : e.Justifies instanceId epoch now p) : Unblocked e instanceId epoch now := by
  obtain ⟨policy,hpolicy,happroved,run,hrun,hlength,hpredates⟩ := h.policy
  obtain ⟨c,hcheckpoint,hfresh,status,hstatus,hready⟩ := h.checkpoint
  have hselected := selected_eq_some_iff.mpr h.fallback
  have hsame := hrun.unique (trailingFailures_maximal _)
  rw [hsame] at hlength hpredates
  have hpos : 0 < (trailingFailures (e.outgoing instanceId epoch)).length := lt_of_lt_of_le (hthreshold policy hpolicy) hlength
  obtain ⟨f,hf⟩ := List.exists_mem_of_length_pos hpos
  constructor
  · simp [hpolicy,happroved]
  · intro _
    obtain ⟨approvedAt,hat,-⟩ := hpredates f hf
    have hbind : e.policy.bind (·.approvedAt) = some approvedAt := by rw [hpolicy]; exact hat
    rw [hbind]
    refine List.any_eq_false.mpr fun g hg hle => ?_
    obtain ⟨approvedAt',hat',hlt⟩ := hpredates g hg
    rw [hat] at hat'
    cases hat'
    exact absurd (of_decide_eq_true hle) (not_le.mpr hlt)
  · intro _
    obtain ⟨hmem,hstate⟩ := trailingFailures_mem hf
    refine List.all_eq_false.mpr ⟨f,hmem,fun hslow => ?_⟩
    rw [of_decide_eq_true hslow] at hstate
    simp at hstate
  · simpa [hpolicy] using hlength
  · have husable := (checkpointUsable_iff (htimes c hcheckpoint)).mpr hfresh
    simp [hcheckpoint,husable]
  · exact (risks_iff hinstance).mpr fun r hr hopen => decide_eq_false (h.risks r hr hopen).1
  · have hin := statusIn_iff.mpr ⟨status,hstatus,hready⟩
    rw [Bool.or_eq_false_iff,risks_iff hinstance]
    refine ⟨?_,fun r hr hopen => ?_⟩
    · simp [hcheckpoint,hin]
    · simp [(h.risks r hr hopen).2]
  · exact (selected_mem hselected).2
  · intro _ hnone
    rw [hselected] at hnone
    cases hnone
  · exact h.unchanged

theorem justifies_of_unblocked {p : String} (hinstance : ∀ r ∈ e.risks, r.instanceId = instanceId)
    (htimes : ∀ c ∈ e.checkpoint, ∀ t ∈ c.expiresAt, t.parses = true) (h : Unblocked e instanceId epoch now) (hselected : e.selected = some p) :
    e.Justifies instanceId epoch now p := by
  have happroved := h.approved
  have hcheckpoint := h.checkpoint
  have htransferable := h.transferable
  rw [Bool.or_eq_false_iff,risks_iff hinstance] at htransferable
  constructor
  · cases hpolicy : e.policy with
    | none => simp [hpolicy] at happroved
    | some policy =>
      refine ⟨policy,rfl,by simpa [hpolicy] using happroved,_,trailingFailures_maximal _,?_,fun f hf => ?_⟩
      · have hlength := h.threshold
        simpa [hpolicy] using hlength
      · have hpredates := h.predates (List.ne_nil_of_mem hf)
        rw [hpolicy] at hpredates
        change (policy.approvedAt.all _) = false at hpredates
        cases hat : policy.approvedAt with
        | none => simp [hat] at hpredates
        | some approvedAt =>
          rw [hat] at hpredates
          have hlate := List.any_eq_false.mp hpredates f hf
          exact ⟨approvedAt,rfl,not_le.mp fun hle => hlate (decide_eq_true hle)⟩
  · cases hc : e.checkpoint with
    | none => simp [hc] at hcheckpoint
    | some c =>
      have husable : checkpointUsable instanceId epoch now e.maxAge c = true := by simpa [hc] using hcheckpoint
      have hstatus : statusIn (c.evidence.get? "status") ["ready","completed","checkpointed"] = true := by
        simpa [hc] using htransferable.1
      exact ⟨c,rfl,(checkpointUsable_iff (htimes c hc)).mp husable,statusIn_iff.mp hstatus⟩
  · intro r hr hopen
    have hhigh := (risks_iff hinstance).mp h.noHighRisk r hr hopen
    exact ⟨of_decide_eq_false hhigh,by simpa using htransferable.2 r hr hopen⟩
  · exact h.unchanged
  · exact selected_eq_some_iff.mp hselected

end Blockers

end Overseer.Agent
