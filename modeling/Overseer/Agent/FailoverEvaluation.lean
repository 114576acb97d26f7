import Overseer.Agent.FailoverSpec
import Overseer.Library.Checks

/-! # What failover evaluation decides

The evaluation allows a failover exactly when the evidence justifies one, whatever order the
evidence comes in. It returns a decision only for evidence that the decision's constructor
accepts: the times of an unusable checkpoint are copied into the decision, so they must parse.
-/
namespace Overseer.Agent
open Overseer.Library Tx

/-! ### What the constructor of the decision checks -/

/-- An identifier that `_require_safe_identifier` accepts. -/
def SafeIdentifier (cfg : Config) (v : String) : Prop := isBlank v = false ∧ cfg.secretLike v = false

theorem checks_requireIdentifiers (values : List (String × String)) :
    Checks (requireIdentifiers values : AgentTx Unit) (∀ v ∈ values, isBlank v.1 = false) := by
  induction values with
  | nil => exact checks_pure.congr (by simp)
  | cons v rest ih => exact ((checks_require _ _).bind ih).congr (by simp)

theorem checks_requireSafeIdentifiers (cfg : Config) (values : List (String × String)) :
    Checks (requireSafeIdentifiers cfg values : AgentTx Unit) (∀ v ∈ values, SafeIdentifier cfg v.1) := by
  induction values with
  | nil => exact checks_pure.congr (by simp)
  | cons v rest ih =>
    refine ((checks_require _ _).bind ((checks_require _ _).bind ih)).congr ?_
    simp [SafeIdentifier,and_assoc]

theorem checks_requireUnique (values : List String) (label : String) :
    Checks (requireUnique values label : AgentTx Unit) ((∀ v ∈ values, isBlank v = false) ∧ values.Nodup) :=
  ((checks_requireIdentifiers _).bind (checks_require _ _)).congr (by simp)

/-- A decision that its constructor accepts, blockers apart. -/
structure DecisionChecked (cfg : Config) (d : FailoverDecision) : Prop where
  names : SafeIdentifier cfg d.id ∧ SafeIdentifier cfg d.instanceId ∧ SafeIdentifier cfg d.outgoingEpochId ∧
    SafeIdentifier cfg d.outgoingProviderId
  policyId : ∀ v ∈ d.policyId, isBlank v = false
  incomingProviderId : ∀ v ∈ d.incomingProviderId, isBlank v = false
  checkpointId : ∀ v ∈ d.checkpointId, isBlank v = false
  generation : 0 < d.operationGeneration
  healthIds : d.healthEvidenceIds.Nodup ∧ ∀ v ∈ d.healthEvidenceIds, SafeIdentifier cfg v
  riskIds : d.riskEvidenceIds.Nodup ∧ ∀ v ∈ d.riskEvidenceIds, SafeIdentifier cfg v
  readinessRefs : d.readinessEvidenceRefs.Nodup ∧ ∀ v ∈ d.readinessEvidenceRefs, SafeIdentifier cfg v
  timestamps : ∀ t ∈ d.evidenceTimestamps, t.parses = true
  lifetime : d.evaluatedAt < d.expiresAt
  allowed : d.allowed = true → d.policyId ≠ none ∧ d.incomingProviderId ≠ none ∧ d.checkpointId ≠ none

theorem checks_checkDecision (cfg : Config) (d : FailoverDecision) : Checks (checkDecision cfg d : AgentTx Unit) (DecisionChecked cfg d) := by
  refine ((checks_requireSafeIdentifiers cfg _).bind ((checks_requireIdentifiers _).bind ((checks_requireIdentifiers _).bind
    ((checks_requireIdentifiers _).bind ((checks_require _ _).bind ((checks_requireUnique _ _).bind ((checks_requireUnique _ _).bind
    ((checks_require _ _).bind ((checks_requireUnique _ _).bind ((checks_requireSafeIdentifiers cfg _).bind
    ((checks_require _ _).bind (checks_require _ _)))))))))))).congr ?_
  constructor
  · rintro ⟨hnames,hpolicy,hincoming,hcheckpoint,hgeneration,hhealth,hrisk,htimes,hrefs,hsafe,hlifetime,hallowed⟩
    simp only [List.map_append,List.mem_append,List.mem_map] at hsafe
    refine ⟨⟨hnames (d.id,"failover decision id") (by simp),hnames (d.instanceId,"instance id") (by simp),hnames (d.outgoingEpochId,"outgoing epoch id") (by simp),
      hnames (d.outgoingProviderId,"outgoing provider id") (by simp)⟩,fun v hv => hpolicy (v,"failover policy id") ?_,
      fun v hv => hincoming (v,"incoming provider id") ?_,fun v hv => hcheckpoint (v,"checkpoint id") ?_,hgeneration,
      ⟨hhealth.2,fun v hv => hsafe (v,"failover evidence reference") (.inl (.inl ⟨v,hv,rfl⟩))⟩,
      ⟨hrisk.2,fun v hv => hsafe (v,"failover evidence reference") (.inl (.inr ⟨v,hv,rfl⟩))⟩,
      ⟨hrefs.2,fun v hv => hsafe (v,"failover evidence reference") (.inr ⟨v,hv,rfl⟩)⟩,htimes,hlifetime,hallowed⟩
    · simpa using hv
    · simpa using hv
    · simpa using hv
  · intro h
    refine ⟨?_,?_,?_,?_,h.generation,⟨fun v hv => (h.healthIds.2 v hv).1,h.healthIds.1⟩,⟨fun v hv => (h.riskIds.2 v hv).1,h.riskIds.1⟩,
      h.timestamps,⟨fun v hv => (h.readinessRefs.2 v hv).1,h.readinessRefs.1⟩,?_,h.lifetime,h.allowed⟩
    · have hnames := h.names
      simpa using hnames
    · have hpolicy := h.policyId
      simpa using hpolicy
    · have hincoming := h.incomingProviderId
      simpa using hincoming
    · have hcheckpoint := h.checkpointId
      simpa using hcheckpoint
    · intro v hv
      obtain ⟨w,hw,rfl⟩ := List.mem_map.mp hv
      rcases List.mem_append.mp hw with hw | hw
      · rcases List.mem_append.mp hw with hw | hw
        · exact h.healthIds.2 w hw
        · exact h.riskIds.2 w hw
      · exact h.readinessRefs.2 w hw

/-! ### What evaluation accepts -/

/-- Evidence whose records their constructors accept. -/
structure FailoverEvidence.Constructed (cfg : Config) (e : FailoverEvidence) : Prop where
  policy : ∀ p ∈ e.policy, SafeIdentifier cfg p.id ∧ 0 < p.failureThreshold ∧ 0 < p.checkpointMaxAgeSeconds ∧
    0 < p.decisionLifetimeSeconds ∧ (∀ f ∈ p.approvedFallbackProviderIds, isBlank f = false) ∧ p.approvedFallbackProviderIds.Nodup
  health : ∀ h ∈ e.health, SafeIdentifier cfg h.id
  checkpoint : ∀ c ∈ e.checkpoint, isBlank c.id = false
  risks : ∀ r ∈ e.risks, SafeIdentifier cfg r.id

/-- The readiness references that the decision carries. -/
def FailoverEvidence.readinessRefs (e : FailoverEvidence) : List String := e.approved.filterMap fun p => e.candidateReadiness.lookup p

/-- Evidence and identity that the evaluation makes a decision of. -/
structure Evaluable (cfg : Config) (decisionId instanceId : String) (epoch : DriverEpoch) (operationGeneration : ℕ) (e : FailoverEvidence)
    (evaluatedAt : Timestamp) (utcOffset : Int) : Prop where
  names : SafeIdentifier cfg decisionId ∧ SafeIdentifier cfg instanceId ∧ SafeIdentifier cfg epoch.id ∧ SafeIdentifier cfg epoch.providerId
  generation : 0 < operationGeneration
  policy : ∀ p ∈ e.policy, p.instanceId = instanceId
  health : ∀ h ∈ e.health, h.instanceId = instanceId ∧ h.providerId ∈ epoch.providerId :: e.approved
  risks : ∀ r ∈ e.risks, r.instanceId = instanceId
  checkpoint : ∀ c ∈ e.checkpoint, c.instanceId = instanceId ∧ c.driverEpochId = epoch.id ∧ c.sessionId = epoch.sessionId
  times : ∀ c ∈ e.checkpoint, (∀ t ∈ c.createdAt, t.parses = true) ∧ ∀ t ∈ c.expiresAt, t.parses = true
  age : ∀ c ∈ e.checkpoint, ageCompared evaluatedAt c = true → e.maxAge ≤ timedeltaMax
  status : ∀ c ∈ e.checkpoint, ∀ status ∈ c.evidence.get? "status", frozenHashable status = true
  lifetime : e.lifetime ≤ timedeltaMax ∧ evaluatedAt + utcOffset + e.lifetime * 1000000 ≤ lastLocalTime
  healthIds : (e.health.map (·.id)).Nodup
  riskIds : (e.risks.map (·.id)).Nodup
  readiness : e.readinessRefs.Nodup ∧ ∀ ref ∈ e.readinessRefs, SafeIdentifier cfg ref

section Evaluation
variable {cfg : Config} {decisionId instanceId : String} {epoch : DriverEpoch} {operationGeneration : ℕ} {e : FailoverEvidence}
  {evaluatedAt : Timestamp} {utcOffset : Int} {s : AgentStore}

theorem evaluate_ok_iff {d : FailoverDecision} {s' : AgentStore} :
    (evaluateFailoverEvidence cfg decisionId instanceId epoch operationGeneration e evaluatedAt utcOffset : AgentTx _) s = .ok (d,s') ↔
      (∀ p ∈ e.policy, p.instanceId = instanceId) ∧
      (∀ h ∈ e.health, h.instanceId = instanceId ∧ h.providerId ∈ epoch.providerId :: e.approved) ∧
      (∀ r ∈ e.risks, r.instanceId = instanceId) ∧
      (∀ c ∈ e.checkpoint, c.instanceId = instanceId ∧ c.driverEpochId = epoch.id ∧ c.sessionId = epoch.sessionId) ∧
      (∀ c ∈ e.checkpoint, ageCompared evaluatedAt c = true → e.maxAge ≤ timedeltaMax) ∧
      (∀ c ∈ e.checkpoint, ∀ status ∈ c.evidence.get? "status", frozenHashable status = true) ∧
      e.lifetime ≤ timedeltaMax ∧ evaluatedAt + utcOffset + e.lifetime * 1000000 ≤ lastLocalTime ∧
      DecisionChecked cfg (e.decision decisionId instanceId epoch operationGeneration evaluatedAt) ∧
      d = e.decision decisionId instanceId epoch operationGeneration evaluatedAt ∧ s' = s := by
  unfold evaluateFailoverEvidence
  simp only [(checks_require _ _).then_ok_iff,(checks_checkDecision _ _).then_ok_iff]
  have hreturn : ∀ d₀ : FailoverDecision, (pure d₀ : AgentTx _) s = .ok (d,s') ↔ d = d₀ ∧ s' = s := by
    intro d₀
    constructor
    · intro h
      cases h
      exact ⟨rfl,rfl⟩
    · rintro ⟨rfl,rfl⟩
      rfl
  rw [hreturn]

theorem timestamps_parse_iff : (∀ t ∈ (e.decision decisionId instanceId epoch operationGeneration evaluatedAt).evidenceTimestamps, t.parses = true) ↔
    ∀ c ∈ e.checkpoint, (∀ t ∈ c.createdAt, t.parses = true) ∧ ∀ t ∈ c.expiresAt, t.parses = true := by
  have hlist : ∀ t, t ∈ (e.decision decisionId instanceId epoch operationGeneration evaluatedAt).evidenceTimestamps ↔
      (∃ u, u ∈ (e.policy.bind (·.approvedAt)).toList ++ e.health.map (·.observedAt) ∧ Stamp.instant u = t) ∨
      (∃ c ∈ e.checkpoint, t ∈ c.createdAt) ∨ ∃ c ∈ e.checkpoint, t ∈ c.expiresAt := by
    intro t
    simp only [FailoverEvidence.decision,List.mem_append,List.mem_map,Option.mem_toList,Option.mem_def,Option.bind_eq_some_iff,or_assoc]
  constructor
  · intro h c hc
    exact ⟨fun t ht => h t ((hlist t).mpr (.inr (.inl ⟨c,hc,ht⟩))),fun t ht => h t ((hlist t).mpr (.inr (.inr ⟨c,hc,ht⟩)))⟩
  · intro h t ht
    rcases (hlist t).mp ht with ⟨u,-,rfl⟩ | ⟨c,hc,htime⟩ | ⟨c,hc,htime⟩
    · rfl
    · exact (h c hc).1 t htime
    · exact (h c hc).2 t htime

/-- The constructor accepts the decision on evaluable evidence. -/
theorem Evaluable.checked (hc : e.Constructed cfg) (h : Evaluable cfg decisionId instanceId epoch operationGeneration e evaluatedAt utcOffset) :
    DecisionChecked cfg (e.decision decisionId instanceId epoch operationGeneration evaluatedAt) := by
  have hlifetime : 0 < e.lifetime := by
    unfold FailoverEvidence.lifetime
    cases hpolicy : e.policy with
    | none => exact Nat.one_pos
    | some policy => exact (hc.policy policy hpolicy).2.2.2.1
  have hfallback : ∀ p ∈ e.approved, isBlank p = false := by
    intro p hp
    unfold FailoverEvidence.approved at hp
    cases hpolicy : e.policy with
    | none => simp [hpolicy] at hp
    | some policy =>
      rw [hpolicy] at hp
      exact (hc.policy policy hpolicy).2.2.2.2.1 p hp
  refine ⟨h.names,?_,?_,?_,h.generation,⟨h.healthIds,?_⟩,⟨h.riskIds,?_⟩,h.readiness,timestamps_parse_iff.mpr h.times,?_,?_⟩
  · intro v hv
    obtain ⟨policy,hpolicy,rfl⟩ := Option.map_eq_some_iff.mp hv
    exact (hc.policy policy hpolicy).1.1
  · intro v hv
    change (if e.blockers instanceId epoch evaluatedAt = [] then e.selected else none) = some v at hv
    split at hv
    · exact hfallback v (selected_mem hv).1
    · cases hv
  · intro v hv
    obtain ⟨c,hcheckpoint,rfl⟩ := Option.map_eq_some_iff.mp hv
    exact hc.checkpoint c hcheckpoint
  · intro v hv
    obtain ⟨o,ho,rfl⟩ := List.mem_map.mp hv
    exact hc.health o ho
  · intro v hv
    obtain ⟨r,hr,rfl⟩ := List.mem_map.mp hv
    exact hc.risks r hr
  · change evaluatedAt < evaluatedAt + (e.lifetime : Int) * 1000000
    have hpos : (0 : Int) < e.lifetime := by exact_mod_cast hlifetime
    linarith
  · intro hallowed
    have hnone : e.blockers instanceId epoch evaluatedAt = [] := of_decide_eq_true hallowed
    have hunblocked := unblocked_iff.mp hnone
    have happroved := hunblocked.approved
    have hcheckpoint := hunblocked.checkpoint
    obtain ⟨p,hp⟩ := hunblocked.fallback
    refine ⟨?_,?_,?_⟩
    · change e.policy.map (·.id) ≠ none
      intro hmissing
      rw [Option.map_eq_none_iff] at hmissing
      simp [hmissing] at happroved
    · change (if e.blockers instanceId epoch evaluatedAt = [] then e.selected else none) ≠ none
      rw [if_pos hnone,hp]
      exact Option.some_ne_none p
    · change e.checkpoint.map (·.id) ≠ none
      intro hmissing
      rw [Option.map_eq_none_iff] at hmissing
      simp [hmissing] at hcheckpoint

theorem evaluate_evaluable (hc : e.Constructed cfg) (h : Evaluable cfg decisionId instanceId epoch operationGeneration e evaluatedAt utcOffset) :
    (evaluateFailoverEvidence cfg decisionId instanceId epoch operationGeneration e evaluatedAt utcOffset : AgentTx _) s =
      .ok (e.decision decisionId instanceId epoch operationGeneration evaluatedAt,s) :=
  evaluate_ok_iff.mpr ⟨h.policy,h.health,h.risks,h.checkpoint,h.age,h.status,h.lifetime.1,h.lifetime.2,h.checked hc,rfl,rfl⟩

theorem evaluable_of_ok {d : FailoverDecision} {s' : AgentStore}
    (h : (evaluateFailoverEvidence cfg decisionId instanceId epoch operationGeneration e evaluatedAt utcOffset : AgentTx _) s = .ok (d,s')) :
    Evaluable cfg decisionId instanceId epoch operationGeneration e evaluatedAt utcOffset ∧
      d = e.decision decisionId instanceId epoch operationGeneration evaluatedAt := by
  obtain ⟨hpolicy,hhealth,hrisks,hcheckpoint,hage,hstatus,hlifetime,hcalendar,hchecked,rfl,-⟩ := evaluate_ok_iff.mp h
  exact ⟨⟨hchecked.names,hchecked.generation,hpolicy,hhealth,hrisks,hcheckpoint,timestamps_parse_iff.mp hchecked.timestamps,hage,hstatus,
    ⟨hlifetime,hcalendar⟩,hchecked.healthIds.1,hchecked.riskIds.1,hchecked.readinessRefs⟩,rfl⟩

end Evaluation

/-! ### The vocabulary -/

def failoverBlockerVocabulary : List String :=
  ["failover policy missing or not approved",
    "policy approval does not predate failure sequence",
    "slow response is not a failover trigger",
    "failure threshold not reached",
    "checkpoint missing, stale, expired, or incorrectly bound",
    "unresolved high-risk action",
    "non-transferable active operation or checkpoint state",
    "no healthy approved fallback",
    "fallback capability mismatch or missing handoff_import",
    "transition, reservation, or epoch already changed"]

theorem blockers_ordered (e : FailoverEvidence) (instanceId : String) (epoch : DriverEpoch) (now : Timestamp) :
    (e.blockers instanceId epoch now).Nodup ∧
      failoverBlockerVocabulary.filter (· ∈ e.blockers instanceId epoch now) = e.blockers instanceId epoch now := by
  have hvocabulary : failoverBlockerVocabulary.Nodup := by decide
  have hsub : ∀ l : List (Bool × String), (l.filterMap fun b => if b.1 then some b.2 else none).Sublist (l.map Prod.snd) := by
    intro l
    induction l with
    | nil => exact List.Sublist.refl _
    | cons pair rest ih =>
      obtain ⟨blocks,text⟩ := pair
      cases blocks with
      | true => exact ih.cons_cons text
      | false => exact ih.cons text
  have hblockers : (e.blockers instanceId epoch now).Sublist failoverBlockerVocabulary := hsub _
  exact ⟨hvocabulary.sublist hblockers,filter_mem_of_sublist hblockers hvocabulary⟩

/-- What an evaluation is to return: a decision, blocked when there is no usable checkpoint. -/
def Evaluates (instanceId : String) (epoch : DriverEpoch) (e : FailoverEvidence) (evaluatedAt : Timestamp) (s : AgentStore)
    (r : Except AgentError (FailoverDecision × AgentStore)) : Prop :=
  ∃ d, r = .ok (d,s) ∧ ((¬ ∃ c ∈ e.checkpoint, Fresh instanceId epoch evaluatedAt e.maxAge c) → d.allowed = false) ∧
    d.blockers.Nodup ∧ failoverBlockerVocabulary.filter (· ∈ d.blockers) = d.blockers

theorem evaluates_of_evaluable {cfg : Config} {decisionId instanceId : String} {epoch : DriverEpoch} {operationGeneration : ℕ}
    {e : FailoverEvidence} {evaluatedAt : Timestamp} {utcOffset : Int} {s : AgentStore} (hc : e.Constructed cfg)
    (h : Evaluable cfg decisionId instanceId epoch operationGeneration e evaluatedAt utcOffset) :
    Evaluates instanceId epoch e evaluatedAt s
      ((evaluateFailoverEvidence cfg decisionId instanceId epoch operationGeneration e evaluatedAt utcOffset : AgentTx _) s) := by
  refine ⟨_,evaluate_evaluable hc h,fun hstale => ?_,blockers_ordered e instanceId epoch evaluatedAt⟩
  refine decide_eq_false fun hnone => hstale ?_
  have hcheckpoint := (unblocked_iff.mp hnone).checkpoint
  cases hcp : e.checkpoint with
  | none => simp [hcp] at hcheckpoint
  | some c => exact ⟨c,rfl,(checkpointUsable_iff (h.times c hcp).2).mp (by simpa [hcp] using hcheckpoint)⟩

/-- Evidence from the constructors is evaluated exactly when the decision's own constructor can
take it: in particular every time of the checkpoint has to parse, also of an unusable one. -/
theorem failover_evaluates_iff (cfg : Config) (decisionId instanceId : String) (epoch : DriverEpoch) (operationGeneration : ℕ)
    (e : FailoverEvidence) (evaluatedAt : Timestamp) (utcOffset : Int) (s : AgentStore) (hc : e.Constructed cfg) :
    Evaluates instanceId epoch e evaluatedAt s
      ((evaluateFailoverEvidence cfg decisionId instanceId epoch operationGeneration e evaluatedAt utcOffset : AgentTx _) s) ↔
    Evaluable cfg decisionId instanceId epoch operationGeneration e evaluatedAt utcOffset :=
  ⟨fun ⟨_,hok,_⟩ => (evaluable_of_ok hok).1,evaluates_of_evaluable hc⟩

/-! ### The order of the evidence -/

section Order
variable {cfg : Config} {decisionId instanceId : String} {epoch : DriverEpoch} {operationGeneration : ℕ} {e : FailoverEvidence}
  {evaluatedAt : Timestamp} {utcOffset : Int} {health : List ProviderHealthObservation} {risks : List ActiveAgentRisk}

theorem blockers_reordered (hhealth : Reordered e.health health) (hrisks : risks.Perm e.risks) :
    FailoverEvidence.blockers { e with health, risks } instanceId epoch evaluatedAt = e.blockers instanceId epoch evaluatedAt := by
  let outgoing : ProviderHealthObservation → Bool := fun h => h.instanceId = instanceId ∧ h.providerId = epoch.providerId
  let unresolved : ActiveAgentRisk → Bool := fun r => r.instanceId = instanceId ∧ r.resolved = false
  have hfilter := hhealth.filter outgoing
  have hperm : (health.filter outgoing).Perm (e.health.filter outgoing) := hfilter.perm
  have hsome : decide (health.filter outgoing ≠ []) = decide (e.health.filter outgoing ≠ []) := by
    rw [decide_eq_decide,ne_eq,ne_eq,← List.length_eq_zero_iff,hperm.length_eq,List.length_eq_zero_iff]
  have htrailing : trailingFailures (health.filter outgoing) = trailingFailures (e.health.filter outgoing) := by
    unfold trailingFailures
    rw [hfilter.byObservation]
  have hopen : (risks.filter unresolved).Perm (e.risks.filter unresolved) := hrisks.filter _
  have hslow := all_perm hperm fun h => h.state = .slow
  have hhigh := any_perm hopen fun r => r.riskLevel = .high
  have hstuck := any_perm hopen fun r => !r.transferable
  unfold FailoverEvidence.blockers
  dsimp only
  rw [htrailing,hslow,hhigh,hstuck,hsome]
  rfl

theorem constructed_reordered (hc : e.Constructed cfg) (hhealth : Reordered e.health health) (hrisks : risks.Perm e.risks) :
    FailoverEvidence.Constructed cfg { e with health, risks } :=
  ⟨hc.policy,fun h hh => hc.health h (hhealth.perm.mem_iff.mp hh),hc.checkpoint,fun r hr => hc.risks r (hrisks.mem_iff.mp hr)⟩

theorem evaluable_reordered (h : Evaluable cfg decisionId instanceId epoch operationGeneration e evaluatedAt utcOffset)
    (hhealth : Reordered e.health health) (hrisks : risks.Perm e.risks) :
    Evaluable cfg decisionId instanceId epoch operationGeneration { e with health, risks } evaluatedAt utcOffset :=
  ⟨h.names,h.generation,h.policy,fun o ho => h.health o (hhealth.perm.mem_iff.mp ho),fun r hr => h.risks r (hrisks.mem_iff.mp hr),
    h.checkpoint,h.times,h.age,h.status,h.lifetime,(hhealth.perm.map _).nodup_iff.mpr h.healthIds,(hrisks.map _).nodup_iff.mpr h.riskIds,
    h.readiness⟩

/-- The decisions differ in no more than the order in which they list the evidence. -/
structure SameOutcome (d d' : FailoverDecision) : Prop where
  outcome : d' = { d with
    healthEvidenceIds := d'.healthEvidenceIds
    riskEvidenceIds := d'.riskEvidenceIds
    evidenceTimestamps := d'.evidenceTimestamps }
  healthEvidenceIds : d'.healthEvidenceIds.Perm d.healthEvidenceIds
  riskEvidenceIds : d'.riskEvidenceIds.Perm d.riskEvidenceIds
  evidenceTimestamps : d'.evidenceTimestamps.Perm d.evidenceTimestamps

theorem decision_reordered (hhealth : Reordered e.health health) (hrisks : risks.Perm e.risks) :
    SameOutcome (e.decision decisionId instanceId epoch operationGeneration evaluatedAt)
      (FailoverEvidence.decision { e with health, risks } decisionId instanceId epoch operationGeneration evaluatedAt) := by
  have hblockers : FailoverEvidence.blockers { e with health, risks } instanceId epoch evaluatedAt = e.blockers instanceId epoch evaluatedAt :=
    blockers_reordered hhealth hrisks
  refine ⟨?_,hhealth.perm.map _,hrisks.map _,?_⟩
  · unfold FailoverEvidence.decision
    simp only [hblockers]
    rfl
  · exact (((hhealth.perm.map _).append_left _).map _).append_right _ |>.append_right _

end Order

/-- The evaluation allows a failover exactly when the evidence justifies one, and then to the
provider it justifies; the order of the evidence shows in the lists of evidence only. -/
theorem failover_exactly_justified (cfg : Config) (decisionId instanceId : String) (epoch : DriverEpoch) (operationGeneration : ℕ)
    (e : FailoverEvidence) (evaluatedAt : Timestamp) (utcOffset : Int) (s : AgentStore) (hc : e.Constructed cfg)
    (h : Evaluable cfg decisionId instanceId epoch operationGeneration e evaluatedAt utcOffset) :
    ∃ d, (evaluateFailoverEvidence cfg decisionId instanceId epoch operationGeneration e evaluatedAt utcOffset : AgentTx _) s = .ok (d,s) ∧
      (d.allowed = true ↔ ∃ p, e.Justifies instanceId epoch evaluatedAt p) ∧
      (∀ p, e.Justifies instanceId epoch evaluatedAt p → d.incomingProviderId = some p) ∧
      ∀ health risks, Reordered e.health health → risks.Perm e.risks →
        ∃ d', (evaluateFailoverEvidence cfg decisionId instanceId epoch operationGeneration { e with health, risks } evaluatedAt utcOffset :
          AgentTx _) s = .ok (d',s) ∧ SameOutcome d d' := by
  have htimes : ∀ c ∈ e.checkpoint, ∀ t ∈ c.expiresAt, t.parses = true := fun c hcp => (h.times c hcp).2
  have hthreshold : ∀ policy ∈ e.policy, 0 < policy.failureThreshold := fun policy hpolicy => (hc.policy policy hpolicy).2.1
  refine ⟨_,evaluate_evaluable hc h,?_,fun p hp => ?_,fun health risks hhealth hrisks => ?_⟩
  · constructor
    · intro hallowed
      have hunblocked := unblocked_iff.mp (of_decide_eq_true hallowed)
      obtain ⟨p,hp⟩ := hunblocked.fallback
      exact ⟨p,justifies_of_unblocked h.risks htimes hunblocked hp⟩
    · rintro ⟨p,hp⟩
      exact decide_eq_true (unblocked_iff.mpr (unblocked_of_justifies h.risks htimes hthreshold hp))
  · have hnone := unblocked_iff.mpr (unblocked_of_justifies h.risks htimes hthreshold hp)
    exact (if_pos hnone).trans (selected_eq_some_iff.mpr hp.fallback)
  · exact ⟨_,evaluate_evaluable (constructed_reordered hc hhealth hrisks) (evaluable_reordered h hhealth hrisks),
      decision_reordered hhealth hrisks⟩

/-! ### Two histories -/

/-- A configuration without providers. -/
def bareConfig : Config where
  providers := .empty
  profiles := .empty
  adapterFactories := []
  activationOwnerId := ""
  activationLease := 0
  hmac _ := ""
  sha256 text := text
  sensitiveKey _ := false
  sensitiveValue _ := false
  secretLike _ := false
  isAlnum _ := true

/-- The epoch that fails. -/
def failingEpoch : DriverEpoch where
  id := "epoch.1"
  instanceId := "instance.1"
  sessionId := "session.1"
  providerId := "codex"
  ordinal := 1
  state := .running

def failureAt (id : String) (t : Timestamp) : ProviderHealthObservation where
  id := id
  instanceId := "instance.1"
  providerId := "codex"
  state := .failed
  observedAt := t
  reasonCategory := "transport"

/-- Two failures after the approval, a young checkpoint, and a fallback that is ready. -/
def failingEvidence : FailoverEvidence where
  policy := some {
    id := "policy.1", instanceId := "instance.1", approved := true, approvalRef := some "approval.1", approvedAt := some 0
    failureThreshold := 2, checkpointMaxAgeSeconds := 60, approvedFallbackProviderIds := ["claude"], decisionLifetimeSeconds := 30 }
  health := [failureAt "health.1" 1000000,failureAt "health.2" 2000000]
  checkpoint := some {
    id := "checkpoint.1", instanceId := "instance.1", sessionId := "session.1", driverEpochId := "epoch.1"
    evidence := Dict.empty.set "status" (.str "ready"), createdAt := some (.instant 2000000) }
  risks := []
  candidateCapabilities := [("claude",{ handoffImport := true })]
  healthyCandidates := ["claude"]
  candidateReadiness := [("claude","readiness.claude")]
  requiredCapabilities := {}
  transitionChanged := false

theorem failingEvidence_constructed : failingEvidence.Constructed bareConfig := by
  refine ⟨?_,?_,?_,?_⟩
  · rintro p ⟨⟩
    exact ⟨⟨by decide,rfl⟩,by decide,by decide,by decide,by decide,by decide⟩
  · intro h hh
    simp only [failingEvidence,List.mem_cons,List.not_mem_nil,or_false] at hh
    rcases hh with rfl | rfl
    · exact ⟨by decide,rfl⟩
    · exact ⟨by decide,rfl⟩
  · rintro c ⟨⟩
    decide
  · intro r hr
    cases hr

theorem failingEvidence_evaluable : Evaluable bareConfig "decision.1" "instance.1" failingEpoch 1 failingEvidence 3000000 0 := by
  have hsafe : ∀ v, isBlank v = false → SafeIdentifier bareConfig v := fun v hv => ⟨hv,rfl⟩
  have hrefs : ∀ ref ∈ failingEvidence.readinessRefs, isBlank ref = false := by decide
  refine ⟨⟨hsafe _ (by decide),hsafe _ (by decide),hsafe _ (by decide),hsafe _ (by decide)⟩,by decide,?_,?_,?_,?_,?_,?_,?_,?_,?_,?_,
    by decide,fun ref href => hsafe ref (hrefs ref href)⟩
  · rintro p ⟨⟩
    rfl
  · decide
  · intro r hr
    cases hr
  · rintro c ⟨⟩
    exact ⟨rfl,rfl,rfl⟩
  · rintro c ⟨⟩
    refine ⟨?_,?_⟩
    · rintro t ⟨⟩
      rfl
    · rintro t ⟨⟩
  · rintro c ⟨⟩ -
    decide
  · rintro c ⟨⟩ status hstatus
    cases hstatus
    rfl
  · decide
  · decide
  · decide

theorem failingEvidence_justifies : failingEvidence.Justifies "instance.1" failingEpoch 3000000 "claude" := by
  have hunblocked : Unblocked failingEvidence "instance.1" failingEpoch 3000000 := unblocked_iff.mp (by decide)
  refine justifies_of_unblocked failingEvidence_evaluable.risks (fun c hc => (failingEvidence_evaluable.times c hc).2) hunblocked ?_
  decide

theorem failover_justified_claude : ∃ d, (evaluateFailoverEvidence bareConfig "decision.1" "instance.1" failingEpoch 1 failingEvidence 3000000 0 :
    AgentTx _) {} = .ok (d,{}) ∧ d.allowed = true ∧ d.incomingProviderId = some "claude" := by
  obtain ⟨d,hrun,hallowed,hincoming,-⟩ := failover_exactly_justified bareConfig "decision.1" "instance.1" failingEpoch 1 failingEvidence
    3000000 0 {} failingEvidence_constructed failingEvidence_evaluable
  exact ⟨d,hrun,hallowed.mpr ⟨"claude",failingEvidence_justifies⟩,hincoming "claude" failingEvidence_justifies⟩

/-- The decision lists the observations in the order in which they come. -/
theorem failover_lists_in_order : ∃ d d', (failingEvidence.health.map (·.observedAt)).Nodup ∧
    (evaluateFailoverEvidence bareConfig "decision.1" "instance.1" failingEpoch 1 failingEvidence 3000000 0 : AgentTx _) {} = .ok (d,{}) ∧
    (evaluateFailoverEvidence bareConfig "decision.1" "instance.1" failingEpoch 1
      { failingEvidence with health := failingEvidence.health.reverse } 3000000 0 : AgentTx _) {} = .ok (d',{}) ∧ d ≠ d' := by
  have htimes : (failingEvidence.health.map (·.observedAt)).Nodup := by decide
  have hreordered : Reordered failingEvidence.health failingEvidence.health.reverse := reordered_of_perm (List.reverse_perm _) htimes
  refine ⟨_,_,htimes,evaluate_evaluable failingEvidence_constructed failingEvidence_evaluable,
    evaluate_evaluable (constructed_reordered failingEvidence_constructed hreordered (List.Perm.refl _))
      (evaluable_reordered failingEvidence_evaluable hreordered (List.Perm.refl _)),fun hsame => ?_⟩
  have hids := congrArg FailoverDecision.healthEvidenceIds hsame
  revert hids
  decide

theorem failover_evaluates_claude : Evaluates "instance.1" failingEpoch failingEvidence 3000000 {}
    ((evaluateFailoverEvidence bareConfig "decision.1" "instance.1" failingEpoch 1 failingEvidence 3000000 0 : AgentTx _) {}) :=
  (failover_evaluates_iff bareConfig "decision.1" "instance.1" failingEpoch 1 failingEvidence 3000000 0 {}
    failingEvidence_constructed).mpr failingEvidence_evaluable

/-- The same evidence, with a checkpoint whose time names no zone. -/
def naiveEvidence : FailoverEvidence := { failingEvidence with
  checkpoint := some {
    id := "checkpoint.1", instanceId := "instance.1", sessionId := "session.1", driverEpochId := "epoch.1"
    evidence := Dict.empty.set "status" (.str "ready"), createdAt := some (.malformed "2026-01-01T00:00:00") } }

theorem naive_checkpoint_raises : naiveEvidence.Constructed bareConfig ∧ ¬ Evaluates "instance.1" failingEpoch naiveEvidence 3000000 {}
    ((evaluateFailoverEvidence bareConfig "decision.1" "instance.1" failingEpoch 1 naiveEvidence 3000000 0 : AgentTx _) {}) := by
  refine ⟨⟨failingEvidence_constructed.policy,failingEvidence_constructed.health,?_,failingEvidence_constructed.risks⟩,?_⟩
  · rintro c ⟨⟩
    decide
  · rintro ⟨d,hok,-⟩
    have hparses := ((evaluable_of_ok hok).1.times _ rfl).1 _ rfl
    cases hparses

end Overseer.Agent
