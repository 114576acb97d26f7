import Overseer.Roadex.Reading

/-! # The evidence of a plan

The marks of a plan and the evidence beside them stay together under the lifecycle steps. Such
evidence passes one branch of the projection, and only the comparison of times can fail there.
-/
namespace Overseer.Roadex
open Overseer.Library Overseer.Core

variable {host : RoadexHost}

namespace LifecycleStep

/-- Actors and record ids are not blank, and times have an offset. -/
def WellFormed (host : RoadexHost) : LifecycleStep → Prop
  | approve approvedBy approvedAt => isBlank approvedBy = false ∧ ∀ text ∈ approvedAt, host.IsTimestamp text
  | cancel canceledBy _ canceledAt => isBlank canceledBy = false ∧ ∀ text ∈ canceledAt, host.IsTimestamp text
  | archive archiveRecordId archivedBy archivedAt =>
    isBlank archivedBy = false ∧ isBlank archiveRecordId = false ∧ host.IsTimestamp archivedAt
  | unarchive restoredBy => isBlank restoredBy = false

/-- The time of an approval or a cancellation. -/
def decidedAt : LifecycleStep → Option String
  | approve _ approvedAt => approvedAt
  | cancel _ _ canceledAt => canceledAt
  | _ => none

/-- The calendar has the instant of the decision. -/
def InCalendar (host : RoadexHost) (step : LifecycleStep) : Prop := ∀ text ∈ step.decidedAt, (host.instant? text).isSome

def decides (step : LifecycleStep) : Bool := step.isApprove || step.isCancel

/-- The instants of the decisions, in the order of the steps. -/
def stamps (host : RoadexHost) (steps : List LifecycleStep) : List host.Instant :=
  steps.filterMap fun step => step.decidedAt.bind host.instant?

/-- All decisions have a time, and no time is before an earlier one. -/
def Ordered (host : RoadexHost) (steps : List LifecycleStep) : Prop :=
  (∀ step ∈ steps, step.decides = true → step.decidedAt.isSome) ∧ (stamps host steps).Pairwise (· ≤ ·)

/-- The steps one after another. -/
def applyAll : List LifecycleStep → AdminPlanRecord → Check AdminPlanRecord
  | [], plan => .ok plan
  | step :: rest, plan => do
    let plan ← step.apply plan
    applyAll rest plan

end LifecycleStep

/-! ### The evidence of a plan -/

namespace AdminPlanRecord

/-- The decision that the marks of the plan say. -/
def decision (plan : AdminPlanRecord) : Decision := if plan.canceled then .rejected else if plan.approved then .approved else .pending

/-- The time that the decision was given. -/
def decidedAt (plan : AdminPlanRecord) : Option String := if plan.canceled then plan.canceledAt else plan.approvedAt

/-- The newest of the decision and the binding. -/
def updated (host : RoadexHost) (created : host.Instant) (plan : AdminPlanRecord) : host.Instant :=
  match plan.decidedAt.bind host.instant? with
  | none => created
  | some t => max t created

/-- The evidence goes with the marks, and its times have offsets. -/
structure Evidenced (host : RoadexHost) (plan : AdminPlanRecord) : Prop where
  canceled : plan.canceled = true → plan.approved = false ∧ (∃ actor, plan.canceledBy = some actor ∧ isBlank actor = false) ∧
    ∃ reason, plan.cancellationReason = some reason ∧ isBlank reason = false
  uncanceled : plan.canceled = false → plan.canceledBy = none ∧ plan.canceledAt = none ∧ plan.cancellationReason = none
  approved : plan.approved = true → ∃ actor, plan.approvedBy = some actor ∧ isBlank actor = false
  unapproved : plan.approved = false → plan.approvedBy = none ∧ plan.approvedAt = none
  approvedAt : ∀ text ∈ plan.approvedAt, host.IsTimestamp text
  canceledAt : ∀ text ∈ plan.canceledAt, host.IsTimestamp text
  archive : host.requireAdminArchiveState plan = .ok ()

/-- The calendar has the instant of the decision. -/
def Comparable (host : RoadexHost) (plan : AdminPlanRecord) : Prop := ∀ text ∈ plan.decidedAt, (host.instant? text).isSome

end AdminPlanRecord

theorem ne_empty_of_not_blank {text : String} (h : isBlank text = false) : text ≠ "" := by
  rintro rfl
  exact absurd h (by decide)

theorem newestTime_created {created : String} {t : host.Instant} (hblank : isBlank created = false)
    (hread : host.fromisoformat (replaceZ created) = some (.aware (some t))) :
    host.newestTime [none,some created] = .ok (host.isoformat t) := by
  have hne : created ≠ "" := ne_empty_of_not_blank hblank
  have hgiven : [none,some created].filterMap (fun value => value.filter (· ≠ "")) = [created] := by
    simp [Option.filter,hne]
  have hinstants : host.instants [created] = .ok [t] := by
    simp only [RoadexHost.instants,hread]
    rfl
  unfold RoadexHost.newestTime
  rw [hgiven,hinstants]
  rfl

theorem newestTime_decided {decided created : String} {t c : host.Instant} (hblank : isBlank decided = false)
    (hread : host.fromisoformat (replaceZ decided) = some (.aware (some t))) (hcreated : isBlank created = false)
    (hreadCreated : host.fromisoformat (replaceZ created) = some (.aware (some c))) :
    host.newestTime [some decided,some created] = .ok (host.isoformat (max t c)) := by
  have hne : decided ≠ "" := ne_empty_of_not_blank hblank
  have hne' : created ≠ "" := ne_empty_of_not_blank hcreated
  have hgiven : [some decided,some created].filterMap (fun value => value.filter (· ≠ "")) = [decided,created] := by
    simp [Option.filter,hne,hne']
  have hinstants : host.instants [decided,created] = .ok [t,c] := by
    simp only [RoadexHost.instants,hread,hreadCreated]
    rfl
  unfold RoadexHost.newestTime
  rw [hgiven,hinstants]
  rfl

theorem newestTime_overflows {decided created : String} (hblank : isBlank decided = false)
    (hread : host.fromisoformat (replaceZ decided) = some (.aware none)) :
    host.newestTime [some decided,some created] = .error (.overflow "date value out of range") := by
  have hne : decided ≠ "" := ne_empty_of_not_blank hblank
  have hgiven : ∃ rest, [some decided,some created].filterMap (fun value => value.filter (· ≠ "")) = decided :: rest := by
    simp [List.filterMap_cons,Option.filter,hne]
  obtain ⟨rest,hgiven⟩ := hgiven
  unfold RoadexHost.newestTime
  rw [hgiven]
  simp only [RoadexHost.instants,hread]
  rfl

/-- The newest of an optional decision and the binding. -/
theorem newestTime_ok {decided : Option String} {created : String} {c : host.Instant}
    (hdecided : ∀ text ∈ decided, host.IsTimestamp text) (hinstant : ∀ text ∈ decided, (host.instant? text).isSome)
    (hcreated : isBlank created = false) (hreadCreated : host.fromisoformat (replaceZ created) = some (.aware (some c))) :
    ∃ updatedAt, host.newestTime [decided,some created] = .ok updatedAt ∧
      host.instant? updatedAt = some (match decided.bind host.instant? with
        | none => c
        | some t => max t c) := by
  cases decided with
  | none => exact ⟨host.isoformat c,newestTime_created hcreated hreadCreated,instant?_isoformat c⟩
  | some text =>
    obtain ⟨hblank,t,hread⟩ := (hdecided text rfl).timely (hinstant text rfl)
    have ht : host.instant? text = some t := by
      unfold RoadexHost.instant?
      rw [hread]
    refine ⟨host.isoformat (max t c),newestTime_decided hblank hread hcreated hreadCreated,?_⟩
    rw [Option.bind_some,ht,instant?_isoformat]

/-- The branch that evidence passes which goes with the marks: only the comparison of times can fail. -/
theorem projectDecision_eq {b : RoadexApprovalBinding} {plan : AdminPlanRecord} (h : plan.Evidenced host) (hid : b.sourceId = plan.id) :
    ∃ sourceStatus, host.projectDecision b plan =
      if plan.decision = .pending then .ok (plan.decision,sourceStatus,b.createdAt)
      else do
        let updatedAt ← host.newestTime [plan.decidedAt,some b.createdAt]
        return (plan.decision,sourceStatus,updatedAt) := by
  unfold RoadexHost.projectDecision
  rw [check_of hid,h.archive]
  simp only [bind,Except.bind]
  cases hcanceled : plan.canceled with
  | true =>
    obtain ⟨happroved,⟨actor,hactor,hactorBlank⟩,reason,hreason,hreasonBlank⟩ := h.canceled hcanceled
    obtain ⟨hby,hat⟩ := h.unapproved happroved
    have hdecision : plan.decision = .rejected := by simp [AdminPlanRecord.decision,hcanceled]
    have hdecided : plan.decidedAt = plan.canceledAt := by simp [AdminPlanRecord.decidedAt,hcanceled]
    have hnewest : host.newestTime [plan.approvedAt,plan.canceledAt,some b.createdAt] =
        host.newestTime [plan.canceledAt,some b.createdAt] := by
      rw [hat]
      rfl
    refine ⟨"canceled",?_⟩
    unfold RoadexHost.requireAdminCanceledPlanEvidence
    simp only [if_true]
    rw [hdecision,hdecided,if_neg (by decide),check_of happroved,hactor,requireTruthyStr_of hactorBlank,hreason,
      requireTruthyStr_of hreasonBlank,requireOptionalIso8601_of h.canceledAt,check_of ⟨hby,hat⟩,hnewest]
    rfl
  | false =>
    obtain ⟨hcanceledBy,hcanceledAt,hreason⟩ := h.uncanceled hcanceled
    cases happroved : plan.approved with
    | true =>
      obtain ⟨actor,hactor,hactorBlank⟩ := h.approved happroved
      have hdecision : plan.decision = .approved := by simp [AdminPlanRecord.decision,hcanceled,happroved]
      have hdecided : plan.decidedAt = plan.approvedAt := by simp [AdminPlanRecord.decidedAt,hcanceled]
      refine ⟨"approved",?_⟩
      unfold RoadexHost.requireAdminApprovedPlanEvidence
      simp only [Bool.false_eq_true,if_false,if_true]
      rw [hdecision,hdecided,if_neg (by decide),hactor,requireTruthyStr_of hactorBlank,requireOptionalIso8601_of h.approvedAt,
        check_of ⟨hcanceledBy,hcanceledAt,hreason⟩]
      rfl
    | false =>
      obtain ⟨happrovedBy,happrovedAt⟩ := h.unapproved happroved
      have hdecision : plan.decision = .pending := by simp [AdminPlanRecord.decision,hcanceled,happroved]
      refine ⟨"pending",?_⟩
      unfold requireAdminPendingPlanEvidence
      simp only [Bool.false_eq_true,if_false]
      rw [hdecision,if_pos rfl,check_of ⟨happrovedBy,happrovedAt,hcanceledBy,hcanceledAt,hreason⟩]
      rfl

theorem decidedAt_of_pending {plan : AdminPlanRecord} (h : plan.Evidenced host) (hpending : plan.decision = .pending) :
    plan.decidedAt = none := by
  unfold AdminPlanRecord.decision at hpending
  cases hcanceled : plan.canceled with
  | true => simp [hcanceled] at hpending
  | false =>
    cases happroved : plan.approved with
    | true => simp [hcanceled,happroved] at hpending
    | false => simp [AdminPlanRecord.decidedAt,hcanceled,(h.unapproved happroved).2]

theorem decidedAt_timestamp {plan : AdminPlanRecord} (h : plan.Evidenced host) : ∀ text ∈ plan.decidedAt, host.IsTimestamp text := by
  intro text htext
  unfold AdminPlanRecord.decidedAt at htext
  split at htext
  · exact h.canceledAt text htext
  · exact h.approvedAt text htext

/-- The projection of a plan whose evidence goes with its marks and can be compared. -/
theorem projectDecision_ok {b : RoadexApprovalBinding} {plan : AdminPlanRecord} {c : host.Instant} (h : plan.Evidenced host)
    (hcomparable : plan.Comparable host) (hid : b.sourceId = plan.id) (hcreated : isBlank b.createdAt = false)
    (hread : host.fromisoformat (replaceZ b.createdAt) = some (.aware (some c))) :
    ∃ sourceStatus updatedAt, host.projectDecision b plan = .ok (plan.decision,sourceStatus,updatedAt) ∧
      host.instant? updatedAt = some (plan.updated host c) := by
  obtain ⟨sourceStatus,heq⟩ := projectDecision_eq h hid
  by_cases hpending : plan.decision = .pending
  · refine ⟨sourceStatus,b.createdAt,?_,?_⟩
    · rw [heq,if_pos hpending]
    · unfold AdminPlanRecord.updated RoadexHost.instant?
      rw [decidedAt_of_pending h hpending,hread]
      rfl
  · obtain ⟨updatedAt,hnewest,hinstant⟩ := newestTime_ok (decidedAt_timestamp h) hcomparable hcreated hread
    refine ⟨sourceStatus,updatedAt,?_,hinstant⟩
    rw [heq,if_neg hpending,hnewest]
    rfl

theorem projectDecision_overflows {b : RoadexApprovalBinding} {plan : AdminPlanRecord} (h : plan.Evidenced host)
    (hincomparable : ¬plan.Comparable host) (hid : b.sourceId = plan.id) :
    host.projectDecision b plan = .error (.overflow "date value out of range") := by
  obtain ⟨sourceStatus,heq⟩ := projectDecision_eq h hid
  obtain ⟨text,hrest⟩ := not_forall.mp hincomparable
  obtain ⟨htext,hnone⟩ := Classical.not_imp.mp hrest
  obtain ⟨hblank,utc,hread⟩ := decidedAt_timestamp h text htext
  have hutc : utc = none := by
    unfold RoadexHost.instant? at hnone
    rw [hread] at hnone
    simpa using hnone
  subst hutc
  have hdecided : plan.decidedAt = some text := htext
  have hpending : plan.decision ≠ .pending := by
    intro hpending
    rw [decidedAt_of_pending h hpending] at hdecided
    cases hdecided
  rw [heq,if_neg hpending,hdecided,newestTime_overflows hblank hread]
  rfl

/-! ### What a step does -/

/-- All that a step does to a plan, and what it needs. -/
theorem apply_cases {step : LifecycleStep} {p p' : AdminPlanRecord} (h : step.apply p = .ok p') :
    (∃ actor at_, step = .approve actor at_ ∧ p.canceled = false ∧ isBlank actor = false ∧ p' = { p with
      approved := true
      approvedBy := some actor
      approvedAt := at_ }) ∨
    (∃ actor reason at_, step = .cancel actor reason at_ ∧ isBlank actor = false ∧ isBlank reason = false ∧ p' = { p with
      canceled := true
      canceledBy := some actor
      canceledAt := at_
      cancellationReason := some reason
      approved := false
      approvedBy := none
      approvedAt := none }) ∨
    (∃ record actor at_, step = .archive record actor at_ ∧ isBlank actor = false ∧ p.archived = false ∧ p' = { p with
      archived := true
      archivedBy := some actor
      archivedAt := some at_
      archiveRecordId := some record }) ∨
    (∃ actor, step = .unarchive actor ∧ isBlank actor = false ∧ p.archived = true ∧ p' = { p with
      archived := false
      archivedBy := none
      archivedAt := none
      archiveRecordId := none }) := by
  cases step with
  | approve actor at_ =>
    obtain ⟨_,hcanceled,h⟩ := except_bind_ok h
    obtain ⟨_,_,h⟩ := except_bind_ok h
    obtain ⟨_,hblank,h⟩ := except_bind_ok h
    cases h
    exact .inl ⟨actor,at_,rfl,check_ok hcanceled,check_ok hblank,rfl⟩
  | cancel actor reason at_ =>
    obtain ⟨_,hblank,h⟩ := except_bind_ok h
    obtain ⟨_,hreason,h⟩ := except_bind_ok h
    cases h
    exact .inr (.inl ⟨actor,reason,at_,rfl,check_ok hblank,check_ok hreason,rfl⟩)
  | archive record actor at_ =>
    obtain ⟨_,hblank,h⟩ := except_bind_ok h
    obtain ⟨_,harchived,h⟩ := except_bind_ok h
    cases h
    exact .inr (.inr (.inl ⟨record,actor,at_,rfl,check_ok hblank,check_ok harchived,rfl⟩))
  | unarchive actor =>
    obtain ⟨_,hblank,h⟩ := except_bind_ok h
    obtain ⟨_,harchived,h⟩ := except_bind_ok h
    cases h
    exact .inr (.inr (.inr ⟨actor,rfl,check_ok hblank,check_ok harchived,rfl⟩))

theorem apply_fixed (host : RoadexHost) {step : LifecycleStep} {p p' : AdminPlanRecord} (h : step.apply p = .ok p') :
    p'.id = p.id ∧ host.sourceDigest p' = host.sourceDigest p := by
  obtain ⟨_,_,_,_,_,rfl⟩ | ⟨_,_,_,_,_,_,rfl⟩ | ⟨_,_,_,_,_,_,rfl⟩ | ⟨_,_,_,_,rfl⟩ := apply_cases h
  all_goals exact ⟨rfl,rfl⟩

theorem archiveState_of {p p' : AdminPlanRecord} (h : p'.archived = p.archived) (hby : p'.archivedBy = p.archivedBy)
    (hat : p'.archivedAt = p.archivedAt) (hrecord : p'.archiveRecordId = p.archiveRecordId) :
    host.requireAdminArchiveState p' = host.requireAdminArchiveState p := by
  unfold RoadexHost.requireAdminArchiveState
  rw [h,hby,hat,hrecord]

/-- A step keeps the evidence with the marks. -/
theorem AdminPlanRecord.Evidenced.apply {step : LifecycleStep} {p p' : AdminPlanRecord} (he : p.Evidenced host)
    (hw : step.WellFormed host) (h : step.apply p = .ok p') : p'.Evidenced host := by
  obtain ⟨actor,at_,rfl,hcanceled,hblank,rfl⟩ | ⟨actor,reason,at_,rfl,hblank,hreason,rfl⟩ |
    ⟨record,actor,at_,rfl,hblank,harchived,rfl⟩ | ⟨actor,rfl,hblank,harchived,rfl⟩ := apply_cases h
  · have harchive := he.archive
    constructor
    · intro hc
      exact absurd (hcanceled.symm.trans hc) (by decide)
    · exact he.uncanceled
    · exact fun _ => ⟨actor,rfl,hblank⟩
    · intro hu
      cases hu
    · exact hw.2
    · exact he.canceledAt
    · rw [← harchive]
      exact archiveState_of rfl rfl rfl rfl
  · have harchive := he.archive
    constructor
    · exact fun _ => ⟨rfl,⟨actor,rfl,hblank⟩,reason,rfl,hreason⟩
    · intro hu
      cases hu
    · intro ha
      cases ha
    · exact fun _ => ⟨rfl,rfl⟩
    · intro text htext
      cases htext
    · exact hw.2
    · rw [← harchive]
      exact archiveState_of rfl rfl rfl rfl
  · obtain ⟨_,hrecord,hat⟩ := hw
    constructor
    · exact he.canceled
    · exact he.uncanceled
    · exact he.approved
    · exact he.unapproved
    · exact he.approvedAt
    · exact he.canceledAt
    · unfold RoadexHost.requireAdminArchiveState
      simp only [Bool.true_eq_false,if_false]
      rw [requireTruthyStr_of hblank,requireIso8601_of hat,requireTruthyStr_of hrecord]
      rfl
  · constructor
    · exact he.canceled
    · exact he.uncanceled
    · exact he.approved
    · exact he.unapproved
    · exact he.approvedAt
    · exact he.canceledAt
    · unfold RoadexHost.requireAdminArchiveState
      rw [if_pos rfl]
      exact check_of ⟨rfl,rfl,rfl⟩

theorem apply_marks {step : LifecycleStep} {p p' : AdminPlanRecord} (he : p.Evidenced host) (h : step.apply p = .ok p') :
    p'.canceled = (p.canceled || step.isCancel) ∧ p'.approved = (!p'.canceled && (p.approved || step.isApprove)) := by
  have hexclusive : p.approved = true → p.canceled = false := by
    intro happroved
    by_contra hcanceled
    have hrejected := (he.canceled (by simpa using hcanceled)).1
    exact absurd (hrejected.symm.trans happroved) (by decide)
  obtain ⟨actor,at_,rfl,hcanceled,_,rfl⟩ | ⟨actor,reason,at_,rfl,_,_,rfl⟩ | ⟨record,actor,at_,rfl,_,_,rfl⟩ |
    ⟨actor,rfl,_,_,rfl⟩ := apply_cases h
  · simp [LifecycleStep.isCancel,LifecycleStep.isApprove,hcanceled]
  · simp [LifecycleStep.isCancel]
  · constructor
    · simp [LifecycleStep.isCancel]
    · cases happroved : p.approved with
      | false => simp [LifecycleStep.isApprove]
      | true => simp [LifecycleStep.isApprove,hexclusive happroved]
  · constructor
    · simp [LifecycleStep.isCancel]
    · cases happroved : p.approved with
      | false => simp [LifecycleStep.isApprove]
      | true => simp [LifecycleStep.isApprove,hexclusive happroved]

theorem apply_decidedAt {step : LifecycleStep} {p p' : AdminPlanRecord} (h : step.apply p = .ok p') :
    p'.decidedAt = if step.decides then step.decidedAt else p.decidedAt := by
  obtain ⟨actor,at_,rfl,hcanceled,_,rfl⟩ | ⟨actor,reason,at_,rfl,_,_,rfl⟩ | ⟨record,actor,at_,rfl,_,_,rfl⟩ |
    ⟨actor,rfl,_,_,rfl⟩ := apply_cases h
  · simp [AdminPlanRecord.decidedAt,LifecycleStep.decides,LifecycleStep.isApprove,LifecycleStep.decidedAt,hcanceled]
  · simp [AdminPlanRecord.decidedAt,LifecycleStep.decides,LifecycleStep.isCancel,LifecycleStep.decidedAt]
  · simp [AdminPlanRecord.decidedAt,LifecycleStep.decides,LifecycleStep.isCancel,LifecycleStep.isApprove]
  · simp [AdminPlanRecord.decidedAt,LifecycleStep.decides,LifecycleStep.isCancel,LifecycleStep.isApprove]

/-! ### Runs -/

/-- The evidence stays with the marks, and the marks tell which steps there were. -/
theorem applyAll_marks {steps : List LifecycleStep} {p p' : AdminPlanRecord} (he : p.Evidenced host)
    (hw : ∀ step ∈ steps, step.WellFormed host) (h : LifecycleStep.applyAll steps p = .ok p') :
    p'.Evidenced host ∧ p'.canceled = (p.canceled || steps.any LifecycleStep.isCancel) ∧
      p'.approved = (!p'.canceled && (p.approved || steps.any LifecycleStep.isApprove)) := by
  induction steps generalizing p with
  | nil =>
    cases h
    refine ⟨he,by simp,?_⟩
    cases hcanceled : p'.canceled with
    | false => simp
    | true => simp [(he.canceled hcanceled).1]
  | cons step rest ih =>
    obtain ⟨p₁,hstep,hrest⟩ := except_bind_ok h
    have he₁ := he.apply (hw step List.mem_cons_self) hstep
    obtain ⟨hcanceled,happroved⟩ := apply_marks he hstep
    obtain ⟨he',hcanceled',happroved'⟩ := ih he₁ (fun st hst => hw st (List.mem_cons_of_mem _ hst)) hrest
    refine ⟨he',?_,?_⟩
    · rw [hcanceled',hcanceled,List.any_cons,Bool.or_assoc]
    · rw [happroved',happroved,hcanceled',List.any_cons]
      cases p₁.canceled
      · simp [Bool.or_assoc]
      · simp

theorem applyAll_comparable {steps : List LifecycleStep} {p p' : AdminPlanRecord} (hp : p.Comparable host)
    (hr : ∀ step ∈ steps, step.InCalendar host) (h : LifecycleStep.applyAll steps p = .ok p') : p'.Comparable host := by
  induction steps generalizing p with
  | nil =>
    cases h
    exact hp
  | cons step rest ih =>
    obtain ⟨p₁,hstep,hrest⟩ := except_bind_ok h
    refine ih ?_ (fun st hst => hr st (List.mem_cons_of_mem _ hst)) hrest
    unfold AdminPlanRecord.Comparable
    rw [apply_decidedAt hstep]
    split
    · exact hr step List.mem_cons_self
    · exact hp

theorem decidedAt_of_not_decides {step : LifecycleStep} (h : step.decides = false) : step.decidedAt = none := by
  cases step with
  | approve actor at_ => cases h
  | cancel actor reason at_ => cases h
  | archive record actor at_ => rfl
  | unarchive actor => rfl

/-- The time of the decision was there before or came with a step. -/
theorem applyAll_stamp {steps : List LifecycleStep} {p p' : AdminPlanRecord} (h : LifecycleStep.applyAll steps p = .ok p')
    {t : host.Instant} (ht : p'.decidedAt.bind host.instant? = some t) :
    p.decidedAt.bind host.instant? = some t ∨ t ∈ LifecycleStep.stamps host steps := by
  induction steps generalizing p with
  | nil =>
    cases h
    exact .inl ht
  | cons step rest ih =>
    obtain ⟨p₁,hstep,hrest⟩ := except_bind_ok h
    have hdecided := apply_decidedAt hstep
    rcases ih hrest with h₁ | hmem
    · rw [hdecided] at h₁
      cases hdecides : step.decides with
      | false =>
        rw [hdecides] at h₁
        exact .inl h₁
      | true =>
        rw [hdecides] at h₁
        exact .inr (List.mem_filterMap.mpr ⟨step,List.mem_cons_self,h₁⟩)
    · obtain ⟨st,hst,hstamp⟩ := List.mem_filterMap.mp hmem
      exact .inr (List.mem_filterMap.mpr ⟨st,List.mem_cons_of_mem _ hst,hstamp⟩)

/-- When the steps come in the order of their times, the projected time does not go back. -/
theorem updated_mono {steps : List LifecycleStep} {p p' : AdminPlanRecord} {c : host.Instant}
    (hr : ∀ step ∈ steps, step.InCalendar host) (hordered : LifecycleStep.Ordered host steps)
    (hlater : ∀ t, p.decidedAt.bind host.instant? = some t → ∀ u ∈ LifecycleStep.stamps host steps, t ≤ u)
    (h : LifecycleStep.applyAll steps p = .ok p') : p.updated host c ≤ p'.updated host c := by
  induction steps generalizing p with
  | nil =>
    cases h
    exact le_rfl
  | cons step rest ih =>
    obtain ⟨p₁,hstep,hrest⟩ := except_bind_ok h
    obtain ⟨hgiven,hsorted⟩ := hordered
    have hdecided := apply_decidedAt hstep
    have hr' : ∀ st ∈ rest, st.InCalendar host := fun st hst => hr st (List.mem_cons_of_mem _ hst)
    have hgiven' : ∀ st ∈ rest, st.decides = true → st.decidedAt.isSome := fun st hst => hgiven st (List.mem_cons_of_mem _ hst)
    cases hdecides : step.decides with
    | false =>
      rw [hdecides] at hdecided
      have hsame : p₁.decidedAt = p.decidedAt := hdecided
      have hstamps : LifecycleStep.stamps host (step :: rest) = LifecycleStep.stamps host rest := by
        unfold LifecycleStep.stamps
        rw [List.filterMap_cons_none]
        rw [decidedAt_of_not_decides hdecides]
        rfl
      rw [hstamps] at hsorted hlater
      have hstay : p.updated host c = p₁.updated host c := by
        unfold AdminPlanRecord.updated
        rw [hsame]
      rw [hstay]
      exact ih hr' ⟨hgiven',hsorted⟩ (by rw [hsame]; exact hlater) hrest
    | true =>
      rw [hdecides] at hdecided
      obtain ⟨text,htext⟩ := Option.isSome_iff_exists.mp (hgiven step List.mem_cons_self hdecides)
      obtain ⟨u,hu⟩ := Option.isSome_iff_exists.mp (hr step List.mem_cons_self text htext)
      have hstamp : step.decidedAt.bind host.instant? = some u := by
        rw [htext]
        exact hu
      have hstamps : LifecycleStep.stamps host (step :: rest) = u :: LifecycleStep.stamps host rest := by
        simp only [LifecycleStep.stamps,List.filterMap_cons,hstamp]
      rw [hstamps] at hsorted hlater
      obtain ⟨hhead,htail⟩ := List.pairwise_cons.mp hsorted
      have hstamp₁ : p₁.decidedAt.bind host.instant? = some u := by
        rw [hdecided]
        exact hstamp
      have hnow : p₁.updated host c = max u c := by
        unfold AdminPlanRecord.updated
        rw [hstamp₁]
      have hle : p.updated host c ≤ p₁.updated host c := by
        rw [hnow]
        unfold AdminPlanRecord.updated
        cases hbefore : p.decidedAt.bind host.instant? with
        | none => exact le_max_right u c
        | some t => exact max_le_max (hlater t hbefore u List.mem_cons_self) le_rfl
      refine hle.trans (ih hr' ⟨hgiven',htail⟩ (fun t ht => ?_) hrest)
      rw [hstamp₁] at ht
      cases ht
      exact hhead

end Overseer.Roadex
