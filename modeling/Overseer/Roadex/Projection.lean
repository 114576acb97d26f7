import Overseer.Roadex.Evidence

/-! # The projection follows the lifecycle of the plan

Whatever steps a bound plan goes through, its evidence passes exactly one branch of the
projection, under the digest it was bound with. The one way to fail is a time with an offset
that has no instant in the calendar: it passes the checks and cannot be compared.
-/
namespace Overseer.Roadex
open Overseer.Library Overseer.Core

variable {host : RoadexHost}

/-! ### The store -/

/-- The store has the binding, made at an instant, and the plan it is about. -/
structure Bound (host : RoadexHost) (b : RoadexApprovalBinding) (c : host.Instant) (s : ApprovalStore) (p : AdminPlanRecord) :
    Prop where
  ref : StorageControl.isIdentifier b.approvalRef = true
  row : s.roadexApprovalBindings.get? b.approvalRef = some ⟨b.sourceKind,b.sourceId,b.dump⟩
  kind : b.sourceKind = "admin-plan"
  plan : s.adminChangePlans.get? b.sourceId = some p.dump
  id : p.id = b.sourceId
  valid : RoadexApprovalBinding.validate host b = .ok ()
  digest : b.scopeDigest = host.scopeDigest b.toRoadexApprovalBindingDraft (host.sourceDigest p)
  createdAt : b.createdAt = host.isoformat c

namespace Bound
variable {b : RoadexApprovalBinding} {c : host.Instant} {s s' : ApprovalStore} {p : AdminPlanRecord}

theorem status_eq (h : Bound host b c s p) : roadexApprovalStatus host s b.approvalRef = do
    let projected ← host.projectDecision b p
    let version := host.projectDecisionVersion b projected.2.1 projected.1 projected.2.2
    return publicProjection b projected.1 version projected.2.2 := by
  have hbinding : boundApproval host s b.approvalRef = .ok b := by
    unfold boundApproval ApprovalStore.loadRoadexApprovalBinding
    rw [h.row]
    simp only [decode_dump h.valid,bind,Except.bind]
    rw [check_of trivial]
    rfl
  have hsource : loadExactBoundSource s b = .ok p := by
    unfold loadExactBoundSource ApprovalStore.loadAdminChangePayload
    rw [if_pos h.kind,h.plan]
    simp only [decodeAdminPlanPayload_dump]
  unfold roadexApprovalStatus validateOpaqueRef
  rw [check_of h.ref,hbinding]
  simp only [bind,Except.bind,hsource]
  rw [check_of h.id,check_of h.digest]

theorem status (h : Bound host b c s p) (he : p.Evidenced host) (hcomparable : p.Comparable host) :
    ∃ view, roadexApprovalStatus host s b.approvalRef = .ok view ∧ view.scopeDigest = b.scopeDigest ∧
      view.decision = p.decision ∧ host.instant? view.updatedAt = some (p.updated host c) := by
  obtain ⟨hblank,hread⟩ := host.read_isoformat c
  rw [← h.createdAt] at hblank hread
  obtain ⟨sourceStatus,updatedAt,hprojected,hinstant⟩ := projectDecision_ok he hcomparable h.id.symm hblank hread
  refine ⟨publicProjection b p.decision (host.projectDecisionVersion b sourceStatus p.decision updatedAt) updatedAt,?_,rfl,rfl,hinstant⟩
  rw [h.status_eq,hprojected]
  rfl

theorem status_overflows (h : Bound host b c s p) (he : p.Evidenced host) (hincomparable : ¬p.Comparable host) :
    roadexApprovalStatus host s b.approvalRef = .error (.overflow "date value out of range") := by
  rw [h.status_eq,projectDecision_overflows he hincomparable h.id.symm]
  rfl

theorem load (h : Bound host b c s p) : s.loadAdminChangePlan b.sourceId = .ok p := by
  unfold ApprovalStore.loadAdminChangePlan
  rw [h.plan]
  simp only [show AdminPlanRecord.ofJsonable p.dump = some p from p.ofJsonable_members]

theorem lifecycle {step : LifecycleStep} (h : Bound host b c s p) (hs : s.lifecycle b.sourceId step = .ok s') :
    ∃ p', step.apply p = .ok p' ∧ Bound host b c s' p' := by
  unfold ApprovalStore.lifecycle at hs
  obtain ⟨loaded,hload,hs⟩ := except_bind_ok hs
  rw [h.load] at hload
  cases hload
  obtain ⟨p',hstep,hs⟩ := except_bind_ok hs
  cases hs
  obtain ⟨hid,hdigest⟩ := apply_fixed host hstep
  refine ⟨p',hstep,h.ref,h.row,h.kind,?_,hid.trans h.id,h.valid,?_,h.createdAt⟩
  · unfold ApprovalStore.saveAdminChangePlan
    rw [hid,h.id,Dict.get?_set,if_pos rfl]
  · rw [hdigest]
    exact h.digest

theorem play {steps : List LifecycleStep} (h : Bound host b c s p) (hs : ApprovalStore.play b.sourceId steps s = .ok s') :
    ∃ p', LifecycleStep.applyAll steps p = .ok p' ∧ Bound host b c s' p' := by
  induction steps generalizing s p with
  | nil =>
    cases hs
    exact ⟨p,rfl,h⟩
  | cons step rest ih =>
    obtain ⟨s₁,hstep,hrest⟩ := except_bind_ok hs
    obtain ⟨p₁,happly,h₁⟩ := h.lifecycle hstep
    obtain ⟨p',hall,h'⟩ := ih h₁ hrest
    refine ⟨p',?_,h'⟩
    unfold LifecycleStep.applyAll
    rw [happly]
    exact hall

/-- The store takes the steps that the plan takes. -/
theorem takes {steps : List LifecycleStep} {p' : AdminPlanRecord} (h : Bound host b c s p)
    (happly : LifecycleStep.applyAll steps p = .ok p') :
    ∃ s', ApprovalStore.play b.sourceId steps s = .ok s' ∧ Bound host b c s' p' := by
  induction steps generalizing s p with
  | nil =>
    cases happly
    exact ⟨s,rfl,h⟩
  | cons step rest ih =>
    obtain ⟨p₁,hstep,hrest⟩ := except_bind_ok happly
    have hlifecycle : s.lifecycle b.sourceId step = .ok (s.saveAdminChangePlan p₁) := by
      unfold ApprovalStore.lifecycle
      rw [h.load]
      simp only [bind,Except.bind,hstep]
      rfl
    obtain ⟨p₂,hstep₂,h₁⟩ := h.lifecycle hlifecycle
    rw [hstep] at hstep₂
    cases hstep₂
    obtain ⟨s',hplay,h'⟩ := ih h₁ hrest
    refine ⟨s',?_,h'⟩
    unfold ApprovalStore.play
    rw [hlifecycle]
    exact hplay

end Bound

/-! ### Staging -/

/-- A call that binds an admin plan: the approval was not bound before it. -/
structure Binds (host : RoadexHost) (now : host.Instant) (draft : RoadexApprovalBindingDraft)
    (saveSource : ApprovalStore → Check (List Source)) (s : ApprovalStore) (b : RoadexApprovalBinding) (s' : ApprovalStore) :
    Prop where
  kind : draft.sourceKind = "admin-plan"
  fresh : s.roadexApprovalBindings.get? draft.approvalRef = none
  staged : stageBoundRoadexApproval host now draft saveSource s = .ok (b,s')

/-- A row of a plan after the saves is the row before or one of the saved plans, under its id. -/
theorem saves_plan {sources : List Source} {s s' : ApprovalStore} {id : String} {row : Json} (hs : s.saveSources sources = .ok s')
    (h : s'.adminChangePlans.get? id = some row) :
    s.adminChangePlans.get? id = some row ∨ ∃ plan : AdminPlanRecord, plan.id = id ∧ row = plan.dump := by
  induction sources generalizing s with
  | nil =>
    obtain rfl := Except.ok.inj hs
    exact .inl h
  | cons source rest ih =>
    obtain ⟨s₁,hsave,hrest⟩ := except_bind_ok hs
    rcases ih hrest with hbefore | hsaved
    · cases source with
      | admin plan =>
        obtain rfl := Except.ok.inj hsave
        simp only [ApprovalStore.saveAdminChangePlan,Dict.get?_set] at hbefore
        split at hbefore
        · rename_i hid
          exact .inr ⟨plan,hid.symm,(Option.some.inj hbefore).symm⟩
        · exact .inl hbefore
      | human plan =>
        obtain rfl := Except.ok.inj hsave
        exact .inl hbefore
      | fixture fixture =>
        obtain rfl := saveRoadexApprovalFixture_ok hsave
        exact .inl hbefore
    · exact .inr hsaved

theorem evidenced_initial {plan : AdminPlanRecord} (h : host.requireInitialAdminPlan plan = .ok ()) :
    plan.Evidenced host ∧ plan.canceled = false ∧ plan.approved = false ∧ plan.decidedAt = none := by
  obtain ⟨_,happroved,h⟩ := except_bind_ok h
  obtain ⟨_,hcanceled,h⟩ := except_bind_ok h
  obtain ⟨_,hpending,harchive⟩ := except_bind_ok h
  have happroved := check_ok happroved
  have hcanceled := check_ok hcanceled
  obtain ⟨happrovedBy,happrovedAt,hcanceledBy,hcanceledAt,hreason⟩ := check_ok hpending
  refine ⟨?_,hcanceled,happroved,?_⟩
  · constructor
    · intro hc
      exact absurd (hcanceled.symm.trans hc) (by decide)
    · exact fun _ => ⟨hcanceledBy,hcanceledAt,hreason⟩
    · intro ha
      exact absurd (happroved.symm.trans ha) (by decide)
    · exact fun _ => ⟨happrovedBy,happrovedAt⟩
    · intro text htext
      rw [happrovedAt] at htext
      cases htext
    · intro text htext
      rw [hcanceledAt] at htext
      cases htext
    · exact harchive
  · simp only [AdminPlanRecord.decidedAt,hcanceled,Bool.false_eq_true,if_false,happrovedAt]

/-- What a call that binds leaves: the binding, and the plan it is about as it was saved. -/
theorem Binds.bound {now : host.Instant} {draft : RoadexApprovalBindingDraft} {saveSource : ApprovalStore → Check (List Source)}
    {s s' : ApprovalStore} {b : RoadexApprovalBinding} (h : Binds host now draft saveSource s b s') :
    b.toRoadexApprovalBindingDraft = draft ∧ ∃ plan, Bound host b now s' plan ∧ plan.Evidenced host ∧ plan.canceled = false ∧
      plan.approved = false ∧ plan.decidedAt = none := by
  obtain ⟨hkind,hfresh,hstaged⟩ := h
  unfold stageBoundRoadexApproval at hstaged
  obtain ⟨_,hdraft,hstaged⟩ := except_bind_ok hstaged
  have hnone : loadExistingBinding host s draft.approvalRef = .ok none := by
    unfold loadExistingBinding ApprovalStore.loadRoadexApprovalBinding
    rw [hfresh]
  obtain ⟨existing,hexisting,hstaged⟩ := except_bind_ok hstaged
  rw [hnone] at hexisting
  cases hexisting
  obtain ⟨_,hnew,hstaged⟩ := except_bind_ok hstaged
  obtain ⟨sources,_,hstaged⟩ := except_bind_ok hstaged
  obtain ⟨saved,hsaves,hstaged⟩ := except_bind_ok hstaged
  obtain ⟨source,hsource,hstaged⟩ := except_bind_ok hstaged
  obtain ⟨_,hinitial,hstaged⟩ := except_bind_ok hstaged
  obtain ⟨_,hvalid,hstaged⟩ := except_bind_ok hstaged
  obtain ⟨_,_,hdraft⟩ := except_bind_ok hdraft
  obtain ⟨_,href,_⟩ := except_bind_ok hdraft
  rw [hkind,loadSource_admin] at hsource
  obtain ⟨plan,hload,rfl⟩ := map_ok hsource
  have hnew := check_ok hnew
  rw [hkind] at hnew
  have hget := loadAdminChangePayload_ok hload
  have hid : plan.id = draft.sourceId := by
    rcases saves_plan hsaves hget with hbefore | ⟨named,hid,hdump⟩
    · unfold ApprovalStore.sourceExists at hnew
      rw [if_pos rfl,hbefore] at hnew
      cases hnew
    · rw [dump_injective hdump]
      exact hid
  have hunbound : saved.roadexApprovalBindings.get? draft.approvalRef = none := by
    rw [(saveSources_frame host hsaves).1]
    exact hfresh
  simp only [RoadexHost.bindingFromDraft,hunbound] at hstaged
  cases hstaged
  refine ⟨rfl,plan,?_,evidenced_initial hinitial⟩
  refine ⟨check_ok href,?_,hkind,hget,hid,hvalid,rfl,rfl⟩
  simp only [Dict.get?_set,if_true]

/-! ### The result -/

/-- The status shows the binding's digest and the decision that the steps make. -/
structure Reports (b : RoadexApprovalBinding) (steps : List LifecycleStep) (view : ApprovalStatusView) : Prop where
  scopeDigest : view.scopeDigest = b.scopeDigest
  rejected : view.decision = .rejected ↔ ∃ step ∈ steps, step.isCancel = true
  approved : view.decision = .approved ↔ (¬∃ step ∈ steps, step.isCancel = true) ∧ ∃ step ∈ steps, step.isApprove = true
  pending : view.decision = .pending ↔ (¬∃ step ∈ steps, step.isCancel = true) ∧ ¬∃ step ∈ steps, step.isApprove = true

theorem reports_of {b : RoadexApprovalBinding} {steps : List LifecycleStep} {view : ApprovalStatusView} {p : AdminPlanRecord}
    (hdigest : view.scopeDigest = b.scopeDigest) (hdecision : view.decision = p.decision)
    (hcanceled : p.canceled = steps.any LifecycleStep.isCancel)
    (happroved : p.approved = (!p.canceled && steps.any LifecycleStep.isApprove)) : Reports b steps view := by
  have hcancel : (∃ step ∈ steps, step.isCancel = true) ↔ steps.any LifecycleStep.isCancel = true := List.any_eq_true.symm
  have happrove : (∃ step ∈ steps, step.isApprove = true) ↔ steps.any LifecycleStep.isApprove = true := List.any_eq_true.symm
  constructor
  · exact hdigest
  all_goals
    simp only [hcancel,happrove,hdecision,AdminPlanRecord.decision,happroved,hcanceled]
    cases steps.any LifecycleStep.isCancel <;> cases steps.any LifecycleStep.isApprove <;> simp

/-- After any steps on a bound plan, with times that the calendar has, the status is returned: under
the digest of the binding, with the decision that the steps make. A rejection is final, and when
the times come in order the projected time does not go back. -/
theorem projection_follows_lifecycle {now : host.Instant} {draft : RoadexApprovalBindingDraft}
    {saveSource : ApprovalStore → Check (List Source)} {s₀ s₁ s : ApprovalStore} {b : RoadexApprovalBinding}
    {steps : List LifecycleStep} (hb : Binds host now draft saveSource s₀ b s₁) (hw : ∀ step ∈ steps, step.WellFormed host)
    (hr : ∀ step ∈ steps, step.InCalendar host) (hplay : ApprovalStore.play draft.sourceId steps s₁ = .ok s) :
    ∃ view, roadexApprovalStatus host s draft.approvalRef = .ok view ∧ Reports b steps view ∧
      ∀ (more : List LifecycleStep) (s' : ApprovalStore), (∀ step ∈ more, step.WellFormed host) →
        (∀ step ∈ more, step.InCalendar host) → ApprovalStore.play draft.sourceId more s = .ok s' →
        ∃ view', roadexApprovalStatus host s' draft.approvalRef = .ok view' ∧ Reports b (steps ++ more) view' ∧
          (view.decision = .rejected → view'.decision = .rejected) ∧
          (LifecycleStep.Ordered host (steps ++ more) → ∃ t t', host.instant? view.updatedAt = some t ∧
            host.instant? view'.updatedAt = some t' ∧ t ≤ t') := by
  obtain ⟨rfl,p₀,hbound₀,he₀,hcanceled₀,happroved₀,hundecided⟩ := hb.bound
  obtain ⟨p,happly,hbound⟩ := hbound₀.play hplay
  obtain ⟨he,hcanceled,happroved⟩ := applyAll_marks he₀ hw happly
  have hcomparable₀ : p₀.Comparable host := by
    intro text htext
    rw [hundecided] at htext
    cases htext
  have hcomparable := applyAll_comparable hcomparable₀ hr happly
  rw [hcanceled₀,Bool.false_or] at hcanceled
  rw [happroved₀,Bool.false_or] at happroved
  obtain ⟨view,hview,hdigest,hdecision,hinstant⟩ := hbound.status he hcomparable
  have hreports : Reports b steps view := reports_of hdigest hdecision hcanceled happroved
  refine ⟨view,hview,hreports,fun more s' hw' hr' hmore => ?_⟩
  obtain ⟨p',happly',hbound'⟩ := hbound.play hmore
  obtain ⟨he',hcanceled',happroved'⟩ := applyAll_marks he hw' happly'
  obtain ⟨view',hview',hdigest',hdecision',hinstant'⟩ := hbound'.status he' (applyAll_comparable hcomparable hr' happly')
  have hreports' : Reports b (steps ++ more) view' := by
    refine reports_of hdigest' hdecision' ?_ ?_
    · rw [hcanceled',hcanceled,List.any_append]
    · rw [happroved',happroved,hcanceled',List.any_append]
      cases p.canceled
      · simp
      · simp
  refine ⟨view',hview',hreports',fun hrejected => ?_,fun hordered => ?_⟩
  · obtain ⟨step,hstep,hcancel⟩ := hreports.rejected.mp hrejected
    exact hreports'.rejected.mpr ⟨step,List.mem_append_left _ hstep,hcancel⟩
  · obtain ⟨hgiven,hsorted⟩ := hordered
    have hstamps : LifecycleStep.stamps host (steps ++ more) = LifecycleStep.stamps host steps ++ LifecycleStep.stamps host more :=
      List.filterMap_append
    rw [hstamps] at hsorted
    obtain ⟨_,hmoreSorted,hacross⟩ := List.pairwise_append.mp hsorted
    refine ⟨_,_,hinstant,hinstant',updated_mono hr' ⟨fun step hstep => hgiven step (List.mem_append_right _ hstep),hmoreSorted⟩
      (fun t ht => ?_) happly'⟩
    rcases applyAll_stamp happly ht with hnone | hmem
    · rw [hundecided] at hnone
      cases hnone
    · exact hacross t hmem

/-! ### A time outside the calendar -/

/-- The time is one with an offset. -/
def isAware {ι : Type} : Option (ParsedTime ι) → Bool
  | some (.aware _) => true
  | _ => false

theorem isTimestamp_of {text : String} (h : (!isBlank text && isAware (host.fromisoformat (replaceZ text))) = true) :
    host.IsTimestamp text := by
  rw [Bool.and_eq_true] at h
  refine ⟨by simpa using h.1,?_⟩
  cases hread : host.fromisoformat (replaceZ text) with
  | none =>
    rw [hread] at h
    exact absurd h.2 Bool.false_ne_true
  | some parsed =>
    cases parsed with
    | naive =>
      rw [hread] at h
      exact absurd h.2 Bool.false_ne_true
    | aware utc => exact ⟨utc,rfl⟩

def firstDay : String := "2026-01-01T00:00:00+00:00"
def secondDay : String := "2026-01-02T00:00:00+00:00"

/-- A time of the first day of the calendar that has no UTC counterpart. -/
def beforeCalendar : String := "0001-01-01T00:00:00+01:00"

/-- Two days of the calendar, and the digests of one plan and of its binding. -/
def twoDays : RoadexHost where
  sha256 text :=
    if hasPart text "approval_level" then "a68ba65b27f284137514918454833a4eabd582e64b193e49e28a381492e9ce69"
    else if hasPart text "sourceEvidenceDigest" then "8771a7fbfdf73bb1059a32adf83aa5ec9ed05666bf11ba38e9aee3ff4cf0873d"
    else "1111602b72e2623230a38dd77879cc2e9ce7df8e83d4705f77e6c90c1dcba546"
  rebuiltDigest _ _ := none
  Instant := Bool
  order := inferInstance
  fromisoformat text :=
    if text = firstDay then some (.aware (some false)) else if text = secondDay then some (.aware (some true))
    else if text = beforeCalendar then some (.aware none) else none
  isoformat t := if t then secondDay else firstDay
  read_isoformat t := by cases t <;> exact ⟨by decide,by decide +kernel⟩

def restartPlan : AdminPlanRecord where
  id := "plan-1"
  kind := .userServiceRestart
  ownerDomain := .obrien
  riskLevel := .medium
  approvalLevel := .human
  target := "jellyfin"
  reason := "restart"
  currentState := "active"
  proposedState := "restarted"
  steps := [⟨"restart",["systemctl","--user","restart","jellyfin"],"restart"⟩]
  rollbackSteps := [⟨"start",["systemctl","--user","start","jellyfin"],"undo"⟩]
  risks := ["downtime"]
  verificationSteps := [⟨"verify",["systemctl","--user","is-active","jellyfin"],"verify"⟩]

def restartDraft : RoadexApprovalBindingDraft :=
  ⟨"plan-1","admin-plan","plan-1","media","home","service:jellyfin","privileged-operation","restart jellyfin"⟩

theorem scopeDigest_not_blank (draft : RoadexApprovalBindingDraft) (sourceDigest : String) :
    isBlank (host.scopeDigest draft sourceDigest) = false := by
  have hdigest : "sha256:".toList.all isSpace = false := by decide
  unfold RoadexHost.scopeDigest RoadexHost.digest isBlank
  rw [String.toList_append,List.all_append,hdigest,Bool.false_and]

theorem validate_of_draft {b : RoadexApprovalBinding} (h : validateApprovalBindingDraft b.toRoadexApprovalBindingDraft = .ok ())
    (hscope : isBlank b.scopeDigest = false) (hcreated : host.IsTimestamp b.createdAt) :
    RoadexApprovalBinding.validate host b = .ok () := by
  obtain ⟨_,happroval,h⟩ := except_bind_ok h
  obtain ⟨_,_,h⟩ := except_bind_ok h
  obtain ⟨_,hkind,h⟩ := except_bind_ok h
  obtain ⟨_,hsource,h⟩ := except_bind_ok h
  obtain ⟨_,hproject,h⟩ := except_bind_ok h
  obtain ⟨_,hworkspace,h⟩ := except_bind_ok h
  obtain ⟨_,hresource,h⟩ := except_bind_ok h
  obtain ⟨_,hauthority,h⟩ := except_bind_ok h
  obtain ⟨_,hpairing,h⟩ := except_bind_ok h
  obtain ⟨_,hsubject,_⟩ := except_bind_ok h
  unfold RoadexApprovalBinding.validate
  rw [requireTruthyStr_self happroval,requireEnum_self hkind,requireTruthyStr_self hsource,requireTruthyStr_self hproject,
    requireTruthyStr_self hworkspace,requireTruthyStr_self hresource,requireEnum_self hauthority,hpairing,
    requireTruthyStr_self hsubject,requireTruthyStr_of hscope,requireIso8601_of hcreated]
  rfl

/-- A valid draft and its new plan are bound in an empty store. -/
theorem stage_fresh {now : host.Instant} {draft : RoadexApprovalBindingDraft} {plan : AdminPlanRecord}
    (hdraft : validateApprovalBindingDraft draft = .ok ()) (hkind : draft.sourceKind = "admin-plan") (hid : plan.id = draft.sourceId)
    (hinitial : host.requireInitialAdminPlan plan = .ok ()) :
    ∃ b s', Binds host now draft (fun _ => .ok [.admin plan]) {} b s' ∧ s'.adminChangePlans.get? draft.sourceId = some plan.dump := by
  have hvalid : RoadexApprovalBinding.validate host (host.bindingFromDraft draft (host.sourceDigest plan) (host.isoformat now)) =
      .ok () := validate_of_draft hdraft (scopeDigest_not_blank draft _) (timely_isoformat now).timestamp
  have hnone : loadExistingBinding host {} draft.approvalRef = .ok none := rfl
  have hnew : ({} : ApprovalStore).sourceExists draft.sourceKind draft.sourceId = false := by
    unfold ApprovalStore.sourceExists
    rw [if_pos hkind]
    rfl
  have hsaves : ({} : ApprovalStore).saveSources [.admin plan] = .ok (({} : ApprovalStore).saveAdminChangePlan plan) := rfl
  have hrow : (({} : ApprovalStore).saveAdminChangePlan plan).adminChangePlans.get? draft.sourceId = some plan.dump := by
    unfold ApprovalStore.saveAdminChangePlan
    rw [hid,Dict.get?_set,if_pos rfl]
  have hload : (({} : ApprovalStore).saveAdminChangePlan plan).loadSource host draft.sourceKind draft.sourceId =
      .ok (.admin plan) := by
    rw [hkind,loadSource_admin]
    unfold ApprovalStore.loadAdminChangePayload
    rw [hrow]
    simp only [decodeAdminPlanPayload_dump]
    rfl
  have hsave : ∃ b s', (({} : ApprovalStore).saveAdminChangePlan plan).saveRoadexApprovalBinding host
      (host.bindingFromDraft draft (host.sourceDigest plan) (host.isoformat now)) = .ok (b,s') ∧
        s'.adminChangePlans.get? draft.sourceId = some plan.dump := by
    have hunbound : (({} : ApprovalStore).saveAdminChangePlan plan).roadexApprovalBindings.get? draft.approvalRef = none := rfl
    unfold ApprovalStore.saveRoadexApprovalBinding
    rw [hvalid]
    simp only [bind,Except.bind,RoadexHost.bindingFromDraft,hunbound]
    exact ⟨_,_,rfl,hrow⟩
  obtain ⟨b,s',hsave,hsaved⟩ := hsave
  have hstaged : stageBoundRoadexApproval host now draft (fun _ => .ok [.admin plan]) {} = .ok (b,s') := by
    unfold stageBoundRoadexApproval
    rw [hdraft,hnone]
    simp only [bind,Except.bind]
    rw [check_of hnew]
    simp only [hsaves,hload,RoadexHost.requireInitialSourceState,hinitial,RoadexHost.exactSourceEvidenceDigest,hsave]
  exact ⟨b,s',⟨hkind,rfl,hstaged⟩,hsaved⟩

def archived : LifecycleStep := .archive "record-1" "sisko" firstDay
def approvedFirst : LifecycleStep := .approve "julian" (some firstDay)
def canceledSecond : LifecycleStep := .cancel "julian" "not needed" (some secondDay)
def approvedBefore : LifecycleStep := .approve "julian" (some beforeCalendar)

theorem restart_valid : validateApprovalBindingDraft restartDraft = .ok () := by
  unfold validateApprovalBindingDraft validateOpaqueRef restartDraft
  rw [requireTruthyStr_of (by decide),check_of (by decide),requireEnum_of (by decide) (by decide),requireTruthyStr_of (by decide),
    requireTruthyStr_of (by decide),requireTruthyStr_of (by decide),requireTruthyStr_of (by decide),
    requireEnum_of (by decide) (by decide),check_of (by decide),requireTruthyStr_of (by decide),check_of fun _ => rfl]
  rfl

theorem restart_initial : twoDays.requireInitialAdminPlan restartPlan = .ok () := by
  have happroved : restartPlan.approved = false := rfl
  have hcanceled : restartPlan.canceled = false := rfl
  have harchived : restartPlan.archived = false := rfl
  unfold RoadexHost.requireInitialAdminPlan requireAdminPendingPlanEvidence RoadexHost.requireAdminArchiveState
  rw [check_of happroved,check_of hcanceled,if_pos harchived]
  rfl

/-- The plan is bound on the first day; steps that it takes are taken in the store. -/
theorem restart_played {steps : List LifecycleStep} (h : (LifecycleStep.applyAll steps restartPlan).toBool = true) :
    ∃ b s₁ s p, Binds twoDays false restartDraft (fun _ => .ok [.admin restartPlan]) {} b s₁ ∧
      ApprovalStore.play restartDraft.sourceId steps s₁ = .ok s ∧ LifecycleStep.applyAll steps restartPlan = .ok p ∧
      Bound twoDays b false s p ∧ restartPlan.Evidenced twoDays := by
  obtain ⟨b,s₁,hb,hrow⟩ : ∃ b s', Binds twoDays false restartDraft (fun _ => .ok [.admin restartPlan]) {} b s' ∧
      s'.adminChangePlans.get? restartDraft.sourceId = some restartPlan.dump := stage_fresh restart_valid rfl rfl restart_initial
  obtain ⟨hdraft,plan,hbound,he,-⟩ := hb.bound
  have hplan : plan = restartPlan := by
    have hget := hbound.plan
    rw [hdraft,hrow] at hget
    exact (dump_injective (Option.some.inj hget)).symm
  subst hplan
  cases hsteps : LifecycleStep.applyAll steps restartPlan with
  | error e =>
    rw [hsteps] at h
    cases h
  | ok p =>
    obtain ⟨s,hplay,hbound'⟩ := hbound.takes hsteps
    rw [hdraft] at hplay
    exact ⟨b,s₁,s,p,hb,hplay,rfl,hbound',he⟩

theorem canceled_taken : (LifecycleStep.applyAll [archived,approvedFirst,canceledSecond] restartPlan).toBool = true := by decide +kernel

theorem projection_follows_lifecycle_canceled : ∃ s view, roadexApprovalStatus twoDays s restartDraft.approvalRef = .ok view ∧
    view.decision = .rejected := by
  obtain ⟨b,s₁,s,p,hb,hplay,-⟩ := restart_played canceled_taken
  obtain ⟨view,hview,hreports,-⟩ := projection_follows_lifecycle hb
    (by
      intro step hstep
      simp only [List.mem_cons,List.not_mem_nil,or_false] at hstep
      rcases hstep with rfl | rfl | rfl
      · exact ⟨by decide,by decide,isTimestamp_of (by decide +kernel)⟩
      · exact ⟨by decide,fun text htext => by cases htext; exact isTimestamp_of (by decide +kernel)⟩
      · exact ⟨by decide,fun text htext => by cases htext; exact isTimestamp_of (by decide +kernel)⟩)
    (by
      intro step hstep
      simp only [List.mem_cons,List.not_mem_nil,or_false] at hstep
      rcases hstep with rfl | rfl | rfl
      · intro text htext
        cases htext
      · intro text htext
        cases htext
        decide +kernel
      · intro text htext
        cases htext
        decide +kernel) hplay
  exact ⟨s,view,hview,hreports.rejected.mpr ⟨canceledSecond,by simp,rfl⟩⟩

theorem approvedBefore_taken : (LifecycleStep.applyAll [approvedBefore] restartPlan).toBool = true := by decide +kernel

/-- An approval with a time before the calendar is taken, and the status cannot be told after it. -/
theorem status_fails_before_calendar : ∃ b s₁ s, Binds twoDays false restartDraft (fun _ => .ok [.admin restartPlan]) {} b s₁ ∧
    (∀ step ∈ [approvedBefore], step.WellFormed twoDays) ∧ ApprovalStore.play restartDraft.sourceId [approvedBefore] s₁ = .ok s ∧
      roadexApprovalStatus twoDays s restartDraft.approvalRef = .error (.overflow "date value out of range") := by
  obtain ⟨b,s₁,s,p,hb,hplay,hsteps,hbound,he⟩ := restart_played approvedBefore_taken
  have hw : ∀ step ∈ [approvedBefore], step.WellFormed twoDays := by
    intro step hstep
    obtain rfl := List.mem_singleton.mp hstep
    exact ⟨by decide,fun text htext => by cases htext; exact isTimestamp_of (by decide +kernel)⟩
  have hdecided : p.decidedAt = some beforeCalendar := by
    obtain ⟨p₁,hstep,hrest⟩ := except_bind_ok hsteps
    cases hrest
    exact apply_decidedAt hstep
  have hincomparable : ¬p.Comparable twoDays := by
    intro hcomparable
    have hinstant : (twoDays.instant? beforeCalendar).isSome = false := by decide +kernel
    exact absurd (hinstant.symm.trans (hcomparable beforeCalendar hdecided)) Bool.false_ne_true
  have hstatus := hbound.status_overflows (applyAll_marks he hw hsteps).1 hincomparable
  rw [hb.bound.1] at hstatus
  exact ⟨b,s₁,s,hb,hw,hplay,hstatus⟩

end Overseer.Roadex
