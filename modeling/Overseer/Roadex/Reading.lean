import Overseer.Roadex.Bindings
import Overseer.Library.Fallible

/-! # Reading stored plans and bindings

What the checks on texts and times tell, and that a stored plan and a valid binding are read
back by the strict readers.
-/
namespace Overseer.Roadex
open Overseer.Library Overseer.Core

variable {host : RoadexHost}

/-- The text is an ISO-8601 time with an offset. -/
def RoadexHost.IsTimestamp (host : RoadexHost) (text : String) : Prop :=
  isBlank text = false ∧ ∃ utc, host.fromisoformat (replaceZ text) = some (.aware utc)

/-- The text is a time with an offset, and the calendar has its instant. -/
def RoadexHost.Timely (host : RoadexHost) (text : String) : Prop :=
  isBlank text = false ∧ ∃ t, host.fromisoformat (replaceZ text) = some (.aware (some t))

/-! ### What the checks tell -/

theorem check_ok {c : Prop} [Decidable c] {message : String} {u : Unit} (h : check c message = .ok u) : c := by
  unfold check at h
  split at h
  · assumption
  · cases h

theorem check_of {c : Prop} [Decidable c] {message : String} (h : c) : check c message = .ok () := if_pos h

theorem requireTruthyStr_of {text field : String} (h : isBlank text = false) : requireTruthyStr (some text) field = .ok text := by
  simp [requireTruthyStr,h]

theorem requireTruthyStr_ok {value : Option String} {field text : String} (h : requireTruthyStr value field = .ok text) :
    value = some text ∧ isBlank text = false := by
  cases value with
  | none => cases h
  | some given =>
    simp only [requireTruthyStr] at h
    split at h
    · cases h
    · rename_i hblank
      cases h
      exact ⟨rfl,by simpa using hblank⟩

theorem requireTruthyStr_self {value text field : String} (h : requireTruthyStr (some value) field = .ok text) :
    requireTruthyStr (some value) field = .ok value := by
  obtain ⟨hsame,hblank⟩ := requireTruthyStr_ok h
  exact requireTruthyStr_of (by rw [Option.some.inj hsame,hblank])

theorem requireEnum_of {text field : String} {values : List String} (h : isBlank text = false) (hmem : text ∈ values) :
    requireEnum (some text) values field = .ok text := by
  unfold requireEnum
  rw [requireTruthyStr_of h]
  exact congrArg (· >>= fun _ => pure text) (check_of hmem)

theorem requireEnum_ok {value : Option String} {values : List String} {field text : String}
    (h : requireEnum value values field = .ok text) : value = some text ∧ isBlank text = false ∧ text ∈ values := by
  obtain ⟨given,htruthy,h⟩ := except_bind_ok h
  obtain ⟨_,hmem,h⟩ := except_bind_ok h
  cases h
  obtain ⟨hvalue,hblank⟩ := requireTruthyStr_ok htruthy
  exact ⟨hvalue,hblank,check_ok hmem⟩

theorem requireEnum_self {value text field : String} {values : List String} (h : requireEnum (some value) values field = .ok text) :
    requireEnum (some value) values field = .ok value := by
  obtain ⟨hsame,_,_⟩ := requireEnum_ok h
  rw [Option.some.inj hsame]
  rw [Option.some.inj hsame] at h
  exact h

theorem requireIso8601_of {text field : String} (h : host.IsTimestamp text) : host.requireIso8601 (some text) field = .ok text := by
  obtain ⟨hblank,utc,hread⟩ := h
  unfold RoadexHost.requireIso8601
  rw [requireTruthyStr_of hblank]
  simp only [Except.bind,bind,hread]

theorem requireIso8601_ok {value : Option String} {field text : String} (h : host.requireIso8601 value field = .ok text) :
    value = some text ∧ host.IsTimestamp text := by
  obtain ⟨given,htruthy,h⟩ := except_bind_ok h
  obtain ⟨hvalue,hblank⟩ := requireTruthyStr_ok htruthy
  split at h
  · cases h
  · cases h
  · rename_i utc hread
    cases h
    exact ⟨hvalue,hblank,utc,hread⟩

theorem RoadexHost.Timely.timestamp {text : String} (h : host.Timely text) : host.IsTimestamp text := by
  obtain ⟨hblank,t,hread⟩ := h
  exact ⟨hblank,some t,hread⟩

theorem RoadexHost.IsTimestamp.timely {text : String} (h : host.IsTimestamp text) (hinstant : (host.instant? text).isSome) :
    host.Timely text := by
  obtain ⟨hblank,utc,hread⟩ := h
  have hutc : host.instant? text = utc := by
    unfold RoadexHost.instant?
    rw [hread]
  obtain ⟨t,ht⟩ := Option.isSome_iff_exists.mp hinstant
  exact ⟨hblank,t,by rw [hread,← hutc,ht]⟩

theorem timely_isoformat (t : host.Instant) : host.Timely (host.isoformat t) :=
  ⟨(host.read_isoformat t).1,t,(host.read_isoformat t).2⟩

theorem instant?_isoformat (t : host.Instant) : host.instant? (host.isoformat t) = some t := by
  unfold RoadexHost.instant?
  rw [(host.read_isoformat t).2]

theorem requireOptionalIso8601_of {value : Option String} {field : String} (h : ∀ text ∈ value, host.IsTimestamp text) :
    host.requireOptionalIso8601 value field = .ok () := by
  cases value with
  | none => rfl
  | some text =>
    unfold RoadexHost.requireOptionalIso8601
    simp only [requireIso8601_of (h text rfl)]
    rfl

/-! ### Stored plans and bindings are read back -/

theorem checkExactFields_of {data : Json} {expected : List String} {label : String} (h : ∀ k, k ∈ data.keys ↔ k ∈ expected) :
    checkExactFields data expected label = .ok () := by
  have hmissing : expected.filter (· ∉ data.keys) = [] := by
    refine List.filter_eq_nil_iff.mpr fun k hk => ?_
    simpa using (h k).mpr hk
  have hextra : data.keys.filter (· ∉ expected) = [] := by
    refine List.filter_eq_nil_iff.mpr fun k hk => ?_
    simpa using (h k).mp hk
  unfold checkExactFields
  simp only [hmissing,hextra]
  rfl

theorem decodeAdminPlanPayload_dump (plan : AdminPlanRecord) : decodeAdminPlanPayload plan.dump = .ok plan := by
  have hcanonical : plan.dump.isCanonical = true := Json.isCanonical_sortKeys plan.members
  have hfields : checkExactFields plan.dump AdminPlanRecord.fieldNames "admin source" = .ok () := by
    refine checkExactFields_of fun k => ?_
    rw [← plan.members_keys]
    exact Json.mem_keys_sortKeys
  unfold decodeAdminPlanPayload
  rw [check_of hcanonical,hfields,show AdminPlanRecord.ofJsonable plan.dump = some plan from plan.ofJsonable_members]
  simp only [Except.bind,bind]
  rw [check_of trivial]
  rfl

theorem decodeAdminPlanPayload_ok {payload : Json} {plan : AdminPlanRecord} (h : decodeAdminPlanPayload payload = .ok plan) :
    payload = plan.dump := by
  obtain ⟨_,_,h⟩ := except_bind_ok h
  obtain ⟨_,_,h⟩ := except_bind_ok h
  split at h
  · cases h
  · obtain ⟨_,hsame,h⟩ := except_bind_ok h
    cases h
    exact (check_ok hsame).symm

theorem dump_injective {plan plan' : AdminPlanRecord} (h : plan.dump = plan'.dump) : plan = plan' := by
  have hread := plan.ofJsonable_members
  rw [show (Json.obj plan.members).sortKeys = (Json.obj plan'.members).sortKeys from h,plan'.ofJsonable_members] at hread
  exact (Option.some.inj hread).symm

theorem binding_members_nodup (b : RoadexApprovalBinding) : (b.members.map Prod.fst).Nodup := by
  change RoadexApprovalBinding.fieldNames.Nodup
  decide

/-- A binding that passed its checks is read back. -/
theorem decode_dump {b : RoadexApprovalBinding} (h : RoadexApprovalBinding.validate host b = .ok ()) :
    RoadexApprovalBinding.decode host b.dump = .ok b := by
  obtain ⟨approvalRef,happroval,h⟩ := except_bind_ok h
  obtain ⟨sourceKind,hkind,h⟩ := except_bind_ok h
  obtain ⟨sourceId,hsource,h⟩ := except_bind_ok h
  obtain ⟨projectId,hproject,h⟩ := except_bind_ok h
  obtain ⟨workspaceId,hworkspace,h⟩ := except_bind_ok h
  obtain ⟨resourceRef,hresource,h⟩ := except_bind_ok h
  obtain ⟨authorityClass,hauthority,h⟩ := except_bind_ok h
  obtain ⟨_,_,h⟩ := except_bind_ok h
  obtain ⟨subject,hsubject,h⟩ := except_bind_ok h
  obtain ⟨scopeDigest,hscope,h⟩ := except_bind_ok h
  obtain ⟨createdAt,hcreated,_⟩ := except_bind_ok h
  have hcanonical : b.dump.isCanonical = true := Json.isCanonical_sortKeys b.members
  have hfields : checkExactFields b.dump RoadexApprovalBinding.fieldNames "binding" = .ok () :=
    checkExactFields_of fun k => Json.mem_keys_sortKeys
  have htext : ∀ field value : String, Dict.find field b.members = some (.str value) →
      RoadexApprovalBinding.textOf b.dump field = some value := by
    intro field value hfind
    unfold RoadexApprovalBinding.textOf RoadexApprovalBinding.dump
    rw [Json.member?_sortKeys (binding_members_nodup b),hfind]
    rfl
  unfold RoadexApprovalBinding.decode
  rw [check_of hcanonical,hfields,htext "approval_ref" b.approvalRef rfl,htext "source_kind" b.sourceKind rfl,
    htext "source_id" b.sourceId rfl,htext "project_id" b.projectId rfl,htext "workspace_id" b.workspaceId rfl,
    htext "resource_ref" b.resourceRef rfl,htext "authority_class" b.authorityClass rfl,htext "subject" b.subject rfl,
    htext "scope_digest" b.scopeDigest rfl,htext "created_at" b.createdAt rfl]
  obtain ⟨hcreated,htimestamp⟩ := requireIso8601_ok hcreated
  cases Option.some.inj hcreated
  have htext : (some b.createdAt).isSome = true := rfl
  rw [requireTruthyStr_self happroval,requireEnum_self hkind,requireTruthyStr_self hsource,requireTruthyStr_self hproject,
    requireTruthyStr_self hworkspace,requireTruthyStr_self hresource,requireEnum_self hauthority,requireTruthyStr_self hsubject,
    requireTruthyStr_self hscope,check_of htext,requireIso8601_of htimestamp]
  rfl

/-! ### Saving and loading sources -/

theorem loadAdminChangePayload_ok {s : ApprovalStore} {id : String} {plan : AdminPlanRecord}
    (h : s.loadAdminChangePayload id = .ok plan) : s.adminChangePlans.get? id = some plan.dump := by
  unfold ApprovalStore.loadAdminChangePayload at h
  split at h
  · cases h
  · rename_i row hget
    rw [hget,decodeAdminPlanPayload_ok h]

theorem loadSource_admin (host : RoadexHost) (s : ApprovalStore) (id : String) :
    s.loadSource host "admin-plan" id = Source.admin <$> s.loadAdminChangePayload id := by
  unfold ApprovalStore.loadSource
  rw [if_pos rfl]

theorem loadSource_human (host : RoadexHost) (s : ApprovalStore) (id : String) :
    s.loadSource host "roadex-human-decision" id = Source.human <$> s.loadRoadexHumanPlan host id := by
  unfold ApprovalStore.loadSource
  rw [if_neg (by decide),if_pos rfl]

theorem loadSource_fixture (host : RoadexHost) (s : ApprovalStore) (id : String) :
    s.loadSource host "roadex-approval-fixture" id = Source.fixture <$> s.loadRoadexApprovalFixture id := by
  unfold ApprovalStore.loadSource
  rw [if_neg (by decide),if_neg (by decide),if_pos rfl]

theorem map_ok {α β : Type} {f : α → β} {x : Check α} {b : β} (h : f <$> x = .ok b) : ∃ a, x = .ok a ∧ f a = b := by
  cases x with
  | error e => cases h
  | ok a => exact ⟨a,rfl,Except.ok.inj h⟩

theorem saveRoadexApprovalFixture_ok {s s' : ApprovalStore} {fixture : RoadexApprovalFixture}
    (h : s.saveRoadexApprovalFixture fixture = .ok s') :
    s' = { s with roadexApprovalFixtures := s.roadexApprovalFixtures.set fixture.id fixture } := by
  obtain ⟨_,_,h⟩ := except_bind_ok h
  split at h
  · exact (Except.ok.inj h).symm
  · cases h

/-- The stores load every source of the other kinds and ids alike. -/
def LoadsOthers (host : RoadexHost) (kind id : String) (s s' : ApprovalStore) : Prop :=
  ∀ kind' id', ¬(kind = kind' ∧ id = id') → s'.loadSource host kind' id' = s.loadSource host kind' id'

theorem loadsOthers_admin (host : RoadexHost) (s : ApprovalStore) (plan : AdminPlanRecord) :
    LoadsOthers host "admin-plan" plan.id s (s.saveAdminChangePlan plan) := by
  intro kind id hother
  by_cases hkind : kind = "admin-plan"
  · subst hkind
    have hid : id ≠ plan.id := fun hid => hother ⟨rfl,hid.symm⟩
    rw [loadSource_admin,loadSource_admin]
    unfold ApprovalStore.loadAdminChangePayload ApprovalStore.saveAdminChangePlan
    rw [Dict.get?_set,if_neg hid]
  · unfold ApprovalStore.loadSource
    rw [if_neg hkind,if_neg hkind]
    rfl

theorem loadsOthers_human (host : RoadexHost) (s : ApprovalStore) (plan : HumanDecisionPlan) :
    LoadsOthers host "roadex-human-decision" plan.planId s (s.saveProvisioningPlan plan) := by
  intro kind id hother
  by_cases hkind : kind = "roadex-human-decision"
  · subst hkind
    have hid : id ≠ plan.planId := fun hid => hother ⟨rfl,hid.symm⟩
    rw [loadSource_human,loadSource_human]
    unfold ApprovalStore.loadRoadexHumanPlan ApprovalStore.saveProvisioningPlan
    rw [Dict.get?_set,if_neg hid]
  · unfold ApprovalStore.loadSource
    rw [if_neg hkind,if_neg hkind]
    rfl

theorem loadsOthers_fixture (host : RoadexHost) (s : ApprovalStore) (fixture : RoadexApprovalFixture) :
    LoadsOthers host "roadex-approval-fixture" fixture.id s
      { s with roadexApprovalFixtures := s.roadexApprovalFixtures.set fixture.id fixture } := by
  intro kind id hother
  by_cases hkind : kind = "roadex-approval-fixture"
  · subst hkind
    have hid : id ≠ fixture.id := fun hid => hother ⟨rfl,hid.symm⟩
    rw [loadSource_fixture,loadSource_fixture]
    unfold ApprovalStore.loadRoadexApprovalFixture
    rw [Dict.get?_set,if_neg hid]
  · unfold ApprovalStore.loadSource
    rw [if_neg hkind,if_neg hkind]
    rfl

theorem saveSource_frame (host : RoadexHost) {s s' : ApprovalStore} {source : Source} (h : s.saveSource source = .ok s') :
    s'.roadexApprovalBindings = s.roadexApprovalBindings ∧ LoadsOthers host source.kind source.id s s' := by
  cases source with
  | admin plan =>
    obtain rfl := Except.ok.inj h
    exact ⟨rfl,loadsOthers_admin host s plan⟩
  | human plan =>
    obtain rfl := Except.ok.inj h
    exact ⟨rfl,loadsOthers_human host s plan⟩
  | fixture fixture =>
    obtain rfl := saveRoadexApprovalFixture_ok h
    exact ⟨rfl,loadsOthers_fixture host s fixture⟩

theorem saveSources_frame (host : RoadexHost) {s s' : ApprovalStore} {sources : List Source} (h : s.saveSources sources = .ok s') :
    s'.roadexApprovalBindings = s.roadexApprovalBindings ∧
      ∀ kind id, (∀ source ∈ sources, ¬(source.kind = kind ∧ source.id = id)) →
        s'.loadSource host kind id = s.loadSource host kind id := by
  induction sources generalizing s with
  | nil =>
    obtain rfl := Except.ok.inj h
    exact ⟨rfl,fun _ _ _ => rfl⟩
  | cons source rest ih =>
    obtain ⟨s₁,hsave,hrest⟩ := except_bind_ok h
    obtain ⟨hbindings,hload⟩ := saveSource_frame host hsave
    obtain ⟨hbindings',hload'⟩ := ih hrest
    refine ⟨hbindings'.trans hbindings,fun kind id hothers => ?_⟩
    rw [hload' kind id fun x hx => hothers x (List.mem_cons_of_mem _ hx),hload kind id (hothers source List.mem_cons_self)]

end Overseer.Roadex
