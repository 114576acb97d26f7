import Overseer.Roadex.Projection

/-! # An approval is bound once

Every call of `stage_bound_roadex_approval` is one transaction. The bindings it leaves are backed: the
source of each is read back, under the digest of the binding, whatever its lifecycle did to it.
So a call is repeated with the binding that is there, and no other call changes it.
-/
namespace Overseer.Roadex
open Overseer.Library Overseer.Core Overseer.Provisioning

variable {host : RoadexHost}

/-! ### Changes of a source -/

/-- What no decision and no execution of a provisioning plan changes. -/
structure HumanDecisionPlan.SameContract (plan plan' : HumanDecisionPlan) : Prop where
  planId : plan'.planId = plan.planId
  kind : plan'.kind = plan.kind
  contract : plan'.contract = plan.contract
  planDigest : plan'.planDigest = plan.planDigest
  decisionSource : plan'.decisionSource = plan.decisionSource

/-- A lifecycle change writes a source anew. What it writes may come from an older copy: only the part
that the lifecycle leaves alone is that of the row. -/
inductive Change (s : ApprovalStore) : ApprovalStore → Prop
  | admin {plan plan' : AdminPlanRecord} (hrow : s.adminChangePlans.get? plan.id = some plan.dump)
      (hfixed : plan'.fixedMembers = plan.fixedMembers) : Change s (s.saveAdminChangePlan plan')
  | human {plan plan' : HumanDecisionPlan} (hrow : s.backupProvisioningPlans.get? plan.planId = some plan)
      (hsame : plan.SameContract plan') : Change s (s.saveProvisioningPlan plan')
  | fixture {fixture fixture' : RoadexApprovalFixture} (hrow : s.roadexApprovalFixtures.get? fixture.id = some fixture)
      (hid : fixture'.id = fixture.id) (hcreated : fixture'.createdAt = fixture.createdAt) :
      Change s { s with roadexApprovalFixtures := s.roadexApprovalFixtures.set fixture'.id fixture' }

theorem fixed_of_applyAll {steps : List LifecycleStep} {plan plan' : AdminPlanRecord}
    (h : LifecycleStep.applyAll steps plan = .ok plan') : plan'.fixedMembers = plan.fixedMembers := by
  induction steps generalizing plan with
  | nil =>
    cases h
    rfl
  | cons step rest ih =>
    obtain ⟨plan₁,hstep,hrest⟩ := except_bind_ok h
    have hfixed : plan₁.fixedMembers = plan.fixedMembers := by
      obtain ⟨_,_,_,_,_,rfl⟩ | ⟨_,_,_,_,_,_,rfl⟩ | ⟨_,_,_,_,_,_,rfl⟩ | ⟨_,_,_,_,rfl⟩ := apply_cases hstep
      all_goals rfl
    exact (ih hrest).trans hfixed

theorem lifecycle_change {s s' : ApprovalStore} {plan : AdminPlanRecord} {step : LifecycleStep}
    (hrow : s.adminChangePlans.get? plan.id = some plan.dump) (h : s.lifecycle plan.id step = .ok s') : Change s s' := by
  unfold ApprovalStore.lifecycle at h
  obtain ⟨loaded,hload,h⟩ := except_bind_ok h
  have hloaded : s.loadAdminChangePlan plan.id = .ok plan := by
    unfold ApprovalStore.loadAdminChangePlan
    rw [hrow]
    simp only [show AdminPlanRecord.ofJsonable plan.dump = some plan from plan.ofJsonable_members]
  rw [hloaded] at hload
  cases hload
  obtain ⟨plan',hstep,h⟩ := except_bind_ok h
  cases h
  have happly : LifecycleStep.applyAll [step] plan = .ok plan' := by
    unfold LifecycleStep.applyAll
    rw [hstep]
    rfl
  exact .admin hrow (fixed_of_applyAll happly)

/-! ### Steps -/

/-- The callback saves the source of the draft, and nothing else. -/
def SavesOwn (draft : RoadexApprovalBindingDraft) (saveSource : ApprovalStore → Check (List Source)) : Prop :=
  ∀ s sources, saveSource s = .ok sources → ∀ source ∈ sources, source.kind = draft.sourceKind ∧ source.id = draft.sourceId

/-- A call, whether it returns or raises, or a change of a source. -/
inductive Step (host : RoadexHost) (s : ApprovalStore) : ApprovalStore → Prop
  | stage (now : host.Instant) {draft : RoadexApprovalBindingDraft} {saveSource : ApprovalStore → Check (List Source)}
      (hown : SavesOwn draft saveSource) : Step host s (stageCall host now draft saveSource s).2
  | change {s' : ApprovalStore} (h : Change s s') : Step host s s'

abbrev Steps (host : RoadexHost) : ApprovalStore → ApprovalStore → Prop := Relation.ReflTransGen (Step host)

/-! ### A change keeps sources and digests -/

/-- Sources that are read stay readable, under the same digests. -/
def KeepsSources (host : RoadexHost) (s s' : ApprovalStore) : Prop :=
  ∀ kind id source, s.loadSource host kind id = .ok source → ∃ source', s'.loadSource host kind id = .ok source' ∧
    host.exactSourceEvidenceDigest source' = host.exactSourceEvidenceDigest source

theorem keepsSources_of {s s' : ApprovalStore} {kind id : String} (hothers : LoadsOthers host kind id s s')
    (hself : ∀ source, s.loadSource host kind id = .ok source → ∃ source', s'.loadSource host kind id = .ok source' ∧
      host.exactSourceEvidenceDigest source' = host.exactSourceEvidenceDigest source) : KeepsSources host s s' := by
  intro kind' id' source hload
  by_cases hsame : kind = kind' ∧ id = id'
  · obtain ⟨rfl,rfl⟩ := hsame
    exact hself source hload
  · refine ⟨source,?_,rfl⟩
    rw [hothers kind' id' hsame]
    exact hload

theorem id_of_fixedMembers {plan plan' : AdminPlanRecord} (h : plan'.fixedMembers = plan.fixedMembers) : plan'.id = plan.id := by
  unfold AdminPlanRecord.fixedMembers at h
  have hhead := (List.cons.inj h).1
  exact Json.str.inj (Prod.ext_iff.mp hhead).2

theorem sourceDigest_fixed (host : RoadexHost) (plan : AdminPlanRecord) :
    host.sourceDigest plan = host.digest plan.fixedMembers := rfl

theorem validatePlan_same {plan plan' : HumanDecisionPlan} (h : plan.SameContract plan') :
    host.validatePlan plan' = host.validatePlan plan := by
  unfold RoadexHost.validatePlan RoadexHost.planDigest
  rw [h.planId,h.contract,h.kind,h.planDigest]

theorem loadRoadexHumanPlan_ok {s : ApprovalStore} {id : String} {plan : HumanDecisionPlan}
    (h : s.loadRoadexHumanPlan host id = .ok plan) : s.backupProvisioningPlans.get? id = some plan ∧ plan.planId = id ∧
      plan.kind = Provisioning.planKind ∧ plan.decisionSource = "Roadex" ∧ host.validatePlan plan = .ok () := by
  unfold ApprovalStore.loadRoadexHumanPlan at h
  split at h
  · cases h
  · rename_i row hget
    obtain ⟨_,hid,h⟩ := except_bind_ok h
    obtain ⟨_,hkind,h⟩ := except_bind_ok h
    obtain ⟨_,hsource,h⟩ := except_bind_ok h
    split at h
    · rename_i hvalid
      cases h
      exact ⟨hget,check_ok hid,check_ok hkind,check_ok hsource,hvalid⟩
    · cases h

theorem loadRoadexHumanPlan_of {s : ApprovalStore} {id : String} {plan : HumanDecisionPlan}
    (hget : s.backupProvisioningPlans.get? id = some plan) (hid : plan.planId = id) (hkind : plan.kind = Provisioning.planKind)
    (hsource : plan.decisionSource = "Roadex") (hvalid : host.validatePlan plan = .ok ()) :
    s.loadRoadexHumanPlan host id = .ok plan := by
  unfold ApprovalStore.loadRoadexHumanPlan
  rw [hget]
  simp only
  rw [check_of hid,check_of hkind,check_of hsource,hvalid]
  rfl

theorem loadRoadexApprovalFixture_ok {s : ApprovalStore} {id : String} {fixture : RoadexApprovalFixture}
    (h : s.loadRoadexApprovalFixture id = .ok fixture) : s.roadexApprovalFixtures.get? id = some fixture ∧ fixture.id = id := by
  unfold ApprovalStore.loadRoadexApprovalFixture at h
  split at h
  · cases h
  · rename_i row hget
    obtain ⟨_,hid,h⟩ := except_bind_ok h
    cases h
    exact ⟨hget,check_ok hid⟩

/-- A lifecycle change leaves the bindings, and every source as readable as it was. -/
theorem Change.keeps (host : RoadexHost) {s s' : ApprovalStore} (h : Change s s') :
    s'.roadexApprovalBindings = s.roadexApprovalBindings ∧ KeepsSources host s s' := by
  cases h with
  | @admin plan plan' hrow hfixed =>
    have hid := id_of_fixedMembers hfixed
    refine ⟨rfl,keepsSources_of (loadsOthers_admin host s plan') fun source hload => ⟨.admin plan',?_,?_⟩⟩
    · rw [loadSource_admin]
      unfold ApprovalStore.loadAdminChangePayload ApprovalStore.saveAdminChangePlan
      rw [Dict.get?_set,if_pos rfl]
      simp only [decodeAdminPlanPayload_dump]
      rfl
    · rw [loadSource_admin] at hload
      obtain ⟨loaded,hloaded,rfl⟩ := map_ok hload
      have hget := loadAdminChangePayload_ok hloaded
      rw [hid,hrow] at hget
      obtain rfl := dump_injective (Option.some.inj hget)
      change host.sourceDigest plan' = host.sourceDigest plan
      rw [sourceDigest_fixed,sourceDigest_fixed,hfixed]
  | @human plan plan' hrow hsame =>
    refine ⟨rfl,keepsSources_of (loadsOthers_human host s plan') fun source hload => ?_⟩
    rw [loadSource_human] at hload
    obtain ⟨loaded,hloaded,rfl⟩ := map_ok hload
    obtain ⟨hget,hid,hkind,hsource,hvalid⟩ := loadRoadexHumanPlan_ok hloaded
    rw [hsame.planId,hrow] at hget
    obtain rfl := Option.some.inj hget
    have hget' : (s.saveProvisioningPlan plan').backupProvisioningPlans.get? plan'.planId = some plan' := by
      unfold ApprovalStore.saveProvisioningPlan
      rw [Dict.get?_set,if_pos rfl]
    refine ⟨.human plan',?_,hsame.planDigest⟩
    rw [loadSource_human,loadRoadexHumanPlan_of hget' rfl (hsame.kind.trans hkind) (hsame.decisionSource.trans hsource)
      ((validatePlan_same hsame).trans hvalid)]
    rfl
  | @fixture fixture fixture' hrow hid hcreated =>
    refine ⟨rfl,keepsSources_of (loadsOthers_fixture host s fixture') fun source hload => ?_⟩
    rw [loadSource_fixture] at hload
    obtain ⟨loaded,hloaded,rfl⟩ := map_ok hload
    obtain ⟨hget,_⟩ := loadRoadexApprovalFixture_ok hloaded
    rw [hid,hrow] at hget
    obtain rfl := Option.some.inj hget
    refine ⟨.fixture fixture',?_,?_⟩
    · rw [loadSource_fixture]
      unfold ApprovalStore.loadRoadexApprovalFixture
      rw [Dict.get?_set,if_pos rfl]
      simp only
      rw [check_of trivial]
      rfl
    · change host.digest fixture'.evidence = host.digest fixture.evidence
      unfold RoadexApprovalFixture.evidence
      rw [hid,hcreated]

/-! ### Bindings that are backed -/

/-- The row is that of a valid binding, whose source is there under its digest. -/
structure Backed (host : RoadexHost) (s : ApprovalStore) (ref : String) (row : BindingRow) (b : RoadexApprovalBinding) : Prop where
  row : row = ⟨b.sourceKind,b.sourceId,b.dump⟩
  ref : b.approvalRef = ref
  valid : RoadexApprovalBinding.validate host b = .ok ()
  source : ∃ source, s.loadSource host b.sourceKind b.sourceId = .ok source ∧
    b.scopeDigest = host.scopeDigest b.toRoadexApprovalBindingDraft (host.exactSourceEvidenceDigest source)

/-- Every binding is backed. -/
def AllBacked (host : RoadexHost) (s : ApprovalStore) : Prop :=
  ∀ ref row, s.roadexApprovalBindings.get? ref = some row → ∃ b, Backed host s ref row b

namespace Backed
variable {s s' : ApprovalStore} {ref : String} {row : BindingRow} {b : RoadexApprovalBinding}

theorem keeps (h : Backed host s ref row b) (hkeeps : KeepsSources host s s') : Backed host s' ref row b := by
  obtain ⟨hrow,href,hvalid,source,hload,hdigest⟩ := h
  obtain ⟨source',hload',hsame⟩ := hkeeps _ _ _ hload
  exact ⟨hrow,href,hvalid,source',hload',by rw [hsame,hdigest]⟩

theorem load (h : Backed host s ref row b) (hget : s.roadexApprovalBindings.get? ref = some row) :
    loadExistingBinding host s ref = .ok (some b) := by
  have hload : s.loadRoadexApprovalBinding host ref = .ok b := by
    unfold ApprovalStore.loadRoadexApprovalBinding
    rw [hget]
    simp only [h.row,decode_dump h.valid,bind,Except.bind]
    rw [check_of trivial,check_of h.ref]
    rfl
  unfold loadExistingBinding
  rw [hload]

end Backed

theorem exists_of_load {s : ApprovalStore} {kind id : String} {source : Source} (h : s.loadSource host kind id = .ok source) :
    s.sourceExists kind id = true := by
  unfold ApprovalStore.loadSource at h
  unfold ApprovalStore.sourceExists
  split at h
  · rename_i hkind
    obtain ⟨plan,hload,-⟩ := map_ok h
    rw [if_pos hkind,loadAdminChangePayload_ok hload]
    rfl
  · rename_i hkind
    rw [if_neg hkind]
    split at h
    · rename_i hhuman
      obtain ⟨plan,hload,-⟩ := map_ok h
      rw [if_pos hhuman,(loadRoadexHumanPlan_ok hload).1]
      rfl
    · rename_i hhuman
      rw [if_neg hhuman]
      split at h
      · obtain ⟨fixture,hload,-⟩ := map_ok h
        rw [(loadRoadexApprovalFixture_ok hload).1]
        rfl
      · cases h

/-! ### What a call does -/

section Call
variable {now : host.Instant} {draft : RoadexApprovalBindingDraft} {saveSource : ApprovalStore → Check (List Source)}
  {s s' : ApprovalStore} {b : RoadexApprovalBinding}

theorem stageCall_ok (h : stageBoundRoadexApproval host now draft saveSource s = .ok (b,s')) :
    stageCall host now draft saveSource s = (.ok b,s') := by
  unfold stageCall
  rw [h]

theorem stage_of_call (h : stageCall host now draft saveSource s = (.ok b,s')) :
    stageBoundRoadexApproval host now draft saveSource s = .ok (b,s') := by
  unfold stageCall at h
  split at h
  · rename_i hok
    cases h
    exact hok
  · cases h

/-- A call that finds a binding. -/
structure Replays (host : RoadexHost) (draft : RoadexApprovalBindingDraft) (s : ApprovalStore) (b : RoadexApprovalBinding)
    (s' : ApprovalStore) : Prop where
  existing : loadExistingBinding host s draft.approvalRef = .ok (some b)
  draft : b.toRoadexApprovalBindingDraft = draft
  store : s' = s

/-- A call that binds: the source was not there, and the callback saved it. -/
structure BindsNew (host : RoadexHost) (now : host.Instant) (draft : RoadexApprovalBindingDraft)
    (saveSource : ApprovalStore → Check (List Source)) (s : ApprovalStore) (b : RoadexApprovalBinding) (s' : ApprovalStore)
    (sources : List Source) (saved : ApprovalStore) (source : Source) : Prop where
  unbound : loadExistingBinding host s draft.approvalRef = .ok none
  fresh : s.sourceExists draft.sourceKind draft.sourceId = false
  called : saveSource s = .ok sources
  saves : s.saveSources sources = .ok saved
  loaded : saved.loadSource host draft.sourceKind draft.sourceId = .ok source
  stored : saved.saveRoadexApprovalBinding host
    (host.bindingFromDraft draft (host.exactSourceEvidenceDigest source) (host.isoformat now)) = .ok (b,s')

/-- A call that returns checked its draft, and replays or binds. -/
theorem stage_cases (h : stageBoundRoadexApproval host now draft saveSource s = .ok (b,s')) :
    validateApprovalBindingDraft draft = .ok () ∧ (Replays host draft s b s' ∨
      ∃ sources saved source, BindsNew host now draft saveSource s b s' sources saved source) := by
  unfold stageBoundRoadexApproval at h
  obtain ⟨_,hdraft,h⟩ := except_bind_ok h
  obtain ⟨existing,hexisting,h⟩ := except_bind_ok h
  refine ⟨hdraft,?_⟩
  cases existing with
  | some existing =>
    obtain ⟨source,_,h⟩ := except_bind_ok h
    obtain ⟨_,hreplayed,h⟩ := except_bind_ok h
    cases h
    refine .inl ⟨hexisting,?_,rfl⟩
    rw [check_ok hreplayed]
    rfl
  | none =>
    obtain ⟨_,hfresh,h⟩ := except_bind_ok h
    obtain ⟨sources,hcalled,h⟩ := except_bind_ok h
    obtain ⟨saved,hsaved,h⟩ := except_bind_ok h
    obtain ⟨source,hsource,h⟩ := except_bind_ok h
    obtain ⟨_,_,h⟩ := except_bind_ok h
    exact .inr ⟨sources,saved,source,hexisting,check_ok hfresh,hcalled,hsaved,hsource,h⟩

theorem saveRoadexApprovalBinding_ok {binding : RoadexApprovalBinding}
    (hunbound : s.roadexApprovalBindings.get? binding.approvalRef = none)
    (h : s.saveRoadexApprovalBinding host binding = .ok (b,s')) :
    b = binding ∧ RoadexApprovalBinding.validate host binding = .ok () ∧ s' = { s with
      roadexApprovalBindings := s.roadexApprovalBindings.set binding.approvalRef
        ⟨binding.sourceKind,binding.sourceId,binding.dump⟩ } := by
  obtain ⟨_,hvalid,h⟩ := except_bind_ok h
  simp only [hunbound] at h
  cases h
  exact ⟨rfl,hvalid,rfl⟩

theorem unbound_of_none (hs : AllBacked host s) {ref : String} (h : loadExistingBinding host s ref = .ok none) :
    s.roadexApprovalBindings.get? ref = none := by
  cases hget : s.roadexApprovalBindings.get? ref with
  | none => rfl
  | some row =>
    obtain ⟨b,hb⟩ := hs ref row hget
    rw [hb.load hget] at h
    cases h

/-- A call that binds adds its binding, backed by the source that the callback saved. -/
theorem BindsNew.backed {sources : List Source} {saved : ApprovalStore} {source : Source} (hs : AllBacked host s)
    (hown : SavesOwn draft saveSource) (h : BindsNew host now draft saveSource s b s' sources saved source) :
    s.roadexApprovalBindings.get? draft.approvalRef = none ∧ b.toRoadexApprovalBindingDraft = draft ∧ AllBacked host s' ∧
      ∃ row, s'.roadexApprovalBindings = s.roadexApprovalBindings.set draft.approvalRef row ∧
        Backed host s' draft.approvalRef row b := by
  have hunbound := unbound_of_none hs h.unbound
  obtain ⟨hbindings,hothers⟩ := saveSources_frame host h.saves
  have hunbound' : saved.roadexApprovalBindings.get? draft.approvalRef = none := by
    rw [hbindings]
    exact hunbound
  obtain ⟨rfl,hvalid,rfl⟩ := saveRoadexApprovalBinding_ok hunbound' h.stored
  have hnew : Backed host { saved with
      roadexApprovalBindings := saved.roadexApprovalBindings.set draft.approvalRef
        ⟨draft.sourceKind,draft.sourceId,(host.bindingFromDraft draft (host.exactSourceEvidenceDigest source)
          (host.isoformat now)).dump⟩ } draft.approvalRef ⟨draft.sourceKind,draft.sourceId,(host.bindingFromDraft draft
          (host.exactSourceEvidenceDigest source) (host.isoformat now)).dump⟩
        (host.bindingFromDraft draft (host.exactSourceEvidenceDigest source) (host.isoformat now)) :=
    ⟨rfl,rfl,hvalid,source,h.loaded,rfl⟩
  refine ⟨hunbound,rfl,fun ref row hget => ?_,_,by rw [← hbindings]; rfl,hnew⟩
  simp only [RoadexHost.bindingFromDraft,Dict.get?_set] at hget
  split at hget
  · rename_i hsame
    subst hsame
    obtain rfl := Option.some.inj hget
    exact ⟨_,hnew⟩
  · rw [hbindings] at hget
    obtain ⟨b₀,hb₀⟩ := hs ref row hget
    obtain ⟨hrow,href,hvalid₀,source₀,hload,hdigest⟩ := hb₀
    -- an older binding has its source in the store, so the callback saved another one
    have hother : ∀ x ∈ sources, ¬(x.kind = b₀.sourceKind ∧ x.id = b₀.sourceId) := by
      rintro x hx ⟨hkind,hid⟩
      obtain ⟨hkind',hid'⟩ := hown s sources h.called x hx
      have hexists := exists_of_load hload
      rw [← hkind,← hid,hkind',hid',h.fresh] at hexists
      cases hexists
    refine ⟨b₀,hrow,href,hvalid₀,source₀,?_,hdigest⟩
    exact (hothers _ _ hother).trans hload

theorem BindsNew.store {sources : List Source} {saved : ApprovalStore} {source : Source} (hs : AllBacked host s)
    (h : BindsNew host now draft saveSource s b s' sources saved source) : s' = { saved with
      roadexApprovalBindings := s.roadexApprovalBindings.set draft.approvalRef ⟨b.sourceKind,b.sourceId,b.dump⟩ } := by
  obtain ⟨hbindings,-⟩ := saveSources_frame host h.saves
  have hunbound : saved.roadexApprovalBindings.get? draft.approvalRef = none := by
    rw [hbindings]
    exact unbound_of_none hs h.unbound
  obtain ⟨rfl,-,rfl⟩ := saveRoadexApprovalBinding_ok hunbound h.stored
  rw [← hbindings]
  rfl

/-- After a call that returned, its binding has a backed row. -/
theorem stage_bound (hs : AllBacked host s) (hown : SavesOwn draft saveSource)
    (h : stageBoundRoadexApproval host now draft saveSource s = .ok (b,s')) : ∃ row,
      s'.roadexApprovalBindings.get? draft.approvalRef = some row ∧ Backed host s' draft.approvalRef row b ∧ AllBacked host s' ∧
        b.toRoadexApprovalBindingDraft = draft := by
  rcases (stage_cases h).2 with hreplay | ⟨sources,saved,source,hnew⟩
  · obtain ⟨hexisting,hsame,rfl⟩ := hreplay
    cases hget : s'.roadexApprovalBindings.get? draft.approvalRef with
    | none =>
      unfold loadExistingBinding ApprovalStore.loadRoadexApprovalBinding at hexisting
      rw [hget] at hexisting
      cases hexisting
    | some row =>
      obtain ⟨b',hb'⟩ := hs _ row hget
      rw [hb'.load hget] at hexisting
      cases hexisting
      exact ⟨row,rfl,hb',hs,hsame⟩
  · obtain ⟨-,hsame,hbacked,row,hset,hb⟩ := hnew.backed hs hown
    refine ⟨row,?_,hb,hbacked,hsame⟩
    rw [hset,Dict.get?_set,if_pos rfl]

end Call

/-! ### Runs -/

/-- The bindings that are there stay as they are. -/
def BindingsKept (s s' : ApprovalStore) : Prop :=
  ∀ ref row, s.roadexApprovalBindings.get? ref = some row → s'.roadexApprovalBindings.get? ref = some row

theorem Step.backed {s s' : ApprovalStore} (hs : AllBacked host s) (h : Step host s s') : AllBacked host s' ∧ BindingsKept s s' := by
  cases h with
  | @stage now draft saveSource hown =>
    unfold stageCall
    split
    · rename_i b after hstaged
      rcases (stage_cases hstaged).2 with hreplay | ⟨sources,saved,source,hnew⟩
      · obtain rfl := hreplay.store
        exact ⟨hs,fun _ _ hget => hget⟩
      · obtain ⟨hunbound,-,hbacked,row,hset,-⟩ := hnew.backed hs hown
        refine ⟨hbacked,fun ref row' hget => ?_⟩
        have hne : ref ≠ draft.approvalRef := by
          rintro rfl
          rw [hunbound] at hget
          cases hget
        change after.roadexApprovalBindings.get? ref = some row'
        rw [hset,Dict.get?_set,if_neg hne]
        exact hget
    · exact ⟨hs,fun _ _ hget => hget⟩
  | change hchange =>
    obtain ⟨hbindings,hkeeps⟩ := hchange.keeps host
    refine ⟨fun ref row hget => ?_,fun ref row hget => ?_⟩
    · rw [hbindings] at hget
      obtain ⟨b,hb⟩ := hs ref row hget
      exact ⟨b,hb.keeps hkeeps⟩
    · rw [hbindings]
      exact hget

theorem Steps.backed {s s' : ApprovalStore} (hs : AllBacked host s) (h : Steps host s s') : AllBacked host s' ∧ BindingsKept s s' := by
  induction h with
  | refl => exact ⟨hs,fun _ _ hget => hget⟩
  | tail _ hstep ih =>
    obtain ⟨hmid,hkept⟩ := ih
    obtain ⟨hbacked,hkept'⟩ := hstep.backed hmid
    exact ⟨hbacked,fun ref row hget => hkept' ref row (hkept ref row hget)⟩

/-- A call for the draft of a backed binding returns it, whatever the callback would do. -/
theorem Backed.replays {s : ApprovalStore} {row : BindingRow} {b : RoadexApprovalBinding} {draft : RoadexApprovalBindingDraft}
    (h : Backed host s draft.approvalRef row b) (hget : s.roadexApprovalBindings.get? draft.approvalRef = some row)
    (hdraft : validateApprovalBindingDraft draft = .ok ()) (hsame : b.toRoadexApprovalBindingDraft = draft) (now : host.Instant)
    (saveSource : ApprovalStore → Check (List Source)) : stageCall host now draft saveSource s = (.ok b,s) := by
  obtain ⟨source,hload,hdigest⟩ := h.source
  have hreplayed : host.validateReplayedBinding b draft source = .ok () := by
    refine check_of ?_
    obtain ⟨_,_,_⟩ := b
    subst hsame
    unfold RoadexHost.bindingFromDraft
    exact congrArg (fun digest => RoadexApprovalBinding.mk _ digest _) hdigest
  have hstaged : stageBoundRoadexApproval host now draft saveSource s = .ok (b,s) := by
    unfold stageBoundRoadexApproval
    rw [hdraft,h.load hget]
    simp only [bind,Except.bind]
    rw [show draft.sourceKind = b.sourceKind by rw [← hsame],show draft.sourceId = b.sourceId by rw [← hsame],hload]
    simp only [hreplayed]
    rfl
  exact stageCall_ok hstaged

/-- The binding is the stored one of the draft, of a source that is read back under its digest. -/
structure StoredBinding (host : RoadexHost) (draft : RoadexApprovalBindingDraft) (s : ApprovalStore) (b : RoadexApprovalBinding) : Prop where
  loaded : loadExistingBinding host s draft.approvalRef = .ok (some b)
  same : b.toRoadexApprovalBindingDraft = draft
  source : ∃ source, s.loadSource host draft.sourceKind draft.sourceId = .ok source ∧
    b.scopeDigest = host.scopeDigest draft (host.exactSourceEvidenceDigest source)

/-- A call that stored its binding: neither it nor its source was there, and the callback saved the source. -/
def StoresNew (draft : RoadexApprovalBindingDraft) (saveSource : ApprovalStore → Check (List Source)) (s : ApprovalStore)
    (b : RoadexApprovalBinding) (s' : ApprovalStore) : Prop :=
  s.roadexApprovalBindings.get? draft.approvalRef = none ∧ s.sourceExists draft.sourceKind draft.sourceId = false ∧
    ∃ sources saved, saveSource s = .ok sources ∧ s.saveSources sources = .ok saved ∧ s' = { saved with
      roadexApprovalBindings := s.roadexApprovalBindings.set draft.approvalRef ⟨b.sourceKind,b.sourceId,b.dump⟩ }

theorem storedBinding_of_stage {now : host.Instant} {draft : RoadexApprovalBindingDraft}
    {saveSource : ApprovalStore → Check (List Source)} {s s' : ApprovalStore} {b : RoadexApprovalBinding} (hs : AllBacked host s)
    (hown : SavesOwn draft saveSource) (h : stageBoundRoadexApproval host now draft saveSource s = .ok (b,s')) :
    StoredBinding host draft s' b := by
  obtain ⟨row,hget,hb,-,hsame⟩ := stage_bound hs hown h
  obtain ⟨source,hload,hdigest⟩ := hb.source
  subst hsame
  exact ⟨hb.load hget,rfl,source,hload,hdigest⟩

theorem stores_of_stage {now : host.Instant} {draft : RoadexApprovalBindingDraft}
    {saveSource : ApprovalStore → Check (List Source)} {s s' : ApprovalStore} {b : RoadexApprovalBinding} (hs : AllBacked host s)
    (h : stageBoundRoadexApproval host now draft saveSource s = .ok (b,s')) : s' = s ∨ StoresNew draft saveSource s b s' := by
  rcases (stage_cases h).2 with hreplay | ⟨sources,saved,source,hnew⟩
  · exact .inl hreplay.store
  · have hunbound : s.roadexApprovalBindings.get? draft.approvalRef = none := unbound_of_none hs hnew.unbound
    exact .inr ⟨hunbound,hnew.fresh,sources,saved,hnew.called,hnew.saves,hnew.store hs⟩

/-- What holds in a state of a run. -/
structure BoundOnce (host : RoadexHost) (s : ApprovalStore) : Prop where
  /-- An approval has one row at most, and it stays as it is. -/
  immutable : ∀ s', Steps host s s' → BindingsKept s s'
  /-- A call that raises leaves the sources and the bindings. -/
  atomic : ∀ now draft saveSource e, (stageCall host now draft saveSource s).1 = .error e → (stageCall host now draft saveSource s).2 = s
  /-- A source that was there before the call is not bound by it. -/
  fresh : ∀ now draft saveSource, s.sourceExists draft.sourceKind draft.sourceId = true →
    s.roadexApprovalBindings.get? draft.approvalRef = none → ∃ e, (stageCall host now draft saveSource s).1 = .error e
  /-- A call that returned a binding found it, or stored it with its source. -/
  stored : ∀ now draft saveSource b s', SavesOwn draft saveSource → stageCall host now draft saveSource s = (.ok b,s') →
    StoredBinding host draft s' b ∧ (s' = s ∨ StoresNew draft saveSource s b s')
  /-- After a call that returned, the same call returns the same binding and saves nothing. -/
  repeated : ∀ now draft saveSource b s', SavesOwn draft saveSource → stageCall host now draft saveSource s = (.ok b,s') →
    ∀ s'', Steps host s' s'' → ∀ now' saveSource', stageCall host now' draft saveSource' s'' = (.ok b,s'')

/-- From a store without bindings, in whatever order calls and lifecycle changes come. -/
theorem binding_once {s₀ s : ApprovalStore} (h₀ : s₀.roadexApprovalBindings = .empty) (h : Steps host s₀ s) : BoundOnce host s := by
  have hs₀ : AllBacked host s₀ := by
    intro ref row hget
    rw [h₀] at hget
    cases hget
  have hs := (h.backed hs₀).1
  constructor
  · exact fun s' h' => (h'.backed hs).2
  · intro now draft saveSource e he
    unfold stageCall at he ⊢
    cases hstaged : stageBoundRoadexApproval host now draft saveSource s with
    | ok result =>
      rw [hstaged] at he
      cases he
    | error e' => rfl
  · intro now draft saveSource hexists hunbound
    unfold stageCall
    cases hstaged : stageBoundRoadexApproval host now draft saveSource s with
    | error e => exact ⟨e,rfl⟩
    | ok result =>
      rcases (stage_cases hstaged).2 with hreplay | ⟨sources,saved,source,hnew⟩
      · have hexisting := hreplay.existing
        unfold loadExistingBinding ApprovalStore.loadRoadexApprovalBinding at hexisting
        rw [hunbound] at hexisting
        cases hexisting
      · rw [hnew.fresh] at hexists
        cases hexists
  · intro now draft saveSource b s' hown hcall
    exact ⟨storedBinding_of_stage hs hown (stage_of_call hcall),stores_of_stage hs (stage_of_call hcall)⟩
  · intro now draft saveSource b s' hown hcall s'' hsteps now' saveSource'
    have hstaged := stage_of_call hcall
    obtain ⟨row,hget,hb,hs',hsame⟩ := stage_bound hs hown hstaged
    obtain ⟨hs'',hkept⟩ := hsteps.backed hs'
    have hget'' := hkept _ _ hget
    obtain ⟨b'',hb''⟩ := hs'' _ _ hget''
    have hsameBinding : b'' = b := by
      have hdump : b''.dump = b.dump := (congrArg BindingRow.payload hb''.row).symm.trans (congrArg BindingRow.payload hb.row)
      have hdecode := decode_dump hb''.valid
      rw [hdump,decode_dump hb.valid] at hdecode
      exact (Except.ok.inj hdecode).symm
    subst hsameBinding
    exact hb''.replays hget'' (stage_cases hstaged).1 hsame now' saveSource'

theorem approvedFirst_taken : (LifecycleStep.applyAll [approvedFirst] restartPlan).toBool = true := by decide +kernel

/-- A restart is bound, its plan is approved, and it is bound again by a callback that raises. -/
theorem binding_once_restart : ∃ b s₁ s p,
    stageCall twoDays false restartDraft (fun _ => .ok [.admin restartPlan]) {} = (.ok b,s₁) ∧
    StoredBinding twoDays restartDraft s₁ b ∧ s₁.lifecycle restartPlan.id approvedFirst = .ok s ∧
    s.loadAdminChangePlan restartPlan.id = .ok p ∧ p.approved = true ∧
    stageCall twoDays true restartDraft (fun _ => .error (.value "not saved")) s = (.ok b,s) := by
  obtain ⟨b,s₁,s,p,hb,hplay,hsteps,hbound,-⟩ := restart_played approvedFirst_taken
  obtain ⟨hdraft,plan,hbound₁,-⟩ := hb.bound
  have hcall := stageCall_ok hb.staged
  have hown : SavesOwn restartDraft fun _ => .ok [.admin restartPlan] := by
    intro s' sources hsources source hsource
    cases hsources
    obtain rfl := List.mem_singleton.mp hsource
    exact ⟨rfl,rfl⟩
  have hsourceId : b.sourceId = restartPlan.id := congrArg RoadexApprovalBindingDraft.sourceId hdraft
  have hlifecycle : s₁.lifecycle restartPlan.id approvedFirst = .ok s := by
    obtain ⟨s',hstep,hrest⟩ := except_bind_ok hplay
    cases hrest
    exact hstep
  have hchange : Change s₁ s := by
    have hid : plan.id = restartPlan.id := hbound₁.id.trans hsourceId
    refine lifecycle_change ?_ (hid ▸ hlifecycle)
    rw [hbound₁.id]
    exact hbound₁.plan
  have happroved : p.approved = true := by
    have hp : (LifecycleStep.applyAll [approvedFirst] restartPlan).toOption.map (·.approved) = some true := by decide +kernel
    rw [hsteps] at hp
    exact Option.some.inj hp
  have honce : BoundOnce twoDays {} := binding_once rfl .refl
  exact ⟨b,s₁,s,p,hcall,(honce.stored false restartDraft _ b s₁ hown hcall).1,hlifecycle,hsourceId ▸ hbound.load,happroved,
    honce.repeated false restartDraft _ b s₁ hown hcall s (.single (.change hchange)) true _⟩

end Overseer.Roadex
