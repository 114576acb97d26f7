import Overseer.Library.Folds
import Mathlib.Data.Finset.Basic
import Mathlib.Data.Int.Order.Basic
import Mathlib.Data.Char

/-! # Maintenance windows

A plan is scheduled against the active plans it shares a resource with. Its window is compared
with theirs by the text of the timestamps, whatever instants these stand for.
-/
namespace Overseer.Core
open Overseer.Library

structure MaintenanceWindow where
  startsAt : String
  endsAt : String
  exclusive : Bool := true

structure MaintenancePlan where
  id : String
  resourceId : String
  window : MaintenanceWindow
  affectedResourceIds : Finset String := ∅
  dependencyIds : Finset String := ∅

inductive ScheduledWorkStatus where
  | ready | waiting | blocked | escalated
  deriving DecidableEq

structure ScheduledWork where
  id : String
  ownerThread : String
  resourceId : String
  status : ScheduledWorkStatus
  reason : String
  scheduledFor : Option String := none
  blockingIds : List String := []

def MaintenancePlan.allResourceIds (plan : MaintenancePlan) : Finset String :=
  {plan.resourceId} ∪ plan.affectedResourceIds ∪ plan.dependencyIds

/-- `<` of two Python strings compares their code points. -/
def before (a b : String) : Bool := a.toList < b.toList

def windowsOverlap (left right : MaintenanceWindow) : Bool := before left.startsAt right.endsAt && before right.startsAt left.endsAt

namespace MaintenancePlan

/-- Whether an active plan is compared with a plan at all. -/
def comparedWith (plan active : MaintenancePlan) : Bool :=
  plan.window.exclusive && active.window.exclusive && (plan.allResourceIds ∩ active.allResourceIds).Nonempty

def conflictsWith (plan active : MaintenancePlan) : Bool := plan.comparedWith active && windowsOverlap plan.window active.window

end MaintenancePlan

def maintenanceWindowConflicts (plan : MaintenancePlan) (activePlans : List MaintenancePlan) : List String :=
  (activePlans.filter plan.conflictsWith).map (·.id)

def scheduleMaintenanceWindow (plan : MaintenancePlan) (activePlans : List MaintenancePlan) : ScheduledWork :=
  match maintenanceWindowConflicts plan activePlans with
  | [] => {
    id := plan.id
    ownerThread := "maintenance"
    resourceId := plan.resourceId
    status := .ready
    reason := "maintenance window is available"
    scheduledFor := some plan.window.startsAt }
  | blockers => {
    id := plan.id
    ownerThread := "maintenance"
    resourceId := plan.resourceId
    status := .waiting
    reason := "exclusive maintenance window overlaps active plan"
    scheduledFor := some plan.window.endsAt
    blockingIds := blockers }

namespace Maintenance

/-- A plan becomes active when it is reported ready. -/
def start (active : List MaintenancePlan) (plan : MaintenancePlan) : List MaintenancePlan :=
  if (scheduleMaintenanceWindow plan active).status = .ready then active ++ [plan] else active

def run (plans : List MaintenancePlan) : List MaintenancePlan := plans.foldl start []

/-! ### What is reported -/

section Reports
variable {plan : MaintenancePlan} {active : List MaintenancePlan}

theorem ready_iff : (scheduleMaintenanceWindow plan active).status = .ready ↔ ∀ a ∈ active, plan.conflictsWith a = false := by
  have hnil : maintenanceWindowConflicts plan active = [] ↔ ∀ a ∈ active, plan.conflictsWith a = false := by
    simp [maintenanceWindowConflicts,List.filter_eq_nil_iff]
  rw [← hnil]
  unfold scheduleMaintenanceWindow
  cases maintenanceWindowConflicts plan active with
  | nil => exact ⟨fun _ => rfl,fun _ => rfl⟩
  | cons id ids => exact ⟨nofun,nofun⟩

theorem waiting_names (h : (scheduleMaintenanceWindow plan active).status = .waiting) :
    ∃ a ∈ active, a.id ∈ (scheduleMaintenanceWindow plan active).blockingIds ∧ plan.conflictsWith a = true := by
  have hnot : ¬ (scheduleMaintenanceWindow plan active).status = .ready := by
    rw [h]
    nofun
  rw [ready_iff] at hnot
  obtain ⟨a,ha,hconflicts⟩ : ∃ a ∈ active, plan.conflictsWith a = true := by
    by_contra hnone
    exact hnot fun a ha => Bool.eq_false_iff.mpr fun hconflicts => hnone ⟨a,ha,hconflicts⟩
  refine ⟨a,ha,?_,hconflicts⟩
  have hnamed : a.id ∈ maintenanceWindowConflicts plan active := List.mem_map_of_mem (List.mem_filter.mpr ⟨ha,hconflicts⟩)
  unfold scheduleMaintenanceWindow
  generalize maintenanceWindowConflicts plan active = blockers at hnamed
  cases blockers with
  | nil => cases hnamed
  | cons id ids => exact hnamed

theorem mem_of_mem_run {plans : List MaintenancePlan} {p : MaintenancePlan} (h : p ∈ run plans) : p ∈ plans := by
  induction plans using List.reverseRecOn with
  | nil => cases h
  | append_singleton plans plan ih =>
    rw [run,foldl_concat] at h
    unfold start at h
    split at h
    · rcases List.mem_append.mp h with h | h
      · exact List.mem_append_left _ (ih h)
      · exact List.mem_append_right _ h
    · exact List.mem_append_left _ (ih h)

theorem comparedWith_comm (p q : MaintenancePlan) : p.comparedWith q = q.comparedWith p := by
  simp only [MaintenancePlan.comparedWith,Finset.inter_comm p.allResourceIds,Bool.and_comm p.window.exclusive]

end Reports

/-! ### Windows as time -/

section Time
variable (instant : String → ℤ)

/-- The instants of a window. -/
def interval (w : MaintenanceWindow) : Set ℤ := {t | instant w.startsAt ≤ t ∧ t < instant w.endsAt}

/-- Two windows have an instant in common. -/
def Overlap (v w : MaintenanceWindow) : Prop := (interval instant v ∩ interval instant w).Nonempty

/-- The comparison of the texts says what is true of the instants. -/
def ComparesTime (v w : MaintenanceWindow) : Prop := windowsOverlap v w = true ↔ Overlap instant v w

variable {instant}

theorem Overlap.symm {v w : MaintenanceWindow} (h : Overlap instant v w) : Overlap instant w v := by
  rwa [Overlap,Set.inter_comm]

theorem overlap_iff {v w : MaintenanceWindow} : Overlap instant v w ↔
    (instant v.startsAt < instant v.endsAt ∧ instant w.startsAt < instant v.endsAt) ∧
      instant v.startsAt < instant w.endsAt ∧ instant w.startsAt < instant w.endsAt := by
  constructor
  · rintro ⟨t,⟨hv,hv'⟩,hw,hw'⟩
    exact ⟨⟨hv.trans_lt hv',hw.trans_lt hv'⟩,hv.trans_lt hw',hw.trans_lt hw'⟩
  · rintro ⟨⟨hv,hwv⟩,hvw,hw⟩
    -- the later of the two starts is in both
    exact ⟨max (instant v.startsAt) (instant w.startsAt),⟨le_max_left _ _,max_lt hv hwv⟩,le_max_right _ _,max_lt hvw hw⟩

/-- No two active plans on a common resource have an instant in common. -/
def Exclusive (instant : String → ℤ) (active : List MaintenancePlan) : Prop :=
  active.Pairwise fun p q => p.comparedWith q = true → ¬ Overlap instant p.window q.window

theorem Exclusive.start {active : List MaintenancePlan} {plan : MaintenancePlan} (h : Exclusive instant active)
    (hcompares : ∀ a ∈ active, plan.comparedWith a = true → ComparesTime instant plan.window a.window) :
    Exclusive instant (start active plan) := by
  unfold Maintenance.start
  split
  · next hready =>
    refine List.pairwise_append.mpr ⟨h,List.pairwise_singleton _ _,fun a ha p hp hcompared hoverlap => ?_⟩
    obtain rfl := List.mem_singleton.mp hp
    rw [comparedWith_comm] at hcompared
    have hconflicts := ready_iff.mp hready a ha
    rw [MaintenancePlan.conflictsWith,hcompared,Bool.true_and] at hconflicts
    exact absurd ((hcompares a ha hcompared).mpr hoverlap.symm) (by rw [hconflicts]; nofun)
  · exact h

/-- Where every window that is compared compares as its instants do, the active plans never overlap and a plan that waits
overlaps a plan it is told. -/
theorem windows_never_overlap (plans : List MaintenancePlan)
    (h : ∀ pre plan, pre ++ [plan] <+: plans → ∀ a ∈ run pre, plan.comparedWith a = true → ComparesTime instant plan.window a.window) :
    (∀ pre, pre <+: plans → Exclusive instant (run pre)) ∧
    ∀ pre plan, pre ++ [plan] <+: plans → (scheduleMaintenanceWindow plan (run pre)).status = .waiting →
      ∃ a ∈ run pre, a.id ∈ (scheduleMaintenanceWindow plan (run pre)).blockingIds ∧ plan.comparedWith a = true ∧
        Overlap instant plan.window a.window := by
  refine ⟨fun pre => ?_,fun pre plan hpre hwaiting => ?_⟩
  · induction pre using List.reverseRecOn with
    | nil => exact fun _ => List.Pairwise.nil
    | append_singleton pre plan ih =>
      intro hpre
      rw [run,foldl_concat]
      exact (ih ((List.prefix_append pre [plan]).trans hpre)).start (h pre plan hpre)
  · obtain ⟨a,ha,hnamed,hconflicts⟩ := waiting_names hwaiting
    rw [MaintenancePlan.conflictsWith,Bool.and_eq_true] at hconflicts
    exact ⟨a,ha,hnamed,hconflicts.1,(h pre plan hpre a ha hconflicts.1).mp hconflicts.2⟩

end Time

/-! ### Timestamps with offsets -/

def digits (cs : List Char) : ℤ := cs.foldl (fun n c => 10 * n + ((c.toNat : ℤ) - 48)) 0

/-- The days from the first of March of year zero. -/
def dayNumber (year month day : ℤ) : ℤ :=
  let y := if month ≤ 2 then year - 1 else year
  let m := if month ≤ 2 then month + 9 else month - 3
  365 * y + y / 4 - y / 100 + y / 400 + (153 * m + 2) / 5 + (day - 1)

/-- The instant of `YYYY-MM-DDTHH:MM:SS±HH:MM`, in seconds. -/
def isoInstant (text : String) : ℤ :=
  let field i n := digits ((text.toList.drop i).take n)
  let offset := 3600 * field 20 2 + 60 * field 23 2
  86400 * dayNumber (field 0 4) (field 5 2) (field 8 2) + 3600 * field 11 2 + 60 * field 14 2 + field 17 2 -
    if text.toList[19]? = some '-' then -offset else offset

def restartPlan (id startsAt endsAt : String) : MaintenancePlan where
  id := id
  resourceId := "gateway"
  window := { startsAt, endsAt }

def morning : MaintenancePlan := restartPlan "morning" "2026-07-18T10:00:00+00:00" "2026-07-18T12:00:00+00:00"

def noon : MaintenancePlan := restartPlan "noon" "2026-07-18T12:00:00+00:00" "2026-07-18T13:00:00+00:00"

theorem windows_never_overlap_noon : Exclusive isoInstant (run [morning,noon]) := by
  have hall : ∀ p ∈ [morning,noon], ∀ q ∈ [morning,noon], (windowsOverlap p.window q.window = true ↔
      ((isoInstant p.window.startsAt < isoInstant p.window.endsAt ∧ isoInstant q.window.startsAt < isoInstant p.window.endsAt) ∧
        isoInstant p.window.startsAt < isoInstant q.window.endsAt ∧ isoInstant q.window.startsAt < isoInstant q.window.endsAt)) := by
    decide +kernel
  refine (windows_never_overlap [morning,noon] fun pre plan hpre a ha _ => ?_).1 _ List.prefix_rfl
  have hplan : plan ∈ [morning,noon] := hpre.subset (List.mem_append_right pre List.mem_cons_self)
  have ha' : a ∈ [morning,noon] := hpre.subset (List.mem_append_left _ (mem_of_mem_run ha))
  exact (hall plan hplan a ha').trans overlap_iff.symm

/-- The window from 10:30 to 11:30, written with another offset. -/
def abroad : MaintenancePlan := restartPlan "abroad" "2026-07-18T06:30:00-04:00" "2026-07-18T07:30:00-04:00"

/-- Both plans become active, and the second lies within the first. -/
theorem offset_windows_overlap : run [morning,abroad] = [morning,abroad] ∧ morning.comparedWith abroad = true ∧
    Overlap isoInstant morning.window abroad.window := by
  refine ⟨?_,by decide +kernel,overlap_iff.mpr (by decide +kernel)⟩
  have hfirst : start [] morning = [morning] := if_pos (ready_iff.mpr fun a ha => by cases ha)
  have hready : ∀ a ∈ [morning], abroad.conflictsWith a = false := by decide +kernel
  change start (start [] morning) abroad = _
  rw [hfirst]
  exact if_pos (ready_iff.mpr hready)

end Maintenance
end Overseer.Core
