import Overseer.Quark.PlanBounds
import Mathlib.Data.List.Induction

/-! # Rotation of the projects

While a limit is planned, each project has a lane: its eligible items by priority, of which
some have their whole estimate and the first of the others is being served. The projects that
still have items take turns.
-/
namespace Overseer.Quark
open Overseer.Library Overseer.Agent

instance : Std.Total textLe := ⟨fun a b => le_total a.toList b.toList⟩
instance : IsTrans String textLe := ⟨fun _ _ _ h h' => le_trans (α := List Char) h h'⟩

theorem textLe_antisymm {a b : String} (h : textLe a b) (h' : textLe b a) : a = b :=
  String.toList_inj.mp (le_antisymm (α := List Char) h h')

instance : Std.Total higherPriority := by
  refine ⟨fun a b => ?_⟩
  rcases Nat.lt_trichotomy a.priority b.priority with hlt | heq | hgt
  · exact .inr (.inl hlt)
  · rcases Std.Total.total (r := textLe) a.id b.id with hab | hba
    · exact .inl (.inr ⟨heq,hab⟩)
    · exact .inr (.inr ⟨heq.symm,hba⟩)
  · exact .inl (.inl hgt)

instance : IsTrans AgentWorkItem higherPriority := by
  refine ⟨?_⟩
  rintro a b c (hab | ⟨hab,hid⟩) (hbc | ⟨hbc,hid'⟩)
  · exact .inl (by omega)
  · exact .inl (by omega)
  · exact .inl (by omega)
  · exact .inr ⟨by omega,IsTrans.trans _ _ _ hid hid'⟩

theorem higherPriority_antisymm {a b : AgentWorkItem} (h : higherPriority a b) (h' : higherPriority b a) : a.id = b.id := by
  rcases h with hlt | ⟨heq,hid⟩
  · rcases h' with hgt | ⟨heq',-⟩ <;> omega
  · rcases h' with hgt | ⟨-,hid'⟩
    · omega
    · exact textLe_antisymm hid hid'

/-! ### Lanes -/

/-- The items of one project, in their order. -/
def lane (items : List AgentWorkItem) (projectId : String) : List AgentWorkItem := items.filter (·.projectId = projectId)

/-- The slices that a project has had. -/
def slicesOf (allocations : List WorkAllocation) (projectId : String) : ℕ := allocations.countP (·.projectId = projectId)

/-- The queue of a project. -/
def Round.queueOf (r : Round) (projectId : String) : List AgentWorkItem := (r.byProject.get? projectId).getD []

theorem groupByProject_lane (items : List AgentWorkItem) (p : String) : ((groupByProject items).get? p).getD [] = lane items p := by
  suffices key : ∀ (l : List AgentWorkItem) (d : Dict (List AgentWorkItem)),
      ((l.foldl (fun d item => d.set item.projectId ((d.get? item.projectId).getD [] ++ [item])) d).get? p).getD [] =
        (d.get? p).getD [] ++ lane l p from key items .empty
  intro l
  induction l with
  | nil => exact fun d => (List.append_nil _).symm
  | cons item rest ih =>
    intro d
    rw [List.foldl_cons,ih,Dict.get?_set]
    by_cases hp : p = item.projectId
    · subst hp
      simp [lane]
    · have hp' : ¬ item.projectId = p := fun e => hp e.symm
      simp [lane,hp,hp']

/-- Where the rotation stands. -/
structure Rotating (items : List AgentWorkItem) (r : Round) : Prop where
  lanes : ∀ p, ∃ served, lane items p = served ++ r.queueOf p ∧
    (∀ i ∈ served, unitsOf r.allocations i.id = i.estimatedUnits) ∧
    (∀ i ∈ r.queueOf p, unitsOf r.allocations i.id < i.estimatedUnits) ∧ ∀ i ∈ (r.queueOf p).tail, unitsOf r.allocations i.id = 0
  order : ∀ p, p ∈ r.projectOrder ↔ r.queueOf p ≠ []
  turns : ∃ k front back, r.projectOrder = front ++ back ∧ (∀ p ∈ front, slicesOf r.allocations p = k) ∧
    ∀ p ∈ back, slicesOf r.allocations p = k + 1

/-- The project has an item that lacks some of its estimate. -/
def Unfinished (items : List AgentWorkItem) (allocations : List WorkAllocation) (projectId : String) : Prop :=
  ∃ item ∈ items, item.projectId = projectId ∧ unitsOf allocations item.id < item.estimatedUnits

/-- The slices so far were given fairly: at every moment two unfinished projects are at most one
slice apart, and an item got its slice only after the items before it in its project. -/
structure Scheduled (items : List AgentWorkItem) (allocations : List WorkAllocation) : Prop where
  fair : ∀ pre, pre <+: allocations → ∀ p q, Unfinished items pre p → Unfinished items pre q → slicesOf pre p ≤ slicesOf pre q + 1
  inOrder : ∀ pre a, pre ++ [a] <+: allocations → ∀ item ∈ items, item.id = a.workId → ∀ earlier ∈ items,
    earlier.projectId = item.projectId → earlier.id ≠ item.id → higherPriority earlier item →
    unitsOf pre earlier.id = earlier.estimatedUnits

section Rotation
variable {maxSlice spendable : ℚ} {eligible items : List AgentWorkItem} {r : Round}

theorem Rotating.waits (h : Rotating items r) {p : String} (hp : Unfinished items r.allocations p) : p ∈ r.projectOrder := by
  obtain ⟨item,hitem,rfl,hlt⟩ := hp
  obtain ⟨served,hlane,hserved,-⟩ := h.lanes item.projectId
  have hmem : item ∈ lane items item.projectId := List.mem_filter.mpr ⟨hitem,decide_eq_true rfl⟩
  rw [hlane,List.mem_append] at hmem
  rcases hmem with hmem | hmem
  · exact absurd (hserved item hmem) (ne_of_lt hlt)
  · exact (h.order _).mpr (List.ne_nil_of_mem hmem)

theorem Rotating.fair (h : Rotating items r) {p q : String} (hp : Unfinished items r.allocations p)
    (hq : Unfinished items r.allocations q) : slicesOf r.allocations p ≤ slicesOf r.allocations q + 1 := by
  obtain ⟨k,front,back,horder,hfront,hback⟩ := h.turns
  have hslices : ∀ p ∈ r.projectOrder, slicesOf r.allocations p = k ∨ slicesOf r.allocations p = k + 1 := by
    intro p hp
    rw [horder,List.mem_append] at hp
    exact hp.imp (hfront p) (hback p)
  have hpk := hslices p (h.waits hp)
  have hqk := hslices q (h.waits hq)
  omega

theorem Rotating.behind (h : Rotating items r) {p : String} {rest : List String} (horder : r.projectOrder = p :: rest) :
    ∃ k front back, rest = front ++ back ∧ slicesOf r.allocations p = k ∧ (∀ p ∈ front, slicesOf r.allocations p = k) ∧
      ∀ p ∈ back, slicesOf r.allocations p = k + 1 := by
  obtain ⟨k,front,back,hparts,hfront,hback⟩ := h.turns
  rw [horder] at hparts
  cases front with
  | nil =>
    rw [List.nil_append] at hparts
    subst hparts
    refine ⟨k + 1,rest,[],(List.append_nil _).symm,hback p List.mem_cons_self,fun q hq => hback q (List.mem_cons_of_mem _ hq),?_⟩
    exact fun _ hq => (by cases hq)
  | cons p' front =>
    obtain ⟨rfl,rfl⟩ := List.cons.inj hparts
    exact ⟨k,front,back,rfl,hfront p List.mem_cons_self,fun q hq => hfront q (List.mem_cons_of_mem _ hq),hback⟩

/-- What one pass does: the first project has the head of its queue served. -/
structure Pass (r r' : Round) : Prop where
  served : ∃ p rest item queue units, r.projectOrder = p :: rest ∧ r.queueOf p = item :: queue ∧ 0 < units ∧
    r'.allocations = r.allocations ++ [workAllocation item units] ∧
    r'.queueOf p = (if item.estimatedUnits ≤ unitsOf r'.allocations item.id then queue else item :: queue) ∧
    (∀ p', p' ≠ p → r'.queueOf p' = r.queueOf p') ∧
    r'.projectOrder = if r'.queueOf p = [] then rest else rest ++ [p]

theorem allocateNext_pass (hslice : 0 < maxSlice) (h : RoundOk maxSlice spendable eligible r) (hrotating : Rotating items r)
    (hmore : r.more = true) {r' : Round} (hrun : allocateNext maxSlice r = .ok r') : Pass r r' := by
  simp only [Round.more,decide_eq_true_eq] at hmore
  obtain ⟨havailable,hne⟩ := hmore
  obtain ⟨p,rest,horder⟩ := List.exists_cons_of_ne_nil hne
  obtain ⟨item,queue,hqueue⟩ := h.waiting p (by rw [horder]; exact List.mem_cons_self)
  have hqueueOf : r.queueOf p = item :: queue := by rw [Round.queueOf,hqueue]; rfl
  obtain ⟨served,-,-,hlt,-⟩ := hrotating.lanes p
  have hneeds : unitsOf r.allocations item.id < item.estimatedUnits := hlt item (by rw [hqueueOf]; exact List.mem_cons_self)
  let units := min maxSlice (min (item.estimatedUnits - r.allocated item.id) r.available)
  have hunits : 0 < units := by
    have hrest : 0 < item.estimatedUnits - r.allocated item.id := by
      rw [h.totals]
      linarith
    exact lt_min hslice (lt_min hrest havailable)
  have hgive : r.give item units = { r with
      available := r.available - units
      allocatedByWork := r.allocatedByWork.set item.id (r.allocated item.id + units)
      allocations := r.allocations ++ [workAllocation item units] } := if_pos hunits
  have hallocated : (r.give item units).allocated item.id = unitsOf (r.allocations ++ [workAllocation item units]) item.id := by
    rw [r.give_allocated item hunits,unitsOf_append_one,h.totals]
    rfl
  simp only [allocateNext,horder,hqueue] at hrun
  cases hrun
  refine ⟨p,rest,item,queue,units,horder,hqueueOf,hunits,?_,?_,fun p' hp' => ?_,?_⟩
  · change (r.give item units).allocations = _
    rw [hgive]
  · change (Dict.get? (Dict.set _ p _) p).getD [] = _
    rw [Dict.get?_set,if_pos rfl]
    change (if item.estimatedUnits ≤ (r.give item units).allocated item.id then queue else item :: queue) =
      if item.estimatedUnits ≤ unitsOf (r.give item units).allocations item.id then queue else item :: queue
    rw [hallocated,hgive]
  · change (Dict.get? (Dict.set _ p _) p').getD [] = _
    rw [Dict.get?_set,if_neg hp']
    rfl
  · change _ = if (Dict.get? (Dict.set _ p _) p).getD [] = [] then rest else rest ++ [p]
    rw [Dict.get?_set,if_pos rfl]
    rfl

theorem slicesOf_append_one (l : List WorkAllocation) (a : WorkAllocation) (p : String) :
    slicesOf (l ++ [a]) p = slicesOf l p + if a.projectId = p then 1 else 0 := by
  by_cases h : a.projectId = p <;> simp [slicesOf,h]

theorem rotating_pass (hids : (items.map (·.id)).Nodup) (h : Rotating items r) (hnodup : r.projectOrder.Nodup)
    {r' : Round} (hpass : Pass r r') (hestimate : ∀ i ∈ items, unitsOf r'.allocations i.id ≤ i.estimatedUnits) :
    Rotating items r' := by
  obtain ⟨p,rest,item,queue,units,horder,hqueue,hunits,hallocations,hqueue',hother,horder'⟩ := hpass.served
  have hlaneOf : ∀ (p' : String) {i : AgentWorkItem}, i ∈ lane items p' → i ∈ items ∧ i.projectId = p' :=
    fun p' _ hi => ⟨(List.mem_filter.mp hi).1,of_decide_eq_true (List.mem_filter.mp hi).2⟩
  obtain ⟨served,hlane,hserved,hlt,htail⟩ := h.lanes p
  rw [hqueue] at hlane hlt htail
  have hitem : item ∈ items ∧ item.projectId = p := hlaneOf p (by rw [hlane]; simp)
  -- the other items keep what they have
  have hsame : ∀ i ∈ items, i ≠ item → unitsOf r'.allocations i.id = unitsOf r.allocations i.id := by
    intro i hi hne
    rw [hallocations,unitsOf_append_one,if_neg,add_zero]
    exact fun hid => hne (List.inj_on_of_nodup_map hids hi hitem.1 hid.symm)
  have hlaneNodup : (served ++ item :: queue).Nodup := by
    rw [← hlane]
    exact (hids.of_map _).filter _
  have hp : p ∉ rest := (List.nodup_cons.mp (horder ▸ hnodup)).1
  constructor
  · intro p'
    by_cases hpp : p' = p
    · subst hpp
      have hqueueOnly : ∀ i ∈ queue, i ∈ items ∧ i ≠ item := by
        intro i hi
        refine ⟨(hlaneOf p' (by rw [hlane]; simp [hi])).1,fun heq => ?_⟩
        have hcons := (List.nodup_append.mp hlaneNodup).2.1
        exact (List.nodup_cons.mp hcons).1 (heq ▸ hi)
      have hservedOnly : ∀ i ∈ served, i ∈ items ∧ i ≠ item := by
        intro i hi
        refine ⟨(hlaneOf p' (by rw [hlane]; simp [hi])).1,fun heq => ?_⟩
        exact (List.nodup_append.mp hlaneNodup).2.2 i hi item List.mem_cons_self heq
      have hzero : ∀ i ∈ queue, unitsOf r'.allocations i.id = 0 := by
        intro i hi
        rw [hsame i (hqueueOnly i hi).1 (hqueueOnly i hi).2]
        exact htail i hi
      have hserved' : ∀ i ∈ served, unitsOf r'.allocations i.id = i.estimatedUnits := by
        intro i hi
        rw [hsame i (hservedOnly i hi).1 (hservedOnly i hi).2]
        exact hserved i hi
      by_cases hdone : item.estimatedUnits ≤ unitsOf r'.allocations item.id
      · rw [if_pos hdone] at hqueue'
        rw [hqueue']
        refine ⟨served ++ [item],by rw [hlane,List.append_assoc]; rfl,fun i hi => ?_,fun i hi => ?_,fun i hi => ?_⟩
        · rcases List.mem_append.mp hi with hi | hi
          · exact hserved' i hi
          · rw [List.mem_singleton.mp hi]
            exact le_antisymm (hestimate item hitem.1) hdone
        · rw [hzero i hi]
          exact i.estimate_pos
        · exact hzero i (List.mem_of_mem_tail hi)
      · rw [if_neg hdone] at hqueue'
        rw [hqueue']
        refine ⟨served,hlane,hserved',fun i hi => ?_,fun i hi => hzero i hi⟩
        rcases List.mem_cons.mp hi with rfl | hi
        · exact not_le.mp hdone
        · rw [hzero i hi]
          exact i.estimate_pos
    · obtain ⟨served',hlane',hserved',hlt',htail'⟩ := h.lanes p'
      have hne : ∀ i ∈ lane items p', i ∈ items ∧ i ≠ item := by
        intro i hi
        refine ⟨(hlaneOf _ hi).1,fun heq => hpp ?_⟩
        rw [← (hlaneOf _ hi).2,heq,hitem.2]
      have hkeep : ∀ i ∈ served' ++ r.queueOf p', unitsOf r'.allocations i.id = unitsOf r.allocations i.id :=
        fun i hi => hsame i (hne i (hlane' ▸ hi)).1 (hne i (hlane' ▸ hi)).2
      rw [hother p' hpp]
      refine ⟨served',hlane',fun i hi => ?_,fun i hi => ?_,fun i hi => ?_⟩
      · rw [hkeep i (List.mem_append_left _ hi)]
        exact hserved' i hi
      · rw [hkeep i (List.mem_append_right _ hi)]
        exact hlt' i hi
      · rw [hkeep i (List.mem_append_right _ (List.mem_of_mem_tail hi))]
        exact htail' i hi
  · intro p'
    have hbefore := h.order p'
    rw [horder] at hbefore
    rw [horder']
    by_cases hpp : p' = p
    · subst hpp
      split
      · next hnil => simp [hp,hnil]
      · next hnil => simp [hnil]
    · rw [hother p' hpp,← hbefore]
      split <;> simp [hpp]
  · obtain ⟨k,front,back,hparts,hpk,hfront,hback⟩ := h.behind horder
    have hslices : ∀ p', slicesOf r'.allocations p' = slicesOf r.allocations p' + if p = p' then 1 else 0 := by
      intro p'
      rw [hallocations,slicesOf_append_one]
      change _ + (if item.projectId = p' then 1 else 0) = _
      rw [hitem.2]
    have hrest : ∀ p' ∈ rest, slicesOf r'.allocations p' = slicesOf r.allocations p' := by
      intro p' hp'
      rw [hslices,if_neg (fun heq : p = p' => hp (heq ▸ hp')),add_zero]
    have hp' : slicesOf r'.allocations p = k + 1 := by rw [hslices,if_pos rfl,hpk]
    have hfront' : ∀ q ∈ front, slicesOf r'.allocations q = k := by
      intro q hq
      rw [hrest q (by rw [hparts]; exact List.mem_append_left _ hq)]
      exact hfront q hq
    have hback' : ∀ q ∈ back, slicesOf r'.allocations q = k + 1 := by
      intro q hq
      rw [hrest q (by rw [hparts]; exact List.mem_append_right _ hq)]
      exact hback q hq
    rw [horder']
    split
    · exact ⟨k,front,back,hparts,hfront',hback'⟩
    · refine ⟨k,front,back ++ [p],by rw [hparts,List.append_assoc],hfront',fun q hq => ?_⟩
      rcases List.mem_append.mp hq with hq | hq
      · exact hback' q hq
      · rw [List.mem_singleton.mp hq]
        exact hp'

/-- One slice more keeps the schedule. -/
theorem scheduled_pass (hids : (items.map (·.id)).Nodup) (hsorted : items.Pairwise higherPriority) (h : Rotating items r)
    (hs : Scheduled items r.allocations) {r' : Round} (hpass : Pass r r') (h' : Rotating items r') : Scheduled items r'.allocations := by
  obtain ⟨p,rest,item,queue,units,-,hqueue,-,hallocations,-⟩ := hpass.served
  constructor
  · intro pre hpre q q' hq hq'
    rw [hallocations,List.prefix_concat_iff] at hpre
    rcases hpre with rfl | hpre
    · rw [← hallocations] at hq hq' ⊢
      exact h'.fair hq hq'
    · exact hs.fair pre hpre q q' hq hq'
  · intro pre a hpre other hother hid earlier hearlier hproject hne hbefore
    rw [hallocations,List.prefix_concat_iff] at hpre
    rcases hpre with heq | hpre
    · obtain ⟨rfl,ha⟩ := List.append_inj' heq rfl
      obtain rfl := (List.cons.inj ha).1
      obtain ⟨served,hlane,hserved,-⟩ := h.lanes p
      rw [hqueue] at hlane
      have hitem : item ∈ lane items p := by
        rw [hlane]
        simp
      have hsame : other = item := List.inj_on_of_nodup_map hids hother (List.mem_filter.mp hitem).1 hid
      subst hsame
      have hmem : earlier ∈ served ++ other :: queue := by
        rw [← hlane]
        refine List.mem_filter.mpr ⟨hearlier,decide_eq_true ?_⟩
        rw [hproject]
        exact of_decide_eq_true (List.mem_filter.mp hitem).2
      have hlaneSorted : (served ++ other :: queue).Pairwise higherPriority := by
        rw [← hlane]
        exact hsorted.filter _
      rcases List.mem_append.mp hmem with hmem | hmem
      · exact hserved earlier hmem
      · rcases List.mem_cons.mp hmem with rfl | hmem
        · exact absurd rfl hne
        · have hafter := List.rel_of_pairwise_cons (List.pairwise_append.mp hlaneSorted).2.1 hmem
          exact absurd (higherPriority_antisymm hbefore hafter) hne
    · exact hs.inOrder pre a hpre other hother hid earlier hearlier hproject hne hbefore

end Rotation

/-! ### The plan of one limit -/

section Limit
variable {policy : QuarkUsagePolicy} {c : ℚ} {limitWork : List AgentWorkItem} {l : LimitPlan}

/-- The eligible items of a limit by priority. -/
def servedOrder (limitWork : List AgentWorkItem) : List AgentWorkItem := (eligibleWork limitWork).insertionSort higherPriority

theorem servedOrder_perm (limitWork : List AgentWorkItem) : (servedOrder limitWork).Perm (eligibleWork limitWork) :=
  List.perm_insertionSort _ _

theorem startRound_rotating (spendable : ℚ) (limitWork : List AgentWorkItem) :
    Rotating (servedOrder limitWork) (startRound spendable (eligibleWork limitWork)) := by
  have hqueue : ∀ p, (startRound spendable (eligibleWork limitWork)).queueOf p = lane (servedOrder limitWork) p :=
    groupByProject_lane (servedOrder limitWork)
  constructor
  · intro p
    refine ⟨[],?_,fun _ hi => (by cases hi),fun i _ => i.estimate_pos,fun _ _ => rfl⟩
    rw [hqueue]
    rfl
  · intro p
    have hkeys : p ∈ (startRound spendable (eligibleWork limitWork)).projectOrder ↔ p ∈ (groupByProject (servedOrder limitWork)).keys :=
      List.mem_insertionSort _
    rw [hkeys,Dict.mem_keys_iff]
    constructor
    · rintro ⟨q,hq⟩
      have hne := (groupByProject_mem _ hq).1
      rw [hqueue,← groupByProject_lane,hq]
      exact hne
    · intro hne
      rw [hqueue,← groupByProject_lane] at hne
      cases hget : (groupByProject (servedOrder limitWork)).get? p with
      | none =>
        rw [hget] at hne
        exact absurd rfl hne
      | some q => exact ⟨q,rfl⟩
  · exact ⟨0,(startRound spendable (eligibleWork limitWork)).projectOrder,[],(List.append_nil _).symm,fun _ _ => rfl,
      fun _ hp => (by cases hp)⟩

/-- The loop of a limit ends with its books kept, its slices scheduled, and nothing more to do. -/
theorem planLimit_end (hids : (limitWork.map (·.id)).Nodup) (hspend : 0 < spendableUnits policy c (activeUnits limitWork))
    (h : planLimit policy (some c) limitWork = pure l) : ∃ last, l.allocations = last.allocations ∧
      RoundOk policy.maxSlicePoints (spendableUnits policy c (activeUnits limitWork)) (eligibleWork limitWork) last ∧
      Rotating (servedOrder limitWork) last ∧ Scheduled (servedOrder limitWork) last.allocations ∧ last.more = false := by
  let spendable := spendableUnits policy c (activeUnits limitWork)
  let items := servedOrder limitWork
  have hids' : ((eligibleWork limitWork).map (·.id)).Nodup := hids.sublist (List.filter_sublist.map _)
  have hperm : items.Perm (eligibleWork limitWork) := servedOrder_perm limitWork
  have hitems : (items.map (·.id)).Nodup := (hperm.map _).nodup_iff.mpr hids'
  have hsorted : items.Pairwise higherPriority := List.pairwise_insertionSort higherPriority _
  let Inv (r : Round) : Prop := RoundOk policy.maxSlicePoints spendable (eligibleWork limitWork) r ∧ Rotating items r ∧
    Scheduled items r.allocations
  have hstep : ∀ r, Inv r → r.more = true → ∃ r', allocateNext policy.maxSlicePoints r = .ok r' ∧ Inv r' ∧
      r'.size policy.maxSlicePoints < r.size policy.maxSlicePoints := by
    rintro r ⟨hr,hrotating,hscheduled⟩ hmore
    obtain ⟨r',hrun,hr',hsize⟩ := allocateNext_step policy.slice_pos hids' hr hmore
    have hpass := allocateNext_pass policy.slice_pos hr hrotating hmore hrun
    have hrotating' := rotating_pass hitems hrotating hr.order hpass fun i hi => hr'.estimates i (hperm.mem_iff.mp hi)
    exact ⟨r',hrun,⟨hr',hrotating',scheduled_pass hitems hsorted hrotating hscheduled hpass hrotating'⟩,hsize⟩
  have hstart : Inv (startRound spendable (eligibleWork limitWork)) := by
    refine ⟨startRound_ok hspend.le _,startRound_rotating spendable limitWork,?_⟩
    have hrotating := startRound_rotating spendable limitWork
    constructor
    · intro pre hpre p q hp hq
      obtain rfl : pre = [] := List.prefix_nil.mp hpre
      exact hrotating.fair hp hq
    · intro pre a hpre
      exact absurd (List.prefix_nil.mp hpre) (by simp)
  obtain ⟨last,hloop,⟨hok,hrotating,hscheduled⟩,hend⟩ := whileLoop_total hstep hstart
    (Nat.lt_succ_self ((startRound spendable (eligibleWork limitWork)).size policy.maxSlicePoints))
  refine ⟨last,?_,hok,hrotating,hscheduled,hend⟩
  simp only [planLimit] at h
  rw [if_neg (not_le.mpr hspend),hloop] at h
  cases h
  rfl

/-- The allocations are of the items, each of which is one. -/
theorem totalUnits_eq_sum {items : List AgentWorkItem} (hids : (items.map (·.id)).Nodup) {allocations : List WorkAllocation}
    (h : ∀ a ∈ allocations, ∃ item ∈ items, a.workId = item.id) :
    totalUnits allocations = (items.map fun i => unitsOf allocations i.id).sum := by
  induction allocations using List.reverseRecOn with
  | nil => simp [totalUnits,unitsOf]
  | append_singleton allocations a ih =>
    obtain ⟨item,hitem,hid⟩ := h a (by simp)
    have hone : (items.map fun i => if a.workId = i.id then a.allocatedUnits else 0).sum = a.allocatedUnits := by
      have hcount : ∀ l : List AgentWorkItem, (l.map (·.id)).Nodup → item ∈ l →
          (l.map fun i => if a.workId = i.id then a.allocatedUnits else 0).sum = a.allocatedUnits := by
        intro l
        induction l with
        | nil => exact fun _ hmem => absurd hmem List.not_mem_nil
        | cons i rest ihl =>
          intro hnodup hmem
          rw [List.map_cons,List.nodup_cons] at hnodup
          rw [List.map_cons,List.sum_cons]
          rcases List.mem_cons.mp hmem with rfl | hmem
          · have hnone : (rest.map fun i => if a.workId = i.id then a.allocatedUnits else 0).sum = 0 := by
              refine List.sum_eq_zero fun x hx => ?_
              obtain ⟨j,hj,rfl⟩ := List.mem_map.mp hx
              refine if_neg fun heq => hnodup.1 ?_
              rw [← hid,heq]
              exact List.mem_map_of_mem hj
            rw [if_pos hid,hnone,add_zero]
          · have hne : ¬ a.workId = i.id := by
              intro heq
              refine hnodup.1 ?_
              rw [← heq,hid]
              exact List.mem_map_of_mem hmem
            rw [if_neg hne,zero_add,ihl hnodup.2 hmem]
      exact hcount items hids hitem
    have hsplit : (items.map fun i => unitsOf (allocations ++ [a]) i.id).sum =
        (items.map fun i => unitsOf allocations i.id).sum + (items.map fun i => if a.workId = i.id then a.allocatedUnits else 0).sum := by
      simp only [unitsOf_append_one]
      exact List.sum_map_add
    rw [totalUnits_append,hsplit,hone,← ih fun b hb => h b (List.mem_append_left _ hb)]
    simp [totalUnits]

/-- What a limit has to give and what its eligible items still want: the smaller of the two is given. -/
theorem planLimit_total (hids : (limitWork.map (·.id)).Nodup) (h : planLimit policy (some c) limitWork = pure l) :
    totalUnits l.allocations = min (spendableUnits policy c (activeUnits limitWork))
      ((eligibleWork limitWork).map (·.estimatedUnits)).sum := by
  have hnonneg : 0 ≤ ((eligibleWork limitWork).map (·.estimatedUnits)).sum := by
    refine List.sum_nonneg fun x hx => ?_
    obtain ⟨i,-,rfl⟩ := List.mem_map.mp hx
    exact i.estimate_pos.le
  by_cases hspend : 0 < spendableUnits policy c (activeUnits limitWork)
  · obtain ⟨last,hl,hok,hrotating,-,hend⟩ := planLimit_end hids hspend h
    have hids' : ((eligibleWork limitWork).map (·.id)).Nodup := hids.sublist (List.filter_sublist.map _)
    have hsum : totalUnits last.allocations = _ := totalUnits_eq_sum hids' fun a ha => by
      obtain ⟨-,-,item,hitem,heq⟩ := hok.slices a ha
      refine ⟨item,hitem,?_⟩
      rw [heq]
      rfl
    have hbalance := hok.balance
    have havailable := hok.available
    have hle : totalUnits last.allocations ≤ ((eligibleWork limitWork).map (·.estimatedUnits)).sum := by
      rw [hsum]
      exact List.sum_le_sum fun i hi => hok.estimates i hi
    rw [hl]
    by_cases hdone : last.projectOrder = []
    · have hall : totalUnits last.allocations = ((eligibleWork limitWork).map (·.estimatedUnits)).sum := by
        rw [hsum]
        refine congrArg List.sum (List.map_congr_left fun i hi => ?_)
        by_contra hne
        have hlt : unitsOf last.allocations i.id < i.estimatedUnits := lt_of_le_of_ne (hok.estimates i hi) hne
        have hwaits := hrotating.waits ⟨i,(servedOrder_perm limitWork).mem_iff.mpr hi,rfl,hlt⟩
        rw [hdone] at hwaits
        cases hwaits
      rw [min_eq_right (by linarith)]
      exact hall
    · have hzero : last.available = 0 := by
        have hnot : ¬ 0 < last.available := by
          intro hpos
          rw [Round.more,decide_eq_true (show 0 < last.available ∧ last.projectOrder ≠ [] from ⟨hpos,hdone⟩)] at hend
          cases hend
        linarith
      rw [min_eq_left (by linarith)]
      linarith
  · have hzero : spendableUnits policy c (activeUnits limitWork) = 0 := le_antisymm (not_lt.mp hspend) (le_max_left _ _)
    simp only [planLimit] at h
    rw [if_pos (not_lt.mp hspend)] at h
    cases h
    rw [hzero,min_eq_left hnonneg]
    rfl

theorem planLimit_scheduled (hids : (limitWork.map (·.id)).Nodup) {capacity : Option ℚ}
    (h : planLimit policy capacity limitWork = pure l) : Scheduled (servedOrder limitWork) l.allocations := by
  have hnone : l.allocations = [] → Scheduled (servedOrder limitWork) l.allocations := by
    intro hnil
    rw [hnil]
    have hrotating := startRound_rotating 0 limitWork
    constructor
    · intro pre hpre p q hp hq
      obtain rfl : pre = [] := List.prefix_nil.mp hpre
      exact hrotating.fair hp hq
    · exact fun pre a hpre => absurd (List.prefix_nil.mp hpre) (by simp)
  cases capacity with
  | none =>
    cases h
    exact hnone rfl
  | some c =>
    by_cases hspend : 0 < spendableUnits policy c (activeUnits limitWork)
    · obtain ⟨last,hl,-,-,hscheduled,-⟩ := planLimit_end hids hspend h
      rw [hl]
      exact hscheduled
    · simp only [planLimit] at h
      rw [if_pos (not_lt.mp hspend)] at h
      cases h
      exact hnone rfl

end Limit
end Overseer.Quark
