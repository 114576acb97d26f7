import Overseer.Psychlo.Contracts
import Overseer.Library.DepthFirst

/-! # The tasks of a project registration

A registration names the tasks that each task depends on. The graph is accepted when every
dependency is another task of the registration and none of them waits for itself.
-/
namespace Overseer.Psychlo
open Overseer.Library Overseer.Agent DepthFirst

/-- A task of a plan, as far as its dependencies are concerned. -/
structure HandoffTask where
  id : String
  dependencyIds : List String

/-- `dependencies` after the loop over the tasks. -/
def taskDependencies (tasks : List HandoffTask) : Dict (List String) :=
  Dict.empty.merge (tasks.map fun t => (t.id,t.dependencyIds))

/-- `_validate_task_graph`. `taskIds` is the set in the order it is gone through, and `depth` bounds the
depth of the search. -/
def validateTaskGraph (depth : ℕ) (taskIds : List String) (dependencies : Dict (List String)) : ExceptT AgentError Option Unit := do
  if ∀ e ∈ dependencies.entries, ∀ item ∈ e.2, item ∈ taskIds ∧ item ≠ e.1 then
    let _ ← visitAll (fun id => found (dependencies.get? id) (keyError id)) (valueError "handoff task dependency is cyclic") depth
      (fun _ => .fresh) taskIds
    return
  else throw (valueError "handoff task dependency is invalid")

/-! ### What is accepted -/

def DependsOn (tasks : List HandoffTask) (a b : String) : Prop := ∃ t ∈ tasks, t.id = a ∧ b ∈ t.dependencyIds

/-- Every dependency is another task of the list. -/
def DependenciesNamed (tasks : List HandoffTask) : Prop := ∀ t ∈ tasks, ∀ item ∈ t.dependencyIds, item ∈ tasks.map (·.id) ∧ item ≠ t.id

def Cyclic (tasks : List HandoffTask) : Prop := ∃ a, Relation.TransGen (DependsOn tasks) a a

/-- The same tasks in another order, each with the same dependencies in another order. -/
structure SameTasks (tasks tasks' : List HandoffTask) : Prop where
  ids : (tasks.map (·.id)).Perm (tasks'.map (·.id))
  dependencies : ∀ t ∈ tasks, ∀ t' ∈ tasks', t.id = t'.id → t.dependencyIds.Perm t'.dependencyIds

section Tasks
variable {tasks tasks' : List HandoffTask} {taskIds : List String} {depth : ℕ}

theorem taskDependencies_entries (hids : (tasks.map (·.id)).Nodup) :
    (taskDependencies tasks).entries = tasks.map fun t => (t.id,t.dependencyIds) := by
  have hnodup : ((Dict.empty : Dict (List String)).entries ++ tasks.map (fun t => (t.id,t.dependencyIds))).map Prod.fst |>.Nodup := by
    rw [List.map_append,List.map_map]
    exact hids
  exact Dict.entries_merge hnodup

theorem taskDependencies_get (hids : (tasks.map (·.id)).Nodup) {t : HandoffTask} (ht : t ∈ tasks) :
    (taskDependencies tasks).get? t.id = some t.dependencyIds := by
  refine (Dict.mem_entries_iff _ _ _).mp ?_
  rw [taskDependencies_entries hids]
  exact List.mem_map_of_mem ht

theorem dependenciesNamed_iff (hids : (tasks.map (·.id)).Nodup) (horder : taskIds.Perm (tasks.map (·.id))) :
    (∀ e ∈ (taskDependencies tasks).entries, ∀ item ∈ e.2, item ∈ taskIds ∧ item ≠ e.1) ↔ DependenciesNamed tasks := by
  rw [taskDependencies_entries hids]
  simp only [List.forall_mem_map,horder.mem_iff]
  exact Iff.rfl

/-- The tasks as a graph. -/
def taskGraph (tasks : List HandoffTask) (hids : (tasks.map (·.id)).Nodup) (hnamed : DependenciesNamed tasks) : Graph String where
  nodes := (tasks.map (·.id)).toFinset
  after id := ((taskDependencies tasks).get? id).getD []
  closed := by
    intro a ha b hb
    obtain ⟨t,ht,rfl⟩ := List.mem_map.mp (List.mem_toFinset.mp ha)
    rw [taskDependencies_get hids ht] at hb
    exact List.mem_toFinset.mpr (hnamed t ht b hb).1

theorem taskGraph_edge (hids : (tasks.map (·.id)).Nodup) (hnamed : DependenciesNamed tasks) (a b : String) :
    (taskGraph tasks hids hnamed).Edge a b ↔ DependsOn tasks a b := by
  constructor
  · rintro ⟨ha,hb⟩
    obtain ⟨t,ht,rfl⟩ := List.mem_map.mp (List.mem_toFinset.mp ha)
    change b ∈ ((taskDependencies tasks).get? t.id).getD [] at hb
    rw [taskDependencies_get hids ht] at hb
    exact ⟨t,ht,rfl,hb⟩
  · rintro ⟨t,ht,rfl,hb⟩
    refine ⟨List.mem_toFinset.mpr (List.mem_map_of_mem ht),?_⟩
    change b ∈ ((taskDependencies tasks).get? t.id).getD []
    rw [taskDependencies_get hids ht]
    exact hb

theorem taskGraph_cyclic (hids : (tasks.map (·.id)).Nodup) (hnamed : DependenciesNamed tasks) :
    (taskGraph tasks hids hnamed).Cyclic ↔ Cyclic tasks := by
  have hedge : (taskGraph tasks hids hnamed).Edge = DependsOn tasks := by
    funext a b
    exact propext (taskGraph_edge hids hnamed a b)
  unfold Graph.Cyclic Cyclic
  rw [hedge]

/-- What the validation comes to: one of three results. -/
theorem validateTaskGraph_cases (hids : (tasks.map (·.id)).Nodup) (horder : taskIds.Perm (tasks.map (·.id))) (hdepth : tasks.length < depth) :
    (validateTaskGraph depth taskIds (taskDependencies tasks) = pure () ∧ DependenciesNamed tasks ∧ ¬ Cyclic tasks) ∨
    (validateTaskGraph depth taskIds (taskDependencies tasks) = throw (valueError "handoff task dependency is invalid") ∧
      ¬ DependenciesNamed tasks) ∨
    (validateTaskGraph depth taskIds (taskDependencies tasks) = throw (valueError "handoff task dependency is cyclic") ∧
      DependenciesNamed tasks ∧ Cyclic tasks) := by
  unfold validateTaskGraph
  by_cases hnamed : DependenciesNamed tasks
  · rw [if_pos ((dependenciesNamed_iff hids horder).mpr hnamed)]
    let g := taskGraph tasks hids hnamed
    have hnext : ∀ a ∈ g.nodes, found ((taskDependencies tasks).get? a) (keyError a) = .ok (g.after a) := by
      intro a ha
      obtain ⟨t,ht,rfl⟩ := List.mem_map.mp (List.mem_toFinset.mp ha)
      change _ = Except.ok (((taskDependencies tasks).get? t.id).getD [])
      rw [taskDependencies_get hids ht]
      rfl
    have hmem : ∀ a, a ∈ taskIds ↔ a ∈ g.nodes := fun a => horder.mem_iff.trans List.mem_toFinset.symm
    have hcard : g.nodes.card < depth := by
      refine lt_of_le_of_lt (List.toFinset_card_le _) ?_
      rw [List.length_map]
      exact hdepth
    rcases g.search_ends (valueError "handoff task dependency is cyclic") hnext hmem hcard with
      ⟨⟨s,hrun⟩,hcyclic⟩ | ⟨hrun,hcyclic⟩
    · rw [hrun]
      exact .inl ⟨rfl,hnamed,fun h => hcyclic ((taskGraph_cyclic hids hnamed).mpr h)⟩
    · rw [hrun]
      exact .inr (.inr ⟨rfl,hnamed,(taskGraph_cyclic hids hnamed).mp hcyclic⟩)
  · rw [if_neg fun h => hnamed ((dependenciesNamed_iff hids horder).mp h)]
    exact .inr (.inl ⟨rfl,hnamed⟩)

/-! ### Another order -/

theorem SameTasks.symm (h : SameTasks tasks tasks') : SameTasks tasks' tasks :=
  ⟨h.ids.symm,fun t ht t' ht' hid => (h.dependencies t' ht' t ht hid.symm).symm⟩

theorem SameTasks.dependsOn (h : SameTasks tasks tasks') {a b : String} (hab : DependsOn tasks a b) : DependsOn tasks' a b := by
  obtain ⟨t,ht,rfl,hb⟩ := hab
  obtain ⟨t',ht',hid⟩ := List.mem_map.mp (h.ids.mem_iff.mp (List.mem_map_of_mem ht))
  exact ⟨t',ht',hid,(h.dependencies t ht t' ht' hid.symm).mem_iff.mp hb⟩

theorem SameTasks.cyclic (h : SameTasks tasks tasks') (hcyclic : Cyclic tasks) : Cyclic tasks' := by
  obtain ⟨a,ha⟩ := hcyclic
  exact ⟨a,ha.lift id fun _ _ hab => h.dependsOn hab⟩

theorem SameTasks.named (h : SameTasks tasks tasks') (hnamed : DependenciesNamed tasks) : DependenciesNamed tasks' := by
  intro t' ht' item hitem
  obtain ⟨t,ht,hid⟩ := List.mem_map.mp (h.ids.mem_iff.mpr (List.mem_map_of_mem ht'))
  have hitem' : item ∈ t.dependencyIds := (h.dependencies t ht t' ht' hid).mem_iff.mpr hitem
  obtain ⟨hmem,hne⟩ := hnamed t ht item hitem'
  exact ⟨h.ids.mem_iff.mp hmem,fun hself => hne (hself.trans hid.symm)⟩

/-- A graph of tasks is accepted exactly when every dependency is another task and there is no cycle,
however deep the search may go beyond the number of the tasks; the result, whichever of the two
errors it may be, is the same in every order of the tasks and of their dependencies. -/
theorem task_graph_accepted_iff (hids : (tasks.map (·.id)).Nodup) (horder : taskIds.Perm (tasks.map (·.id)))
    (hdepth : tasks.length < depth) :
    (∃ r, validateTaskGraph depth taskIds (taskDependencies tasks) = some r) ∧
    (validateTaskGraph depth taskIds (taskDependencies tasks) = pure () ↔ DependenciesNamed tasks ∧ ¬ Cyclic tasks) ∧
    ∀ tasks' taskIds' depth', SameTasks tasks tasks' → taskIds'.Perm (tasks'.map (·.id)) → tasks'.length < depth' →
      validateTaskGraph depth' taskIds' (taskDependencies tasks') = validateTaskGraph depth taskIds (taskDependencies tasks) := by
  have hcases := validateTaskGraph_cases hids horder hdepth
  have hthrow : ∀ {e : AgentError}, (throw e : ExceptT AgentError Option Unit) ≠ pure () := by
    intro e h
    cases Option.some.inj h
  refine ⟨?_,?_,?_⟩
  · rcases hcases with ⟨hrun,-⟩ | ⟨hrun,-⟩ | ⟨hrun,-⟩ <;> exact ⟨_,hrun⟩
  · rcases hcases with ⟨hrun,hnamed,hcyclic⟩ | ⟨hrun,hnamed⟩ | ⟨hrun,-,hcyclic⟩
    · exact ⟨fun _ => ⟨hnamed,hcyclic⟩,fun _ => hrun⟩
    · exact ⟨fun h => absurd (hrun.symm.trans h) hthrow,fun h => absurd h.1 hnamed⟩
    · exact ⟨fun h => absurd (hrun.symm.trans h) hthrow,fun h => absurd hcyclic h.2⟩
  · intro tasks' taskIds' depth' hsame horder' hdepth'
    have hcases' := validateTaskGraph_cases (hsame.ids.nodup_iff.mp hids) horder' hdepth'
    rcases hcases with ⟨hrun,hnamed,hcyclic⟩ | ⟨hrun,hnamed⟩ | ⟨hrun,hnamed,hcyclic⟩ <;>
      rcases hcases' with ⟨hrun',hnamed',hcyclic'⟩ | ⟨hrun',hnamed'⟩ | ⟨hrun',hnamed',hcyclic'⟩ <;>
      first
      | exact hrun'.trans hrun.symm
      | exact absurd (hsame.named hnamed) hnamed'
      | exact absurd (hsame.symm.named hnamed') hnamed
      | exact absurd (hsame.cyclic hcyclic) hcyclic'
      | exact absurd (hsame.symm.cyclic hcyclic') hcyclic

end Tasks

/-- A task that waits for another one, listed before it. -/
def laterFirst : List HandoffTask := [⟨"b",["a"]⟩,⟨"a",[]⟩]

theorem task_graph_accepted_iff_later_first : validateTaskGraph 3 ["a","b"] (taskDependencies laterFirst) = pure () ∧
    DependenciesNamed laterFirst ∧ ¬ Cyclic laterFirst := by
  have hrun : validateTaskGraph 3 ["a","b"] (taskDependencies laterFirst) = pure () := by rfl
  have hids : (laterFirst.map (·.id)).Nodup := by decide
  have horder : ["a","b"].Perm (laterFirst.map (·.id)) := by decide
  have hdepth : laterFirst.length < 3 := by decide
  exact ⟨hrun,(task_graph_accepted_iff hids horder hdepth).2.1.mp hrun⟩

end Overseer.Psychlo
