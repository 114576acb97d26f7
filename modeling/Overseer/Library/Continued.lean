import Overseer.Library.Discipline
import Overseer.Library.Schedule

/-! # Runs continued from a reached world

What holds of a world holds of those reached from it. A program started later may use what
was known of the store when it was started.
-/
namespace Overseer.Library

namespace Discipline
variable {S H Q : Type} {A : Q → Type} {E R α : Type} {D : Discipline S H A E R} {u : S}

theorem from_of_steps {Rel : S → H → S → Prop} {M : α → Prop} {p : Prog S H A E α} (hp : p.Steps Rel) (hM : p.Returns M)
    (hRel : ∀ s held s', D.ok s → D.sys.guard s held s' → Rel s held s' → D.step s s' ∧ D.ok s') :
    D.From (fun a _ => M a) p u := by
  induction p generalizing u with
  | ret a => exact hM
  | fail e => trivial
  | tx held next k ih => exact fun s _ hok hg => ⟨hRel _ _ _ hok hg (hp.1 s),ih s (hp.2 s) (hM s)⟩
  | call q k ih => exact fun a => ih a (hp a) (hM a)

end Discipline

namespace World
variable {S H Q : Type} {A : Q → Type} {E R : Type} {sys : System S H A E R} {w w' : World S H A E R}

/-- A property of the store that every transaction keeps is kept from any world on. -/
theorem Reachable.along {Rel : S → H → S → Prop} {P : S → Prop} (hstart : ∀ p, sys.start p → p.Steps Rel)
    (hstep : ∀ s held s', P s → sys.guard s held s' → Rel s held s' → P s') (hthreads : ∀ p ∈ w.threads, p.Steps Rel)
    (h₀ : P w.trace.store) (h : Reachable sys w w') : P w'.trace.store ∧ ∀ p ∈ w'.threads, p.Steps Rel := by
  refine h.invariant (P := fun w => P w.trace.store ∧ ∀ p ∈ w.threads, p.Steps Rel) ⟨h₀,hthreads⟩ ?_
  rintro w w' ⟨hP,hp⟩ hs
  cases hs with
  | start p hsp =>
    refine ⟨hP,fun p' hp' => ?_⟩
    rcases List.mem_append.mp hp' with hp' | hp'
    · exact hp p' hp'
    · rw [List.mem_singleton.mp hp']
      exact hstart p hsp
  | tx i hi hg =>
    have hthread := hp _ (List.mem_of_getElem? hi)
    refine ⟨hstep _ _ _ hP hg (hthread.1 _),fun p' hp' => ?_⟩
    rcases List.mem_or_eq_of_mem_set hp' with hp' | rfl
    · exact hp p' hp'
    · exact hthread.2 _
  | call i hi a ha =>
    have hthread := hp _ (List.mem_of_getElem? hi)
    refine ⟨hP,fun p' hp' => ?_⟩
    rcases List.mem_or_eq_of_mem_set hp' with hp' | rfl
    · exact hp p' hp'
    · exact hthread a

/-- The threads there were when `w` was reached, and those started since. -/
theorem Reachable.since (D : Discipline S H A E R) {Ret : R → S → Prop}
    (hstart : ∀ p, D.sys.start p → ∀ u, D.After w.trace.store u → D.ok u → D.From Ret p u) (hok : D.ok w.trace.store)
    (hold : ∀ p ∈ w.threads, ∃ u, D.After u w.trace.store ∧ D.From (fun _ _ => True) p u) (h : Reachable D.sys w w') :
    (D.ok w'.trace.store ∧ D.After w.trace.store w'.trace.store) ∧
    (∀ i p, i < w.threads.length → w'.threads[i]? = some p → ∃ u, D.After u w'.trace.store ∧ D.From (fun _ _ => True) p u) ∧
    ∀ i p, w.threads.length ≤ i → w'.threads[i]? = some p → ∃ u, D.After u w'.trace.store ∧ D.From Ret p u := by
  suffices key : w.threads.length ≤ w'.threads.length ∧ (D.ok w'.trace.store ∧ D.After w.trace.store w'.trace.store) ∧
      (∀ i p, i < w.threads.length → w'.threads[i]? = some p → ∃ u, D.After u w'.trace.store ∧ D.From (fun _ _ => True) p u) ∧
      ∀ i p, w.threads.length ≤ i → w'.threads[i]? = some p → ∃ u, D.After u w'.trace.store ∧ D.From Ret p u from key.2
  refine h.invariant (P := fun w' => w.threads.length ≤ w'.threads.length ∧
      (D.ok w'.trace.store ∧ D.After w.trace.store w'.trace.store) ∧
      (∀ i p, i < w.threads.length → w'.threads[i]? = some p → ∃ u, D.After u w'.trace.store ∧ D.From (fun _ _ => True) p u) ∧
      ∀ i p, w.threads.length ≤ i → w'.threads[i]? = some p → ∃ u, D.After u w'.trace.store ∧ D.From Ret p u) ?_ ?_
  · refine ⟨le_rfl,⟨hok,.refl _⟩,fun i p _ hi => hold p (List.mem_of_getElem? hi),fun i p hlen hi => ?_⟩
    rw [List.getElem?_eq_none hlen] at hi
    cases hi
  · rintro w₁ w₂ ⟨hlen,⟨hok,hafter⟩,hearly,hlate⟩ hs
    cases hs with
    | start p hsp =>
      refine ⟨by simpa using Nat.le_succ_of_le hlen,⟨hok,hafter⟩,fun i p' hi hp' => ?_,fun i p' hi hp' => ?_⟩
      · rcases thread_append hp' with hp' | ⟨rfl,-⟩
        · exact hearly i p' hi hp'
        · omega
      · rcases thread_append hp' with hp' | ⟨rfl,rfl⟩
        · exact hlate i p' hi hp'
        · exact ⟨_,.refl _,hstart p' hsp _ hafter hok⟩
    | @tx i held next k hi hg =>
      -- the thread that commits is an early or a late one; what it does the others find later
      have hmoved : ∀ {Ret' : R → S → Prop}, (∃ u, D.After u w₁.trace.store ∧ D.From Ret' (.tx held next k) u) →
          (D.step w₁.trace.store (next w₁.trace.store) ∧ D.ok (next w₁.trace.store)) ∧
            D.From Ret' (k w₁.trace.store) (next w₁.trace.store) := by
        rintro Ret' ⟨u,hu,hp⟩
        exact hp _ hu hok hg
      have hnext : D.step w₁.trace.store (next w₁.trace.store) ∧ D.ok (next w₁.trace.store) := by
        rcases Nat.lt_or_ge i w.threads.length with hlt | hge
        · exact (hmoved (hearly i _ hlt hi)).1
        · exact (hmoved (hlate i _ hge hi)).1
      refine ⟨by simpa using hlen,⟨hnext.2,hafter.commit hok hnext.1 hnext.2⟩,fun j p' hj hp' => ?_,fun j p' hj hp' => ?_⟩
      · rcases thread_set hp' with ⟨rfl,rfl⟩ | ⟨-,hp'⟩
        · exact ⟨_,.refl _,(hmoved (hearly _ _ hj hi)).2⟩
        · obtain ⟨u,hu,hp'⟩ := hearly j p' hj hp'
          exact ⟨u,hu.commit hok hnext.1 hnext.2,hp'⟩
      · rcases thread_set hp' with ⟨rfl,rfl⟩ | ⟨-,hp'⟩
        · exact ⟨_,.refl _,(hmoved (hlate _ _ hj hi)).2⟩
        · obtain ⟨u,hu,hp'⟩ := hlate j p' hj hp'
          exact ⟨u,hu.commit hok hnext.1 hnext.2,hp'⟩
    | call i hi a ha =>
      refine ⟨by simpa using hlen,⟨hok,hafter⟩,fun j p' hj hp' => ?_,fun j p' hj hp' => ?_⟩
      · rcases thread_set hp' with ⟨rfl,rfl⟩ | ⟨-,hp'⟩
        · obtain ⟨u,hu,hp'⟩ := hearly _ _ hj hi
          exact ⟨u,hu,hp' a⟩
        · exact hearly j p' hj hp'
      · rcases thread_set hp' with ⟨rfl,rfl⟩ | ⟨-,hp'⟩
        · obtain ⟨u,hu,hp'⟩ := hlate _ _ hj hi
          exact ⟨u,hu,hp' a⟩
        · exact hlate j p' hj hp'

/-- Two schedules, one after the other, and a check on the two worlds they lead to. -/
theorem exists_continued {valid : Trace S A → (q : Q) → A q → Bool} {guard : S → H → S → Bool} (w : World S H A E R)
    (early late : List (Move S H A E R)) (check : World S H A E R → World S H A E R → Bool)
    (hv : ∀ t q a, valid t q a = true → sys.valid t q a) (hg : ∀ s h s', guard s h s' = true → sys.guard s h s')
    (hearly : ∀ mv ∈ early, mv.Allowed sys) (hlate : ∀ mv ∈ late, mv.Allowed sys)
    (h : ((w.play valid guard early).any fun w₁ => (w₁.play valid guard late).any (check w₁)) = true) :
    ∃ w₁ w₂, Reachable sys w w₁ ∧ Reachable sys w₁ w₂ ∧ check w₁ w₂ = true := by
  obtain ⟨w₁,hw₁,hrest⟩ := (Option.any_eq_true _ _).mp h
  obtain ⟨w₂,hw₂,hcheck⟩ := (Option.any_eq_true _ _).mp hrest
  exact ⟨w₁,w₂,play_reachable hv hg hearly hw₁,play_reachable hv hg hlate hw₂,hcheck⟩

end World
end Overseer.Library
