import Overseer.Library.Program

/-! # Checks

A transaction that only checks goes on with the store as it is or raises.
-/
namespace Overseer.Library.Tx
variable {S E α : Type}

/-- The transaction passes exactly under `c`, and writes nothing. -/
structure Checks (t : Tx S E Unit) (c : Prop) : Prop where
  passes : c → ∀ s, t s = .ok ((),s)
  raises : ¬ c → ∀ s, ∃ e, t s = .error e

variable {t u : Tx S E Unit} {c d : Prop}

theorem checks_pure : Checks (pure () : Tx S E Unit) True := ⟨fun _ _ => rfl,fun h => absurd trivial h⟩

theorem checks_require (c : Prop) [Decidable c] (e : E) : Checks (require c e : Tx S E Unit) c := by
  constructor
  · intro hc s
    simp only [require,if_pos hc]
    rfl
  · intro hc s
    refine ⟨e,?_⟩
    simp only [require,if_neg hc]
    rfl

theorem Checks.congr (h : Checks t c) (hcd : c ↔ d) : Checks t d :=
  ⟨fun hd => h.passes (hcd.mpr hd),fun hd => h.raises fun hc => hd (hcd.mp hc)⟩

theorem Checks.then_ok_iff (ht : Checks t c) {f : Unit → Tx S E α} {s : S} {r : α × S} :
    (t >>= f) s = .ok r ↔ c ∧ f () s = .ok r := by
  by_cases hc : c
  · rw [bind_of_ok (ht.passes hc s)]
    simp [hc]
  · obtain ⟨e,he⟩ := ht.raises hc s
    rw [bind_of_error he]
    simp [hc]

theorem Checks.bind (ht : Checks t c) (hu : Checks u d) : Checks (t >>= fun _ => u) (c ∧ d) := by
  constructor
  · rintro ⟨hc,hd⟩ s
    rw [bind_of_ok (ht.passes hc s)]
    exact hu.passes hd s
  · intro hcd s
    by_cases hc : c
    · rw [bind_of_ok (ht.passes hc s)]
      exact hu.raises (fun hd => hcd ⟨hc,hd⟩) s
    · obtain ⟨e,he⟩ := ht.raises hc s
      exact ⟨e,bind_of_error he⟩

end Overseer.Library.Tx
