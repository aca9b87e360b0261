import Mathlib.Data.List.Induction

/-!
# Computations that may fail

What it takes for a computation to end well: its steps do, one after the other. `foldlM_built` is about a list that is
worked off while something is built from its entries.
-/

namespace GattPeripheral

universe u

variable {ε ε' : Type u} {α γ σ η : Type u}

theorem bind_eq_ok_iff {x : Except ε α} {f : α → Except ε γ} {b : γ} :
    x >>= f = .ok b ↔ ∃ a, x = .ok a ∧ f a = .ok b := by
  cases x <;> simp [bind, Except.bind]

theorem pure_eq_ok_iff {a b : α} : (pure a : Except ε α) = .ok b ↔ b = a :=
  Except.ok.injEq a b ▸ eq_comm

theorem mapError_eq_ok_iff {x : Except ε α} {f : ε → ε'} {a : α} : x.mapError f = .ok a ↔ x = .ok a := by
  cases x <;> simp [Except.mapError]

theorem eq_ok_iff {x : Except ε α} {a : α} (fallback : α) :
    x = .ok a ↔ (∃ b, x = .ok b) ∧ a = x.toOption.getD fallback := by
  cases x <;> simp [Except.toOption, eq_comm]

theorem of_append {admissible : List η → Prop} (shrinks : ∀ es e, admissible (es ++ [e]) → admissible es)
    {es fs : List η} (all : admissible (es ++ fs)) : admissible es := by
  induction fs using List.reverseRecOn with
  | nil => rwa [List.append_nil] at all
  | append_singleton fs f ih => exact ih (shrinks _ f (by rwa [List.append_assoc]))

/-- If what is built from entries takes in one more, provided that it can be read and that all entries so far are
admissible together, then it takes in a list under the same conditions. -/
theorem foldlM_built {build : List η → σ} {step : σ → α → Except ε σ} {entry : α → η} {legible : α → Prop}
    {admissible : List η → Prop} (shrinks : ∀ es e, admissible (es ++ [e]) → admissible es)
    (each : ∀ es x s, admissible es →
      (step (build es) x = .ok s ↔ legible x ∧ admissible (es ++ [entry x]) ∧ s = build (es ++ [entry x])))
    (xs : List α) (es : List η) (s : σ) (start : admissible es) : xs.foldlM step (build es) = .ok s ↔
      (∀ x ∈ xs, legible x) ∧ admissible (es ++ xs.map entry) ∧ s = build (es ++ xs.map entry) := by
  induction xs generalizing es with
  | nil => simp [start, pure, Except.pure, eq_comm]
  | cons x xs ih =>
      rw [List.foldlM_cons, bind_eq_ok_iff, List.forall_mem_cons, List.map_cons, List.append_cons]
      constructor
      · rintro ⟨s', here, later⟩
        obtain ⟨read, next, rfl⟩ := (each es x s' start).mp here
        obtain ⟨all, last, rfl⟩ := (ih _ next).mp later
        exact ⟨⟨read, all⟩, last, rfl⟩
      · rintro ⟨⟨read, all⟩, last, rfl⟩
        have next := of_append shrinks last
        exact ⟨_, (each es x _ start).mpr ⟨read, next, rfl⟩, (ih _ next).mpr ⟨all, last, rfl⟩⟩

end GattPeripheral
