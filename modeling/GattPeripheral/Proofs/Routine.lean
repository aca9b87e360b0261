import GattPeripheral.Routine

/-!
# What a routine does step by step

`Moves R r`: every change that `r` makes is a step of `R`, whatever else goes on. `amid` carries a routine
out while someone visits the state at any moment at which the routine does not hold it, and `Ensures` is
what holds after that. Main statements: `Moves.run`, `Ensures.bind` and `Moves.ensures`.
-/

namespace GattPeripheral.Routine

variable {σ α γ : Type}

theorem bind_done (r : Routine σ α) : r.bind done = r := by
  induction r with
  | done a => rfl
  | look next ih => exact congrArg look (funext ih)
  | put s next ih => exact congrArg (put s) ih
  | sleep span next ih => exact congrArg (sleep span) ih
  | acquire lock next ih => exact congrArg (acquire lock) ih
  | release lock next ih => exact congrArg (release lock) ih
  | defer change next ih => exact congrArg (defer change) (funext ih)

theorem bind_bind {ε : Type} (r : Routine σ α) (f : α → Routine σ γ) (g : γ → Routine σ ε) :
    (r.bind f).bind g = r.bind fun a => (f a).bind g := by
  induction r with
  | done a => rfl
  | look next ih => exact congrArg look (funext ih)
  | put s next ih => exact congrArg (put s) ih
  | sleep span next ih => exact congrArg (sleep span) ih
  | acquire lock next ih => exact congrArg (acquire lock) ih
  | release lock next ih => exact congrArg (release lock) ih
  | defer change next ih => exact congrArg (defer change) (funext ih)

instance : LawfulMonad (Routine σ) := .mk' _ bind_done (fun _ _ => rfl) bind_bind

/-! ## Visits -/

/-- A state, who is to come next, with `true` for a visit and `false` for the routine, and the states that
the visits met so far. -/
structure Visited (σ : Type) where
  state : σ
  coming : List Bool
  met : List σ

def arrive (visit : σ → σ) : List Bool → σ → List σ → Visited σ
  | true :: coming, s, met => arrive visit coming (visit s) (met ++ [s])
  | false :: coming, s, met => ⟨s, coming, met⟩
  | [], s, met => ⟨s, [], met⟩

def Visited.next (visit : σ → σ) (v : Visited σ) : Visited σ := arrive visit v.coming v.state v.met

abbrev Assertion (σ : Type) := σ → List σ → Prop

def Stable (visit : σ → σ) (P : Assertion σ) : Prop := ∀ s met, P s met → P (visit s) (met ++ [s])

variable {visit : σ → σ}

theorem Stable.next {P : Assertion σ} (stable : Stable visit P) (v : Visited σ) (holds : P v.state v.met) :
    P (v.next visit).state (v.next visit).met := by
  obtain ⟨s, coming, met⟩ := v
  induction coming generalizing s met with
  | nil => exact holds
  | cons visits coming ih =>
      cases visits with
      | false => exact holds
      | true => exact ih (visit s) (met ++ [s]) (stable s met holds)

variable [Clocked σ]

theorem run_read (s : σ) : (read : Routine σ σ).run s = (s, s) := rfl

/-! ## Steps of a relation -/

inductive Moves (R : σ → σ → Prop) : Routine σ α → Prop
  | done (a : α) : Moves R (.done a)
  | look {next : σ → Routine σ α} (later : ∀ s, Moves R (next s)) : Moves R (.look next)
  | change {f : σ → σ} {next : σ → Routine σ α} (each : ∀ s, R s (f s)) (later : ∀ s, Moves R (next s)) :
      Moves R (.look fun s => .put (f s) (next s))
  | sleep {span : Duration} {next : Routine σ α} (each : ∀ s, R s (Clocked.advance span.slept s))
      (later : Moves R next) : Moves R (.sleep span next)
  | acquire {lock : Lock} {next : Routine σ α} (later : Moves R next) : Moves R (.acquire lock next)
  | release {lock : Lock} {next : Routine σ α} (later : Moves R next) : Moves R (.release lock next)
  | defer {change : σ → σ} {next : σ → Routine σ α} (each : ∀ s, R s (change s)) (later : ∀ s, Moves R (next s)) :
      Moves R (.defer change next)

namespace Moves

variable {R : σ → σ → Prop} {r : Routine σ α}

theorem pure (a : α) : Moves R (Pure.pure a : Routine σ α) := .done a

theorem read : Moves R (Routine.read : Routine σ σ) := .look fun s => .done s

theorem step {f : σ → α × σ} (each : ∀ s, R s (f s).2) : Moves R (Routine.step f) :=
  .change each fun s => .done (f s).1

theorem exchange {f : σ → α × σ} (each : ∀ s, R s (f s).2) : Moves R (Routine.exchange f) :=
  .defer each fun s => .done (f s).1

theorem wait {span : Duration} (each : ∀ s, R s (Clocked.advance span.slept s)) :
    Moves R (Routine.wait span : Routine σ _) :=
  .sleep each (.done ())

theorem bind {f : α → Routine σ γ} (first : Moves R r) (later : ∀ a, Moves R (f a)) : Moves R (r >>= f) := by
  change Moves R (Routine.bind r f)
  induction first with
  | done a => exact later a
  | look _ ih => exact .look ih
  | change each _ ih => exact .change each ih
  | sleep each _ ih => exact .sleep each ih
  | acquire _ ih => exact .acquire ih
  | release _ ih => exact .release ih
  | defer each _ ih => exact .defer each ih

theorem holding {lock : Lock} (body : Moves R r) : Moves R (Routine.holding lock r) :=
  .acquire (.bind body fun a => .release (.done a))

theorem run (refl : ∀ s, R s s) (trans : ∀ {s t u}, R s t → R t u → R s u) (moves : Moves R r) (s : σ) :
    R s (r.run s).2 := by
  induction moves generalizing s with
  | done a => exact refl s
  | look _ ih => exact ih s s
  | change each _ ih => exact trans (each s) (ih s _)
  | sleep each _ ih => exact trans (each s) (ih _)
  | acquire _ ih => exact ih s
  | release _ ih => exact ih s
  | defer each _ ih => exact trans (each s) (ih s _)

end Moves

/-! ## Routines with visits -/

/-- Carries a routine out with visits before its steps. What a step looked at it puts back before anyone
can come. -/
def amid (visit : σ → σ) : Routine σ α → Visited σ → α × Visited σ
  | .done a, v => (a, v)
  | .look next, v => amid visit (next (v.next visit).state) (v.next visit)
  | .put s next, v => amid visit next { v with state := s }
  | .sleep span next, v =>
      amid visit next { v.next visit with state := Clocked.advance span.slept (v.next visit).state }
  | .acquire _ next, v => amid visit next (v.next visit)
  | .release _ next, v => amid visit next (v.next visit)
  | .defer change next, v =>
      amid visit (next (v.next visit).state) { v.next visit with state := change (v.next visit).state }

theorem amid_alone (r : Routine σ α) (s : σ) (met : List σ) :
    r.amid visit ⟨s, [], met⟩ = ((r.run s).1, ⟨(r.run s).2, [], met⟩) := by
  induction r generalizing s with
  | done a => rfl
  | look next ih => exact ih s s
  | put s' next ih => exact ih s'
  | sleep span next ih => exact ih _
  | acquire lock next ih => exact ih s
  | release lock next ih => exact ih s
  | defer change next ih => exact ih s (change s)

theorem amid_bind (r : Routine σ α) (f : α → Routine σ γ) (v : Visited σ) :
    (r >>= f).amid visit v = (f (r.amid visit v).1).amid visit (r.amid visit v).2 := by
  change (r.bind f).amid visit v = _
  induction r generalizing v with
  | done a => rfl
  | look next ih => exact ih _ _
  | put s next ih => exact ih _
  | sleep span next ih => exact ih _
  | acquire lock next ih => exact ih _
  | release lock next ih => exact ih _
  | defer change next ih => exact ih _ _

def Ensures (visit : σ → σ) (P : Assertion σ) (r : Routine σ α) (Q : α → Assertion σ) : Prop :=
  ∀ v : Visited σ, P v.state v.met → Q (r.amid visit v).1 (r.amid visit v).2.state (r.amid visit v).2.met

/-- What is stable and survives the steps of a routine survives the routine, whenever it is visited. -/
theorem Moves.ensures {R : σ → σ → Prop} {r : Routine σ α} {P : Assertion σ} (moves : Moves R r)
    (stable : Stable visit P) (kept : ∀ s s' met, R s s' → P s met → P s' met) : Ensures visit P r fun _ => P := by
  intro v holds
  induction moves generalizing v with
  | done a => exact holds
  | look _ ih => exact ih _ _ (stable.next v holds)
  | change each _ ih => exact ih _ _ (kept _ _ _ (each _) (stable.next v holds))
  | sleep each _ ih => exact ih _ (kept _ _ _ (each _) (stable.next v holds))
  | acquire _ ih => exact ih _ (stable.next v holds)
  | release _ ih => exact ih _ (stable.next v holds)
  | defer each _ ih => exact ih _ _ (kept _ _ _ (each _) (stable.next v holds))

namespace Ensures

variable {P P' : Assertion σ} {Q Q' : α → Assertion σ} {r : Routine σ α}

theorem pure {a : α} (implied : ∀ s met, P s met → Q a s met) : Ensures visit P (Pure.pure a) Q :=
  fun v holds => implied v.state v.met holds

theorem read (stable : Stable visit P) : Ensures visit P Routine.read fun seen s met => seen = s ∧ P s met :=
  fun v holds => ⟨rfl, stable.next v holds⟩

theorem step {f : σ → α × σ} (stable : Stable visit P) (each : ∀ s met, P s met → Q (f s).1 (f s).2 met) :
    Ensures visit P (Routine.step f) Q := fun v holds => each _ _ (stable.next v holds)

theorem bind {f : α → Routine σ γ} {S : γ → Assertion σ} (first : Ensures visit P r Q)
    (later : ∀ a, Ensures visit (Q a) (f a) S) : Ensures visit P (r >>= f) S := by
  intro v holds
  rw [amid_bind]
  exact later _ _ (first v holds)

theorem holding {lock : Lock} (before : Stable visit P) (after : ∀ a, Stable visit (Q a))
    (body : Ensures visit P r Q) : Ensures visit P (Routine.holding lock r) Q := by
  have released : Ensures visit P (r >>= fun a => .release lock (.done a)) Q :=
    body.bind fun a v holds => (after a).next v holds
  exact fun v holds => released _ (before.next v holds)

theorem weaken (implied : ∀ s met, P' s met → P s met) (ensures : Ensures visit P r Q) : Ensures visit P' r Q :=
  fun v holds => ensures v (implied _ _ holds)

theorem conclude (implies : ∀ a s met, Q a s met → Q' a s met) (ensures : Ensures visit P r Q) : Ensures visit P r Q' :=
  fun v holds => implies _ _ _ (ensures v holds)

theorem or (left : Ensures visit P r Q) (right : Ensures visit P' r Q') :
    Ensures visit (fun s met => P s met ∨ P' s met) r fun a s met => Q a s met ∨ Q' a s met :=
  fun v => Or.imp (left v) (right v)

theorem given (each : ∀ s met, P s met → Ensures visit P r Q) : Ensures visit P r Q :=
  fun v holds => each _ _ holds v holds

end Ensures
end GattPeripheral.Routine
