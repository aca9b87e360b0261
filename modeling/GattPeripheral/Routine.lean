import GattPeripheral.Duration

/-!
Routines that wait.

A routine looks at a shared state, changes it, sleeps, takes and returns locks, and asks for changes
that are made elsewhere. Between two waits nothing else runs. `run` carries a routine out on its own,
where every lock is free and every answer comes at once; running routines side by side is a matter of
`Routine.Join`. Main statement: `run_bind`.
-/

namespace GattPeripheral

/-- What routines that must not overlap take hold of. -/
inductive Lock where
  | application
  | advertisement (key : Nat)
  | peripheral
  deriving DecidableEq, Repr

/-- A state with a clock, which moves by what a sleep lasts. -/
class Clocked (σ : Type) where
  advance : Duration → σ → σ
  now : σ → Duration

inductive Routine (σ α : Type) where
  | done (a : α)
  | look (next : σ → Routine σ α)
  | put (s : σ) (next : Routine σ α)
  | sleep (span : Duration) (next : Routine σ α)
  | acquire (lock : Lock) (next : Routine σ α)
  | release (lock : Lock) (next : Routine σ α)
  /-- A change that is made elsewhere while the routine waits. The rest depends on the state that the
  change met. -/
  | defer (change : σ → σ) (next : σ → Routine σ α)

namespace Routine

variable {σ α γ : Type}

def bind : Routine σ α → (α → Routine σ γ) → Routine σ γ
  | done a, f => f a
  | look next, f => look fun s => bind (next s) f
  | put s next, f => put s (bind next f)
  | sleep span next, f => sleep span (bind next f)
  | acquire lock next, f => acquire lock (bind next f)
  | release lock next, f => release lock (bind next f)
  | defer change next, f => defer change fun s => bind (next s) f

instance : Monad (Routine σ) where
  pure := done
  bind := bind

def read : Routine σ σ := look done

/-- A step that nothing can come between. -/
def step (f : σ → α × σ) : Routine σ α := look fun s => put (f s).2 (done (f s).1)

/-- A step that is taken elsewhere while the routine waits for its result. -/
def exchange (f : σ → α × σ) : Routine σ α := defer (fun s => (f s).2) fun s => done (f s).1

def wait (span : Duration) : Routine σ Unit := sleep span (done ())

def holding (lock : Lock) (body : Routine σ α) : Routine σ α :=
  acquire lock (body.bind fun a => release lock (done a))

/-- Carries a routine out with nothing beside it. -/
def run [Clocked σ] : Routine σ α → σ → α × σ
  | done a, s => (a, s)
  | look next, s => run (next s) s
  | put s next, _ => run next s
  | sleep span next, s => run next (Clocked.advance span.slept s)
  | acquire _ next, s => run next s
  | release _ next, s => run next s
  | defer change next, s => run (next s) (change s)

theorem run_bind [Clocked σ] (r : Routine σ α) (f : α → Routine σ γ) (s : σ) :
    (r.bind f).run s = (f (r.run s).1).run (r.run s).2 := by
  induction r generalizing s with
  | done a => rfl
  | look next ih => exact ih s s
  | put s' next ih => exact ih s'
  | sleep span next ih => exact ih _
  | acquire lock next ih => exact ih s
  | release lock next ih => exact ih s
  | defer change next ih => exact ih s (change s)

@[simp] theorem run_pure [Clocked σ] (a : α) (s : σ) : (pure a : Routine σ α).run s = (a, s) := rfl

@[simp] theorem run_bind' [Clocked σ] (r : Routine σ α) (f : α → Routine σ γ) (s : σ) :
    (r >>= f).run s = (f (r.run s).1).run (r.run s).2 := run_bind r f s

@[simp] theorem run_step [Clocked σ] (f : σ → α × σ) (s : σ) : (step f).run s = f s := rfl

@[simp] theorem run_exchange [Clocked σ] (f : σ → α × σ) (s : σ) : (exchange f).run s = f s := rfl

@[simp] theorem run_holding [Clocked σ] (lock : Lock) (body : Routine σ α) (s : σ) :
    (holding lock body).run s = body.run s := by
  simp [holding, run, run_bind]

end Routine
end GattPeripheral
