import GattPeripheral.Routine

/-!
Routines side by side.

The jobs of a list are visited in order, again and again, and each runs until it must wait. A lock goes
to whoever asked first. Changes that jobs asked for elsewhere are made after each visit, in the order of
the jobs. When every unfinished job sleeps or queues, the clock moves to the earliest deadline. A job's
answer is taken from the state at its end.
-/

namespace GattPeripheral.Routine

variable {σ α : Type}

inductive Waiting where
  | ready
  | deadline (time : Duration)
  | queued (lock : Lock)
  /-- The routine asked for a change that was not made yet. -/
  | deferred
  deriving DecidableEq

/-- A job: finished with its answer, or what is left of it. -/
inductive Job (σ α : Type) where
  | finished (answer : α)
  | pending (left : Routine σ α) (waiting : Waiting)

/-- Who holds a lock, and who stands in line for it. -/
structure Holding where
  lock : Lock
  owner : Nat
  line : List Nat

abbrev Locks := List Holding

/-- Takes a lock for a job, or puts the job in line: whether it got the lock. -/
def Locks.take (locks : Locks) (lock : Lock) (job : Nat) : Bool × Locks :=
  match locks.find? (·.lock = lock) with
  | none => (true, ⟨lock, job, []⟩ :: locks)
  | some h =>
      if h.owner = job then (true, locks)
      else (false, locks.map fun h => if h.lock = lock then { h with line := h.line ++ [job] } else h)

/-- Gives a lock to the first in line, or frees it. -/
def Locks.free (locks : Locks) (lock : Lock) : Locks :=
  locks.filterMap fun h =>
    if h.lock = lock then
      match h.line with
      | [] => none
      | job :: line => some ⟨lock, job, line⟩
    else some h

def Locks.owner? (locks : Locks) (lock : Lock) : Option Nat :=
  (locks.find? (·.lock = lock)).map Holding.owner

def advance [Clocked σ] (job : Nat) : Routine σ α → Locks → σ → Job σ α × Locks × σ
  | done a, locks, s => (.finished a, locks, s)
  | look next, locks, s => advance job (next s) locks s
  | put s next, locks, _ => advance job next locks s
  | sleep span next, locks, s =>
      if span.nanos = 0 then advance job next locks s
      else (.pending next (.deadline (Clocked.now s + span.slept)), locks, s)
  | acquire lock next, locks, s =>
      let (got, locks) := locks.take lock job
      if got then advance job next locks s else (.pending next (.queued lock), locks, s)
  | release lock next, locks, s => advance job next (locks.free lock) s
  | defer change next, locks, s => (.pending (.defer change next) .deferred, locks, s)

def canMove [Clocked σ] (job : Nat) (waiting : Waiting) (locks : Locks) (s : σ) : Bool :=
  match waiting with
  | .ready => true
  | .deadline time => time.nanos ≤ (Clocked.now s).nanos
  | .queued lock => locks.owner? lock = some job
  | .deferred => false

/-- Visits every job once; also tells whether any of them moved. -/
def pass [Clocked σ] : Nat → List (Job σ α) → Locks → σ → Bool × List (Job σ α) × Locks × σ
  | _, [], locks, s => (false, [], locks, s)
  | job, .finished a :: jobs, locks, s =>
      let (moved, jobs, locks, s) := pass (job + 1) jobs locks s
      (moved, .finished a :: jobs, locks, s)
  | job, .pending left waiting :: jobs, locks, s =>
      if canMove job waiting locks s then
        let (here, locks, s) := advance job left locks s
        let (_, jobs, locks, s) := pass (job + 1) jobs locks s
        (true, here :: jobs, locks, s)
      else
        let (moved, jobs, locks, s) := pass (job + 1) jobs locks s
        (moved, .pending left waiting :: jobs, locks, s)

/-- Makes the changes that jobs asked for, which lets these jobs go on. -/
def serve : List (Job σ α) → σ → List (Job σ α) × σ
  | [], s => ([], s)
  | .pending (.defer change next) .deferred :: jobs, s =>
      let (jobs, s') := serve jobs (change s)
      (.pending (next s) .ready :: jobs, s')
  | job :: jobs, s =>
      let (jobs, s) := serve jobs s
      (job :: jobs, s)

def nextDeadline? (jobs : List (Job σ α)) : Option Duration :=
  (jobs.filterMap fun
    | .pending _ (.deadline time) => some time
    | _ => none).foldl (fun least time =>
      match least with
      | none => some time
      | some l => if time.nanos < l.nanos then some time else some l) none

def answers? (jobs : List (Job σ α)) : Option (List α) :=
  jobs.mapM fun
    | .finished a => some a
    | .pending _ _ => none

/-- Passes over the jobs until all are finished. Jobs that can never move again give `none`, as do
more than `fuel` passes. -/
def settle [Clocked σ] : Nat → List (Job σ α) → Locks → σ → Option (List α) × σ
  | 0, _, _, s => (none, s)
  | fuel + 1, jobs, locks, s =>
      match answers? jobs with
      | some as => (some as, s)
      | none =>
          let (moved, jobs, locks, s) := pass 0 jobs locks s
          let (jobs, s) := serve jobs s
          if moved then settle fuel jobs locks s
          else
            match nextDeadline? jobs with
            | none => (none, s)
            | some time =>
                settle fuel jobs locks
                  (Clocked.advance ⟨time.nanos - (Clocked.now s).nanos⟩ s)

def join [Clocked σ] (fuel : Nat) (routines : List (Routine σ α)) (s : σ) : Option (List α) × σ :=
  settle fuel (routines.map (.pending · .ready)) [] s

end GattPeripheral.Routine
