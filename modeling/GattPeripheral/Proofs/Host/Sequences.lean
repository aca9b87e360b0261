import GattPeripheral.Proofs.Host.Moves

/-!
# Bringing up and taking down as sequences of steps

Bringing up goes from step to step until one fails: `bringUp_eq`. Taking down carries out every step and
answers with the first failure: `tearDown_inTurn`.
-/

namespace GattPeripheral

namespace Host

theorem firstFailure_ok (answer : Except GattError Unit) : firstFailure answer (.ok ()) = answer := by
  cases answer <;> rfl

theorem ok_firstFailure (answer : Except GattError Unit) : firstFailure (.ok ()) answer = answer := rfl

theorem firstFailure_assoc (a b c : Except GattError Unit) :
    firstFailure (firstFailure a b) c = firstFailure a (firstFailure b c) := by
  cases a <;> rfl

end Host

namespace Routine

variable {σ τ : Type}

def untilFailure : List (Routine σ (Except GattError Unit)) → Routine σ (Except GattError Unit)
  | [] => return .ok ()
  | step :: steps => do
      match ← step with
      | .error e => return .error e
      | .ok () => untilFailure steps

/-- One step after the other, whatever fails. The first failure is the answer. -/
def inTurn : List (Routine σ (Except GattError Unit)) → Routine σ (Except GattError Unit)
  | [] => return .ok ()
  | step :: steps => do
      let first ← step
      return Host.firstFailure first (← inTurn steps)

def surely (step : Routine σ Unit) : Routine σ (Except GattError Unit) := do
  step
  return .ok ()

theorem untilFailure_singleton (step : Routine σ (Except GattError Unit)) : untilFailure [step] = step := by
  refine Eq.trans (congrArg (step >>= ·) (funext fun outcome => ?_)) (bind_pure step)
  cases outcome <;> rfl

section Runs
variable [Clocked σ] {step : Routine σ (Except GattError Unit)} {steps : List (Routine σ (Except GattError Unit))}
  {e : GattError}

theorem untilFailure_run (step : Routine σ (Except GattError Unit)) (steps : List (Routine σ (Except GattError Unit)))
    (s : σ) : (untilFailure (step :: steps)).run s =
      match step.run s with
      | (.error e, s') => (.error e, s')
      | (.ok (), s') => (untilFailure steps).run s' := by
  rw [untilFailure, run_bind']
  cases step.run s with
  | mk outcome s' => cases outcome <;> rfl

theorem inTurn_run (step : Routine σ (Except GattError Unit)) (steps : List (Routine σ (Except GattError Unit)))
    (s : σ) : (inTurn (step :: steps)).run s =
      (Host.firstFailure (step.run s).1 ((inTurn steps).run (step.run s).2).1,
        ((inTurn steps).run (step.run s).2).2) := by
  rw [inTurn, run_bind', run_bind']
  rfl

theorem inTurn_state (steps : List (Routine σ (Except GattError Unit))) (s : σ) :
    ((inTurn steps).run s).2 = steps.foldl (fun s step => (step.run s).2) s := by
  induction steps generalizing s with
  | nil => rfl
  | cons step steps ih =>
      rw [inTurn_run]
      exact ih _

theorem untilFailure_leads (view : σ → τ) {P Q R : τ → Prop} (first : ∀ s, P (view s) → Q (view (step.run s).2))
    (ended : ∀ t, Q t → R t) (later : ∀ s, Q (view s) → R (view ((untilFailure steps).run s).2)) (s : σ)
    (holds : P (view s)) : R (view ((untilFailure (step :: steps)).run s).2) := by
  have reached := first s holds
  rw [untilFailure_run]
  cases outcome : step.run s with
  | mk answer s' =>
      rw [outcome] at reached
      cases answer with
      | error e => exact ended _ reached
      | ok => exact later s' reached

theorem inTurn_leads (view : σ → τ) {P Q R : τ → Prop} (first : ∀ s, P (view s) → Q (view (step.run s).2))
    (later : ∀ s, Q (view s) → R (view ((inTurn steps).run s).2)) (s : σ) (holds : P (view s)) :
    R (view ((inTurn (step :: steps)).run s).2) := by
  rw [inTurn_run]
  exact later _ (first s holds)

theorem untilFailure_error (s : σ) (failed : ((untilFailure steps).run s).1 = .error e) : ∃ before step after,
    steps = before ++ step :: after ∧ ((untilFailure before).run s).1 = .ok () ∧
      step.run ((untilFailure before).run s).2 = (.error e, ((untilFailure steps).run s).2) := by
  induction steps generalizing s with
  | nil => cases failed
  | cons step steps ih =>
      rw [untilFailure_run] at failed ⊢
      cases outcome : step.run s with
      | mk answer s' =>
          rw [outcome] at failed
          cases answer with
          | error e' =>
              cases failed
              exact ⟨[], step, steps, rfl, rfl, outcome⟩
          | ok =>
              obtain ⟨before, last, after, rfl, went, fails⟩ := ih s' failed
              refine ⟨step :: before, last, after, rfl, ?_, ?_⟩
              · rw [untilFailure_run, outcome]
                exact went
              · rw [untilFailure_run, outcome]
                exact fails

theorem inTurn_error_iff (s : σ) : ((inTurn steps).run s).1 = .error e ↔ ∃ before step after,
    steps = before ++ step :: after ∧ ((inTurn before).run s).1 = .ok () ∧
      (step.run ((inTurn before).run s).2).1 = .error e := by
  induction steps generalizing s with
  | nil =>
      refine ⟨nofun, fun ⟨before, step, after, split, _⟩ => ?_⟩
      cases before <;> cases split
  | cons first steps ih =>
      rw [inTurn_run]
      cases outcome : (first.run s).1 with
      | error e' =>
          constructor
          · rintro same
            cases same
            exact ⟨[], first, steps, rfl, rfl, outcome⟩
          · rintro ⟨before, step, after, split, went, fails⟩
            cases before with
            | nil =>
                cases split
                exact outcome.symm.trans fails
            | cons head before =>
                cases split
                rw [inTurn_run, outcome] at went
                cases went
      | ok =>
          refine (ih (first.run s).2).trans ⟨?_, ?_⟩
          · rintro ⟨before, step, after, rfl, went, fails⟩
            refine ⟨first :: before, step, after, rfl, ?_, ?_⟩
            · rw [inTurn_run, outcome]
              exact went
            · rw [inTurn_run]
              exact fails
          · rintro ⟨before, step, after, split, went, fails⟩
            cases before with
            | nil =>
                cases split
                cases outcome.symm.trans fails
            | cons head before =>
                cases split
                rw [inTurn_run, outcome] at went
                rw [inTurn_run] at fails
                exact ⟨before, step, after, rfl, went, fails⟩

end Runs

theorem untilFailure_cons {step later : Routine σ (Except GattError Unit)} {steps : List _}
    (same : later = untilFailure steps) : (step >>= fun
      | .error e => pure (.error e)
      | .ok () => later) = untilFailure (step :: steps) := by
  subst same
  rfl

theorem inTurn_append (front back : List (Routine σ (Except GattError Unit))) :
    inTurn (front ++ back) = do
      let first ← inTurn front
      return Host.firstFailure first (← inTurn back) := by
  induction front with
  | nil => exact (bind_pure (inTurn back)).symm
  | cons step front ih =>
      simp only [List.cons_append, inTurn, ih, bind_assoc, pure_bind, Host.firstFailure_assoc]

namespace Ensures

variable [Clocked σ] {visit : σ → σ} {P Q R : Assertion σ} {step : Routine σ (Except GattError Unit)} {steps : List _}

theorem untilFailure (first : Ensures visit P step fun _ => Q) (ended : ∀ s met, Q s met → R s met)
    (later : Ensures visit Q (untilFailure steps) fun _ => R) :
    Ensures visit P (Routine.untilFailure (step :: steps)) fun _ => R := by
  refine first.bind fun outcome => ?_
  cases outcome with
  | error e => exact fun v => ended v.state v.met
  | ok => exact later

theorem inTurn (first : Ensures visit P step fun _ => Q) (later : Ensures visit Q (inTurn steps) fun _ => R) :
    Ensures visit P (Routine.inTurn (step :: steps)) fun _ => R :=
  first.bind fun _ => later.bind fun _ => .pure fun _ _ => id

end Ensures

end Routine

namespace Host

open Routine

variable {β : Type}

def overseen (bus : β) (root adapter : ObjectPath) (options : RegistrationOptions)
    (advertisement : Option (ObjectPath × AdvertisementData)) (adapterName : Option String) : Host β :=
  { new bus root adapter options with
    advertisements := advertisement.toList.map fun (path, data) => .new path data
    peripheral := some (.new (advertisement.map fun _ => 0) adapterName) }

variable [Transport β]

def giveName (adapter : ObjectPath) : Option String → Routine (Host β) (Except GattError Unit)
  | none => return .ok ()
  | some name => do
      let _ ← Adapter.setFriendlyName adapter name
      return .ok ()

theorem giveName_moves {R : Host β → Host β → Prop} (allows : AllowsQuestions R) (adapter : ObjectPath)
    (name : Option String) : Moves R (giveName adapter name) := by
  cases name with
  | none => exact .pure _
  | some name => exact .bind (.setFriendlyName allows adapter name) fun _ => .pure _

def ascent (p : Peripheral) (adapter : ObjectPath) : List (Routine (Host β) (Except GattError Unit)) :=
  [Adapter.powerOn adapter, giveName adapter p.adapterName, publishApplication, registerApplication] ++
    p.advertisement.toList.map bringUpAdvertisement ++ [startTracker]

theorem bringUp_eq (p : Peripheral) :
    bringUp (β := β) p = Routine.read >>= fun h => untilFailure (ascent p h.adapter) := by
  obtain ⟨advertisement, adapterName, state, mode⟩ := p
  refine congrArg (Routine.read >>= ·) (funext fun h => untilFailure_cons ?_)
  -- A name that is refused does not end the sequence.
  have named (name : String) {later : Routine (Host β) (Except GattError Unit)} {steps : List _}
      (same : later = untilFailure steps) : (Adapter.setFriendlyName h.adapter name >>= fun _ => later) =
        untilFailure (giveName h.adapter (some name) :: steps) := by
    subst same
    simp only [untilFailure, giveName, bind_assoc, pure_bind]
  cases advertisement with
  | none =>
      cases adapterName with
      | none => exact untilFailure_cons (untilFailure_cons (untilFailure_singleton _).symm)
      | some name => exact named name (untilFailure_cons (untilFailure_cons (untilFailure_singleton _).symm))
  | some key =>
      cases adapterName with
      | none => exact untilFailure_cons (untilFailure_cons (untilFailure_cons (untilFailure_singleton _).symm))
      | some name =>
          exact named name (untilFailure_cons (untilFailure_cons (untilFailure_cons (untilFailure_singleton _).symm)))

def hideAdvertisementAt (key : Nat) : Routine (Host β) (Except GattError Unit) := do
  let h ← Routine.read
  if h.advertisements[key]?.any (·.published) then unpublishAdvertisement key else return .ok ()

def descent (p : Peripheral) : List (Routine (Host β) (Except GattError Unit)) :=
  [surely stopTracker] ++
    p.advertisement.toList.flatMap (fun key => [unregisterAdvertisement key, hideAdvertisementAt key]) ++
    [surely (editPeripheral fun p => { p with mode := none }), unregisterApplication, unpublishApplication]

theorem tearDownAdvertisement_inTurn (key : Nat) :
    tearDownAdvertisement (β := β) key = inTurn [unregisterAdvertisement key, hideAdvertisementAt key] := by
  refine congrArg (unregisterAdvertisement key >>= ·) (funext fun unregistered => ?_)
  simp only [hideAdvertisementAt, inTurn, bind_assoc, pure_bind, firstFailure_ok, bind_pure]
  refine congrArg (Routine.read >>= ·) (funext fun h => ?_)
  split
  · rfl
  · exact congrArg pure (firstFailure_ok unregistered).symm

theorem tearDown_inTurn (p : Peripheral) : tearDown (β := β) p = inTurn (descent p) := by
  rw [tearDown, descent, inTurn_append, inTurn_append]
  cases p.advertisement with
  | none =>
      simp only [Option.toList, List.flatMap_nil, inTurn, surely, bind_assoc, pure_bind, firstFailure_ok, ok_firstFailure]
  | some key =>
      simp only [Option.toList, List.flatMap_cons, List.flatMap_nil, List.append_nil, ← tearDownAdvertisement_inTurn,
        inTurn, surely, bind_assoc, pure_bind, firstFailure_ok, ok_firstFailure]

/-! ## Starting and stopping -/

def inState (state : PeripheralState) (h : Host β) : Host β :=
  { h with peripheral := h.peripheral.map fun p => { p with state } }

def rising (p : Peripheral) (h : Host β) : Except GattError Unit × Host β :=
  (untilFailure (ascent p h.adapter)).run (h.inState .starting)

def falling (p : Peripheral) (h : Host β) : Except GattError Unit × Host β :=
  (inTurn (descent p)).run (h.inState .stopping)

variable {h : Host β} {p : Peripheral} (known : h.peripheral = some p)
include known

theorem startPeripheral_busy (busy : p.state ≠ .stopped) :
    startPeripheral.run h = (.error (.invalidState ("peripheral is " ++ p.state.name)), h) := by
  rw [startPeripheral, run_holding, run_bind', run_read]
  simp only [known, if_neg busy]
  rfl

theorem startPeripheral_run (stopped : p.state = .stopped) : startPeripheral.run h =
    match (h.rising p).1 with
    | .ok () => (.ok (), (h.rising p).2.inState .running)
    | .error e => (.error e, ((h.rising p).2.falling p).2.inState .stopped) := by
  have raised : (bringUp p).run (h.inState .starting) = h.rising p := by
    rw [bringUp_eq]
    rfl
  rw [startPeripheral, run_holding, run_bind', run_read, ← raised]
  simp only [known, if_pos stopped, run_bind']
  rw [show ((setPeripheralState .starting).run h).2 = h.inState .starting from rfl]
  cases (bringUp p).run (h.inState .starting) with
  | mk result risen =>
      cases result with
      | ok => rfl
      | error e =>
          simp only [falling, ← tearDown_inTurn, run_bind']
          rfl

theorem stopPeripheral_stopped (stopped : p.state = .stopped) : stopPeripheral.run h = (.ok (), h) := by
  rw [stopPeripheral, run_holding, run_bind', run_read]
  simp only [known, if_pos stopped]
  rfl

theorem stopPeripheral_run (busy : p.state ≠ .stopped) :
    stopPeripheral.run h = ((h.falling p).1, (h.falling p).2.inState .stopped) := by
  rw [stopPeripheral, run_holding, run_bind', run_read, falling, ← tearDown_inTurn]
  simp only [known, if_neg busy, run_bind']
  rfl

end Host
end GattPeripheral
