import GattPeripheral.Proofs.Host.Advertising

/-!
# When the manager refuses an advertisement

The fallback steps of the advertisement are then tried in order, until one of them succeeds.
`Host.tryFallbacks_run` says what becomes of any list of steps, with whatever outcomes they have in their turn.
Main statement: `Host.falls_back`.
-/

namespace GattPeripheral

variable {β : Type} [Transport β]

def FallbackStep.Fails (step : FallbackStep) (h : Host β) : Prop := ((Host.enableFallback step).run h).1 ≠ .ok ()

namespace Host

variable {h : Host β}

def afterSteps (steps : List FallbackStep) (h : Host β) : Host β :=
  steps.foldl (fun h step => ((enableFallback step).run h).2) h

def AllFail (steps : List FallbackStep) (h : Host β) : Prop :=
  ∀ front step, front ++ [step] <+: steps → step.Fails (h.afterSteps front)

theorem allFail_nil (h : Host β) : h.AllFail [] := fun _ _ before => by simp at before

theorem AllFail.cons {step : FallbackStep} {steps : List FallbackStep} (fails : step.Fails h)
    (later : AllFail steps ((enableFallback step).run h).2) : h.AllFail (step :: steps) := by
  intro front last before
  cases front with
  | nil =>
      obtain ⟨rfl, -⟩ := List.cons_prefix_cons.mp before
      exact fails
  | cons first front =>
      obtain ⟨rfl, rest⟩ := List.cons_prefix_cons.mp before
      exact later front last rest

theorem afterSteps_beside {γ : Type} {view : β → γ} (blind : Transport.BlindToProperties view)
    (steps : List FallbackStep) (h : Host β) : h.Beside view (h.afterSteps steps) := by
  induction steps generalizing h with
  | nil => exact .refl view h
  | cons step steps ih =>
      have first : Routine.Minds view (enableFallback step : Routine (Host β) _) :=
        .of_moves (.enableFallback (Host.Beside.allowsQuestions blind) step)
      exact (first h).trans (ih _)

theorem tryFallbacks_run (steps : List FallbackStep) (h : Host β) :
    h.AllFail steps ∧ (tryFallbacks steps).run h = (.error .advertisingUnavailable, h.afterSteps steps) ∨
      ∃ front step back, steps = front ++ step :: back ∧ h.AllFail front ∧ ¬ step.Fails (h.afterSteps front) ∧
        (tryFallbacks steps).run h = (.ok (.fallback step.name), h.afterSteps (front ++ [step])) := by
  induction steps generalizing h with
  | nil => exact .inl ⟨h.allFail_nil, rfl⟩
  | cons step steps ih =>
      rw [tryFallbacks, Routine.run_bind']
      cases tried : (enableFallback step).run h with
      | mk outcome next =>
          have here : h.afterSteps [step] = next := congrArg Prod.snd tried
          cases outcome with
          | ok =>
              refine .inr ⟨[], step, steps, rfl, h.allFail_nil, fun fails => fails (congrArg Prod.fst tried), ?_⟩
              rw [List.nil_append, here]
              rfl
          | error e =>
              have fails : step.Fails h := by simp [FallbackStep.Fails, tried]
              have moved (rest : List FallbackStep) : h.afterSteps (step :: rest) = next.afterSteps rest := by
                rw [← here]
                rfl
              have all {rest : List FallbackStep} (later : next.AllFail rest) : h.AllFail (step :: rest) :=
                .cons fails (tried.symm ▸ later)
              rcases ih next with ⟨later, run⟩ | ⟨front, winner, back, rfl, later, wins, run⟩
              · exact .inl ⟨all later, by rw [moved]; exact run⟩
              · refine .inr ⟨step :: front, winner, back, rfl, all later, ?_, ?_⟩
                · rwa [moved]
                · rw [List.cons_append, moved]
                  exact run

/-- A registration that the manager refused ends with `answer`, after exactly the steps in `tried`. -/
structure FellBack (key : Nat) (a : Advertisement) (h : Host β) (tried : List FallbackStep)
    (answer : Except GattError AdvertisingMode) : Prop where
  run : (registerAdvertisement key).run h = (answer, ((makeAdvertised a).run h).2.afterSteps tried)
  advertisements : ((registerAdvertisement key).run h).2.advertisements = h.advertisements

variable {key : Nat} {a : Advertisement}

theorem FellBack.of_run {tried : List FallbackStep} {answer : Except GattError AdvertisingMode}
    (run : (registerAdvertisement key).run h = (answer, ((makeAdvertised a).run h).2.afterSteps tried)) :
    FellBack key a h tried answer := by
  refine ⟨run, ?_⟩
  have asked : h.Beside (fun _ => ()) ((makeAdvertised a).run h).2 :=
    Routine.Minds.makeRegistration Transport.blind_unit _ _ h
  rw [run]
  exact (asked.trans (afterSteps_beside Transport.blind_unit.toBlindToProperties tried _)).advertisements

/-- What registering makes of an advertisement that is published and not registered. If the manager accepts it,
no step is tried. If not, the steps are tried up to the first one that succeeds, or none of them where fallbacks
are disabled, and the advertisements stay as they are. -/
theorem falls_back (h : Host β) (found : h.advertisements[key]? = some a) (free : a.registered = false)
    (published : a.published = true) :
    let asked := (makeAdvertised a).run h
    (asked.1 = .ok () → (registerAdvertisement key).run h =
        (.ok .registered, asked.2.withAdvertisement key fun a => { a with registered := true })) ∧
      ∀ e, asked.1 = .error e →
        (h.options.enableFallbacks = false ∨ a.fallbacks = [] → FellBack key a h [] (.error (.bus e))) ∧
        (h.options.enableFallbacks = true → a.fallbacks ≠ [] →
          asked.2.AllFail a.fallbacks ∧ FellBack key a h a.fallbacks (.error .advertisingUnavailable) ∨
            ∃ front step back, a.fallbacks = front ++ step :: back ∧
              asked.2.AllFail front ∧ ¬ step.Fails (asked.2.afterSteps front) ∧
              FellBack key a h (front ++ [step]) (.ok (.fallback step.name))) := by
  intro asked
  rcases h.registerAdvertisement_asks found free published with ⟨accepted, run⟩ | ⟨e, refused, run⟩
  · refine ⟨fun _ => run, fun e refused => ?_⟩
    cases accepted.symm.trans refused
  · refine ⟨fun accepted => ?_, fun e' same => ?_⟩
    · cases accepted.symm.trans refused
    cases refused.symm.trans same
    rw [afterRefusal] at run
    refine ⟨fun idle => .of_run ?_, fun enabled more => ?_⟩
    · rw [run, if_pos (by simpa using idle)]
      rfl
    · rw [if_neg (by simp [enabled, more])] at run
      rcases tryFallbacks_run a.fallbacks asked.2 with ⟨all, ran⟩ | ⟨front, step, back, split, all, wins, ran⟩
      · exact .inl ⟨all, .of_run (run.trans ran)⟩
      · exact .inr ⟨front, step, back, split, all, wins, .of_run (run.trans ran)⟩

def refusingManager : Host MemoryBus :=
  let steps : List FallbackStep :=
    [.supplied "first" (.error .advertisingUnavailable), .supplied "second" (.ok ()), .supplied "third" (.ok ())]
  let h : Host MemoryBus := new (MemoryBus.empty.pushReply (.error .notConnected)) .root .root .standard
  { h with advertisements := [{ Advertisement.new .root (.new .peripheral) with published := true, fallbacks := steps }] }

theorem falls_back_second :
    let done := (registerAdvertisement 0).run refusingManager
    done.2.advertisements = refusingManager.advertisements ∧ done.1 = .ok (.fallback "second") ∧
      done.2.channel.trace.filter (fun e => !e.isOfCall) = [.fallback "first", .fallback "second"] := by
  have found : refusingManager.advertisements[0]? = some _ := rfl
  obtain ⟨-, refused⟩ := falls_back refusingManager found rfl rfl
  refine ⟨?_, rfl, rfl⟩
  rcases (refused .notConnected rfl).2 rfl (by simp) with ⟨-, fell⟩ | ⟨_, _, _, -, -, -, fell⟩
  · exact fell.advertisements
  · exact fell.advertisements

end Host
end GattPeripheral
