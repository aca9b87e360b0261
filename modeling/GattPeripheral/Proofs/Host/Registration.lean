import GattPeripheral.Host.Transition
import GattPeripheral.Proofs.Host.Requests

/-!
# What registering can do to an application

Registering and unregistering talk to the daemon and change the state of the application, nothing else:
`registerApplication_cases`, `unregisterApplication_cases`. Unpublishing ends with the withdrawal of a
tree that is not registered: `unpublishApplication_run`.
-/

namespace GattPeripheral

theorem Application.published_of_registered {a : Application} (registered : a.isRegistered = true) :
    a.state ≠ .unpublished := by
  intro unpublished
  simp [isRegistered, unpublished] at registered

namespace Host

variable {β γ : Type}

def withState (state : ApplicationState) (h : Host β) : Host β :=
  { h with application := { h.application with state } }

theorem Beside.withState {view : β → γ} {h h' : Host β} (beside : h.Beside view h') (state : ApplicationState) :
    (h.withState state).Beside view (h'.withState state) := by
  refine ⟨?_, beside.advertisements, beside.tracker, beside.peripheral, beside.adapter, beside.options, beside.bus,
    beside.record⟩
  rw [Host.withState, Host.withState, beside.application]

variable [Transport β] (h : Host β)

def makeOwnRegistration : Routine (Host β) (Except BusError Unit) :=
  makeRegistration (.registerApplication h.application.path .empty) (.unregisterApplication h.application.path)

def dropOwnRegistration : Routine (Host β) (Except BusError Unit) :=
  dropRegistration (.unregisterApplication h.application.path)

theorem registerApplication_run :
    h.application.state ≠ .published ∧ (registerApplication.run h).2 = h ∧
        ((registerApplication.run h).1 = .ok () → h.application.state = .registered) ∨
      h.application.state = .published ∧
        ((∃ e, (h.makeOwnRegistration.run h).1 = .error e ∧
            registerApplication.run h = (.error (.bus e), (h.makeOwnRegistration.run h).2)) ∨
          (h.makeOwnRegistration.run h).1 = .ok () ∧
            registerApplication.run h = (.ok (), (h.makeOwnRegistration.run h).2.withState .registered)) := by
  rw [registerApplication, Routine.run_holding, Routine.run_bind', Routine.run_read]
  cases state : h.application.state with
  | unpublished => exact .inl ⟨by simp, rfl, fun ok => by cases ok⟩
  | registered => exact .inl ⟨by simp, rfl, fun _ => rfl⟩
  | published =>
      refine .inr ⟨rfl, ?_⟩
      simp only [Routine.run_bind']
      rw [show makeRegistration (.registerApplication h.application.path .empty)
        (.unregisterApplication h.application.path) = h.makeOwnRegistration from rfl]
      cases made : h.makeOwnRegistration.run h with
      | mk answer h' =>
          cases answer with
          | error e => exact .inl ⟨e, rfl, rfl⟩
          | ok => exact .inr ⟨rfl, rfl⟩

theorem unregisterApplication_run :
    h.application.isRegistered = false ∧ unregisterApplication.run h = (.ok (), h) ∨
      h.application.isRegistered = true ∧ unregisterApplication.run h =
        ((h.dropOwnRegistration.run h).1.mapError .bus, (h.dropOwnRegistration.run h).2.withState .published) := by
  rw [unregisterApplication, Routine.run_holding, Routine.run_bind', Routine.run_read]
  cases registered : h.application.isRegistered with
  | false => exact .inl ⟨rfl, rfl⟩
  | true =>
      refine .inr ⟨rfl, ?_⟩
      simp only [if_true, Routine.run_bind']
      rfl

theorem unpublishApplication_eq : unpublishApplication.run h =
    (if h.application.isRegistered then (unregisterApplication.run h).2 else h).onApplication
      Application.withdraw := by
  rw [unpublishApplication, Routine.run_bind', Routine.run_read]
  cases h.application.isRegistered with
  | true =>
      simp only [if_true, Routine.run_bind']
      rfl
  | false => rfl

theorem shutdownApplication_cases :
    h.application.state = .unpublished ∧ shutdownApplication.run h = ((), h) ∨
      h.application.state ≠ .unpublished ∧ (shutdownApplication.run h).2 = (unpublishApplication.run h).2 := by
  rw [shutdownApplication, Routine.run_bind', Routine.run_read]
  by_cases unpublished : h.application.state = .unpublished
  · exact .inl ⟨unpublished, by simp only [unpublished]; rfl⟩
  · exact .inr ⟨unpublished, by simp only [if_neg unpublished, Routine.run_bind']; rfl⟩

theorem transition_cases {t : Transition} (own : t.isOfApplication = true) :
    (t.routine.run h).2 = h ∨ t = .publish ∧ (t.routine.run h).2 = (publishApplication.run h).2 ∨
      (t.routine.run h).2 = (unpublishApplication.run h).2 ∨ (t.routine.run h).2 = (registerApplication.run h).2 ∨
      (t.routine.run h).2 = (unregisterApplication.run h).2 := by
  cases t with
  | publish => exact .inr (.inl ⟨rfl, rfl⟩)
  | unpublish =>
      rw [Transition.routine, Routine.run_bind']
      exact .inr (.inr (.inl rfl))
  | register =>
      rw [Transition.routine, Routine.run_bind']
      exact .inr (.inr (.inr (.inl rfl)))
  | unregister =>
      rw [Transition.routine, Routine.run_bind']
      exact .inr (.inr (.inr (.inr rfl)))
  | shutdown =>
      rw [Transition.routine, Routine.run_bind']
      rcases h.shutdownApplication_cases with ⟨-, run⟩ | ⟨-, run⟩
      · exact .inl (congrArg Prod.snd run)
      · exact .inr (.inr (.inl run))
  | _ => cases own

variable {view : β → γ} (blind : Transport.Blind view)
include blind

theorem registerApplication_cases : ∃ outcome h', registerApplication.run h = (outcome, h') ∧
    (h.Beside view h' ∧ (outcome = .ok () → h.application.state = .registered) ∨
      h.application.state = .published ∧ outcome = .ok () ∧ (h.withState .registered).Beside view h') := by
  have asked : h.Beside view (h.makeOwnRegistration.run h).2 := Routine.Minds.makeRegistration blind _ _ h
  rcases h.registerApplication_run with ⟨-, same, only⟩ | ⟨published, ⟨e, -, run⟩ | ⟨-, run⟩⟩
  · exact ⟨_, _, rfl, .inl ⟨same.symm ▸ .refl view h, only⟩⟩
  · exact ⟨_, _, run, .inl ⟨asked, fun ok => by cases ok⟩⟩
  · exact ⟨_, _, run, .inr ⟨published, rfl, asked.withState .registered⟩⟩

theorem unregisterApplication_cases :
    h.application.isRegistered = false ∧ unregisterApplication.run h = (.ok (), h) ∨
      h.application.isRegistered = true ∧
        (h.withState .published).Beside view (unregisterApplication.run h).2 := by
  rcases h.unregisterApplication_run with same | ⟨registered, run⟩
  · exact .inl same
  · rw [run]
    have dropped : h.Beside view (h.dropOwnRegistration.run h).2 := Routine.Minds.dropRegistration blind _ h
    exact .inr ⟨registered, dropped.withState .published⟩

theorem unpublishApplication_run : ∃ h', (h.withState
      (if h.application.isRegistered then .published else h.application.state)).Beside view h' ∧
    unpublishApplication.run h = h'.onApplication Application.withdraw := by
  rw [unpublishApplication_eq]
  rcases h.unregisterApplication_cases blind with ⟨free, -⟩ | ⟨registered, beside⟩
  · simp only [free]
    exact ⟨h, .refl view h, rfl⟩
  · simp only [registered, if_true]
    exact ⟨_, beside, rfl⟩

end Host
end GattPeripheral
