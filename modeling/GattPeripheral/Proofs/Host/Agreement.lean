import GattPeripheral.Proofs.Host.Advertising
import GattPeripheral.Proofs.Host.Manager
import GattPeripheral.Proofs.Host.Registration
import GattPeripheral.Proofs.Tree.Walks

/-!
# Agreement with the manager

An application and an advertisement deal with the managers of an adapter, and any call or answer may get
lost. `Host.InStep` is what every dealing keeps: whoever thinks to be registered is held by its manager.
Main statement: `Host.parties_agree`.
-/

namespace GattPeripheral

/-- A step that an application or the first advertisement takes, most of them with its manager. With a
release the manager may have dropped the advertisement. -/
inductive Dealing where
  | edit (edit : Edit)
  | application (transition : Transition) (own : transition.isOfApplication = true)
  | publish
  | unpublish
  | register
  | unregister
  | release (dropped : Bool)

namespace Host

def applicationEntry (root : ObjectPath) : Entry := (Names.gattManager, root)

def advertisementEntry (path : ObjectPath) : Entry := (Names.advertisingManager, path)

theorem entries_differ (root path : ObjectPath) : advertisementEntry path ≠ applicationEntry root := by
  intro same
  have names : Names.advertisingManager = Names.gattManager := congrArg Prod.fst same
  revert names
  decide +kernel

def held (h : Host ManagedBus) : List Entry := h.channel.bus.held

def releasedByDaemon (path : ObjectPath) (dropped : Bool) (h : Host ManagedBus) : Host ManagedBus :=
  let bus := h.channel.bus
  let held := if dropped then bus.held.filter (· != advertisementEntry path) else bus.held
  { h with channel := { h.channel with bus := { bus with held } } }.withAdvertisement 0 Advertisement.release

end Host

def Dealing.perform (path : ObjectPath) (dealing : Dealing) (h : Host ManagedBus) : Host ManagedBus :=
  match dealing with
  | edit e => { h with application := e.apply h.application }
  | application t _ => (t.routine.run h).2
  | publish => ((Host.publishAdvertisement 0).run h).2
  | unpublish => ((Host.unpublishAdvertisement 0).run h).2
  | register => ((Host.registerAdvertisement 0).run h).2
  | unregister => ((Host.unregisterAdvertisement 0).run h).2
  | release dropped => h.releasedByDaemon path dropped

namespace Host

def dealt (path : ObjectPath) (dealings : List Dealing) (h : Host ManagedBus) : Host ManagedBus :=
  dealings.foldl (fun h dealing => dealing.perform path h) h

/-! ## Registrations as the manager answers them -/

structure Made (entry : Entry) (h : Host ManagedBus) (made : Except BusError Unit × Host ManagedBus) : Prop where
  beside : h.Beside (fun _ => ()) made.2
  others : ∀ other, other ≠ entry → (other ∈ made.2.held ↔ other ∈ h.held)
  holds : made.1 = .ok () → entry ∈ made.2.held
  replaces : h.channel.bus.Faithful 3 → made.1 = .ok ()

structure Dropped (entry : Entry) (h : Host ManagedBus) (dropped : Except BusError Unit × Host ManagedBus) : Prop where
  beside : h.Beside (fun _ => ()) dropped.2
  others : ∀ other, other ≠ entry → (other ∈ dropped.2.held ↔ other ∈ h.held)
  gone : dropped.1 = .ok () → entry ∉ dropped.2.held

theorem makeRegistration_made {register unregister : ManagerCall} (pair : ManagedBus.Pair register unregister)
    (h : Host ManagedBus) : h.Made register.entry ((makeRegistration register unregister).run h) := by
  have run := makeRegistration_run register unregister h
  obtain ⟨others, holds⟩ := ManagedBus.make_answered h.adapter h.options pair h.channel.bus
  rw [← run] at others holds
  have replaces := ManagedBus.make_faithful h.adapter h.options pair (b := h.channel.bus)
  rw [← run] at replaces
  exact ⟨Routine.Minds.makeRegistration Transport.blind_unit register unregister h, others, holds, replaces⟩

theorem dropRegistration_dropped {unregister : ManagerCall} (kind : unregister.isRegistration = false)
    (h : Host ManagedBus) : h.Dropped unregister.entry ((dropRegistration unregister).run h) := by
  obtain ⟨others, gone⟩ := ManagedBus.drop_answered h.adapter h.options kind h.channel.bus
  rw [← dropRegistration_run] at others gone
  exact ⟨Routine.Minds.dropRegistration Transport.blind_unit unregister h, others, gone⟩

theorem makeOwnRegistration_made (h : Host ManagedBus) :
    h.Made (applicationEntry h.application.path) (h.makeOwnRegistration.run h) :=
  makeRegistration_made (.application h.application.path) h

theorem dropOwnRegistration_dropped (h : Host ManagedBus) :
    h.Dropped (applicationEntry h.application.path) (h.dropOwnRegistration.run h) :=
  dropRegistration_dropped (ManagedBus.Pair.application h.application.path).drops h

theorem makeAdvertised_made (a : Advertisement) (h : Host ManagedBus) :
    h.Made (advertisementEntry a.path) ((makeAdvertised a).run h) := makeRegistration_made (.advertisement a.path) h

theorem dropAdvertised_dropped (a : Advertisement) (h : Host ManagedBus) :
    h.Dropped (advertisementEntry a.path) ((dropAdvertised a).run h) :=
  dropRegistration_dropped (ManagedBus.Pair.advertisement a.path).drops h

theorem mapError_ok {ε ε' α : Type} {f : ε → ε'} {x : Except ε α} {a : α} (ok : x.mapError f = .ok a) : x = .ok a := by
  cases x with
  | error e => cases ok
  | ok b =>
      cases ok
      rfl

/-! ## The application -/

structure ApplicationDealt (h h' : Host ManagedBus) : Prop where
  path : h'.application.path = h.application.path
  advertisements : h'.advertisements = h.advertisements
  others : ∀ entry, entry ≠ applicationEntry h.application.path → (entry ∈ h'.held ↔ entry ∈ h.held)
  holds : (h.application.isRegistered = true → applicationEntry h.application.path ∈ h.held) →
    h'.application.isRegistered = true → applicationEntry h.application.path ∈ h'.held

namespace ApplicationDealt

variable {h h' h'' : Host ManagedBus}

theorem trans (first : h.ApplicationDealt h') (second : h'.ApplicationDealt h'') : h.ApplicationDealt h'' where
  path := second.path.trans first.path
  advertisements := second.advertisements.trans first.advertisements
  others entry other := (second.others entry (first.path ▸ other)).trans (first.others entry other)
  holds held registered := by
    rw [← first.path]
    refine second.holds (fun before => ?_) registered
    rw [first.path]
    exact first.holds held before

theorem of_held (path : h'.application.path = h.application.path) (advertisements : h'.advertisements = h.advertisements)
    (held : h'.held = h.held)
    (state : h'.application.state = h.application.state ∨ h'.application.state ≠ .registered) :
    h.ApplicationDealt h' where
  path := path
  advertisements := advertisements
  others entry _ := by rw [held]
  holds agreed now := by
    rw [held]
    rw [Application.isRegistered, decide_eq_true_iff] at now
    rcases state with same | other
    · exact agreed (decide_eq_true (same ▸ now))
    · exact absurd now other

theorem refl (h : Host ManagedBus) : h.ApplicationDealt h := of_held rfl rfl rfl (.inl rfl)

theorem register (h : Host ManagedBus) : h.ApplicationDealt (registerApplication.run h).2 := by
  have made := h.makeOwnRegistration_made
  have runs := h.registerApplication_run
  generalize h.makeOwnRegistration.run h = done at made runs
  rcases runs with ⟨-, same, -⟩ | ⟨published, ⟨e, -, run⟩ | ⟨answer, run⟩⟩
  · rw [same]
    exact refl h
  · rw [run]
    refine ⟨made.beside.path, made.beside.advertisements, made.others, fun _ registered => ?_⟩
    rw [made.beside.application, Application.isRegistered, published] at registered
    cases registered
  · rw [run]
    exact ⟨made.beside.path, made.beside.advertisements, made.others, fun _ _ => made.holds answer⟩

theorem unregister (h : Host ManagedBus) : h.ApplicationDealt (unregisterApplication.run h).2 := by
  have dropped := h.dropOwnRegistration_dropped
  have runs := h.unregisterApplication_run
  generalize h.dropOwnRegistration.run h = done at dropped runs
  rcases runs with ⟨-, run⟩ | ⟨-, run⟩
  · rw [run]
    exact refl h
  · rw [run]
    exact ⟨dropped.beside.path, dropped.beside.advertisements, dropped.others, fun _ registered => by
      cases registered⟩

theorem publish (h : Host ManagedBus) : h.ApplicationDealt (publishApplication.run h).2 := by
  obtain ⟨path, state⟩ := h.application.publish_state h.channel
  refine of_held path rfl (h.application.publish_unseen ManagedBus.held_blind_exports h.channel) ?_
  rcases state with same | published
  · exact .inl same
  · exact .inr fun registered => by cases published.symm.trans registered

theorem withdraw (h : Host ManagedBus) : h.ApplicationDealt (h.onApplication Application.withdraw).2 := by
  obtain ⟨path, state⟩ := h.application.withdraw_state h.channel
  refine of_held path rfl (h.application.withdraw_unseen ManagedBus.held_blind_exports h.channel) ?_
  rcases state with same | unpublished
  · exact .inl same
  · exact .inr fun registered => by cases unpublished.symm.trans registered

theorem unpublish (h : Host ManagedBus) : h.ApplicationDealt (unpublishApplication.run h).2 := by
  rw [unpublishApplication_eq]
  cases h.application.isRegistered with
  | true => exact (unregister h).trans (withdraw _)
  | false => exact withdraw h

theorem transition (h : Host ManagedBus) {t : Transition} (own : t.isOfApplication = true) :
    h.ApplicationDealt (t.routine.run h).2 := by
  rcases h.transition_cases own with same | ⟨-, run⟩ | run | run | run
  · rw [same]
    exact refl h
  · rw [run]
    exact publish h
  · rw [run]
    exact unpublish h
  · rw [run]
    exact register h
  · rw [run]
    exact unregister h

theorem edit (h : Host ManagedBus) (e : Edit) :
    h.ApplicationDealt { h with application := e.apply h.application } := by
  obtain ⟨path, state⟩ := e.apply_beside h.application
  exact of_held path rfl rfl (.inl state)

end ApplicationDealt

/-! ## Both parties -/

structure InStep (root path : ObjectPath) (h : Host ManagedBus) : Prop where
  located : h.application.path = root
  application : h.application.isRegistered = true → applicationEntry root ∈ h.held
  advertisement : ∃ a, h.advertisements = [a] ∧ a.path = path ∧
    (a.registered = true → advertisementEntry path ∈ h.held)

namespace InStep

variable {root path : ObjectPath} {h h' : Host ManagedBus}

theorem application_dealt (inStep : h.InStep root path) (dealt : h.ApplicationDealt h') : h'.InStep root path := by
  obtain ⟨rfl, holds, a, only, located, advertised⟩ := inStep
  refine ⟨dealt.path, dealt.holds holds, a, dealt.advertisements.trans only, located, fun registered => ?_⟩
  exact (dealt.others _ (entries_differ h.application.path path)).mpr (advertised registered)

theorem advertisement_dealt (inStep : h.InStep root path) {a : Advertisement}
    (application : h'.application = h.application)
    (others : ∀ entry, entry ≠ advertisementEntry path → (entry ∈ h'.held ↔ entry ∈ h.held))
    (only : h'.advertisements = [a]) (located : a.path = path)
    (holds : a.registered = true → advertisementEntry path ∈ h'.held) : h'.InStep root path where
  located := application ▸ inStep.located
  application registered := by
    rw [application] at registered
    exact (others _ (entries_differ root path).symm).mpr (inStep.application registered)
  advertisement := ⟨a, only, located, holds⟩

theorem same_held (inStep : h.InStep root path) {a : Advertisement} (application : h'.application = h.application)
    (held : h'.held = h.held) (only : h'.advertisements = [a]) (located : a.path = path)
    (holds : a.registered = true → advertisementEntry path ∈ h.held) : h'.InStep root path := by
  refine inStep.advertisement_dealt application (fun entry _ => by rw [held]) only located fun registered => ?_
  rw [held]
  exact holds registered

theorem register (inStep : h.InStep root path) : ((registerAdvertisement 0).run h).2.InStep root path := by
  obtain ⟨a, only, rfl, -⟩ := inStep.advertisement
  have made := makeAdvertised_made a h
  have runs := registerAdvertisement_run h (get?_of_only only)
  generalize (makeAdvertised a).run h = done at made runs
  have only' : done.2.advertisements = [a] := made.beside.advertisements.trans only
  rcases runs with
    ⟨-, run⟩ | ⟨-, -, e, run⟩ | ⟨free, -, ⟨answer, run⟩ | ⟨e, -, run | ⟨steps, run⟩⟩⟩
  · rw [run]
    exact inStep
  · rw [run]
    exact inStep
  · rw [run]
    exact inStep.advertisement_dealt (a := { a with registered := true }) made.beside.application made.others
      (by rw [withAdvertisement, only']; rfl) rfl fun _ => made.holds answer
  · rw [run]
    exact inStep.advertisement_dealt made.beside.application made.others only' rfl fun registered => by
      cases free.symm.trans registered
  · rw [run]
    have tried := Routine.Minds.tryFallbacks ManagedBus.held_blind_properties steps done.2
    refine inStep.advertisement_dealt (tried.application.trans made.beside.application) (fun entry other => ?_)
      (tried.advertisements.trans only') rfl fun registered => by cases free.symm.trans registered
    rw [held, tried.bus]
    exact made.others entry other

theorem unregister (inStep : h.InStep root path) : ((unregisterAdvertisement 0).run h).2.InStep root path := by
  obtain ⟨a, only, rfl, -⟩ := inStep.advertisement
  have dropped := dropAdvertised_dropped a h
  have runs := unregisterAdvertisement_run h (get?_of_only only)
  generalize (dropAdvertised a).run h = done at dropped runs
  rcases runs with ⟨-, run⟩ | ⟨-, run⟩
  · rw [run]
    exact inStep
  · rw [run]
    exact inStep.advertisement_dealt (a := a.release) dropped.beside.application dropped.others
      (by rw [withAdvertisement, dropped.beside.advertisements, only]; rfl) rfl fun registered => by cases registered

theorem publish (inStep : h.InStep root path) : ((publishAdvertisement 0).run h).2.InStep root path := by
  obtain ⟨a, only, rfl, holds⟩ := inStep.advertisement
  obtain ⟨outcome, c, exported, moved⟩ := publishAdvertisement_run h (get?_of_only only)
  have held : c.bus.held = h.held := by
    have unseen := exportNode_unseen ManagedBus.held_blind_exports a.path (.advertisement 0) h.channel
    rwa [exported] at unseen
  rcases moved with ⟨-, run⟩ | ⟨e, -, run⟩
  · rw [run]
    exact inStep.same_held (a := { a with published := true }) rfl held (by rw [withAdvertisement, only]; rfl) rfl holds
  · rw [run]
    exact inStep.same_held rfl held only rfl holds

theorem unpublish (inStep : h.InStep root path) : ((unpublishAdvertisement 0).run h).2.InStep root path := by
  obtain ⟨a, only, rfl, holds⟩ := inStep.advertisement
  obtain ⟨outcome, c, removed, run⟩ := unpublishAdvertisement_run h (get?_of_only only)
  have held : c.bus.held = h.held := by
    have unseen := unexportNode_unseen ManagedBus.held_blind_exports a.path .advertisement h.channel
    rwa [removed] at unseen
  rw [run]
  exact inStep.same_held (a := { a with published := false }) rfl held (by rw [withAdvertisement, only]; rfl) rfl holds

theorem release (inStep : h.InStep root path) (dropped : Bool) : (h.releasedByDaemon path dropped).InStep root path := by
  obtain ⟨a, only, located, -⟩ := inStep.advertisement
  refine inStep.advertisement_dealt (a := a.release) rfl (fun entry other => ?_)
    (by rw [releasedByDaemon, withAdvertisement, only]; rfl) located fun registered => by cases registered
  cases dropped with
  | false => rfl
  | true =>
      change entry ∈ h.held.filter _ ↔ _
      simp [other]

end InStep
end Host

theorem Dealing.inStep {root path : ObjectPath} {h : Host ManagedBus} (inStep : h.InStep root path)
    (dealing : Dealing) : (dealing.perform path h).InStep root path := by
  cases dealing with
  | edit e => exact inStep.application_dealt (.edit h e)
  | application t own => exact inStep.application_dealt (.transition h own)
  | publish => exact inStep.publish
  | unpublish => exact inStep.unpublish
  | register => exact inStep.register
  | unregister => exact inStep.unregister
  | release dropped => exact inStep.release dropped

namespace Host

theorem inStep_dealt {root path : ObjectPath} {h : Host ManagedBus} (inStep : h.InStep root path)
    (dealings : List Dealing) : (h.dealt path dealings).InStep root path := by
  induction dealings generalizing h with
  | nil => exact inStep
  | cons dealing dealings ih => exact ih (dealing.inStep inStep)

/-- Whom a manager can register: how the host sees it, and what it does to be registered. -/
structure Party (α : Type) where
  entry : Entry
  published : Host ManagedBus → Bool
  registered : Host ManagedBus → Bool
  register : Routine (Host ManagedBus) (Except GattError α)
  unregister : Routine (Host ManagedBus) (Except GattError Unit)
  success : α

def Party.application (root : ObjectPath) : Party Unit where
  entry := applicationEntry root
  published h := h.application.state ≠ .unpublished
  registered h := h.application.isRegistered
  register := registerApplication
  unregister := unregisterApplication
  success := ()

def Party.advertisement (path : ObjectPath) : Party AdvertisingMode where
  entry := advertisementEntry path
  published h := h.advertisements[0]?.any (·.published)
  registered h := h.advertisements[0]?.any (·.registered)
  register := registerAdvertisement 0
  unregister := unregisterAdvertisement 0
  success := .registered

structure Party.Agrees {α : Type} (party : Party α) (h : Host ManagedBus) : Prop where
  held : party.registered h = true → party.entry ∈ h.held
  dropped : party.registered h = true → ∀ h', party.unregister.run h = (.ok (), h') → party.entry ∉ h'.held
  replaced : party.published h = true → party.registered h = false → h.channel.bus.Faithful 3 →
    ∃ h', party.register.run h = (.ok party.success, h') ∧ party.registered h' = true ∧ party.entry ∈ h'.held

namespace InStep

variable {root path : ObjectPath} {h : Host ManagedBus}

theorem application_agrees (inStep : h.InStep root path) : (Party.application root).Agrees h := by
  obtain ⟨rfl, holds, -⟩ := inStep
  refine ⟨holds, fun registered h' run => ?_, fun published free faithful => ?_⟩
  · have dropped := h.dropOwnRegistration_dropped
    have runs := h.unregisterApplication_run
    generalize h.dropOwnRegistration.run h = done at dropped runs
    rcases runs with ⟨free, -⟩ | ⟨-, run'⟩
    · cases free.symm.trans registered
    · rw [show unregisterApplication.run h = _ from run, Prod.mk.injEq] at run'
      obtain ⟨answer, rfl⟩ := run'
      exact dropped.gone (mapError_ok answer.symm)
  · have made := h.makeOwnRegistration_made
    have runs := h.registerApplication_run
    generalize h.makeOwnRegistration.run h = done at made runs
    have answer := made.replaces faithful
    rcases runs with ⟨other, -⟩ | ⟨-, ⟨e, refused, -⟩ | ⟨-, run⟩⟩
    · cases state : h.application.state with
      | unpublished => simp [Party.application, state] at published
      | published => exact absurd state other
      | registered => simp [Party.application, Application.isRegistered, state] at free
    · cases answer.symm.trans refused
    · exact ⟨_, run, rfl, made.holds answer⟩

theorem advertisement_agrees (inStep : h.InStep root path) : (Party.advertisement path).Agrees h := by
  obtain ⟨-, -, a, only, rfl, holds⟩ := inStep
  have found := get?_of_only only
  have registered_iff : (Party.advertisement a.path).registered h = a.registered := by
    simp [Party.advertisement, found]
  refine ⟨fun registered => holds (registered_iff ▸ registered), fun registered h' run => ?_,
    fun published free faithful => ?_⟩
  · have dropped := dropAdvertised_dropped a h
    have runs := unregisterAdvertisement_run h found
    generalize (dropAdvertised a).run h = done at dropped runs
    rcases runs with ⟨free, -⟩ | ⟨-, run'⟩
    · cases free.symm.trans (registered_iff.symm.trans registered)
    · rw [show (unregisterAdvertisement 0).run h = _ from run, Prod.mk.injEq] at run'
      obtain ⟨answer, rfl⟩ := run'
      exact dropped.gone (mapError_ok answer.symm)
  · have made := makeAdvertised_made a h
    have runs := registerAdvertisement_run h found
    generalize (makeAdvertised a).run h = done at made runs
    have answer := made.replaces faithful
    have found' : done.2.advertisements[0]? = some a := by rw [made.beside.advertisements, found]
    rcases runs with
      ⟨registered, -⟩ | ⟨-, hidden, -⟩ | ⟨-, -, ⟨-, run⟩ | ⟨e, refused, -⟩⟩
    · cases registered.symm.trans (registered_iff.symm.trans free)
    · simp [Party.advertisement, found, hidden] at published
    · refine ⟨_, run, ?_, made.holds answer⟩
      simp [Party.advertisement, withAdvertisement_get? found']
    · cases answer.symm.trans refused

end InStep

def announcing (bus : ManagedBus) (root path adapter : ObjectPath) (options : RegistrationOptions)
    (data : AdvertisementData) (fallbacks : List FallbackStep) : Host ManagedBus :=
  ((new bus root adapter options).addAdvertisement { Advertisement.new path data with fallbacks }).2

/-- Whatever the manager held before, whatever gets lost and whatever the two do, both the application and
the advertisement agree with the manager. -/
theorem parties_agree (bus : ManagedBus) (root path adapter : ObjectPath) (options : RegistrationOptions)
    (data : AdvertisementData) (fallbacks : List FallbackStep) (dealings : List Dealing) :
    let h := (announcing bus root path adapter options data fallbacks).dealt path dealings
    (Party.application root).Agrees h ∧ (Party.advertisement path).Agrees h := by
  intro h
  have fresh : (announcing bus root path adapter options data fallbacks).InStep root path :=
    ⟨rfl, fun registered => (by cases registered), _, rfl, rfl, fun registered => by cases registered⟩
  have inStep : h.InStep root path := inStep_dealt fresh dealings
  exact ⟨inStep.application_agrees, inStep.advertisement_agrees⟩

/-- A manager whose first answer gets lost after the call took effect. -/
def losingFirst : ManagedBus := ⟨.empty, [], [.lostAfter ⟨.timeout .zero, rfl, rfl⟩]⟩

def unawareDealings : List Dealing :=
  [.application .publish Transition.isOfApplication_publish, .application .register Transition.isOfApplication_register]

def unaware : Host ManagedBus :=
  (announcing losingFirst .root .root .root .standard (.new .peripheral) []).dealt .root unawareDealings

theorem parties_agree_unaware :
    unaware.application.state = .published ∧ applicationEntry .root ∈ unaware.held ∧
      ∃ h', registerApplication.run unaware = (.ok (), h') ∧ h'.application.isRegistered = true := by
  have agrees := (parties_agree losingFirst .root .root .root .standard (.new .peripheral) [] unawareDealings).1
  obtain ⟨h', run, registered, -⟩ := agrees.replaced rfl rfl fun d lost => by cases lost
  exact ⟨rfl, by decide +kernel, h', run, registered⟩

end Host
end GattPeripheral
