import GattPeripheral.Host.Advertising
import GattPeripheral.Proofs.Host.Requests

/-!
# What becomes of an advertisement

One statement for each step that an advertisement can be taken through, on any bus:
`registerAdvertisement_run`, `unregisterAdvertisement_run`, `publishAdvertisement_run` and
`unpublishAdvertisement_run`.
-/

namespace GattPeripheral.Host

variable {β γ : Type}

def withAdvertisement (key : Nat) (edit : Advertisement → Advertisement) (h : Host β) : Host β :=
  { h with advertisements := h.advertisements.modify key edit }

theorem modify_eq_set {ν : Type} {xs : List ν} {key : Nat} {x : ν} (found : xs[key]? = some x) (f : ν → ν) :
    xs.modify key f = xs.set key (f x) := by
  simp [List.modify_eq_set_getElem?, found]

theorem withAdvertisement_get? {key : Nat} {a : Advertisement} {h : Host β} (found : h.advertisements[key]? = some a)
    (edit : Advertisement → Advertisement) :
    (h.withAdvertisement key edit).advertisements[key]? = some (edit a) := by
  simp [withAdvertisement, found]

theorem get?_of_only {a : Advertisement} {h : Host β} (only : h.advertisements = [a]) :
    h.advertisements[0]? = some a := by
  rw [only]
  rfl

theorem Beside.withAdvertisement {view : β → γ} {h h' : Host β} (beside : h.Beside view h') (key : Nat)
    (edit : Advertisement → Advertisement) :
    (h.withAdvertisement key edit).Beside view (h'.withAdvertisement key edit) := by
  refine ⟨beside.application, ?_, beside.tracker, beside.peripheral, beside.adapter, beside.options, beside.bus,
    beside.record⟩
  rw [Host.withAdvertisement, Host.withAdvertisement, beside.advertisements]

theorem onAdvertisement_map {α : Type} {act : Advertisement → StateM (Channel β) (Advertisement × α)}
    {f : Advertisement → γ} (keeps : ∀ a c, f (act a c).1.1 = f a) (key : Nat) (h : Host β) :
    (h.onAdvertisement key act).2.advertisements.map f = h.advertisements.map f := by
  rw [onAdvertisement]
  cases found : h.advertisements[key]? with
  | none => rfl
  | some a =>
      obtain ⟨bound, rfl⟩ := List.getElem?_eq_some_iff.mp found
      change (h.advertisements.set key _).map f = _
      rw [List.map_set, keeps, ← List.map_set, List.set_getElem_self]

variable [Transport β] (h : Host β) {key : Nat} {a : Advertisement}

theorem publish_keeps (key : Nat) (a : Advertisement) (c : Channel β) :
    (a.publish key c).1.1.path = a.path ∧ (a.publish key c).1.1.registered = a.registered := by
  rw [Advertisement.publish, stateM_bind]
  cases (Channel.exportNode a.path (.advertisement key) c).1 <;> exact ⟨rfl, rfl⟩

def makeAdvertised (a : Advertisement) : Routine (Host β) (Except BusError Unit) :=
  makeRegistration (.registerAdvertisement a.path .empty) (.unregisterAdvertisement a.path)

def dropAdvertised (a : Advertisement) : Routine (Host β) (Except BusError Unit) :=
  dropRegistration (.unregisterAdvertisement a.path)

def afterRefusal (options : RegistrationOptions) (a : Advertisement) (e : BusError) :
    Routine (Host β) (Except GattError AdvertisingMode) :=
  if !options.enableFallbacks || a.fallbacks.isEmpty then return .error (.bus e) else tryFallbacks a.fallbacks

theorem registerAdvertisement_asks (found : h.advertisements[key]? = some a) (free : a.registered = false)
    (published : a.published = true) :
    ((makeAdvertised a).run h).1 = .ok () ∧ (registerAdvertisement key).run h =
        (.ok .registered, ((makeAdvertised a).run h).2.withAdvertisement key fun a => { a with registered := true }) ∨
      ∃ e, ((makeAdvertised a).run h).1 = .error e ∧
        (registerAdvertisement key).run h = (afterRefusal h.options a e).run ((makeAdvertised a).run h).2 := by
  have beside := Routine.Minds.makeRegistration Transport.blind_unit (.registerAdvertisement a.path .empty)
    (.unregisterAdvertisement a.path) h
  rw [show makeRegistration (.registerAdvertisement a.path .empty) (.unregisterAdvertisement a.path) =
    makeAdvertised a from rfl] at beside
  rw [registerAdvertisement, Routine.run_holding, Routine.run_bind', Routine.run_read]
  simp only [found, free, published, Routine.run_bind', Bool.false_eq_true, if_false, Bool.not_true]
  rw [show makeRegistration (.registerAdvertisement a.path .empty) (.unregisterAdvertisement a.path) =
    makeAdvertised a from rfl]
  cases made : (makeAdvertised a).run h with
  | mk answer h' =>
      rw [made] at beside
      cases answer with
      | ok => exact .inl ⟨rfl, rfl⟩
      | error e =>
          -- The steps are looked up anew, but the manager did not change them.
          have same : (h'.advertisements[key]?.map (·.fallbacks)).getD [] = a.fallbacks := by
            rw [beside.advertisements, found]
            rfl
          refine .inr ⟨e, rfl, ?_⟩
          simp only [Routine.run_bind', Routine.run_read, same]
          rfl

theorem registerAdvertisement_run (found : h.advertisements[key]? = some a) :
    a.registered = true ∧ (registerAdvertisement key).run h = (.ok .registered, h) ∨
      (a.registered = false ∧ a.published = false ∧ ∃ e, (registerAdvertisement key).run h = (.error e, h)) ∨
      a.registered = false ∧ a.published = true ∧
        (((makeAdvertised a).run h).1 = .ok () ∧ (registerAdvertisement key).run h =
            (.ok .registered, ((makeAdvertised a).run h).2.withAdvertisement key fun a => { a with registered := true }) ∨
          ∃ e, ((makeAdvertised a).run h).1 = .error e ∧
            ((registerAdvertisement key).run h = (.error (.bus e), ((makeAdvertised a).run h).2) ∨
              ∃ steps, (registerAdvertisement key).run h = (tryFallbacks steps).run ((makeAdvertised a).run h).2)) := by
  cases free : a.registered with
  | true =>
      refine .inl ⟨rfl, ?_⟩
      rw [registerAdvertisement, Routine.run_holding, Routine.run_bind', Routine.run_read]
      simp only [found, free]
      rfl
  | false =>
      cases published : a.published with
      | false =>
          refine .inr (.inl ⟨rfl, rfl, .invalidState "advertisement must be published before registration", ?_⟩)
          rw [registerAdvertisement, Routine.run_holding, Routine.run_bind', Routine.run_read]
          simp only [found, free, published]
          rfl
      | true =>
          refine .inr (.inr ⟨rfl, rfl, (h.registerAdvertisement_asks found free published).imp_right ?_⟩)
          rintro ⟨e, refused, run⟩
          refine ⟨e, refused, ?_⟩
          rw [run, afterRefusal]
          split
          · exact .inl rfl
          · exact .inr ⟨_, rfl⟩

theorem unregisterAdvertisement_run (found : h.advertisements[key]? = some a) :
    a.registered = false ∧ (unregisterAdvertisement key).run h = (.ok (), h) ∨
      a.registered = true ∧ (unregisterAdvertisement key).run h =
        (((dropAdvertised a).run h).1.mapError .bus,
          ((dropAdvertised a).run h).2.withAdvertisement key Advertisement.release) := by
  rw [unregisterAdvertisement, Routine.run_holding, Routine.run_bind', Routine.run_read]
  simp only [found]
  cases registered : a.registered with
  | false => exact .inl ⟨rfl, rfl⟩
  | true =>
      refine .inr ⟨rfl, ?_⟩
      simp only [if_true, Routine.run_bind']
      rfl

theorem publishAdvertisement_run (found : h.advertisements[key]? = some a) :
    ∃ outcome c, Channel.exportNode a.path (.advertisement key) h.channel = (outcome, c) ∧
      (outcome = .ok () ∧ (publishAdvertisement key).run h =
          (.ok (), { h with channel := c }.withAdvertisement key fun a => { a with published := true }) ∨
        ∃ e, outcome = .error e ∧ (publishAdvertisement key).run h = (.error (.bus e), { h with channel := c })) := by
  cases exported : Channel.exportNode a.path (.advertisement key) h.channel with
  | mk outcome c =>
      refine ⟨outcome, c, rfl, ?_⟩
      rw [publishAdvertisement, Routine.run_bind', Routine.run_step, onAdvertisement]
      simp only [found, Advertisement.publish, stateM_bind, exported]
      cases outcome with
      | ok =>
          refine .inl ⟨rfl, ?_⟩
          rw [withAdvertisement, modify_eq_set (x := a) found]
          rfl
      | error e =>
          have same : h.advertisements.set key a = h.advertisements := by
            obtain ⟨bound, rfl⟩ := List.getElem?_eq_some_iff.mp found
            exact List.set_getElem_self bound
          refine .inr ⟨e, rfl, ?_⟩
          change (_, { h with advertisements := h.advertisements.set key a, channel := c }) = _
          rw [same]
          rfl

theorem unpublishAdvertisement_run (found : h.advertisements[key]? = some a) :
    ∃ outcome c, Channel.unexportNode a.path .advertisement h.channel = (outcome, c) ∧
      (unpublishAdvertisement key).run h = (outcome.mapError .bus,
        { h with channel := c }.withAdvertisement key fun a => { a with published := false }) := by
  cases removed : Channel.unexportNode a.path .advertisement h.channel with
  | mk outcome c =>
      refine ⟨outcome, c, rfl, ?_⟩
      rw [unpublishAdvertisement, Routine.run_bind', Routine.run_step, onAdvertisement]
      simp only [found, Advertisement.unpublish, stateM_bind, removed]
      rw [withAdvertisement, modify_eq_set (x := a) found]
      rfl

end GattPeripheral.Host
