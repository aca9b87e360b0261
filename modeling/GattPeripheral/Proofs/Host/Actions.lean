import GattPeripheral.Proofs.Host.Registration
import GattPeripheral.Proofs.Host.Values
import GattPeripheral.Proofs.Tree.Snapshot
import GattPeripheral.Proofs.Tree.Walks

/-!
# Histories on any bus

What a host does with its application is a list of actions, between which the bus may change at will.
`transition_cases_tree` says what a transition can do to the tree, whatever the bus answers. `Action.placed` and
`Host.placed_through`: the tree stays placed. Main statement: `Host.described`.
-/

namespace GattPeripheral

inductive Action (β : Type) where
  | edit (edit : Edit)
  | access (access : Access)
  | transition (transition : Transition) (own : transition.isOfApplication = true)
  | hold (node : NodeRef)
  | letGo (node : NodeRef)
  /-- Something else happens to the bus. -/
  | bus (change : β → β)

section Perform
variable {β : Type} [Transport β]

def Action.perform (action : Action β) (h : Host β) : Host β :=
  match action with
  | edit e => { h with application := e.apply h.application }
  | access a => a.apply h
  | transition t _ => (t.routine.run h).2
  | hold node => h.hold node
  | letGo node => h.letGo node
  | bus change => { h with channel := { h.channel with bus := change h.channel.bus } }

def Host.through (actions : List (Action β)) (h : Host β) : Host β :=
  actions.foldl (fun h action => action.perform h) h

end Perform

/-! ## Transitions -/

structure Application.Registers (a b : Application) : Prop where
  same : b = { a with state := b.state }
  published : b.state = .unpublished ↔ a.state = .unpublished

namespace Host

variable {β : Type} [Transport β] (h : Host β)

theorem registerApplication_registers : h.application.Registers (registerApplication.run h).2.application := by
  obtain ⟨outcome, h', run, ⟨beside, -⟩ | ⟨published, -, beside⟩⟩ := h.registerApplication_cases Transport.blind_unit
  · rw [run, beside.application]
    exact ⟨rfl, .rfl⟩
  · rw [run, beside.application]
    exact ⟨rfl, by simp [withState, published]⟩

theorem unregisterApplication_registers :
    h.application.Registers (unregisterApplication.run h).2.application := by
  rcases h.unregisterApplication_cases Transport.blind_unit with ⟨-, run⟩ | ⟨registered, beside⟩
  · rw [run]
    exact ⟨rfl, .rfl⟩
  · rw [beside.application]
    exact ⟨rfl, by simp [withState, Application.published_of_registered registered]⟩

theorem publishApplication_outcome : ∃ b outcome d,
    publishApplication.run h = (outcome, { h with application := b, channel := d }) ∧ h.application.Grown b ∧
      (outcome = .ok () ∧ b.state = .published ∧ b.frozen = true ∧ (h.application.Placed → b.Subscribable) ∨
        (∃ e, outcome = .error e) ∧ b.state = h.application.state ∧
          (h.application.state ≠ .unpublished → h.application.frozen = true → b.frozen = true)) := by
  obtain ⟨b, outcome, d, run, rest⟩ := h.application.publish_outcome h.channel
  refine ⟨b, outcome, d, ?_, rest⟩
  rw [publishApplication, Routine.run_step, onApplication, run]

theorem unpublishApplication_outcome : ∃ outcome h', unpublishApplication.run h = (outcome, h') ∧
    h.application.Grown h'.application ∧
      (outcome = .ok () ∧ h'.application.state = .unpublished ∧ h'.application.frozen = false ∨
        (∃ e, outcome = .error e) ∧ (h'.application.state = .unpublished ↔ h.application.state = .unpublished) ∧
          h'.application.frozen = h.application.frozen) := by
  obtain ⟨idle, beside, run⟩ := h.unpublishApplication_run Transport.blind_unit
  obtain ⟨b, outcome, d, withdrawn, raw, rest⟩ := idle.application.withdraw_outcome idle.channel
  rw [beside.application] at raw rest
  have grown : h.application.Grown b := ⟨raw.path, raw.removed, raw.nextKey, raw.services⟩
  refine ⟨outcome, { idle with application := b, channel := d }, ?_, grown, ?_⟩
  · rw [run, onApplication, withdrawn]
  · rcases rest with done | ⟨failed, state, frozen⟩
    · exact .inl done
    -- A registered tree counts as published while it is withdrawn, and stays so when that fails.
    · refine .inr ⟨failed, ?_, frozen⟩
      rw [state]
      cases registered : h.application.isRegistered with
      | true => simp [withState, Application.published_of_registered registered]
      | false => simp [withState]

theorem transition_cases_tree {t : Transition} (own : t.isOfApplication = true) :
    h.application.Registers (t.routine.run h).2.application ∨
      t = .publish ∧ (t.routine.run h).2 = (publishApplication.run h).2 ∨
      (t = .unpublish ∨ t = .shutdown) ∧ (t.routine.run h).2 = (unpublishApplication.run h).2 := by
  cases t with
  | publish => exact .inr (.inl ⟨rfl, rfl⟩)
  | unpublish =>
      rw [Transition.routine, Routine.run_bind']
      exact .inr (.inr ⟨.inl rfl, rfl⟩)
  | register =>
      rw [Transition.routine, Routine.run_bind']
      exact .inl h.registerApplication_registers
  | unregister =>
      rw [Transition.routine, Routine.run_bind']
      exact .inl h.unregisterApplication_registers
  | shutdown =>
      rw [Transition.routine, Routine.run_bind']
      rcases h.shutdownApplication_cases with ⟨-, run⟩ | ⟨-, run⟩
      · refine .inl ?_
        rw [show (shutdownApplication.run h).2 = h from congrArg Prod.snd run]
        exact ⟨rfl, .rfl⟩
      · exact .inr (.inr ⟨.inr rfl, run⟩)
  | _ => cases own

end Host

/-! ## The tree stays placed -/

theorem Application.Registers.placed {a b : Application} (registers : a.Registers b) (placed : a.Placed) :
    b.Placed ∧ b.path = a.path := by
  rw [registers.same]
  exact ⟨placed.standing b.state a.frozen, rfl⟩

section Placed
variable {β : Type} [Transport β] {h : Host β}

theorem Host.transition_placed (placed : h.application.Placed) {t : Transition}
    (own : t.isOfApplication = true) :
    (t.routine.run h).2.application.Placed ∧ (t.routine.run h).2.application.path = h.application.path := by
  rcases h.transition_cases_tree own with registers | ⟨-, run⟩ | ⟨-, run⟩
  · exact registers.placed placed
  · obtain ⟨b, outcome, d, published, grown, -⟩ := h.publishApplication_outcome
    rw [run, published]
    exact ⟨grown.placed placed, grown.path⟩
  · obtain ⟨outcome, h', unpublished, grown, -⟩ := h.unpublishApplication_outcome
    rw [run, unpublished]
    exact ⟨grown.placed placed, grown.path⟩

theorem Action.placed (placed : h.application.Placed) (action : Action β) :
    (action.perform h).application.Placed ∧ (action.perform h).application.path = h.application.path := by
  cases action with
  | edit e => exact ⟨e.placed placed, (e.apply_beside h.application).1⟩
  | access a =>
      have outline := (a.valued Channel.blind_unit placed).outline
      have path := congrArg Application.path outline
      exact ⟨placed.of_outline outline, path⟩
  | transition t own => exact Host.transition_placed placed own
  | hold node => exact ⟨placed, rfl⟩
  | letGo node => exact ⟨placed, rfl⟩
  | bus change => exact ⟨placed, rfl⟩

theorem Host.placed_through (placed : h.application.Placed) (actions : List (Action β)) :
    (h.through actions).application.Placed ∧ (h.through actions).application.path = h.application.path := by
  induction actions generalizing h with
  | nil => exact ⟨placed, rfl⟩
  | cons action actions ih =>
      obtain ⟨kept, path⟩ := action.placed placed
      obtain ⟨stays, same⟩ := ih kept
      exact ⟨stays, same.trans path⟩

omit [Transport β] in
theorem Host.placed_new (bus : β) (root adapter : ObjectPath) (options : RegistrationOptions) :
    (new bus root adapter options).application.Placed := Application.placed_new root

/-- Whatever is done to an application, and whatever its bus refuses: no two nodes share a path, siblings
have different identifiers and numbered paths below their parent, and the snapshot has one object for
each node, under its path and with the path of its parent. -/
theorem Host.described (bus : β) (root adapter : ObjectPath) (options : RegistrationOptions)
    (actions : List (Action β)) :
    let a := ((new bus root adapter options).through actions).application
    let objects := a.managedObjects
    a.path = root ∧ (root :: a.paths).Nodup ∧ objects.keys.Perm a.paths ∧ objects.size = a.paths.length ∧
      Siblings .service root (a.services.map Service.path) (a.services.map Service.identifier) ∧
      ∀ s ∈ a.services,
        objects.Shows s.path .service [(Names.uuid, .str s.identifier.dashed)] ∧
        Siblings .char s.path (s.characteristics.map Characteristic.path)
          (s.characteristics.map Characteristic.identifier) ∧
        ∀ c ∈ s.characteristics,
          objects.Shows c.path .characteristic
            [(Names.uuid, .str c.identifier.dashed), (Names.serviceProperty, .path s.path)] ∧
          Siblings .desc c.path (c.descriptors.map Descriptor.path) (c.descriptors.map Descriptor.identifier) ∧
          ∀ d ∈ c.descriptors,
            objects.Shows d.path .descriptor
              [(Names.uuid, .str d.identifier.dashed), (Names.characteristicProperty, .path c.path)] := by
  intro a objects
  obtain ⟨placed, path⟩ := placed_through (placed_new bus root adapter options) actions
  have path : a.path = root := path
  have distinct : (root :: a.paths).Nodup := by
    rw [← path, ← (List.perm_append_singleton a.path a.paths).nodup_iff]
    exact placed.nodup.1
  refine ⟨path, distinct, placed.keys_managedObjects, placed.size_managedObjects, path ▸ placed.siblings,
    fun s member => ?_⟩
  have inner := placed.inner s (List.mem_append_left _ member)
  refine ⟨placed.shows_service member, inner.siblings, fun c inside => ?_⟩
  exact ⟨placed.shows_characteristic member inside, (inner.inner c inside).siblings, fun d below =>
    placed.shows_descriptor member inside below⟩

end Placed
end GattPeripheral
