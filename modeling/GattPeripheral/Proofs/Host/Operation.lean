import GattPeripheral.Proofs.Host.Registration
import GattPeripheral.Proofs.Host.Values
import Mathlib.Data.List.Induction

/-!
# Histories of an application

An application is built, published, registered and used by operations, in surroundings that may change
before each of them. `Operation.kept` says what one operation keeps and `Host.kept_after` what a whole
history does. Main statement: `Host.published_served`.
-/

namespace GattPeripheral

/-- What the daemon and the machine will do, whatever the library does. -/
structure Surroundings where
  refusedExports : List ObjectPath
  replies : List (Except BusError Unit)
  properties : List (PropertyKey × Property)
  refusedProperties : List String
  managed : ManagedObjects
  subscriptionLimit : Option Nat
  failingUnsubscribes : Nat
  programs : Dict String Ending

def Host.arrange (around : Surroundings) (h : Host MemoryBus) : Host MemoryBus :=
  { h with
    programs := around.programs
    channel := { h.channel with
      bus := { h.channel.bus with
        refusedExports := around.refusedExports
        replies := around.replies
        properties := around.properties
        refusedProperties := around.refusedProperties
        managed := around.managed
        subscriptionLimit := around.subscriptionLimit
        failingUnsubscribes := around.failingUnsubscribes } } }

inductive Operation where
  | edit (edit : Edit)
  | access (access : Access)
  | transition (transition : Transition) (own : transition.isOfApplication = true)
  | hold (node : NodeRef)
  | letGo (node : NodeRef)
  | arrange (around : Surroundings)

namespace Operation

def perform (op : Operation) (h : Host MemoryBus) : Host MemoryBus :=
  match op with
  | edit e => { h with application := e.apply h.application }
  | access a => a.apply h
  | transition t _ => (t.routine.run h).2
  | hold node => h.hold node
  | letGo node => h.letGo node
  | arrange around => h.arrange around

end Operation

namespace Host

def after (ops : List Operation) (h : Host MemoryBus) : Host MemoryBus := ops.foldl (fun h op => op.perform h) h

def Kept (h : Host MemoryBus) : Prop := h.application.Kept h.channel

def withdrawn (h : Host MemoryBus) : Host MemoryBus :=
  { h with
    application := h.application.withdrawn
    channel := h.channel.removing h.application.topDown }

theorem unpublishApplication_memory (h : Host MemoryBus) : ∃ h', (h.withState
      (if h.application.isRegistered then .published else h.application.state)).Beside MemoryBus.exported h' ∧
    unpublishApplication.run h = (.ok (), h'.withdrawn) := by
  obtain ⟨h', beside, run⟩ := unpublishApplication_run h MemoryBus.blind_exported
  refine ⟨h', beside, ?_⟩
  rw [run, onApplication, Application.withdraw_memory]
  rfl

namespace Kept

variable {h h' : Host MemoryBus}

theorem beside (kept : h.Kept) (beside : h.Beside MemoryBus.exported h') : h'.Kept :=
  Application.Kept.of_outline kept (congrArg Application.outline beside.application) ⟨beside.bus, beside.everExported⟩

theorem valued (kept : h.Kept) (valued : h.Valued Channel.exports h') : h'.Kept :=
  Application.Kept.of_outline kept valued.outline valued.quiet

theorem withState (kept : h.Kept) {state : ApplicationState} (before : h.application.state ≠ .unpublished)
    (after : state ≠ .unpublished) : (h.withState state).Kept := Application.Kept.registration kept before after

theorem publish (kept : h.Kept) : (publishApplication.run h).2.Kept := Application.Kept.publish kept

theorem publish_cases (kept : h.Kept) : (∃ e, publishApplication.run h = (.error e, h)) ∨
    ∃ sites b outcome d, publishApplication.run h = (outcome, { h with application := b, channel := d }) ∧
      h.application.Publication h.channel sites b d ∧
      (outcome = .ok () ∧ b.state = .published ∨ (∃ e, outcome = .error e) ∧ b.state = h.application.state) := by
  rw [publishApplication, Routine.run_step, onApplication]
  cases free : h.application.isRegistered with
  | true =>
      obtain ⟨e, same⟩ := Application.publish_registered (c := h.channel) free
      exact .inl ⟨e, by rw [same]⟩
  | false =>
      obtain ⟨sites, b, outcome, d, result, publication, -, ended⟩ := Application.Kept.publish_cases kept free
      exact .inr ⟨sites, b, outcome, d, by rw [result], publication, ended⟩

theorem register (kept : h.Kept) : (registerApplication.run h).2.Kept := by
  obtain ⟨outcome, h', run, ⟨same, -⟩ | ⟨state, -, registered⟩⟩ :=
    registerApplication_cases h MemoryBus.blind_exported
  · rw [run]
    exact kept.beside same
  · rw [run]
    exact (kept.withState (by simp [state]) (by simp)).beside registered

theorem unregister (kept : h.Kept) : (unregisterApplication.run h).2.Kept := by
  rcases unregisterApplication_cases h MemoryBus.blind_exported with ⟨-, run⟩ | ⟨registered, published⟩
  · rw [run]
    exact kept
  · exact (kept.withState (Application.published_of_registered registered) (by simp)).beside published

theorem before_withdrawal (kept : h.Kept) :
    (h.withState (if h.application.isRegistered then .published else h.application.state)).Kept := by
  cases registered : h.application.isRegistered with
  | false => exact kept
  | true => exact kept.withState (Application.published_of_registered registered) (by simp)

theorem unpublish (kept : h.Kept) : (unpublishApplication.run h).2.Kept := by
  obtain ⟨h', beside, run⟩ := unpublishApplication_memory h
  rw [run]
  exact Application.Kept.withdrawn (kept.before_withdrawal.beside beside)

theorem transition (kept : h.Kept) {t : Transition} (own : t.isOfApplication = true) : (t.routine.run h).2.Kept := by
  rcases h.transition_cases own with same | ⟨-, run⟩ | run | run | run
  · rwa [same]
  · rw [run]
    exact kept.publish
  · rw [run]
    exact kept.unpublish
  · rw [run]
    exact kept.register
  · rw [run]
    exact kept.unregister

end Kept
end Host

theorem Operation.kept {h : Host MemoryBus} (kept : h.Kept) (op : Operation) : (op.perform h).Kept := by
  cases op with
  | edit e => exact Application.Kept.edit kept e
  | access a => exact kept.valued (a.valued Channel.blind_exports (Application.Kept.placed kept))
  | transition t own => exact kept.transition own
  | hold node => exact kept
  | letGo node => exact kept
  | arrange around => exact Application.Kept.of_outline kept rfl ⟨rfl, rfl⟩

namespace Host

theorem kept_new (bus : MemoryBus) (root adapter : ObjectPath) (options : RegistrationOptions) :
    (new bus root adapter options).Kept := Application.kept_new root _

theorem after_append (front back : List Operation) (h : Host MemoryBus) :
    h.after (front ++ back) = (h.after front).after back := List.foldl_append

theorem after_concat (front : List Operation) (op : Operation) (h : Host MemoryBus) :
    h.after (front ++ [op]) = op.perform (h.after front) := after_append front [op] h

theorem kept_after {h : Host MemoryBus} (kept : h.Kept) (ops : List Operation) : (h.after ops).Kept := by
  induction ops generalizing h with
  | nil => exact kept
  | cons op ops ih => exact ih (op.kept kept)

theorem after_without {h : Host MemoryBus} {I : Host MemoryBus → Prop} {bad : Operation → Host MemoryBus → Prop}
    (keeps : ∀ h op, h.Kept → I h → ¬ bad op h → I (op.perform h)) (kept : h.Kept) (start : I h)
    (ops : List Operation) (clean : ∀ front op, front ++ [op] <+: ops → ¬ bad op (h.after front)) :
    I (h.after ops) := by
  induction ops using List.reverseRecOn with
  | nil => exact start
  | append_singleton front op ih =>
      rw [after_concat]
      refine keeps _ op (kept_after kept front) (ih fun front' op' before => ?_) (clean front op List.prefix_rfl)
      exact clean front' op' (before.trans (List.prefix_append front [op]))

/-- Whatever was done to an application on a bus in memory: while it is published, its shape is fixed,
every node is published and stands in the table of the bus under its own path, and a characteristic that
can notify or indicate has exactly one client configuration descriptor. -/
theorem published_served (bus : MemoryBus) (root adapter : ObjectPath) (options : RegistrationOptions)
    (ops : List Operation) (published : ((new bus root adapter options).after ops).application.state ≠ .unpublished) :
    let h := (new bus root adapter options).after ops
    let table := h.channel.bus.exported
    h.application.frozen = true ∧ table.get? h.application.path = some .application ∧
      ∀ s ∈ h.application.services, s.published = true ∧ table.get? s.path = some (.service s.key) ∧
        ∀ i c, s.characteristics[i]? = some c →
          c.published = true ∧ table.get? c.path = some (.characteristic s.key i) ∧
            (c.flags.contains .notify = true ∨ c.flags.contains .indicate = true →
              c.descriptors.countP Descriptor.isClientConfiguration = 1) ∧
            ∀ j d, c.descriptors[j]? = some d →
              d.published = true ∧ table.get? d.path = some (.descriptor s.key i j) := by
  intro h table
  have kept : h.Kept := kept_after (kept_new bus root adapter options) ops
  obtain ⟨frozen, served⟩ := kept.served published
  refine ⟨frozen, served.root, fun s member => ?_⟩
  have nodes : ∀ site ∈ h.application.sites, site.published = true ∧ table.get? site.path = some site.node :=
    fun site member => ⟨served.published site member, (kept.held site member (served.published site member)).1⟩
  obtain ⟨⟨up, stands⟩, inner⟩ := Application.forall_sites.mp nodes s member
  refine ⟨up, stands, fun i c found => ?_⟩
  obtain ⟨⟨up, stands⟩, inner⟩ := inner i c found
  exact ⟨up, stands, served.subscribable s member c (List.mem_of_getElem? found), fun j d found => inner j d found⟩

def servedHistory : List Operation :=
  [.edit (.service .batteryService true),
    .edit (.characteristic 0 .batteryLevel (.ofList [.read, .notify]) .empty),
    .transition .publish Transition.isOfApplication_publish, .transition .register Transition.isOfApplication_register]

theorem published_served_registered :
    let h := (new .empty .root .root .standard).after servedHistory
    h.application.state = .registered ∧ h.application.services.length = 1 ∧
      h.application.frozen = true ∧ h.channel.bus.exported.get? h.application.path = some .application :=
  have state : ((new .empty .root .root .standard).after servedHistory).application.state = .registered := rfl
  have served := published_served .empty .root .root .standard servedHistory (by rw [state]; decide)
  ⟨state, rfl, served.1, served.2.1⟩

end Host
end GattPeripheral
