import GattPeripheral.Proofs.Host.Freezing
import GattPeripheral.Proofs.Tree.Rebuilding

/-!
# Building a tree again

A publication that succeeds shows the settled tree (`Host.snapshot_of_publish`), and nothing but an edit changes what
that is (`Host.settled_through`). A tree that is not published is open to edits (`Host.Reached.open`). Main statement:
`Host.rebuilt_alike`.
-/

namespace GattPeripheral

variable {β : Type} [Transport β]

/-! ## What a publication shows -/

namespace Host

variable {h h' : Host β}

theorem snapshot_of_publish (placed : h.application.Placed) (ok : publishApplication.run h = (.ok (), h')) :
    h'.application.managedObjects = h.application.settled.managedObjects := by
  obtain ⟨b, outcome, d, run, grown, ⟨-, -, -, complete⟩ | ⟨⟨e, failed⟩, -⟩⟩ := h.publishApplication_outcome
  · obtain ⟨-, rfl⟩ := Prod.mk.inj (ok.symm.trans run)
    exact grown.managedObjects (complete placed)
  · obtain ⟨same, -⟩ := Prod.mk.inj (ok.symm.trans run)
    cases same.trans failed

end Host

def Action.isEdit : Action β → Bool
  | .edit _ => true
  | _ => false

theorem Action.keeps_settled {h : Host β} (placed : h.application.Placed) (action : Action β)
    (calm : action.isEdit = false) :
    (action.perform h).application.settled.shape = h.application.settled.shape := by
  cases action with
  | edit e => cases calm
  | access a => exact Application.shape_settled_of_outline (a.valued Channel.blind_unit placed).outline
  | transition t own =>
      rw [perform]
      rcases h.transition_cases_tree own with registers | ⟨-, run⟩ | ⟨-, run⟩
      · rw [registers.same]
        rfl
      · obtain ⟨b, outcome, d, published, grown, -⟩ := h.publishApplication_outcome
        rw [run, published]
        exact grown.shape_settled
      · obtain ⟨outcome, h', unpublished, grown, -⟩ := h.unpublishApplication_outcome
        rw [run, unpublished]
        exact grown.shape_settled
  | hold node => rfl
  | letGo node => rfl
  | bus change => rfl

theorem Host.settled_through {h : Host β} (placed : h.application.Placed) (actions : List (Action β))
    (calm : ∀ action ∈ actions, action.isEdit = false) :
    (h.through actions).application.settled.shape = h.application.settled.shape := by
  induction actions generalizing h with
  | nil => rfl
  | cons action actions ih =>
      obtain ⟨here, later⟩ := List.forall_mem_cons.mp calm
      exact (ih (action.placed placed).1 later).trans (action.keeps_settled placed here)

/-! ## Trees that are not published -/

def Application.Open (a : Application) : Prop := a.state = .unpublished → a.frozen = false

theorem Edit.keeps_open {a : Application} (placed : a.Placed) (unfrozen : a.Open) (edit : Edit) :
    (edit.apply a).Open := by
  intro unpublished
  have before : a.frozen = false := unfrozen ((edit.apply_beside a).2 ▸ unpublished)
  rcases edit.apply_cases placed with same | ⟨-, added⟩ | ⟨s, removes, eq⟩
  · rwa [same]
  · exact added.frozen.trans before
  · rwa [eq]

theorem Application.publish_open {a : Application} (unfrozen : a.Open) (c : Channel β) : (a.publish c).1.1.Open := by
  cases registered : a.isRegistered with
  | true =>
      obtain ⟨e, run⟩ := publish_registered (c := c) registered
      rwa [run]
  | false =>
      cases walked : exportTree { a with frozen := true } c with
      | mk stepped d =>
          obtain ⟨b, outcome⟩ := stepped
          cases outcome with
          | ok =>
              rw [publish_of_exported registered walked]
              exact fun unpublished => nomatch unpublished
          | error e =>
              rw [publish_of_refused registered walked]
              dsimp only
              split
              next => exact fun _ => rfl
              next published => exact fun unpublished => absurd unpublished published

theorem Action.keeps_open {h : Host β} (placed : h.application.Placed) (unfrozen : h.application.Open)
    (action : Action β) : (action.perform h).application.Open := by
  cases action with
  | edit e => exact e.keeps_open placed unfrozen
  | access a =>
      have outline := (a.valued Channel.blind_unit placed).outline
      have state := congrArg Application.state outline
      have frozen := congrArg Application.frozen outline
      exact fun unpublished => frozen.trans (unfrozen (state.symm.trans unpublished))
  | transition t own =>
      rw [perform]
      rcases h.transition_cases_tree own with registers | ⟨-, run⟩ | ⟨-, run⟩
      · intro unpublished
        have before := unfrozen (registers.published.mp unpublished)
        rwa [registers.same]
      · rw [run]
        exact Application.publish_open unfrozen h.channel
      · obtain ⟨outcome, h', unpublished, -, ⟨-, -, thawed⟩ | ⟨-, state, frozen⟩⟩ := h.unpublishApplication_outcome
        · rw [run, unpublished]
          exact fun _ => thawed
        · rw [run, unpublished]
          exact fun down => frozen.trans (unfrozen (state.mp down))
  | hold node => exact unfrozen
  | letGo node => exact unfrozen
  | bus change => exact unfrozen

namespace Host

theorem open_through {h : Host β} (placed : h.application.Placed) (unfrozen : h.application.Open)
    (actions : List (Action β)) : (h.through actions).application.Open := by
  induction actions generalizing h with
  | nil => exact unfrozen
  | cons action actions ih => exact ih (action.placed placed).1 (action.keeps_open placed unfrozen)

theorem Reached.open {h : Host β} (reached : h.Reached) : h.application.Open := by
  obtain ⟨bus, root, adapter, options, actions, rfl⟩ := reached
  exact open_through (placed_new bus root adapter options) (fun _ => rfl) actions

/-! ## Built again -/

def constructed (calls : List Creation) (h : Host β) : Host β :=
  { h with application := (h.application.construct calls).tree }

/-- These objects are what a publication that succeeds shows, now or after anything else but an edit. -/
def Presents (h : Host β) (objects : ManagedObjects) : Prop :=
  ∃ (meanwhile : List (Action β)) (h' : Host β), (∀ action ∈ meanwhile, action.isEdit = false) ∧
    publishApplication.run (h.through meanwhile) = (.ok (), h') ∧ objects = h'.application.managedObjects

theorem Presents.eq {h : Host β} {objects : ManagedObjects} (presents : h.Presents objects)
    (placed : h.application.Placed) : objects = h.application.settled.managedObjects := by
  obtain ⟨meanwhile, h', calm, ok, rfl⟩ := presents
  rw [snapshot_of_publish (placed_through placed meanwhile).1 ok]
  exact Application.managedObjects_shape (settled_through placed meanwhile calm)

/-- Whatever was done to an application and whatever its bus refused: once it is unpublished and empty, the same calls
make it present the same objects as a new application at the same path. And all publications of one tree show the same
objects, however many there are and however many failed before. -/
theorem rebuilt_alike {h : Host β} (reached : h.Reached) :
    (h.application.state = .unpublished → h.application.services = [] →
      ∀ (calls : List Creation) (bus : β) (adapter : ObjectPath) (options : RegistrationOptions) (objects objects'),
        (h.constructed calls).Presents objects →
        ((new bus h.application.path adapter options).constructed calls).Presents objects' → objects = objects') ∧
      ∀ objects objects', h.Presents objects → h.Presents objects' → objects = objects' := by
  constructor
  · intro unpublished empty calls bus adapter options objects objects' again first
    have alike := Application.Renumbered.of_empty reached.placed empty (reached.open unpublished)
    calc objects
      _ = (h.application.construct calls).tree.settled.managedObjects := again.eq (reached.placed.construct calls)
      _ = ((Application.new h.application.path).construct calls).tree.settled.managedObjects :=
        (alike.construct calls).tree.managedObjects_settled
      _ = objects' := (first.eq ((Application.placed_new _).construct calls)).symm
  · intro objects objects' first second
    exact (first.eq reached.placed).trans (second.eq reached.placed).symm

def turbulence : List (Action MemoryBus) :=
  furnishing ++
    [.bus fun b => b.refuseExport (.push .root (Element.service.numbered 0)),
      .transition .publish Transition.isOfApplication_publish, .bus fun b => { b with refusedExports := [] },
      .transition .publish Transition.isOfApplication_publish, .transition .unpublish rfl,
      .edit (.remove .batteryService)]

def emptied : Host MemoryBus := (new .empty .root .root .standard).through turbulence

def rebuilding : List Creation :=
  [.service .deviceInformationService true, .service .batteryService true,
    .characteristic 1 .batteryLevel (.ofList [.read, .notify]) .empty, .service .batteryService false,
    .descriptor 2 .userDescription .readWrite]

theorem exists_presents {h : Host β} (ok : (publishApplication.run h).1.isOk = true) :
    ∃ objects, h.Presents objects := by
  cases run : publishApplication.run h with
  | mk outcome h' =>
      rw [run] at ok
      cases outcome with
      | error e => cases ok
      | ok => exact ⟨_, [], h', by simp, run, rfl⟩

def untouched : Host MemoryBus := new .empty emptied.application.path .root .standard

theorem rebuilt_alike_turbulence : emptied.application.nextKey = 1 ∧ ∃ objects,
    (emptied.constructed rebuilding).Presents objects ∧ (untouched.constructed rebuilding).Presents objects := by
  have reached : emptied.Reached := ⟨_, _, _, _, turbulence, rfl⟩
  have unpublished : emptied.application.state = .unpublished := by decide +kernel
  have empty : emptied.application.services = [] := List.isEmpty_iff.mp (by decide +kernel)
  obtain ⟨objects, again⟩ := exists_presents (h := emptied.constructed rebuilding) (by decide +kernel)
  obtain ⟨objects', first⟩ := exists_presents (h := untouched.constructed rebuilding) (by decide +kernel)
  obtain rfl := (rebuilt_alike reached).1 unpublished empty rebuilding .empty .root .standard _ _ again first
  exact ⟨by decide +kernel, objects, again, first⟩

end Host
end GattPeripheral
