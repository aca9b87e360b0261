import GattPeripheral.Proofs.Connection.Following
import GattPeripheral.Proofs.Host.Advertising
import GattPeripheral.Proofs.Host.Operation

/-!
# Taking everything down

A host is `Undoable` as long as all that stands on its bus belongs to the root, to a published node or to
a published advertisement. `tearDown_bare`: from there tearing down leaves nothing, however far bringing
up came and whatever fails on the way.
-/

namespace GattPeripheral.Host

structure Equipped (p : Peripheral) (h : Host MemoryBus) : Prop where
  peripheral : h.peripheral = some p
  advertisement : p.advertisement = none ∧ h.advertisements = [] ∨
    p.advertisement = some 0 ∧ ∃ a, h.advertisements = [a]

structure Undoable (h : Host MemoryBus) : Prop where
  placed : h.application.Placed
  accounted : h.application.Accounts (fun p => ∀ a ∈ h.advertisements, a.published = true → a.path ≠ p)
    h.channel.bus.exported

def HidesAdvertisements (h : Host MemoryBus) : Prop :=
  ∀ a ∈ h.advertisements, a.published = false ∧ a.registered = false

structure Alone (p : Peripheral) (h : Host MemoryBus) : Prop where
  equipped : h.Equipped p
  undoable : h.Undoable
  advertisements : h.HidesAdvertisements
  tracker : h.tracker.isInitialized = false

structure Bare (h : Host MemoryBus) : Prop where
  placed : h.application.Placed
  unpublished : h.application.state = .unpublished
  editable : h.application.frozen = false
  hidden : ∀ site ∈ h.application.sites, site.published = false
  clear : ∀ p, h.channel.bus.exported.get? p = none
  advertisements : h.HidesAdvertisements
  tracker : h.tracker.isInitialized = false

/-- What stands on the bus, the shape of the tree and what is known of the advertisements are the same. -/
structure Alike (h h' : Host MemoryBus) : Prop where
  outline : h'.application.outline = h.application.outline
  table : h'.channel.bus.exported = h.channel.bus.exported
  advertisements : h'.advertisements.map (fun a => (a.path, a.published)) =
    h.advertisements.map fun a => (a.path, a.published)

variable {h h' h'' : Host MemoryBus} {p : Peripheral}

namespace Alike

theorem of_beside (beside : h.Beside MemoryBus.exported h') : h.Alike h' :=
  ⟨congrArg Application.outline beside.application, beside.bus, congrArg _ beside.advertisements⟩

theorem trans (first : h.Alike h') (second : h'.Alike h'') : h.Alike h'' :=
  ⟨second.outline.trans first.outline, second.table.trans first.table,
    second.advertisements.trans first.advertisements⟩

theorem forall_advertisements (alike : h.Alike h') {Q : ObjectPath → Bool → Prop} :
    (∀ a ∈ h'.advertisements, Q a.path a.published) ↔ ∀ a ∈ h.advertisements, Q a.path a.published := by
  have pairs (as : List Advertisement) : (∀ a ∈ as, Q a.path a.published) ↔
      ∀ x ∈ as.map (fun a => (a.path, a.published)), Q x.1 x.2 := by rw [List.forall_mem_map]
  rw [pairs, pairs, alike.advertisements]

end Alike

theorem Equipped.alike (equipped : h.Equipped p) (alike : h.Alike h') (peripheral : h'.peripheral = h.peripheral) :
    h'.Equipped p where
  peripheral := peripheral.trans equipped.peripheral
  advertisement := by
    have known := alike.advertisements
    rcases equipped.advertisement with ⟨key, nothing⟩ | ⟨key, a, only⟩
    · rw [nothing] at known
      exact .inl ⟨key, List.map_eq_nil_iff.mp known⟩
    · rw [only] at known
      obtain ⟨b, only, -⟩ := List.map_eq_singleton_iff.mp known
      exact .inr ⟨key, b, only⟩

theorem Equipped.edit (equipped : h.Equipped p) (edit : Peripheral → Peripheral)
    (same : (edit p).advertisement = p.advertisement) : ((editPeripheral edit).run h).2.Equipped (edit p) where
  peripheral := congrArg (Option.map edit) equipped.peripheral
  advertisement := by
    rw [same]
    exact equipped.advertisement

namespace Undoable

theorem alike (undoable : h.Undoable) (alike : h.Alike h') : h'.Undoable where
  placed := undoable.placed.of_outline alike.outline
  accounted := by
    rw [alike.table]
    intro path own
    exact undoable.accounted.of_outline alike.outline path
      ((alike.forall_advertisements (Q := fun q published => published = true → q ≠ path)).mp own)

theorem withState (undoable : h.Undoable) (state : ApplicationState) : (h.withState state).Undoable where
  placed := undoable.placed.standing state h.application.frozen
  accounted := undoable.accounted

end Undoable

namespace Alone

theorem beside (alone : h.Alone p) (beside : h.Beside MemoryBus.exported h') : h'.Alone p where
  equipped := alone.equipped.alike (.of_beside beside) beside.peripheral
  undoable := alone.undoable.alike (.of_beside beside)
  advertisements := by
    rw [HidesAdvertisements, beside.advertisements]
    exact alone.advertisements
  tracker := beside.tracker ▸ alone.tracker

theorem withState (alone : h.Alone p) (state : ApplicationState) : (h.withState state).Alone p :=
  ⟨⟨alone.equipped.peripheral, alone.equipped.advertisement⟩, alone.undoable.withState state, alone.advertisements,
    alone.tracker⟩

theorem unregister (alone : h.Alone p) : (unregisterApplication.run h).2.Alone p := by
  rcases h.unregisterApplication_cases MemoryBus.blind_exported with ⟨-, run⟩ | ⟨-, beside⟩
  · rw [run]
    exact alone
  · exact (alone.withState .published).beside beside

theorem withdrawn (alone : h.Alone p) : h.withdrawn.Equipped p ∧ h.withdrawn.Bare := by
  refine ⟨⟨alone.equipped.peripheral, alone.equipped.advertisement⟩, ?_⟩
  refine ⟨alone.undoable.placed.withdrawn, rfl, rfl, fun site => Application.sites_cleared, ?_, alone.advertisements,
    alone.tracker⟩
  intro path
  refine Application.Accounts.withdraw alone.undoable.accounted path fun a member published => ?_
  cases (alone.advertisements a member).1.symm.trans published

theorem unpublish (alone : h.Alone p) :
    (unpublishApplication.run h).2.Equipped p ∧ (unpublishApplication.run h).2.Bare := by
  obtain ⟨h', beside, run⟩ := unpublishApplication_memory h
  rw [run]
  exact ((alone.withState _).beside beside).withdrawn

end Alone

/-! ## One step after the other -/

theorem unregisterAdvertisement_beside {a : Advertisement} (only : h.advertisements = [a]) :
    (h.withAdvertisement 0 Advertisement.release).Beside MemoryBus.exported ((unregisterAdvertisement 0).run h).2 := by
  rcases unregisterAdvertisement_run h (get?_of_only only) with ⟨free, run⟩ | ⟨-, run⟩
  · have same : h.withAdvertisement 0 Advertisement.release = h := by
      have released : a.release = a := by rw [Advertisement.release, ← free]
      rw [withAdvertisement, only, show [a].modify 0 Advertisement.release = [a.release] from rfl, released, ← only]
    rw [run, same]
    exact .refl _ h
  · rw [run]
    exact (Routine.Minds.dropRegistration MemoryBus.blind_exported _ h).withAdvertisement 0 _

theorem tearDownAdvertisement_eq (key : Nat) (h : Host MemoryBus) :
    let released := ((unregisterAdvertisement key).run h).2
    ((tearDownAdvertisement key).run h).2 =
      if released.advertisements[key]?.any (·.published) then ((unpublishAdvertisement key).run released).2
      else released := by
  intro released
  rw [tearDownAdvertisement, Routine.run_bind', Routine.run_bind', Routine.run_read]
  cases released.advertisements[key]?.any (·.published) <;> rfl

theorem tearDownAdvertisement_run {a : Advertisement} (only : h.advertisements = [a]) :
    let h' := ((tearDownAdvertisement 0).run h).2
    h'.application = h.application ∧ h'.tracker = h.tracker ∧ h'.peripheral = h.peripheral ∧
      h'.advertisements = [{ a with registered := false, published := false }] ∧
      ∀ p, h'.channel.bus.exported.get? p =
        if a.published = true ∧ p = a.path then none else h.channel.bus.exported.get? p := by
  have beside := unregisterAdvertisement_beside only
  rw [tearDownAdvertisement_eq]
  generalize ((unregisterAdvertisement 0).run h).2 = mid at beside
  have released : mid.advertisements = [a.release] := by
    rw [beside.advertisements, withAdvertisement, only]
    rfl
  have known : mid.advertisements[0]?.any (·.published) = a.published := by rw [released]; rfl
  have table : mid.channel.bus.exported = h.channel.bus.exported := beside.bus
  rw [known]
  cases published : a.published with
  | false =>
      refine ⟨beside.application, beside.tracker, beside.peripheral, ?_, fun p => ?_⟩
      · rw [if_neg (by simp), released, Advertisement.release, ← published]
      · rw [if_neg (by simp), if_neg (by simp), table]
  | true =>
      obtain ⟨outcome, c, removed, run⟩ := unpublishAdvertisement_run mid (get?_of_only released)
      rw [unexportNode_memory, Prod.mk.injEq] at removed
      obtain ⟨-, rfl⟩ := removed
      rw [if_pos rfl, run]
      refine ⟨beside.application, beside.tracker, beside.peripheral, ?_, fun p => ?_⟩
      · rw [withAdvertisement, released]
        rfl
      · change (Dict.erase mid.channel.bus.exported a.path).get? p = _
        rw [Dict.get?_erase_eq, table]
        simp only [true_and]

def hideAdvertisement (key : Option Nat) (h : Host MemoryBus) : Host MemoryBus :=
  match key with
  | none => h
  | some key => ((tearDownAdvertisement key).run h).2

theorem hideAdvertisement_spec (equipped : h.Equipped p) (undoable : h.Undoable) :
    let h' := hideAdvertisement p.advertisement h
    h'.Equipped p ∧ h'.Undoable ∧ h'.HidesAdvertisements ∧ h'.tracker = h.tracker := by
  rcases equipped.advertisement with ⟨key, nothing⟩ | ⟨key, a, only⟩
  · rw [key]
    refine ⟨equipped, undoable, fun a member => ?_, rfl⟩
    rw [show (hideAdvertisement none h).advertisements = [] from nothing] at member
    cases member
  · obtain ⟨application, tracker, peripheral, advertisements, erased⟩ := tearDownAdvertisement_run only
    rw [key]
    refine ⟨⟨peripheral.trans equipped.peripheral, .inr ⟨key, _, advertisements⟩⟩, ⟨?_, ?_⟩, ?_, tracker⟩
    · exact application ▸ undoable.placed
    · intro path _ stands
      rw [hideAdvertisement, erased] at stands
      rw [hideAdvertisement, application]
      by_cases own : a.published = true ∧ path = a.path
      · rw [if_pos own] at stands
        cases stands
      · rw [if_neg own] at stands
        refine undoable.accounted path (fun b member published => ?_) stands
        rw [only, List.mem_singleton] at member
        subst member
        exact fun same => own ⟨published, same.symm⟩
    · intro b member
      rw [hideAdvertisement, advertisements, List.mem_singleton] at member
      subst member
      exact ⟨rfl, rfl⟩

/-- The part of tearing down that comes before the application. -/
def tearDownRest (key : Option Nat) (h : Host MemoryBus) : Host MemoryBus :=
  ((editPeripheral fun p => { p with mode := none }).run (hideAdvertisement key (stopTracker.run h).2)).2

theorem tearDown_eq (q : Peripheral) (h : Host MemoryBus) : ((tearDown q).run h).2 =
    (unpublishApplication.run (unregisterApplication.run (tearDownRest q.advertisement h)).2).2 := by
  rw [tearDown, Routine.run_bind']
  cases q.advertisement <;> simp only [Routine.run_bind', Routine.run_pure, tearDownRest, hideAdvertisement]

theorem tearDownRest_alone (equipped : h.Equipped p) (undoable : h.Undoable) :
    (tearDownRest p.advertisement h).Alone { p with mode := none } := by
  let followed := (stopTracker.run h).2
  have table : followed.channel.bus.exported = h.channel.bus.exported :=
    Tracker.stop_unseen MemoryBus.blindToSubscriptions_exported.channel h.tracker h.channel
  have stopped : followed.tracker.isInitialized = false := h.tracker.stop_initialized h.channel
  have accounted : followed.Undoable := ⟨undoable.placed, table ▸ undoable.accounted⟩
  have carried : followed.Equipped p := ⟨equipped.peripheral, equipped.advertisement⟩
  obtain ⟨equipped, undoable, hidden, tracker⟩ := hideAdvertisement_spec carried accounted
  exact ⟨equipped.edit (fun p => { p with mode := none }) rfl, ⟨undoable.placed, undoable.accounted⟩, hidden,
    (congrArg _ tracker).trans stopped⟩

theorem tearDown_bare (equipped : h.Equipped p) (undoable : h.Undoable) {q : Peripheral}
    (same : q.advertisement = p.advertisement) :
    ((tearDown q).run h).2.Equipped { p with mode := none } ∧ ((tearDown q).run h).2.Bare := by
  rw [tearDown_eq, same]
  exact (tearDownRest_alone equipped undoable).unregister.unpublish

end GattPeripheral.Host
