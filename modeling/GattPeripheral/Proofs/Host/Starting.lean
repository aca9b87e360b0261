import GattPeripheral.Proofs.Host.Stopping

/-!
# Bringing everything up

Every step of bringing up leaves the host `Raised`, so that whatever fails can be undone. `bringUp_spec`:
when no step fails, the host is in service.
-/

namespace GattPeripheral.Host

/-- The node stands at its path, unless an advertisement took the path over. -/
structure StandsAt (h : Host MemoryBus) (path : ObjectPath) (node : NodeRef) : Prop where
  exported : h.channel.bus.isExported path = true
  entry : (∀ a ∈ h.advertisements, a.path ≠ path) → h.channel.bus.exported.get? path = some node

structure Serves (state : ApplicationState) (h : Host MemoryBus) : Prop where
  state : h.application.state = state
  frozen : h.application.frozen = true
  root : h.StandsAt h.application.path .application
  nodes : ∀ site ∈ h.application.sites, h.StandsAt site.path site.node

def ShowsAdvertisements (h : Host MemoryBus) : Prop :=
  ∀ a ∈ h.advertisements, a.published = true ∧ h.channel.bus.exported.get? a.path = some (.advertisement 0)

/-- Everything is up. Only the registration of the advertisement may be missing. -/
structure InService (h : Host MemoryBus) : Prop where
  undoable : h.Undoable
  serves : h.Serves .registered
  advertisements : h.ShowsAdvertisements
  tracker : h.tracker.isInitialized = true

structure Raised (key : Option Nat) (h : Host MemoryBus) : Prop where
  equipped : ∃ p, p.advertisement = key ∧ h.Equipped p
  undoable : h.Undoable

variable {h h' : Host MemoryBus} {p : Peripheral} {key : Option Nat} {state : ApplicationState}

/-! ## What a change of other things keeps -/

theorem StandsAt.of_entry {path : ObjectPath} {node : NodeRef}
    (entry : h.channel.bus.exported.get? path = some node) : h.StandsAt path node where
  exported := by rw [MemoryBus.isExported, Dict.contains, entry]; rfl
  entry _ := entry

theorem StandsAt.alike {path : ObjectPath} {node : NodeRef} (stands : h.StandsAt path node) (alike : h.Alike h') :
    h'.StandsAt path node := by
  refine ⟨?_, fun apart => ?_⟩
  · rw [MemoryBus.isExported, alike.table]
    exact stands.exported
  · rw [alike.table]
    exact stands.entry ((alike.forall_advertisements (Q := fun q _ => q ≠ path)).mp apart)

theorem Serves.alike (serves : h.Serves state) (alike : h.Alike h') : h'.Serves state := by
  have sites := Application.sites_of_outline alike.outline
  have outline := alike.outline
  injection outline with path state frozen
  refine ⟨state.trans serves.state, frozen.trans serves.frozen, ?_, fun site member => ?_⟩
  · exact path ▸ serves.root.alike alike
  · exact (serves.nodes site (sites ▸ member)).alike alike

theorem ShowsAdvertisements.alike (shows : h.ShowsAdvertisements) (alike : h.Alike h') : h'.ShowsAdvertisements := by
  rw [ShowsAdvertisements, alike.table]
  exact (alike.forall_advertisements (Q := fun path published => published = true ∧
    h.channel.bus.exported.get? path = some (.advertisement 0))).mpr shows

theorem Bare.beside (bare : h.Bare) (beside : h.Beside MemoryBus.exported h') : h'.Bare := by
  refine ⟨?_, ?_, ?_, ?_, fun path => ?_, ?_, ?_⟩
  · exact beside.application ▸ bare.placed
  · exact beside.application ▸ bare.unpublished
  · exact beside.application ▸ bare.editable
  · exact beside.application ▸ bare.hidden
  · exact (congrArg (Dict.get? · path) beside.bus).trans (bare.clear path)
  · rw [HidesAdvertisements, beside.advertisements]
    exact bare.advertisements
  · exact beside.tracker ▸ bare.tracker

theorem Bare.undoable (bare : h.Bare) : h.Undoable where
  placed := bare.placed
  accounted path _ stands := by
    rw [bare.clear] at stands
    cases stands

theorem Bare.kept (bare : h.Bare) : h.Kept where
  placed := bare.placed
  held site member published := by cases (bare.hidden site member).symm.trans published
  editable _ := bare.editable
  served published := absurd bare.unpublished published

theorem Raised.alike (raised : h.Raised key) (alike : h.Alike h') (peripheral : h'.peripheral = h.peripheral) :
    h'.Raised key where
  equipped :=
    have ⟨p, same, equipped⟩ := raised.equipped
    ⟨p, same, equipped.alike alike peripheral⟩
  undoable := raised.undoable.alike alike

theorem Raised.edit (raised : h.Raised key) (edit : Peripheral → Peripheral)
    (same : ∀ p, (edit p).advertisement = p.advertisement) : ((editPeripheral edit).run h).2.Raised key where
  equipped :=
    have ⟨p, known, equipped⟩ := raised.equipped
    ⟨edit p, (same p).trans known, equipped.edit edit (same p)⟩
  undoable := ⟨raised.undoable.placed, raised.undoable.accounted⟩

/-! ## The application -/

theorem publishApplication_bare (equipped : h.Equipped p) (bare : h.Bare) :
    let done := publishApplication.run h
    done.2.Raised p.advertisement ∧ (done.1 = .ok () → done.2.Serves .published) := by
  have free : h.application.isRegistered = false := by rw [Application.isRegistered, bare.unpublished]; rfl
  obtain ⟨sites, b, outcome, d, result, publication, kept, ending⟩ := Application.Kept.publish_cases bare.kept free
  rw [show publishApplication.run h = (outcome, { h with application := b, channel := d }) by
    rw [publishApplication, Routine.run_step, onApplication, result]]
  refine ⟨⟨⟨p, rfl, equipped.peripheral, equipped.advertisement⟩, kept.placed, ?_⟩, fun ok => ?_⟩
  · exact Application.Accounts.publication bare.undoable.accounted publication fun _ => .inl
  · rcases ending with ⟨-, published⟩ | ⟨⟨e, failed⟩, -⟩
    · obtain ⟨frozen, served⟩ := kept.served (by rw [published]; decide)
      refine ⟨published, frozen, .of_entry served.root, fun site member => ?_⟩
      exact .of_entry (kept.held site member (served.published site member)).1
    · cases failed.symm.trans ok

theorem registerApplication_serves (raised : h.Raised key) (serves : h.Serves .published) :
    let done := registerApplication.run h
    done.2.Raised key ∧ (done.1 = .ok () → done.2.Serves .registered) := by
  obtain ⟨outcome, h', run, ⟨beside, only⟩ | ⟨-, -, beside⟩⟩ := registerApplication_cases h MemoryBus.blind_exported
  · rw [run]
    refine ⟨raised.alike (.of_beside beside) beside.peripheral, fun ok => ?_⟩
    cases serves.state.symm.trans (only ok)
  · rw [run]
    have registered : (h.withState .registered).Serves .registered :=
      ⟨rfl, serves.frozen, ⟨serves.root.exported, serves.root.entry⟩, fun site member =>
        ⟨(serves.nodes site member).exported, (serves.nodes site member).entry⟩⟩
    obtain ⟨p, same, equipped⟩ := raised.equipped
    have raised : (h.withState .registered).Raised key :=
      ⟨⟨p, same, equipped.peripheral, equipped.advertisement⟩, raised.undoable.withState .registered⟩
    exact ⟨raised.alike (.of_beside beside) beside.peripheral, fun _ => registered.alike (.of_beside beside)⟩

/-! ## The advertisement -/

theorem exportNode_table (path : ObjectPath) (node : NodeRef) (c : Channel MemoryBus) :
    (∃ e, (Channel.exportNode path node c).1 = .error e) ∧
        (Channel.exportNode path node c).2.bus.exported = c.bus.exported ∨
      (Channel.exportNode path node c).1 = .ok () ∧
        (Channel.exportNode path node c).2.bus.exported = c.bus.exported.insert path node := by
  rw [Channel.exportNode, Channel.request_eq]
  simp only [Transport.exportNode, MemoryBus.exportNode]
  split
  · exact .inl ⟨⟨_, rfl⟩, rfl⟩
  · exact .inr ⟨rfl, rfl⟩

theorem Alike.withAdvertisement {a : Advertisement} (only : h.advertisements = [a])
    {edit : Advertisement → Advertisement} (path : (edit a).path = a.path)
    (published : (edit a).published = a.published) : h.Alike (h.withAdvertisement 0 edit) := by
  refine ⟨rfl, rfl, ?_⟩
  rw [Host.withAdvertisement, only]
  change [((edit a).path, (edit a).published)] = [(a.path, a.published)]
  rw [path, published]

theorem registerAdvertisement_alike {a : Advertisement} (only : h.advertisements = [a]) :
    h.Alike ((registerAdvertisement 0).run h).2 ∧ ((registerAdvertisement 0).run h).2.peripheral = h.peripheral := by
  have made : h.Beside MemoryBus.exported ((makeAdvertised a).run h).2 :=
    Routine.Minds.makeRegistration MemoryBus.blind_exported _ _ h
  rcases registerAdvertisement_run h (get?_of_only only) with
    ⟨-, run⟩ | ⟨-, -, e, run⟩ | ⟨-, -, ⟨-, run⟩ | ⟨e, -, run | ⟨steps, run⟩⟩⟩
  · rw [run]
    exact ⟨.of_beside (.refl _ h), rfl⟩
  · rw [run]
    exact ⟨.of_beside (.refl _ h), rfl⟩
  · rw [run]
    have only' : ((makeAdvertised a).run h).2.advertisements = [a] := made.advertisements.trans only
    exact ⟨(Alike.of_beside made).trans (.withAdvertisement only' rfl rfl), made.peripheral⟩
  · rw [run]
    exact ⟨.of_beside made, made.peripheral⟩
  · rw [run]
    have tried := made.trans (Routine.Minds.tryFallbacks MemoryBus.blind_exported.toBlindToProperties steps _)
    exact ⟨.of_beside tried, tried.peripheral⟩

structure Advertises (a : Advertisement) (h h' : Host MemoryBus) : Prop where
  before : h.advertisements = [a]
  application : h'.application = h.application
  table : h'.channel.bus.exported = h.channel.bus.exported.insert a.path (.advertisement 0)
  after : h'.advertisements = [{ a with published := true }]

namespace Advertises

variable {a : Advertisement}

theorem undoable (advertises : h.Advertises a h') (undoable : h.Undoable) : h'.Undoable where
  placed := advertises.application ▸ undoable.placed
  accounted := by
    intro path own stands
    have other : path ≠ a.path := by
      rw [advertises.after] at own
      exact (own _ (List.mem_singleton_self _) rfl).symm
    rw [advertises.table, Dict.get?_insert_eq, if_neg other] at stands
    rw [advertises.application]
    refine undoable.accounted path (fun b member _ => ?_) stands
    rw [advertises.before, List.mem_singleton] at member
    exact member ▸ other.symm

theorem standsAt (advertises : h.Advertises a h') {path : ObjectPath} {node : NodeRef}
    (stands : h.StandsAt path node) : h'.StandsAt path node := by
  refine ⟨?_, fun apart => ?_⟩
  · rw [MemoryBus.isExported, Dict.contains, advertises.table, Dict.get?_insert_eq]
    split
    · rfl
    · exact stands.exported
  · rw [advertises.after] at apart
    have other : a.path ≠ path := apart { a with published := true } (List.mem_singleton_self _)
    rw [advertises.table, Dict.get?_insert_eq, if_neg other.symm]
    refine stands.entry fun b member => ?_
    rw [advertises.before, List.mem_singleton] at member
    exact member ▸ other

theorem serves (advertises : h.Advertises a h') (serves : h.Serves state) : h'.Serves state where
  state := advertises.application ▸ serves.state
  frozen := advertises.application ▸ serves.frozen
  root := by
    rw [advertises.application]
    exact advertises.standsAt serves.root
  nodes := by
    rw [advertises.application]
    exact fun site member => advertises.standsAt (serves.nodes site member)

theorem shows (advertises : h.Advertises a h') : h'.ShowsAdvertisements := by
  intro b member
  rw [advertises.after, List.mem_singleton] at member
  subst member
  refine ⟨rfl, ?_⟩
  rw [advertises.table, Dict.get?_insert_eq, if_pos rfl]

end Advertises

theorem publishAdvertisement_cases {a : Advertisement} (only : h.advertisements = [a]) :
    let done := (publishAdvertisement 0).run h
    done.2.peripheral = h.peripheral ∧
      ((∃ e, done.1 = .error e) ∧ h.Alike done.2 ∧ done.2.advertisements = h.advertisements ∨
        done.1 = .ok () ∧ h.Advertises a done.2) := by
  obtain ⟨outcome, c, exported, moved⟩ := publishAdvertisement_run h (get?_of_only only)
  have table := exportNode_table a.path (.advertisement 0) h.channel
  rw [exported] at table
  rcases moved with ⟨rfl, run⟩ | ⟨e, rfl, run⟩
  · rw [run]
    rcases table with ⟨⟨e, failed⟩, -⟩ | ⟨-, table⟩
    · cases failed
    · refine ⟨rfl, .inr ⟨rfl, only, rfl, table, ?_⟩⟩
      rw [withAdvertisement, only]
      rfl
  · rw [run]
    rcases table with ⟨-, table⟩ | ⟨ok, -⟩
    · exact ⟨rfl, .inl ⟨⟨_, rfl⟩, ⟨rfl, table, rfl⟩, rfl⟩⟩
    · cases ok

theorem Raised.advertise {a : Advertisement} (raised : h.Raised (some 0)) (advertises : h.Advertises a h')
    (peripheral : h'.peripheral = h.peripheral) : h'.Raised (some 0) where
  equipped :=
    have ⟨p, key, equipped⟩ := raised.equipped
    ⟨p, key, peripheral.trans equipped.peripheral, .inr ⟨key, _, advertises.after⟩⟩
  undoable := advertises.undoable raised.undoable

theorem bringUpAdvertisement_spec (raised : h.Raised (some 0)) (serves : h.Serves .registered) :
    let done := (bringUpAdvertisement 0).run h
    done.2.Raised (some 0) ∧ (done.1 = .ok () → done.2.Serves .registered ∧ done.2.ShowsAdvertisements) := by
  obtain ⟨p, key, equipped⟩ := raised.equipped
  obtain ⟨none, -⟩ | ⟨-, a, only⟩ := equipped.advertisement
  · cases key.symm.trans none
  rw [bringUpAdvertisement, Routine.run_bind', Routine.run_read, Routine.run_bind', Routine.run_bind']
  -- Neither the fallbacks nor the registration are seen from the bus, so only the export changes anything.
  let equip (a : Advertisement) : Advertisement := { a with fallbacks := FallbackStep.defaultChain h.adapter }
  let ready : Host MemoryBus := h.withAdvertisement 0 equip
  have prepared : h.Alike ready := .withAdvertisement only rfl rfl
  have only : ready.advertisements = [equip a] := by
    change h.advertisements.modify 0 equip = _
    rw [only]
    rfl
  have raised : ready.Raised (some 0) := raised.alike prepared rfl
  have serves : ready.Serves .registered := serves.alike prepared
  obtain ⟨peripheral, published⟩ := publishAdvertisement_cases only
  rw [show ((editAdvertisement 0 equip).run h).2 = ready from rfl]
  cases run : (publishAdvertisement 0).run ready with
  | mk result shown =>
      rw [run] at peripheral published
      rcases published with ⟨⟨e, rfl⟩, alike, -⟩ | ⟨rfl, advertises⟩
      · exact ⟨raised.alike alike peripheral, fun ok => by cases ok⟩
      · have raised : shown.Raised (some 0) := raised.advertise advertises peripheral
        obtain ⟨alike, peripheral⟩ := registerAdvertisement_alike advertises.after
        have up := (advertises.serves serves).alike alike
        have out := advertises.shows.alike alike
        have raised := raised.alike alike peripheral
        simp only [Routine.run_bind']
        cases register : (registerAdvertisement 0).run shown with
        | mk answer last =>
            rw [register] at up out raised
            cases answer with
            | error e => exact ⟨raised, fun _ => ⟨up, out⟩⟩
            | ok mode => exact ⟨raised.edit (fun p => { p with mode := some mode }) fun _ => rfl, fun _ =>
                ⟨up.alike ⟨rfl, rfl, rfl⟩, out.alike ⟨rfl, rfl, rfl⟩⟩⟩

theorem startTracker_spec (h : Host MemoryBus) :
    let done := startTracker.run h
    h.Alike done.2 ∧ done.2.peripheral = h.peripheral ∧ (done.1 = .ok () → done.2.tracker.isInitialized = true) :=
  ⟨⟨rfl, Tracker.start_unseen MemoryBus.blindToSubscriptions_exported.channel h.tracker h.channel, rfl⟩, rfl,
    h.tracker.start_initialized h.channel⟩

/-! ## All together -/

/-- The part of bringing up that comes after the application. -/
def raiseRest : Option Nat → Routine (Host MemoryBus) (Except GattError Unit)
  | none => startTracker
  | some key => do
      match ← bringUpAdvertisement key with
      | .error e => return .error e
      | .ok () => startTracker

/-- The part of bringing up that comes after the adapter. -/
def raise (key : Option Nat) : Routine (Host MemoryBus) (Except GattError Unit) := do
  match ← publishApplication with
  | .error e => return .error e
  | .ok () =>
      match ← registerApplication with
      | .error e => return .error e
      | .ok () => raiseRest key

theorem bringUp_cases (q : Peripheral) (h : Host MemoryBus) : ∃ ready, h.Beside MemoryBus.exported ready ∧
    ((∃ e, (bringUp q).run h = (.error e, ready)) ∨ (bringUp q).run h = (raise q.advertisement).run ready) := by
  have blind := MemoryBus.blind_exported.toBlindToProperties
  have powered := Routine.Minds.powerOn blind h.adapter h
  rw [bringUp, Routine.run_bind', Routine.run_read, Routine.run_bind']
  cases run : (Adapter.powerOn h.adapter).run h with
  | mk result on =>
      rw [run] at powered
      cases result with
      | error e => exact ⟨on, powered, .inl ⟨e, rfl⟩⟩
      | ok =>
          cases q.adapterName with
          | none => exact ⟨on, powered, .inr rfl⟩
          | some name =>
              have named := Routine.Minds.setFriendlyName blind h.adapter name on
              refine ⟨_, powered.trans named, .inr ?_⟩
              simp only [Routine.run_bind', raise]
              rfl

theorem startTracker_inService (raised : h.Raised key) (serves : h.Serves .registered) (shows : h.ShowsAdvertisements) :
    let done := startTracker.run h
    done.2.Raised key ∧ (done.1 = .ok () → done.2.InService) := by
  obtain ⟨alike, peripheral, initialized⟩ := startTracker_spec h
  have raised := raised.alike alike peripheral
  exact ⟨raised, fun ok => ⟨raised.undoable, serves.alike alike, shows.alike alike, initialized ok⟩⟩

theorem raiseRest_spec (raised : h.Raised key) (serves : h.Serves .registered) :
    let done := (raiseRest key).run h
    done.2.Raised key ∧ (done.1 = .ok () → done.2.InService) := by
  obtain ⟨p, rfl, equipped⟩ := raised.equipped
  rcases equipped.advertisement with ⟨key, nothing⟩ | ⟨key, -⟩
  · rw [key] at raised ⊢
    refine startTracker_inService raised serves fun a member => ?_
    rw [nothing] at member
    cases member
  · rw [key] at raised ⊢
    obtain ⟨raised, up⟩ := bringUpAdvertisement_spec raised serves
    rw [raiseRest, Routine.run_bind']
    cases run : (bringUpAdvertisement 0).run h with
    | mk result shown =>
        rw [run] at raised up
        cases result with
        | error e => exact ⟨raised, fun ok => by cases ok⟩
        | ok => exact startTracker_inService raised (up rfl).1 (up rfl).2

theorem raise_spec (equipped : h.Equipped p) (bare : h.Bare) :
    let done := (raise p.advertisement).run h
    done.2.Raised p.advertisement ∧ (done.1 = .ok () → done.2.InService) := by
  obtain ⟨raised, served⟩ := publishApplication_bare equipped bare
  rw [raise, Routine.run_bind']
  cases publish : publishApplication.run h with
  | mk result h₁ =>
      rw [publish] at raised served
      cases result with
      | error e => exact ⟨raised, fun ok => by cases ok⟩
      | ok =>
          obtain ⟨raised, served⟩ := registerApplication_serves raised (served rfl)
          simp only [Routine.run_bind']
          cases register : registerApplication.run h₁ with
          | mk result h₂ =>
              rw [register] at raised served
              cases result with
              | error e => exact ⟨raised, fun ok => by cases ok⟩
              | ok => exact raiseRest_spec raised (served rfl)

theorem bringUp_spec (equipped : h.Equipped p) (bare : h.Bare) {q : Peripheral}
    (same : q.advertisement = p.advertisement) :
    let done := (bringUp q).run h
    done.2.Raised p.advertisement ∧ (done.1 = .ok () → done.2.InService) := by
  obtain ⟨ready, beside, ⟨e, run⟩ | run⟩ := bringUp_cases q h
  · rw [run]
    exact ⟨⟨⟨p, rfl, equipped.alike (.of_beside beside) beside.peripheral⟩, (bare.beside beside).undoable⟩,
      fun ok => by cases ok⟩
  · rw [run, same]
    exact raise_spec (equipped.alike (.of_beside beside) beside.peripheral) (bare.beside beside)

end GattPeripheral.Host
