import GattPeripheral.Proofs.Host.Sequences
import GattPeripheral.Proofs.Host.Starting

/-!
# The life of a peripheral

A peripheral is started and stopped again and again, and between that its tree is edited and its values
are used. `Host.Settled` is what every such handling keeps: everything is up or nothing is. Main
statement: `Host.up_or_down`.
-/

namespace GattPeripheral

def Operation.isPassive : Operation → Bool
  | transition _ _ => false
  | _ => true

inductive Handling where
  | start
  | stop
  | between (op : Operation) (passive : op.isPassive = true)
  | signal (signal : Signal)
  | release

namespace Host

def handle (handling : Handling) (h : Host MemoryBus) : Host MemoryBus :=
  match handling with
  | .start => (startPeripheral.run h).2
  | .stop => (stopPeripheral.run h).2
  | .between op _ => op.perform h
  | .signal signal => (h.deliver signal).2
  | .release => h.withAdvertisement 0 Advertisement.release

structure Settled (key : Option Nat) (p : Peripheral) (h : Host MemoryBus) : Prop where
  key : p.advertisement = key
  equipped : h.Equipped p
  settled : p.state = .stopped ∧ p.mode = none ∧ h.Bare ∨ p.state = .running ∧ h.InService

variable {h h' : Host MemoryBus} {p : Peripheral} {key : Option Nat}

/-! ## Starting and stopping -/

theorem Bare.edit (bare : h.Bare) (edit : Peripheral → Peripheral) : ((editPeripheral edit).run h).2.Bare :=
  ⟨bare.placed, bare.unpublished, bare.editable, bare.hidden, bare.clear, bare.advertisements, bare.tracker⟩

theorem InService.edit (inService : h.InService) (edit : Peripheral → Peripheral) :
    ((editPeripheral edit).run h).2.InService :=
  have alike : h.Alike ((editPeripheral edit).run h).2 := ⟨rfl, rfl, rfl⟩
  ⟨inService.undoable.alike alike, inService.serves.alike alike, inService.advertisements.alike alike,
    inService.tracker⟩

theorem tearDown_stops (equipped : h.Equipped p) (undoable : h.Undoable) {q : Peripheral}
    (same : q.advertisement = p.advertisement) :
    let falling := ((setPeripheralState .stopping).run h).2
    let last := ((setPeripheralState .stopped).run ((tearDown q).run falling).2).2
    last.Equipped { p with state := .stopped, mode := none } ∧ last.Bare := by
  intro falling last
  have falls : falling.Equipped { p with state := .stopping } :=
    equipped.edit (fun p => { p with state := .stopping }) rfl
  have undoable : falling.Undoable := ⟨undoable.placed, undoable.accounted⟩
  obtain ⟨equipped, bare⟩ := tearDown_bare falls undoable (q := q) same
  exact ⟨equipped.edit (fun p => { p with state := .stopped }) rfl, bare.edit _⟩

theorem startPeripheral_stopped (equipped : h.Equipped p) (stopped : p.state = .stopped) (bare : h.Bare) :
    let done := startPeripheral.run h
    ∃ q, q.advertisement = p.advertisement ∧ done.2.Equipped q ∧
      (done.1 = .ok () ∧ q.state = .running ∧ done.2.InService ∨
        (∃ e, done.1 = .error e) ∧ q.state = .stopped ∧ q.mode = none ∧ done.2.Bare) := by
  rw [startPeripheral, Routine.run_holding, Routine.run_bind', Routine.run_read]
  simp only [equipped.peripheral, if_pos stopped, Routine.run_bind']
  let starting : Host MemoryBus := ((setPeripheralState .starting).run h).2
  have starts : starting.Equipped { p with state := .starting } :=
    equipped.edit (fun p => { p with state := .starting }) rfl
  obtain ⟨raised, up⟩ := bringUp_spec starts (bare.edit _) (q := p) rfl
  cases run : (bringUp p).run starting with
  | mk result risen =>
      rw [run] at raised up
      obtain ⟨r, same, equipped⟩ := raised.equipped
      cases result with
      | ok =>
          refine ⟨{ r with state := .running }, same, ?_, .inl ⟨rfl, rfl, (up rfl).edit _⟩⟩
          exact equipped.edit (fun p => { p with state := .running }) rfl
      | error e =>
          -- However far bringing up came, what it left can be undone.
          obtain ⟨equipped, bare⟩ := tearDown_stops equipped raised.undoable (q := p) same.symm
          simp only [Routine.run_bind']
          exact ⟨{ r with state := .stopped, mode := none }, same, equipped, .inr ⟨⟨e, rfl⟩, rfl, rfl, bare⟩⟩

theorem stopPeripheral_busy (equipped : h.Equipped p) (busy : p.state ≠ .stopped) (undoable : h.Undoable) :
    (stopPeripheral.run h).2.Equipped { p with state := .stopped, mode := none } ∧ (stopPeripheral.run h).2.Bare := by
  rw [stopPeripheral, Routine.run_holding, Routine.run_bind', Routine.run_read]
  simp only [equipped.peripheral, if_neg busy, Routine.run_bind']
  exact tearDown_stops equipped undoable rfl

/-! ## What happens in between -/

structure Calm (h h' : Host MemoryBus) : Prop where
  alike : h.Alike h'
  hides : h.HidesAdvertisements → h'.HidesAdvertisements
  tracker : h'.tracker.isInitialized = h.tracker.isInitialized
  peripheral : h'.peripheral = h.peripheral

theorem Calm.refl (h : Host MemoryBus) : h.Calm h := ⟨⟨rfl, rfl, rfl⟩, id, rfl, rfl⟩

theorem Calm.trans {h'' : Host MemoryBus} (first : h.Calm h') (second : h'.Calm h'') : h.Calm h'' :=
  ⟨first.alike.trans second.alike, second.hides ∘ first.hides, second.tracker.trans first.tracker,
    second.peripheral.trans first.peripheral⟩

theorem Calm.of_valued (valued : h.Valued Channel.exports h') : h.Calm h' where
  alike := ⟨valued.outline, valued.quiet.table, congrArg _ valued.advertisements⟩
  hides hidden := by
    rw [HidesAdvertisements, valued.advertisements]
    exact hidden
  tracker := congrArg _ valued.tracker
  peripheral := valued.peripheral

theorem Calm.deliver (signal : Signal) (h : Host MemoryBus) : h.Calm (h.deliver signal).2 := by
  have once (h : Host MemoryBus) : h.Calm (followSignal signal h) :=
    ⟨⟨rfl, Tracker.follow_unseen MemoryBus.exported signal h.tracker h.channel, rfl⟩, id,
      congrArg Option.isSome (Tracker.follow_subscriptions signal h.tracker h.channel), rfl⟩
  unfold Host.deliver
  generalize Transport.receivers signal h.channel.bus = count
  induction count with
  | zero => exact .refl h
  | succ count ih => exact ih.trans (once _)

theorem Calm.release (equipped : h.Equipped p) : h.Calm (h.withAdvertisement 0 Advertisement.release) := by
  rcases equipped.advertisement with ⟨-, nothing⟩ | ⟨-, a, only⟩
  · have same : h.withAdvertisement 0 Advertisement.release = h := by
      rw [withAdvertisement, nothing, show [].modify 0 Advertisement.release = [] from rfl, ← nothing]
    rw [same]
    exact .refl h
  · refine ⟨.withAdvertisement only rfl rfl, fun hidden b member => ?_, rfl, rfl⟩
    rw [withAdvertisement, only, show [a].modify 0 Advertisement.release = [a.release] from rfl,
      List.mem_singleton] at member
    subst member
    exact ⟨(hidden a (only ▸ List.mem_singleton_self a)).1, rfl⟩

theorem Bare.calm (bare : h.Bare) (calm : h.Calm h') : h'.Bare := by
  have sites := Application.sites_of_outline calm.alike.outline
  have outline := calm.alike.outline
  injection outline with path state frozen
  refine ⟨bare.placed.of_outline calm.alike.outline, state.trans bare.unpublished, frozen.trans bare.editable, ?_,
    fun path => ?_, calm.hides bare.advertisements, calm.tracker.trans bare.tracker⟩
  · exact sites ▸ bare.hidden
  · rw [calm.alike.table]
    exact bare.clear path

theorem InService.calm (inService : h.InService) (calm : h.Calm h') : h'.InService :=
  ⟨inService.undoable.alike calm.alike, inService.serves.alike calm.alike, inService.advertisements.alike calm.alike,
    calm.tracker.trans inService.tracker⟩

theorem Settled.calm (settled : h.Settled key p) (calm : h.Calm h') : h'.Settled key p where
  key := settled.key
  equipped := settled.equipped.alike calm.alike calm.peripheral
  settled := settled.settled.imp (fun ⟨stopped, mode, bare⟩ => ⟨stopped, mode, bare.calm calm⟩)
    fun ⟨running, inService⟩ => ⟨running, inService.calm calm⟩

theorem InService.edit_same (inService : h.InService) (edit : Edit) : edit.apply h.application = h.application := by
  rcases edit.apply_cases inService.undoable.placed with same | ⟨unlocked, -⟩ | ⟨s, removes, -⟩
  · exact same
  · cases unlocked.symm.trans inService.serves.frozen
  · cases removes.unpublished.symm.trans inService.serves.state

theorem Bare.apply (bare : h.Bare) (edit : Edit) : ({ h with application := edit.apply h.application } : Host _).Bare := by
  have kept := Application.Kept.edit bare.kept edit
  have unpublished := (edit.apply_beside h.application).2.trans bare.unpublished
  refine ⟨kept.placed, unpublished, kept.editable unpublished, fun site member => ?_, bare.clear, bare.advertisements,
    bare.tracker⟩
  by_contra published
  have stands := (kept.held site member (by simpa using published)).1
  rw [bare.clear] at stands
  cases stands

theorem Settled.edit (settled : h.Settled key p) (edit : Edit) :
    ({ h with application := edit.apply h.application } : Host _).Settled key p := by
  obtain ⟨key, equipped, ⟨stopped, mode, bare⟩ | ⟨running, inService⟩⟩ := settled
  · exact ⟨key, ⟨equipped.peripheral, equipped.advertisement⟩, .inl ⟨stopped, mode, bare.apply edit⟩⟩
  · rw [inService.edit_same edit]
    exact ⟨key, equipped, .inr ⟨running, inService⟩⟩

theorem Settled.start (settled : h.Settled key p) : ∃ q, (startPeripheral.run h).2.Settled key q := by
  obtain ⟨known, equipped, ⟨stopped, mode, bare⟩ | ⟨running, inService⟩⟩ := settled
  · obtain ⟨q, same, equipped, ⟨-, running, inService⟩ | ⟨-, stopped, mode, bare⟩⟩ :=
      startPeripheral_stopped equipped stopped bare
    · exact ⟨q, same.trans known, equipped, .inr ⟨running, inService⟩⟩
    · exact ⟨q, same.trans known, equipped, .inl ⟨stopped, mode, bare⟩⟩
  · rw [startPeripheral_busy equipped.peripheral (by rw [running]; decide)]
    exact ⟨p, known, equipped, .inr ⟨running, inService⟩⟩

theorem Settled.stop (settled : h.Settled key p) : ∃ q, (stopPeripheral.run h).2.Settled key q := by
  obtain ⟨known, equipped, ⟨stopped, mode, bare⟩ | ⟨running, inService⟩⟩ := settled
  · rw [stopPeripheral_stopped equipped.peripheral stopped]
    exact ⟨p, known, equipped, .inl ⟨stopped, mode, bare⟩⟩
  · obtain ⟨equipped, bare⟩ := stopPeripheral_busy equipped (by rw [running]; decide) inService.undoable
    exact ⟨{ p with state := .stopped, mode := none }, known, equipped, .inl ⟨rfl, rfl, bare⟩⟩

theorem Settled.handle (settled : h.Settled key p) (handling : Handling) : ∃ q, (h.handle handling).Settled key q := by
  cases handling with
  | start => exact settled.start
  | stop => exact settled.stop
  | signal signal => exact ⟨p, settled.calm (.deliver signal h)⟩
  | release => exact ⟨p, settled.calm (.release settled.equipped)⟩
  | between op passive =>
      refine ⟨p, ?_⟩
      cases op with
      | edit edit => exact settled.edit edit
      | access access =>
          have placed : h.application.Placed := by
            rcases settled.settled with ⟨-, -, bare⟩ | ⟨-, inService⟩
            · exact bare.placed
            · exact inService.undoable.placed
          exact settled.calm (.of_valued (access.valued Channel.blind_exports placed))
      | transition t own => cases passive
      | hold node => exact settled.calm ⟨⟨rfl, rfl, rfl⟩, id, rfl, rfl⟩
      | letGo node => exact settled.calm ⟨⟨rfl, rfl, rfl⟩, id, rfl, rfl⟩
      | arrange around => exact settled.calm ⟨⟨rfl, rfl, rfl⟩, id, rfl, rfl⟩

/-! ## Whole lives -/

def supervised (bus : MemoryBus) (root adapter : ObjectPath) (options : RegistrationOptions)
    (advertisement : Option (ObjectPath × AdvertisementData)) (adapterName : Option String) : Host MemoryBus :=
  { new { bus with exported := .empty } root adapter options with
    advertisements := advertisement.toList.map fun (path, data) => .new path data
    peripheral := some (.new (advertisement.map fun _ => 0) adapterName) }

def handled (handlings : List Handling) (h : Host MemoryBus) : Host MemoryBus :=
  handlings.foldl (fun h handling => h.handle handling) h

theorem settled_supervised (bus : MemoryBus) (root adapter : ObjectPath) (options : RegistrationOptions)
    (advertisement : Option (ObjectPath × AdvertisementData)) (adapterName : Option String) :
    (supervised bus root adapter options advertisement adapterName).Settled (advertisement.map fun _ => 0)
      (.new (advertisement.map fun _ => 0) adapterName) := by
  refine ⟨rfl, ⟨rfl, ?_⟩, .inl ⟨rfl, rfl, Application.placed_new root, rfl, rfl, ?_, fun _ => rfl, ?_, rfl⟩⟩
  · cases advertisement with
    | none => exact .inl ⟨rfl, rfl⟩
    | some given => exact .inr ⟨rfl, _, rfl⟩
  · intro site member
    cases member
  · intro a member
    cases advertisement with
    | none => cases member
    | some given =>
        rw [List.mem_singleton.mp member]
        exact ⟨rfl, rfl⟩

theorem settled_handled (settled : h.Settled key p) (handlings : List Handling) :
    ∃ q, (h.handled handlings).Settled key q := by
  induction handlings generalizing h p with
  | nil => exact ⟨p, settled⟩
  | cons handling handlings ih =>
      obtain ⟨q, settled⟩ := settled.handle handling
      exact ih settled

structure AtRest (p : Peripheral) (h : Host MemoryBus) : Prop where
  peripheral : h.peripheral = some p
  stopped : p.state = .stopped
  mode : p.mode = none
  unpublished : h.application.state = .unpublished
  editable : h.application.frozen = false
  clear : ∀ path, h.channel.bus.isExported path = false
  advertisements : h.HidesAdvertisements
  tracker : h.tracker.isInitialized = false

structure OnAir (p : Peripheral) (h : Host MemoryBus) : Prop where
  peripheral : h.peripheral = some p
  running : p.state = .running
  registered : h.application.state = .registered
  root : h.StandsAt h.application.path .application
  nodes : ∀ s ∈ h.application.services, h.StandsAt s.path (.service s.key) ∧
    ∀ i c, s.characteristics[i]? = some c → h.StandsAt c.path (.characteristic s.key i) ∧
      ∀ j d, c.descriptors[j]? = some d → h.StandsAt d.path (.descriptor s.key i j)
  advertisement : ∀ key, p.advertisement = some key → ∃ a, h.advertisements[key]? = some a ∧
    a.published = true ∧ h.channel.bus.exported.get? a.path = some (.advertisement key)
  tracker : h.tracker.isInitialized = true

theorem Bare.atRest (bare : h.Bare) (equipped : h.Equipped p) (stopped : p.state = .stopped) (mode : p.mode = none) :
    h.AtRest p := by
  refine ⟨equipped.peripheral, stopped, mode, bare.unpublished, bare.editable, fun path => ?_, bare.advertisements,
    bare.tracker⟩
  rw [MemoryBus.isExported, Dict.contains, bare.clear]
  rfl

theorem InService.onAir (inService : h.InService) (equipped : h.Equipped p) (running : p.state = .running) :
    h.OnAir p := by
  refine ⟨equipped.peripheral, running, inService.serves.state, inService.serves.root,
    Application.forall_sites.mp inService.serves.nodes, fun key known => ?_, inService.tracker⟩
  rcases equipped.advertisement with ⟨none, -⟩ | ⟨first, a, only⟩
  · cases none.symm.trans known
  · cases first.symm.trans known
    exact ⟨a, by rw [only]; rfl, inService.advertisements a (only ▸ List.mem_singleton_self a)⟩

theorem Settled.atRest_or_onAir (settled : h.Settled key p) : h.AtRest p ∨ h.OnAir p :=
  settled.settled.imp (fun ⟨stopped, mode, bare⟩ => bare.atRest settled.equipped stopped mode)
    fun ⟨running, inService⟩ => inService.onAir settled.equipped running

/-- Whatever is done to a peripheral, whatever its bus refuses and whatever the managers reply, everything
of it is up or nothing is. Starting it again fails and changes nothing; starting it from rest succeeds
exactly if it ends on the air; stopping always ends at rest. -/
theorem up_or_down (bus : MemoryBus) (root adapter : ObjectPath) (options : RegistrationOptions)
    (advertisement : Option (ObjectPath × AdvertisementData)) (adapterName : Option String)
    (handlings : List Handling) :
    let h := (supervised bus root adapter options advertisement adapterName).handled handlings
    let start := startPeripheral.run h
    ∃ p, p.advertisement = (advertisement.map fun _ => 0) ∧ (h.AtRest p ∨ h.OnAir p) ∧
      (p.state = .running → start = (.error (.invalidState "peripheral is Running"), h)) ∧
      (p.state = .stopped → ∃ q, start.1 = .ok () ∧ start.2.OnAir q ∨ (∃ e, start.1 = .error e) ∧ start.2.AtRest q) ∧
      ∃ q, (stopPeripheral.run h).2.AtRest q := by
  intro h start
  have fresh := settled_supervised bus root adapter options advertisement adapterName
  obtain ⟨p, settled⟩ := settled_handled fresh handlings
  refine ⟨p, settled.key, settled.atRest_or_onAir, fun running => ?_, fun stopped => ?_, ?_⟩
  · have busy := startPeripheral_busy settled.equipped.peripheral (by rw [running]; decide)
    rwa [running] at busy
  · rcases settled.settled with ⟨-, -, bare⟩ | ⟨running, -⟩
    · obtain ⟨q, -, equipped, ⟨ok, running, inService⟩ | ⟨failed, stopped, mode, bare⟩⟩ :=
        startPeripheral_stopped settled.equipped stopped bare
      · exact ⟨q, .inl ⟨ok, inService.onAir equipped running⟩⟩
      · exact ⟨q, .inr ⟨failed, bare.atRest equipped stopped mode⟩⟩
    · cases stopped.symm.trans running
  · rcases settled.settled with ⟨stopped, mode, bare⟩ | ⟨running, inService⟩
    · rw [stopPeripheral_stopped settled.equipped.peripheral stopped]
      exact ⟨p, bare.atRest settled.equipped stopped mode⟩
    · obtain ⟨equipped, bare⟩ :=
        stopPeripheral_busy settled.equipped (by rw [running]; decide) inService.undoable
      exact ⟨_, bare.atRest equipped rfl rfl⟩

def poweredBus : MemoryBus := MemoryBus.empty.putProperty ⟨.root, Names.adapter, Names.powered⟩ (.bool true)

example : (startPeripheral.run
    (supervised poweredBus .root .root .standard (some (.root, .new .peripheral)) none)).1.isOk = true := by
  decide +kernel

end Host
end GattPeripheral
