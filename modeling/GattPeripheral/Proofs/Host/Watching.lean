import GattPeripheral.Proofs.Connection.Devices
import GattPeripheral.Proofs.Connection.Subscriptions
import GattPeripheral.Proofs.Host.Operation

/-!
# Histories of a tracker

A tracker on a bus in memory starts and stops, signals reach it through the bus or directly, and its
surroundings change. It receives each signal as often as it should exactly if the bus never refused to
drop a subscription: `Host.heeds_iff`.
-/

namespace GattPeripheral

inductive Watching where
  | start
  | stop
  /-- A signal goes through the bus. -/
  | deliver (signal : Signal)
  /-- A signal is processed without the bus. -/
  | process (signal : Signal)
  | attend (delegate : Option Delegate)
  | arrange (around : Surroundings)

def Watching.perform (act : Watching) (h : Host MemoryBus) : Host MemoryBus :=
  match act with
  | start => (Host.startTracker.run h).2
  | stop => (Host.stopTracker.run h).2
  | deliver signal => (h.deliver signal).2
  | process signal => h.followSignal signal
  | attend delegate => { h with tracker := { h.tracker with delegate := delegate } }
  | arrange around => h.arrange around

namespace Host

def watched (acts : List Watching) (h : Host MemoryBus) : Host MemoryBus := acts.foldl (fun h act => act.perform h) h

/-- An initialized tracker receives each signal of its rules once. Otherwise no signal on the bus changes
the table or is told to anyone. -/
structure Heeds (h : Host MemoryBus) : Prop where
  once : h.tracker.isInitialized = true → ∀ signal, (∃ rule ∈ Tracker.rules, signal.isMatch rule = true) →
    h.deliver signal = (1, h.followSignal signal)
  idle : h.tracker.isInitialized = false → ∀ signal,
    (h.deliver signal).2.tracker.devices = h.tracker.devices ∧ (h.deliver signal).2.channel.notices = h.channel.notices

def Enrolled (strays own : List Subscription) (h : Host MemoryBus) : Prop := h.tracker.Enrolled strays own h.channel

variable {strays own : List Subscription} {h : Host MemoryBus}

theorem Enrolled.followSignal (enrolled : h.Enrolled strays own) (signal : Signal) :
    (h.followSignal signal).Enrolled strays own := Tracker.Enrolled.follow enrolled signal

theorem Enrolled.repeated (enrolled : h.Enrolled strays own) (signal : Signal) (count : Nat) :
    (count.repeat (Host.followSignal signal) h).Enrolled strays own := by
  induction count with
  | zero => exact enrolled
  | succ count ih => exact ih.followSignal signal

theorem Enrolled.perform (enrolled : h.Enrolled strays own) (act : Watching) :
    ∃ strays' own', (act.perform h).Enrolled strays' own' := by
  cases act with
  | start => exact Tracker.Enrolled.start enrolled
  | stop => exact Tracker.Enrolled.stop enrolled
  | deliver signal => exact ⟨strays, own, enrolled.repeated signal _⟩
  | process signal => exact ⟨strays, own, enrolled.followSignal signal⟩
  | attend delegate => exact ⟨strays, own, Tracker.Enrolled.congr enrolled rfl rfl⟩
  | arrange around => exact ⟨strays, own, Tracker.Enrolled.congr enrolled rfl rfl⟩

theorem Enrolled.watched (enrolled : h.Enrolled strays own) (acts : List Watching) :
    ∃ strays' own', (h.watched acts).Enrolled strays' own' := by
  induction acts generalizing strays own h with
  | nil => exact ⟨strays, own, enrolled⟩
  | cons act acts ih =>
      obtain ⟨strays', own', next⟩ := enrolled.perform act
      exact ih next

def unwatched (bus : MemoryBus) (root adapter : ObjectPath) (options : RegistrationOptions) : Host MemoryBus :=
  new { bus with subscriptions := [] } root adapter options

theorem enrolled_unwatched (bus : MemoryBus) (root adapter : ObjectPath) (options : RegistrationOptions) :
    (unwatched bus root adapter options).Enrolled [] [] where
  accounts := ⟨rfl, rfl, List.nodup_nil, fun _ member => by cases member⟩
  foremost none := absurd rfl none
  held := .inl ⟨rfl, rfl⟩

theorem Enrolled.refused_iff (enrolled : h.Enrolled strays own) :
    (∀ id e, Event.unsubscribed id (some e) ∉ h.channel.trace) ↔ strays = [] := by
  rw [← List.map_eq_nil_iff, enrolled.accounts.undropped, List.eq_nil_iff_forall_not_mem]
  simp only [Channel.mem_undropped, not_exists]

theorem countP_rules {signal : Signal} (wanted : ∃ rule ∈ Tracker.rules, signal.isMatch rule = true) :
    Tracker.rules.countP signal.isMatch = 1 := by
  obtain ⟨rule, member, fits⟩ := wanted
  simp only [Tracker.rules, List.mem_cons, List.not_mem_nil, or_false] at member
  cases signal with
  | added path interfaces => rfl
  | removed path interfaces => rfl
  | changed path interface changed invalidated =>
      rcases member with rfl | rfl | rfl
      · cases fits
      · cases fits
      · obtain rfl : interface = Names.device := beq_iff_eq.mp fits
        rfl

theorem Enrolled.heeds (enrolled : h.Enrolled [] own) : h.Heeds := by
  constructor
  · intro started signal wanted
    have count := Tracker.Enrolled.receivers enrolled signal
    rw [List.countP_nil, started, if_pos rfl, countP_rules wanted] at count
    rw [deliver, count]
    rfl
  · intro idle signal
    have count := Tracker.Enrolled.receivers enrolled signal
    rw [List.countP_nil, idle, if_neg Bool.false_ne_true] at count
    rw [deliver, count]
    exact ⟨rfl, rfl⟩

theorem followSignal_tracks {signal : Signal} {a : String} {p : ObjectPath} (announces : signal.Announces a p)
    (h : Host MemoryBus) : (h.followSignal signal).tracker.Tracks a p := by
  have table : (h.followSignal signal).tracker = (h.tracker.handle signal).1 := h.tracker.follow_fst signal h.channel
  rw [table]
  exact h.tracker.handle_announces announces

theorem Enrolled.not_heeds (enrolled : h.Enrolled strays own) (some : strays ≠ []) : ¬ h.Heeds := by
  intro heeds
  obtain ⟨s, member, first⟩ := enrolled.foremost some
  have received (a : String) (p : ObjectPath) : 0 < strays.countP fun s => (Signal.arrival a p).isMatch s.2 :=
    List.countP_pos_iff.mpr ⟨s, member, by rw [first]; rfl⟩
  have count (a : String) (p : ObjectPath) := Tracker.Enrolled.receivers enrolled (.arrival a p)
  cases started : h.tracker.isInitialized with
  | true =>
      have once := congrArg Prod.fst (heeds.once started (.arrival "" .root) ⟨.added, by simp [Tracker.rules], rfl⟩)
      have stray := received "" .root
      rw [deliver, count, started, if_pos rfl, countP_rules ⟨.added, by simp [Tracker.rules], rfl⟩] at once
      omega
  | false =>
      -- If nothing changed the table, the device would be at each path already.
      have tracks (p : ObjectPath) : h.tracker.Tracks "" p := by
        obtain ⟨n, positive⟩ := Nat.exists_eq_add_one.mpr (received "" p)
        have kept := (heeds.idle started (.arrival "" p)).1
        rw [deliver, count, started, positive] at kept
        rw [Tracker.Tracks, ← kept]
        exact followSignal_tracks (Signal.announces_arrival.mpr ⟨rfl, rfl⟩) _
      exact absurd ((tracks .root).symm.trans (tracks (ObjectPath.root.push (Element.service.numbered 0)))) (by decide)

/-- Whatever happened to a tracker: it receives each signal of its rules once while it is initialized, and
none otherwise, exactly if the bus never refused to drop a subscription. -/
theorem heeds_iff (bus : MemoryBus) (root adapter : ObjectPath) (options : RegistrationOptions) (acts : List Watching) :
    let h := (unwatched bus root adapter options).watched acts
    h.Heeds ↔ ∀ id e, Event.unsubscribed id (some e) ∉ h.channel.trace := by
  obtain ⟨strays, own, enrolled⟩ := (enrolled_unwatched bus root adapter options).watched acts
  intro h
  rw [enrolled.refused_iff]
  constructor
  · intro heeds
    by_contra some
    exact enrolled.not_heeds some heeds
  · rintro rfl
    exact enrolled.heeds

def halfStopped : Host MemoryBus :=
  (unwatched (MemoryBus.empty.failUnsubscribes 1) .root .root .standard).watched
    [.attend (some .recording), .start, .stop]

def halfStoppedArrival : Signal := .arrival "AA:BB:CC:DD:EE:FF" .root

theorem stray_subscription_heard : halfStopped.tracker.isInitialized = false ∧
    (halfStopped.deliver halfStoppedArrival).2.tracker.isConnected "AA:BB:CC:DD:EE:FF" = true ∧
    (halfStopped.deliver halfStoppedArrival).2.channel.notices = [.connected "AA:BB:CC:DD:EE:FF" .root] ∧
    (halfStopped.watched [.start]).tracker.isInitialized = true ∧
    ((halfStopped.watched [.start]).deliver halfStoppedArrival).1 = 2 := by
  decide +kernel

end Host
end GattPeripheral
