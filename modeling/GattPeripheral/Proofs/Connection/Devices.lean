import GattPeripheral.Proofs.Connection.Announcements
import GattPeripheral.Proofs.Connection.Following
import Mathlib.Data.List.Induction

/-!
# The table of connected devices

What a tracker knows after a sequence of signals can be read off the sequence: `tracks_after`. For each
signal, the delegate is told of those disconnections that the table and the signal call for. Main
statement: `Tracker.devices_exact`.
-/

namespace GattPeripheral

def Event.notice? : Event → Option Notice
  | .noticed n => some n
  | _ => none

def Channel.notices {β : Type} (c : Channel β) : List Notice := c.trace.filterMap Event.notice?

def Notice.disconnection? : Notice → Option (String × ObjectPath)
  | .disconnected address path => some (address, path)
  | _ => none

/-- The latest announcement of the address was for this path, which was not withdrawn since. -/
def LastSeen (signals : List Signal) (address : String) (path : ObjectPath) : Prop :=
  ∃ before signal later, signals = before ++ signal :: later ∧ signal.Announces address path ∧
    ∀ s ∈ later, (∀ q, ¬ s.Announces address q) ∧ ¬ s.Withdraws path

def OneAddressEach (signals : List Signal) : Prop :=
  ∀ s ∈ signals, ∀ s' ∈ signals, ∀ p a b, s.Announces a p → s'.Announces b p → a = b

variable {signals : List Signal} {a : String} {p : ObjectPath}

theorem lastSeen_concat (signal : Signal) : LastSeen (signals ++ [signal]) a p ↔
    signal.Announces a p ∨ LastSeen signals a p ∧ (∀ q, ¬ signal.Announces a q) ∧ ¬ signal.Withdraws p := by
  constructor
  · rintro ⟨before, last, later, split, announces, quiet⟩
    rcases List.eq_nil_or_concat' later with rfl | ⟨later', s, rfl⟩
    · obtain ⟨rfl, same⟩ := List.append_inj' split rfl
      cases same
      exact .inl announces
    · rw [← List.cons_append, ← List.append_assoc] at split
      obtain ⟨rfl, same⟩ := List.append_inj' split rfl
      cases same
      rw [List.forall_mem_append] at quiet
      exact .inr ⟨⟨before, last, later', rfl, announces, quiet.1⟩, quiet.2 signal (List.mem_singleton_self signal)⟩
  · rintro (announces | ⟨⟨before, last, later, rfl, announces, quiet⟩, silent⟩)
    · exact ⟨signals, signal, [], rfl, announces, by simp⟩
    · refine ⟨before, last, later ++ [signal], by simp, announces, ?_⟩
      rw [List.forall_mem_append]
      exact ⟨quiet, by simpa using silent⟩

theorem LastSeen.announced (seen : LastSeen signals a p) : ∃ s ∈ signals, s.Announces a p := by
  obtain ⟨before, signal, later, rfl, announces, -⟩ := seen
  exact ⟨signal, by simp, announces⟩

theorem OneAddressEach.sublist {few : List Signal} (each : OneAddressEach signals) (sub : few ⊆ signals) :
    OneAddressEach few := fun s member s' member' => each s (sub member) s' (sub member')

namespace Tracker

def attended : Tracker := { new with delegate := some .recording }

def followAll {β : Type} (signals : List Signal) (t : Tracker) : StateM (Channel β) Tracker :=
  signals.foldlM (fun t signal => t.follow signal) t

def after (signals : List Signal) (t : Tracker) : Tracker := signals.foldl (fun t signal => (t.handle signal).1) t

def told : List Signal → Tracker → List Notice
  | [], _ => []
  | signal :: signals, t => (t.handle signal).2 ++ told signals (t.handle signal).1

theorem handle_delegate (signal : Signal) (t : Tracker) : (t.handle signal).1.delegate = t.delegate := by
  rcases t.handle_cases signal with
    ⟨_, _, -, run⟩ | ⟨_, -, ⟨-, run⟩ | ⟨_, -, run⟩⟩ | ⟨-, -, _, run, -⟩ <;> rw [run]

variable {β : Type} {t : Tracker}

theorem recorded_notices (notices : List Notice) (c : Channel β) :
    (notices.forM fun n => Channel.record (.noticed n)) c = ((), ⟨c.bus, c.trace ++ notices.map .noticed⟩) := by
  induction notices generalizing c with
  | nil =>
      rw [List.map_nil, List.append_nil]
      rfl
  | cons n notices ih =>
      refine (ih ⟨c.bus, c.trace ++ [.noticed n]⟩).trans ?_
      rw [List.append_assoc, List.map_cons, List.singleton_append]

theorem follow_heard (heard : t.delegate = some .recording) (signal : Signal) (c : Channel β) :
    t.follow signal c = ((t.handle signal).1, ⟨c.bus, c.trace ++ (t.handle signal).2.map .noticed⟩) := by
  unfold follow
  simp only [heard, if_true, stateM_bind, recorded_notices]
  rfl

theorem followAll_heard (heard : t.delegate = some .recording) (signals : List Signal) (c : Channel β) :
    t.followAll signals c = (t.after signals, ⟨c.bus, c.trace ++ (told signals t).map .noticed⟩) := by
  induction signals generalizing t c with
  | nil =>
      rw [told, List.map_nil, List.append_nil]
      rfl
  | cons signal signals ih =>
      have heard' : (t.handle signal).1.delegate = some .recording := (t.handle_delegate signal).trans heard
      rw [followAll, List.foldlM_cons, stateM_bind, follow_heard heard, ← followAll, ih heard']
      simp [after, told]

theorem notices_followAll (bus : β) (signals : List Signal) :
    (attended.followAll signals (Channel.ofBus bus)).2.notices = told signals attended := by
  rw [followAll_heard rfl]
  simp [Channel.notices, Channel.ofBus, List.filterMap_map, Function.comp_def, Event.notice?]

theorem after_concat (signals : List Signal) (signal : Signal) (t : Tracker) :
    t.after (signals ++ [signal]) = ((t.after signals).handle signal).1 := by simp [after]

theorem told_concat (signals : List Signal) (signal : Signal) (t : Tracker) :
    told (signals ++ [signal]) t = told signals t ++ ((t.after signals).handle signal).2 := by
  induction signals generalizing t with
  | nil => simp [told, after]
  | cons first signals ih => simp [told, after, ih]

/-! ## What a history of signals leaves -/

theorem apart_of_lastSeen (each : OneAddressEach signals) (exact : ∀ a p, t.Tracks a p ↔ LastSeen signals a p) :
    t.Apart := by
  intro a b p first second
  obtain ⟨s, member, announces⟩ := ((exact a p).mp first).announced
  obtain ⟨s', member', announces'⟩ := ((exact b p).mp second).announced
  exact each s member s' member' p a b announces announces'

theorem tracks_after (each : OneAddressEach signals) (a : String) (p : ObjectPath) :
    (attended.after signals).Tracks a p ↔ LastSeen signals a p := by
  -- The last signal decides; that no two devices share a path comes from the signals before it.
  induction signals using List.reverseRecOn generalizing a p with
  | nil =>
      have none : ¬ LastSeen [] a p := fun ⟨before, signal, later, split, _⟩ => by simp at split
      exact ⟨fun tracks => (by cases tracks), fun seen => absurd seen none⟩
  | append_singleton front signal ih =>
      have each' := each.sublist (List.subset_append_left front [signal])
      rw [after_concat, tracks_handle (apart_of_lastSeen each' (ih each')), lastSeen_concat, ih each']

theorem apart_after (each : OneAddressEach signals) : (attended.after signals).Apart :=
  apart_of_lastSeen each (tracks_after each)

theorem filter_devices (apart : t.Apart) (tracks : t.Tracks a p) {P : String × ObjectPath → Prop} [DecidablePred P]
    (there : ∀ e, P e ↔ e.2 = p) : t.devices.toList.filter P = [(a, p)] := by
  have only : ∀ e ∈ t.devices.toList, decide (P e) = decide (e = (a, p)) := by
    rintro ⟨b, q⟩ member
    rw [decide_eq_decide, there]
    refine ⟨fun same => ?_, congrArg Prod.snd⟩
    cases same
    rw [apart a b q tracks (mem_devices.mp member)]
  rw [List.filter_congr only, List.filter_eq, List.count_eq_one_of_mem t.devices.nodup_toList (mem_devices.mpr tracks)]
  rfl

theorem disconnections_handle (apart : t.Apart) (signal : Signal) :
    (t.handle signal).2.filterMap Notice.disconnection? = t.devices.toList.filter fun e => signal.Withdraws e.2 := by
  have untouched (kept : ∀ a p, t.Tracks a p → ¬ signal.Withdraws p) :
      (t.devices.toList.filter fun e => signal.Withdraws e.2) = [] :=
    List.filter_eq_nil_iff.mpr fun (a, p) member => by simpa using kept a p (mem_devices.mp member)
  rcases t.handle_cases signal with
    ⟨b, q, announces, run⟩ | ⟨q, withdraws, ⟨free, run⟩ | ⟨b, tracks, run⟩⟩ | ⟨-, kept, notices, run, silent⟩
  · rw [run, untouched fun _ _ _ => announces.not_withdraws]
    rfl
  · rw [run, untouched fun a p tracks again => free a (withdraws.unique again ▸ tracks)]
    rfl
  · rw [run, filter_devices apart tracks fun e => ⟨fun again => again.unique withdraws, fun same => same ▸ withdraws⟩]
    rfl
  · rw [run, untouched fun _ p _ => kept p]
    refine List.filterMap_eq_nil_iff.mpr fun n member => ?_
    obtain ⟨_, _, _, _, rfl⟩ := silent n member
    rfl

/-- When no path is announced for two addresses, a tracker lists a device at a path exactly if the device
was last announced there and the path was not withdrawn since. Its delegate hears, signal by signal, that
those listed devices are disconnected whose path is withdrawn. Other signals leave the table as it is. -/
theorem devices_exact (bus : β) (signals : List Signal) (each : OneAddressEach signals) :
    let run (signals : List Signal) := attended.followAll signals (Channel.ofBus bus)
    (∀ a p, (a, p) ∈ (run signals).1.devices.toList ↔ LastSeen signals a p) ∧
      ∀ front signal back, signals = front ++ signal :: back →
        (∃ heard, (run (front ++ [signal])).2.notices = (run front).2.notices ++ heard ∧
          heard.filterMap Notice.disconnection? =
            (run front).1.devices.toList.filter fun e => signal.Withdraws e.2) ∧
        ((∀ a p, ¬ signal.Announces a p) → (∀ p, ¬ signal.Withdraws p) →
          (run (front ++ [signal])).1.devices = (run front).1.devices) := by
  intro run
  have table (signals : List Signal) : (run signals).1 = attended.after signals := by
    rw [show run signals = _ from followAll_heard rfl signals _]
  refine ⟨fun a p => ?_, ?_⟩
  · rw [table, mem_devices]
    exact tracks_after each a p
  · rintro front signal back rfl
    have apart := apart_after (each.sublist (List.subset_append_left front (signal :: back)))
    refine ⟨⟨((attended.after front).handle signal).2, ?_, ?_⟩, fun silent kept => ?_⟩
    · rw [notices_followAll, notices_followAll, told_concat]
    · rw [table]
      exact disconnections_handle apart signal
    · rw [table, table, after_concat]
      rcases (attended.after front).handle_cases signal with
        ⟨a, p, announces, -⟩ | ⟨p, withdraws, -⟩ | ⟨-, -, notices, run, -⟩
      · exact absurd announces (silent a p)
      · exact absurd withdraws (kept p)
      · rw [run]

def movedAway : List Signal :=
  [.arrival "AA:BB:CC:DD:EE:FF" .root, .arrival "AA:BB:CC:DD:EE:FF" (ObjectPath.root.push (Element.service.numbered 0)),
    .departure .root]

theorem devices_exact_moved : OneAddressEach movedAway ∧
    ("AA:BB:CC:DD:EE:FF", ObjectPath.root.push (Element.service.numbered 0)) ∈
      (attended.followAll movedAway (Channel.ofBus ())).1.devices.toList := by
  have each : OneAddressEach movedAway := by
    simp only [OneAddressEach, movedAway, List.forall_mem_cons, Signal.departure, Signal.announces_arrival]
    simp
  have seen : LastSeen movedAway "AA:BB:CC:DD:EE:FF" (ObjectPath.root.push (Element.service.numbered 0)) := by
    refine ⟨[.arrival "AA:BB:CC:DD:EE:FF" .root], _, [.departure .root], rfl, Signal.announces_arrival.mpr ⟨rfl, rfl⟩, ?_⟩
    simp [Signal.departure, ObjectPath.root, ObjectPath.push]
  exact ⟨each, ((devices_exact () movedAway each).1 _ _).mpr seen⟩

end Tracker
end GattPeripheral
