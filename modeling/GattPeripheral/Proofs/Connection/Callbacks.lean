import GattPeripheral.Proofs.Connection.Devices

/-!
# What a delegate is told of one device

Every announcement of a device is told, also of a device that is in the table already, and a disconnection is
told only of a device in the table. So what is told of one device begins with a connection and never has two
disconnections in a row. None of this depends on which of several devices at a path goes when the path is
withdrawn: `Tracker.Run` leaves the choice open, and `Run.never_gone_twice` and `Run.alternates_iff` hold for
every choice. Main statement: `Tracker.told_in_turn`.
-/

namespace GattPeripheral

def Notice.toldOf? (address : String) : Notice → Option Bool
  | .connected a _ => if a = address then some true else none
  | .disconnected a _ => if a = address then some false else none
  | .property .. => none

def Notice.ofDevice (address : String) (notices : List Notice) : List Bool := notices.filterMap (toldOf? address)

theorem Notice.ofDevice_append (address : String) (front back : List Notice) :
    ofDevice address (front ++ back) = ofDevice address front ++ ofDevice address back := List.filterMap_append

namespace Tracker

variable {t : Tracker} {signal : Signal} {a : String}

theorem isConnected_insert (t : Tracker) (a b : String) (p : ObjectPath) :
    isConnected { t with devices := t.devices.insert b p } a = (a = b || t.isConnected a) := by
  rw [isConnected, Dict.contains, Dict.get?_insert_eq]
  by_cases same : a = b <;> simp [same, isConnected, Dict.contains]

theorem isConnected_erase (t : Tracker) (a b : String) :
    isConnected { t with devices := t.devices.erase b } a = (a ≠ b && t.isConnected a) := by
  rw [isConnected, Dict.contains, Dict.get?_erase_eq]
  by_cases same : a = b <;> simp [same, isConnected, Dict.contains]

/-! ## Any choice among the devices at a path -/

/-- What a tracker may make of a signal. Of several devices at a path that is withdrawn, any one may go. -/
inductive Handles (signal : Signal) (t : Tracker) : Tracker → List Notice → Prop
  | connects {b : String} {p : ObjectPath} (announces : signal.Announces b p) :
      Handles signal t { t with devices := t.devices.insert b p } [.connected b p]
  | misses {p : ObjectPath} (withdraws : signal.Withdraws p) (free : ∀ b, ¬ t.Tracks b p) : Handles signal t t []
  | loses {b : String} {p : ObjectPath} (withdraws : signal.Withdraws p) (tracks : t.Tracks b p) :
      Handles signal t { t with devices := t.devices.erase b } [.disconnected b p]
  | passes {notices : List Notice} (silent : ∀ b p, ¬ signal.Announces b p)
      (properties : ∀ n ∈ notices, ∃ path interface name value, n = .property path interface name value) :
      Handles signal t t notices

theorem handles (signal : Signal) (t : Tracker) : t.Handles signal (t.handle signal).1 (t.handle signal).2 := by
  rcases t.handle_cases signal with
    ⟨b, p, announces, run⟩ | ⟨p, withdraws, ⟨free, run⟩ | ⟨b, tracks, run⟩⟩ | ⟨silent, -, notices, run, properties⟩ <;>
    rw [run]
  · exact .connects announces
  · exact .misses withdraws free
  · exact .loses withdraws tracks
  · exact .passes silent properties

theorem Handles.ofDevice {t' : Tracker} {notices : List Notice} (handles : t.Handles signal t' notices) (a : String) :
    (∃ p, signal.Announces a p) ∧ Notice.ofDevice a notices = [true] ∧ t'.isConnected a = true ∨
      (∀ p, ¬ signal.Announces a p) ∧
        (Notice.ofDevice a notices = [] ∧ t'.isConnected a = t.isConnected a ∨
          Notice.ofDevice a notices = [false] ∧ t.isConnected a = true ∧ t'.isConnected a = false) := by
  cases handles with
  | @connects b q announces =>
      by_cases same : b = a
      · subst same
        exact .inl ⟨⟨q, announces⟩, by simp [Notice.ofDevice, Notice.toldOf?], by simp [isConnected_insert]⟩
      · refine .inr ⟨fun p again => same (announces.unique again).1, .inl ⟨?_, ?_⟩⟩
        · simp [Notice.ofDevice, Notice.toldOf?, same]
        · simp [isConnected_insert, Ne.symm same]
  | misses withdraws => exact .inr ⟨fun p => withdraws.not_announces, .inl ⟨rfl, rfl⟩⟩
  | @loses b q withdraws tracks =>
      refine .inr ⟨fun p => withdraws.not_announces, ?_⟩
      by_cases same : b = a
      · subst same
        refine .inr ⟨?_, isConnected_iff.mpr ⟨q, tracks⟩, ?_⟩
        · simp [Notice.ofDevice, Notice.toldOf?]
        · simp [isConnected_erase]
      · refine .inl ⟨?_, ?_⟩
        · simp [Notice.ofDevice, Notice.toldOf?, same]
        · simp [isConnected_erase, Ne.symm same]
  | passes silent properties =>
      refine .inr ⟨silent a, .inl ⟨List.filterMap_eq_nil_iff.mpr fun n member => ?_, rfl⟩⟩
      obtain ⟨_, _, _, _, rfl⟩ := properties n member
      rfl

structure Stage where
  before : Tracker
  signal : Signal
  told : List Notice

inductive Run : Tracker → List Stage → Prop
  | done (t : Tracker) : Run t []
  | next {t t' : Tracker} {signal : Signal} {told : List Notice} {stages : List Stage}
      (handles : t.Handles signal t' told) (rest : Run t' stages) : Run t (⟨t, signal, told⟩ :: stages)

namespace Run

variable {stages : List Stage}

theorem never_gone_twice (run : Run t stages) (a : String) :
    (t.isConnected a :: Notice.ofDevice a (stages.flatMap Stage.told)).IsChain fun before now =>
      before = true ∨ now = true := by
  induction run with
  | done t => exact .singleton _
  | next handles _ rest =>
      rw [List.flatMap_cons, Notice.ofDevice_append]
      rcases handles.ofDevice a with ⟨-, told, now⟩ | ⟨-, ⟨told, now⟩ | ⟨told, known, now⟩⟩ <;>
        rw [told] <;> rw [now] at rest
      · exact List.isChain_cons_cons.mpr ⟨.inr rfl, rest⟩
      · exact rest
      · exact List.isChain_cons_cons.mpr ⟨.inl known, rest⟩

theorem alternates_iff (run : Run t stages) (a : String) :
    (t.isConnected a :: Notice.ofDevice a (stages.flatMap Stage.told)).IsChain (· ≠ ·) ↔
      ∀ s ∈ stages, (∃ p, s.signal.Announces a p) → s.before.isConnected a = false := by
  induction run with
  | done t => exact iff_of_true (.singleton _) (by simp)
  | next handles _ rest =>
      rw [List.flatMap_cons, Notice.ofDevice_append, List.forall_mem_cons]
      rcases handles.ofDevice a with ⟨announces, told, now⟩ | ⟨silent, ⟨told, now⟩ | ⟨told, known, now⟩⟩ <;>
        rw [told] <;> rw [now] at rest
      · rw [List.singleton_append, List.isChain_cons_cons, rest]
        simp [announces]
      · rw [List.nil_append, rest]
        simp [silent]
      · rw [List.singleton_append, List.isChain_cons_cons, rest]
        simp [silent, known]

end Run

/-! ## The tracker's own choice -/

def stages : List Signal → Tracker → List Stage
  | [], _ => []
  | signal :: signals, t => ⟨t, signal, (t.handle signal).2⟩ :: stages signals (t.handle signal).1

theorem run_stages (signals : List Signal) (t : Tracker) : Run t (stages signals t) := by
  induction signals generalizing t with
  | nil => exact .done t
  | cons signal signals ih => exact .next (t.handles signal) (ih _)

theorem told_stages (signals : List Signal) (t : Tracker) : (stages signals t).flatMap Stage.told = told signals t := by
  induction signals generalizing t with
  | nil => rfl
  | cons signal signals ih => rw [stages, List.flatMap_cons, ih, told]

theorem mem_stages_iff {before : Tracker} {notices : List Notice} (signals : List Signal) (t : Tracker) :
    ⟨before, signal, notices⟩ ∈ stages signals t ↔ ∃ front back, signals = front ++ signal :: back ∧
      before = t.after front ∧ notices = (before.handle signal).2 := by
  induction signals generalizing t with
  | nil => simp [stages]
  | cons first signals ih =>
      rw [stages, List.mem_cons, ih]
      constructor
      · rintro (here | ⟨front, back, rfl, later⟩)
        · cases here
          exact ⟨[], signals, rfl, rfl, rfl⟩
        · exact ⟨first :: front, back, rfl, later⟩
      · rintro ⟨front, back, split, later⟩
        cases front with
        | nil =>
            cases split
            obtain ⟨rfl, rfl⟩ := later
            exact .inl rfl
        | cons first front =>
            cases split
            exact .inr ⟨front, back, rfl, later⟩

/-- Of one device a delegate is told first that it is connected, and never twice in a row that it is not.
It is told twice in a row that the device is connected exactly if some signal announces the device while
the tracker has it in its table. All this is so for any choice among several devices at one path, as the tracker's run
is a `Run`. -/
theorem told_in_turn {β : Type} (bus : β) (signals : List Signal) (address : String) :
    let run (signals : List Signal) := attended.followAll signals (Channel.ofBus bus)
    let told := Notice.ofDevice address (run signals).2.notices
    (false :: told).IsChain (fun before now => before = true ∨ now = true) ∧
      ((false :: told).IsChain (· ≠ ·) ↔ ∀ front signal back path, signals = front ++ signal :: back →
        signal.Announces address path → (run front).1.isConnected address = false) := by
  intro run heard
  have same : heard = Notice.ofDevice address ((stages signals attended).flatMap Stage.told) := by
    rw [told_stages, ← notices_followAll bus signals]
  have table (front : List Signal) : (run front).1 = attended.after front := by
    rw [show run front = _ from followAll_heard rfl front _]
  have history := run_stages signals attended
  rw [same]
  refine ⟨history.never_gone_twice address, (history.alternates_iff address).trans ?_⟩
  simp only [table]
  constructor
  · intro unknown front signal back path split announces
    exact unknown _ ((mem_stages_iff signals attended).mpr ⟨front, back, split, rfl, rfl⟩) ⟨path, announces⟩
  · rintro unknown ⟨before, signal, notices⟩ member ⟨path, announces⟩
    obtain ⟨front, back, split, rfl, -⟩ := (mem_stages_iff signals attended).mp member
    exact unknown front signal back path split announces

def repeatedArrival : List Signal :=
  [.arrival "AA:BB:CC:DD:EE:FF" .root, .arrival "AA:BB:CC:DD:EE:FF" .root, .departure .root]

theorem connected_twice_in_a_row : OneAddressEach repeatedArrival ∧
    ¬ (false :: Notice.ofDevice "AA:BB:CC:DD:EE:FF"
      (attended.followAll repeatedArrival (Channel.ofBus MemoryBus.empty)).2.notices).IsChain (· ≠ ·) := by
  refine ⟨?_, by decide +kernel⟩
  simp only [OneAddressEach, repeatedArrival, List.forall_mem_cons, Signal.departure, Signal.announces_arrival]
  simp

end Tracker
end GattPeripheral
