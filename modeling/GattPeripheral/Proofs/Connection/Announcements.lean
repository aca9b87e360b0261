import GattPeripheral.Connection.Tracker
import GattPeripheral.Proofs.Dict

/-!
# Announcements and withdrawals

Two kinds of signals matter to the table of connected devices: those that announce a connected device and
those that withdraw a path. `Tracker.handle_cases` says what a signal can do. Main statement:
`Tracker.tracks_handle`.
-/

namespace GattPeripheral

namespace Signal

def Announces (signal : Signal) (address : String) (path : ObjectPath) : Prop :=
  ∃ interfaces device, signal = .added path interfaces ∧ interfaces.get? Names.device = some device ∧
    device.get? Names.connected = some (.bool true) ∧ device.get? Names.address = some (.str address)

def Withdraws (signal : Signal) (path : ObjectPath) : Prop :=
  ∃ interfaces, signal = .removed path interfaces ∧ Names.device ∈ interfaces

variable {signal : Signal} {a b : String} {p q here : ObjectPath}

theorem announced?_eq_some_iff {interfaces : InterfaceMap} : Tracker.announced? interfaces = some a ↔
    ∃ device, interfaces.get? Names.device = some device ∧ device.get? Names.connected = some (.bool true) ∧
      device.get? Names.address = some (.str a) := by
  have asBool (v : Property) : v.asBool? = some true ↔ v = .bool true := by
    cases v <;> simp [Property.asBool?]
  have asStr (v : Property) : v.asStr? = some a ↔ v = .str a := by
    cases v <;> simp [Property.asStr?]
  simp only [Tracker.announced?, Option.bind_eq_bind, Option.bind_eq_some_iff]
  constructor
  · rintro ⟨device, found, connected, ⟨value, shown, typed⟩, rest⟩
    cases connected with
    | false => cases rest
    | true =>
        rw [if_pos rfl, Option.bind_eq_some_iff] at rest
        obtain ⟨text, there, typed'⟩ := rest
        exact ⟨device, found, (asBool value).mp typed ▸ shown, (asStr text).mp typed' ▸ there⟩
  · rintro ⟨device, found, connected, address⟩
    exact ⟨device, found, true, ⟨.bool true, connected, rfl⟩, by rw [if_pos rfl, address]; rfl⟩

@[simp] theorem announces_added {interfaces : InterfaceMap} :
    (added here interfaces).Announces a p ↔ here = p ∧ Tracker.announced? interfaces = some a := by
  rw [announced?_eq_some_iff]
  constructor
  · rintro ⟨_, device, same, there⟩
    cases same
    exact ⟨rfl, device, there⟩
  · rintro ⟨rfl, device, there⟩
    exact ⟨interfaces, device, rfl, there⟩

@[simp] theorem not_announces_removed {interfaces : List String} : ¬ (removed here interfaces).Announces a p :=
  fun ⟨_, _, other, _⟩ => by cases other

@[simp] theorem not_announces_changed {interface : String} {values : PropertyMap} {invalidated : List String} :
    ¬ (changed here interface values invalidated).Announces a p := fun ⟨_, _, other, _⟩ => by cases other

@[simp] theorem withdraws_removed {interfaces : List String} :
    (removed here interfaces).Withdraws p ↔ here = p ∧ Names.device ∈ interfaces := by
  constructor
  · rintro ⟨_, same, listed⟩
    cases same
    exact ⟨rfl, listed⟩
  · rintro ⟨rfl, listed⟩
    exact ⟨interfaces, rfl, listed⟩

@[simp] theorem not_withdraws_added {interfaces : InterfaceMap} : ¬ (added here interfaces).Withdraws p :=
  fun ⟨_, other, _⟩ => by cases other

@[simp] theorem not_withdraws_changed {interface : String} {values : PropertyMap} {invalidated : List String} :
    ¬ (changed here interface values invalidated).Withdraws p := fun ⟨_, other, _⟩ => by cases other

instance (signal : Signal) (path : ObjectPath) : Decidable (signal.Withdraws path) :=
  match signal with
  | .removed _ _ => decidable_of_iff _ withdraws_removed.symm
  | .added _ _ => isFalse not_withdraws_added
  | .changed _ _ _ _ => isFalse not_withdraws_changed

theorem Announces.unique (first : signal.Announces a p) (second : signal.Announces b q) : a = b ∧ p = q := by
  cases signal with
  | added here interfaces =>
      rw [announces_added] at first second
      exact ⟨Option.some.inj (first.2.symm.trans second.2), first.1.symm.trans second.1⟩
  | _ => simp at first

theorem Announces.not_withdraws (announces : signal.Announces a p) : ¬ signal.Withdraws q := by
  cases signal with
  | added here interfaces => exact not_withdraws_added
  | _ => simp at announces

theorem Withdraws.unique (first : signal.Withdraws p) (second : signal.Withdraws q) : p = q := by
  cases signal with
  | removed here interfaces => exact (withdraws_removed.mp first).1.symm.trans (withdraws_removed.mp second).1
  | _ => simp at first

theorem Withdraws.not_announces (withdraws : signal.Withdraws p) : ¬ signal.Announces a q :=
  fun announces => announces.not_withdraws withdraws

def arrival (address : String) (path : ObjectPath) : Signal :=
  .added path (Dict.empty.insert Names.device
    ((PropertyMap.single Names.connected (.bool true)).insert Names.address (.str address)))

theorem announces_arrival : (arrival a p).Announces b q ↔ a = b ∧ p = q := by
  have connected_ne : Names.connected ≠ Names.address := by decide +kernel
  have itself : (arrival a p).Announces a p := by
    refine ⟨_, _, rfl, by rw [Dict.get?_insert_eq, if_pos rfl], ?_, by rw [Dict.get?_insert_eq, if_pos rfl]⟩
    rw [Dict.get?_insert_eq, if_neg connected_ne, PropertyMap.single, Dict.get?_insert_eq, if_pos rfl]
  constructor
  · exact itself.unique
  · rintro ⟨rfl, rfl⟩
    exact itself

def departure (path : ObjectPath) : Signal := .removed path [Names.device]

end Signal

namespace Tracker

def Tracks (t : Tracker) (address : String) (path : ObjectPath) : Prop := t.devices.get? address = some path

variable {t : Tracker} {signal : Signal} {a b : String} {p q : ObjectPath}

theorem mem_devices : (a, p) ∈ t.devices.toList ↔ t.Tracks a p := Dict.mem_toList_iff

theorem isConnected_iff : t.isConnected a = true ↔ ∃ p, t.Tracks a p := Option.isSome_iff_exists

theorem addressAt?_eq_none_iff : t.addressAt? p = none ↔ ∀ a, ¬ t.Tracks a p := by
  simp only [addressAt?, Option.map_eq_none_iff, List.find?_eq_none, Prod.forall, mem_devices, beq_iff_eq]
  exact ⟨fun none a tracks => none a p tracks rfl, fun none a q tracks same => none a (same ▸ tracks)⟩

theorem tracks_of_addressAt? (found : t.addressAt? p = some a) : t.Tracks a p := by
  obtain ⟨⟨a', q⟩, entry, rfl⟩ := Option.map_eq_some_iff.mp found
  have here : q = p := by simpa using List.find?_some entry
  exact here ▸ mem_devices.mp (List.mem_of_find?_eq_some entry)

theorem tracks_insert :
    Tracks { t with devices := t.devices.insert b q } a p ↔ a = b ∧ q = p ∨ a ≠ b ∧ t.Tracks a p := by
  rw [Tracks, Dict.get?_insert_eq]
  by_cases same : a = b <;> simp [same, Tracks]

theorem tracks_erase : Tracks { t with devices := t.devices.erase b } a p ↔ a ≠ b ∧ t.Tracks a p := by
  rw [Tracks, Dict.get?_erase_eq]
  by_cases same : a = b <;> simp [same, Tracks]

theorem handle_cases (signal : Signal) (t : Tracker) :
    (∃ a p, signal.Announces a p ∧
        t.handle signal = ({ t with devices := t.devices.insert a p }, [.connected a p])) ∨
      (∃ p, signal.Withdraws p ∧
        ((∀ a, ¬ t.Tracks a p) ∧ t.handle signal = (t, []) ∨
          ∃ a, t.Tracks a p ∧
            t.handle signal = ({ t with devices := t.devices.erase a }, [.disconnected a p]))) ∨
      (∀ a p, ¬ signal.Announces a p) ∧ (∀ p, ¬ signal.Withdraws p) ∧
        ∃ notices, t.handle signal = (t, notices) ∧
          ∀ n ∈ notices, ∃ path interface name value, n = .property path interface name value := by
  cases signal with
  | added path interfaces =>
      cases shown : announced? interfaces with
      | none => exact .inr (.inr ⟨by simp [shown], by simp, [], by simp [handle, shown], by simp⟩)
      | some a => exact .inl ⟨a, path, by simp [shown], by simp only [handle, shown]⟩
  | removed path interfaces =>
      by_cases listed : Names.device ∈ interfaces
      · refine .inr (.inl ⟨path, by simp [listed], ?_⟩)
        simp only [handle, List.contains_iff_mem, listed, if_true]
        cases found : t.addressAt? path with
        | none => exact .inl ⟨addressAt?_eq_none_iff.mp found, rfl⟩
        | some a => exact .inr ⟨a, tracks_of_addressAt? found, rfl⟩
      · exact .inr (.inr ⟨by simp, by simp [listed], [], by simp [handle, listed], by simp⟩)
  | changed path interface changed invalidated =>
      refine .inr (.inr ⟨by simp, by simp, ?_⟩)
      by_cases device : interface = Names.device
      · let notices : List Notice := changed.toList.map fun e => .property path interface e.1 e.2
        refine ⟨notices, by simp [handle, device, notices], fun n member => ?_⟩
        obtain ⟨⟨name, value⟩, -, rfl⟩ := List.mem_map.mp member
        exact ⟨path, interface, name, value, rfl⟩
      · exact ⟨[], by simp [handle, device], by simp⟩

theorem handle_announces (t : Tracker) (announces : signal.Announces a p) : (t.handle signal).1.Tracks a p := by
  rcases t.handle_cases signal with ⟨b, q, same, run⟩ | ⟨q, withdraws, -⟩ | ⟨silent, -⟩
  · obtain ⟨rfl, rfl⟩ := announces.unique same
    rw [run, tracks_insert]
    exact .inl ⟨rfl, rfl⟩
  · exact absurd announces withdraws.not_announces
  · exact absurd announces (silent a p)

def Apart (t : Tracker) : Prop := ∀ a b p, t.Tracks a p → t.Tracks b p → a = b

theorem tracks_handle (apart : t.Apart) : (t.handle signal).1.Tracks a p ↔
    signal.Announces a p ∨ t.Tracks a p ∧ (∀ q, ¬ signal.Announces a q) ∧ ¬ signal.Withdraws p := by
  rcases t.handle_cases signal with
    ⟨b, q, announces, run⟩ | ⟨q, withdraws, ⟨free, run⟩ | ⟨b, tracks, run⟩⟩ | ⟨silent, kept, notices, run, -⟩
  · rw [run, tracks_insert]
    by_cases same : a = b
    · subst same
      constructor
      · rintro (⟨-, rfl⟩ | ⟨other, -⟩)
        · exact .inl announces
        · exact absurd rfl other
      · rintro (again | ⟨-, none, -⟩)
        · exact .inl ⟨rfl, (announces.unique again).2⟩
        · exact absurd announces (none q)
    · have other (q' : ObjectPath) : ¬ signal.Announces a q' := fun again => same (again.unique announces).1
      simp [same, other, announces.not_withdraws]
  · rw [run]
    have kept (tracks : t.Tracks a p) : ¬ signal.Withdraws p := fun again =>
      free a (withdraws.unique again ▸ tracks)
    simp only [withdraws.not_announces, not_false_eq_true, implies_true, true_and, false_or]
    exact ⟨fun tracks => ⟨tracks, kept tracks⟩, And.left⟩
  · rw [run, tracks_erase]
    simp only [withdraws.not_announces, not_false_eq_true, implies_true, true_and, false_or]
    constructor
    · rintro ⟨other, here⟩
      exact ⟨here, fun again => other (apart a b p here (withdraws.unique again ▸ tracks))⟩
    · rintro ⟨here, kept⟩
      refine ⟨fun same => ?_, here⟩
      subst same
      cases here.symm.trans tracks
      exact kept withdraws
  · rw [run]
    simp [silent, kept]

end Tracker
end GattPeripheral
