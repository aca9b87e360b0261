import GattPeripheral.Bus.Channel

/-!
The table of connected devices.

A device counts as connected from the announcement of its object with a true `Connected` property and
an address until that object is withdrawn. Property changes are passed on to the delegate and change
nothing here.
-/

namespace GattPeripheral

inductive Delegate where
  | recording
  /-- Is told, and leaves no trace of it. -/
  | silent
  deriving DecidableEq, Repr

structure Tracker where
  /-- The object path of each connected device, by address. -/
  devices : Dict String ObjectPath
  delegate : Option Delegate
  /-- The subscriptions held while initialized. -/
  subscriptions : Option (List Nat)

namespace Tracker

def new : Tracker where
  devices := .empty
  delegate := none
  subscriptions := none

def isInitialized (t : Tracker) : Bool := t.subscriptions.isSome

def isConnected (t : Tracker) (address : String) : Bool := t.devices.contains address

/-- The connected device that an object announces, by address. -/
def announced? (interfaces : InterfaceMap) : Option String := do
  let device ← interfaces.get? Names.device
  let connected ← (device.get? Names.connected).bind Property.asBool?
  if connected then (device.get? Names.address).bind Property.asStr? else none

/-- Any address will do where there are several at the path; this is the lowest of them. -/
def addressAt? (t : Tracker) (path : ObjectPath) : Option String :=
  (t.devices.toList.find? (·.2 == path)).map Prod.fst

/-- Processes one signal: the new table, and what a delegate is told. -/
def handle (signal : Signal) (t : Tracker) : Tracker × List Notice :=
  match signal with
  | .added path interfaces =>
      match announced? interfaces with
      | none => (t, [])
      | some address =>
          ({ t with devices := t.devices.insert address path }, [.connected address path])
  | .removed path interfaces =>
      if interfaces.contains Names.device then
        match t.addressAt? path with
        | none => (t, [])
        | some address =>
            ({ t with devices := t.devices.erase address }, [.disconnected address path])
      else (t, [])
  | .changed path interface changed _ =>
      if interface = Names.device then
        (t, changed.toList.map fun e => .property path interface e.1 e.2)
      else (t, [])

def rules : List SignalRule := [.added, .removed, .changed Names.device]

variable {β : Type} [Transport β]

def follow (signal : Signal) (t : Tracker) : StateM (Channel β) Tracker := do
  let (t', notices) := t.handle signal
  if t.delegate = some .recording then notices.forM fun n => Channel.record (.noticed n)
  return t'

def unsubscribeAll : List Nat → StateM (Channel β) Unit
  | [] => pure ()
  | id :: ids => do
      let _ ← Channel.unsubscribe id
      unsubscribeAll ids

/-- Subscribes to each rule in turn; a refusal drops the subscriptions `held` so far. -/
def subscribeAll (held : List Nat) : List SignalRule → StateM (Channel β) (Except GattError (List Nat))
  | [] => return .ok held
  | rule :: rules => do
      match ← Channel.subscribe rule with
      | .ok id => subscribeAll (held ++ [id]) rules
      | .error e =>
          unsubscribeAll held
          return .error (.bus e)

/-- Subscribes to the signals; an initialized tracker stays as it is. -/
def start (t : Tracker) : StateM (Channel β) (Tracker × Except GattError Unit) := do
  if t.isInitialized then return (t, .ok ())
  match ← subscribeAll [] rules with
  | .ok ids => return ({ t with subscriptions := some ids }, .ok ())
  | .error e => return (t, .error e)

/-- Drops the subscriptions and forgets every device; does nothing unless initialized. -/
def stop (t : Tracker) : StateM (Channel β) Tracker := do
  match t.subscriptions with
  | none => return t
  | some ids =>
      unsubscribeAll ids
      return { t with subscriptions := none, devices := .empty }

end Tracker
end GattPeripheral
