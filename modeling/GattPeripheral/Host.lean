import GattPeripheral.Advertising.Advertisement
import GattPeripheral.Connection.Tracker
import GattPeripheral.Routine
import GattPeripheral.Tree.Publication
import GattPeripheral.Tree.Values

/-!
A host: one application, its advertisements, a tracker and a peripheral on one adapter of one bus.

Nodes live as long as something owns them: the application owns the services of its tree, parents own
their children, the peripheral owns application and advertisement, and a holder outside owns the node
it holds.
-/

namespace GattPeripheral

structure RegistrationOptions where
  timeout : Duration
  unregisterTimeout : Duration
  /-- The wait between dropping a stale registration and trying again. -/
  retryDelay : Duration
  /-- Whether the fallback steps are tried when an advertisement is refused. -/
  enableFallbacks : Bool
  deriving DecidableEq

namespace RegistrationOptions

def standard : RegistrationOptions where
  timeout := .ofSeconds 10
  unregisterTimeout := .ofSeconds 5
  retryDelay := .ofMillis 500
  enableFallbacks := true

def shown (o : RegistrationOptions) : String :=
  Text.shownRecord "RegistrationOptions"
    [("timeout", o.timeout.text), ("unregister_timeout", o.unregisterTimeout.text),
      ("retry_delay", o.retryDelay.text), ("enable_fallbacks", Text.shownBool o.enableFallbacks)]

end RegistrationOptions

/-- How a helper program ends by itself. -/
inductive Ending where
  | exit (code : Nat)
  | signal (number : Nat) (name : String)
  deriving DecidableEq, Repr

def Ending.outcome (program : String) : Ending → Except GattError Unit
  | exit 0 => .ok ()
  | exit code => .error (.failed (program ++ " exited with exit status: " ++ toString code))
  | signal number name =>
      .error (.failed (program ++ " exited with signal: " ++ toString number ++ " (" ++ name ++ ")"))

structure Invocation where
  arguments : List String
  input : String
  deriving DecidableEq, Repr

inductive PeripheralState where
  | stopped
  | starting
  | running
  | stopping
  deriving DecidableEq, Repr

def PeripheralState.name : PeripheralState → String
  | stopped => "Stopped"
  | starting => "Starting"
  | running => "Running"
  | stopping => "Stopping"

structure Peripheral where
  /-- The key of the advertisement that goes with the application. -/
  advertisement : Option Nat
  /-- The name given to the adapter. -/
  adapterName : Option String
  state : PeripheralState
  mode : Option AdvertisingMode

def Peripheral.new (advertisement : Option Nat) (adapterName : Option String) : Peripheral :=
  ⟨advertisement, adapterName, .stopped, none⟩

structure Host (β : Type) where
  channel : Channel β
  clock : Duration
  adapter : ObjectPath
  options : RegistrationOptions
  application : Application
  advertisements : List Advertisement
  tracker : Tracker
  peripheral : Option Peripheral
  /-- The helper programs that exist, with the way each ends. -/
  programs : Dict String Ending
  /-- The last run of each helper program. -/
  runs : Dict String Invocation
  holders : List NodeRef

namespace Host

variable {β α : Type}

def new (bus : β) (root adapter : ObjectPath) (options : RegistrationOptions) : Host β where
  channel := ⟨bus, []⟩
  clock := .zero
  adapter := adapter
  options := options
  application := .new root
  advertisements := []
  tracker := .new
  peripheral := none
  programs := .empty
  runs := .empty
  holders := [.application]

instance : Clocked (Host β) where
  advance span h := { h with clock := h.clock + span }
  now h := h.clock

/-! Lifetimes -/

def hold (node : NodeRef) (h : Host β) : Host β := { h with holders := node :: h.holders }

/-- Gives up one hold of a node. -/
def letGo (node : NodeRef) (h : Host β) : Host β := { h with holders := h.holders.erase node }

def applicationAlive (h : Host β) : Bool :=
  h.holders.contains .application || h.peripheral.isSome

/-- The service belongs to an application that is alive. -/
def inTree (h : Host β) (key : Nat) : Bool :=
  h.applicationAlive && h.application.services.any (·.key == key)

def isAlive (h : Host β) (node : NodeRef) : Bool :=
  h.holders.contains node ||
    match node with
    | .application => h.peripheral.isSome
    | .service key => h.inTree key
    | .characteristic key _ => h.holders.contains (.service key) || h.inTree key
    | .descriptor key position _ =>
        h.holders.contains (.characteristic key position) ||
          h.holders.contains (.service key) || h.inTree key
    | .advertisement key => h.peripheral.any (·.advertisement == some key)

/-! Working on one part -/

def onChannel (act : StateM (Channel β) α) (h : Host β) : α × Host β :=
  let (result, channel) := act h.channel
  (result, { h with channel := channel })

def onApplication (act : Application → StateM (Channel β) (Application × α)) (h : Host β) :
    α × Host β :=
  let ((application, result), channel) := act h.application h.channel
  (result, { h with application := application, channel := channel })

def editTree (edit : Application → α × Application) (h : Host β) : α × Host β :=
  let (result, application) := edit h.application
  (result, { h with application := application })

/-- Works on a characteristic; `none` if there is none at that place. -/
def onCharacteristic (key position : Nat) (work : Work Characteristic β α) (h : Host β) :
    Option α × Host β :=
  match h.application.characteristic? key position with
  | none => (none, h)
  | some c =>
      let (result, active) := work ⟨c, h.channel⟩
      (some result,
        { h with
          application := h.application.modifyCharacteristic key position fun _ => active.node
          channel := active.channel })

def onAdvertisement (key : Nat) (act : Advertisement → StateM (Channel β) (Advertisement × α))
    (h : Host β) : Option α × Host β :=
  match h.advertisements[key]? with
  | none => (none, h)
  | some a =>
      let ((a, result), channel) := act a h.channel
      (some result,
        { h with advertisements := h.advertisements.set key a, channel := channel })

def onTracker (act : Tracker → StateM (Channel β) (Tracker × α)) (h : Host β) : α × Host β :=
  let ((tracker, result), channel) := act h.tracker h.channel
  (result, { h with tracker := tracker, channel := channel })

def addAdvertisement (a : Advertisement) (h : Host β) : Nat × Host β :=
  (h.advertisements.length, { h with advertisements := h.advertisements ++ [a] })

/-! Signals -/

variable [Transport β]

def followSignal (signal : Signal) (h : Host β) : Host β :=
  (h.onTracker fun t => do return (← t.follow signal, ())).2

/-- The tracker receives the signal once for each subscription that matches it. -/
def deliver (signal : Signal) (h : Host β) : Nat × Host β :=
  let count := Transport.receivers signal h.channel.bus
  (count, count.repeat (followSignal signal) h)

/-! Values -/

/-- Stores into a descriptor know whether their characteristic is alive. -/
def owned (h : Host β) (key position : Nat) : Bool := h.isAlive (.characteristic key position)

/-! Diagnostic forms -/

def shownContext (h : Host β) : String :=
  Text.shownRecord "BusContext"
    [("adapter_path", h.adapter.shown), ("options", h.options.shown)]

def shownAdapter (path : ObjectPath) : String := Text.shownRecord "Adapter" [("path", path.shown)]

def shownPeripheral (h : Host β) (p : Peripheral) : String :=
  Text.shownRecord "Peripheral"
    [("application", h.application.path.shown), ("state", p.state.name),
      ("mode", Text.shownOption (p.mode.map AdvertisingMode.shown))]

/-- An exported object, of which the bus knows the kind and whether it is alive. -/
def shownExport (h : Host β) (node : NodeRef) : String :=
  Text.shownRecord "ExportedObject"
    [("kind", node.kind.label), ("alive", Text.shownBool (h.isAlive node))]

end Host
end GattPeripheral
