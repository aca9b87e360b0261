import GattPeripheral.Bus.Memory
import GattPeripheral.Wire.Value

/-!
A bus over a link to a daemon.

Exported objects form a tree on the near side: an object exists at a path together with all objects
above it, carries interfaces by name, and disappears with everything below it when its last interface
is removed. The root has no object above it to disappear from: the link breaks instead. Requests travel
to the daemon and fail once the link is closed; exporting and removing are work of the near side
alone.
-/

namespace GattPeripheral.Wire

structure Link where
  daemon : MemoryBus
  /-- Values of the daemon's properties that have no property form. -/
  raw : List (PropertyKey × Value)
  /-- The exported objects, each with its interfaces. -/
  objects : Dict ObjectPath (Dict String NodeRef)
  subscriptions : List (Nat × SignalRule)
  nextSubscription : Nat
  closed : Bool
  /-- Whether the root was to disappear, which it cannot. -/
  broken : Bool
  /-- Property changes that arrived at the far end. -/
  arrived : List Change

namespace Link

def new (daemon : MemoryBus) : Link where
  daemon := daemon
  raw := []
  objects := Dict.empty.insert .root .empty
  subscriptions := []
  nextSubscription := 0
  closed := false
  broken := false
  arrived := []

instance : Inhabited Link := ⟨new .empty⟩

def close (l : Link) : Link := { l with closed := true }

def putRaw (key : PropertyKey) (value : Value) (l : Link) : Link :=
  { l with raw := (key, value) :: l.raw.filter (·.1 != key) }

/-! Objects on the near side -/

def lineage (path : ObjectPath) : List ObjectPath :=
  (List.range (path.elements.length + 1)).map fun n => ⟨path.elements.take n⟩

def ensureObject (objects : Dict ObjectPath (Dict String NodeRef)) (path : ObjectPath) :
    Dict ObjectPath (Dict String NodeRef) :=
  if objects.contains path then objects else objects.insert path .empty

/-- An interface that an object already carries stays as it is. -/
def exportNode (path : ObjectPath) (node : NodeRef) (l : Link) : Link :=
  let objects := (lineage path).foldl ensureObject l.objects
  let interfaces := (objects.get? path).getD .empty
  let name := node.kind.interface
  if interfaces.contains name then { l with objects := objects }
  else { l with objects := objects.insert path (interfaces.insert name node) }

def isBare (interfaces : Dict String NodeRef) : Bool :=
  interfaces.keys.all (· == Names.objectManager)

def dropSubtree (path : ObjectPath) (objects : Dict ObjectPath (Dict String NodeRef)) :
    Dict ObjectPath (Dict String NodeRef) :=
  (objects.keys.filter fun p => p == path || p.isDescendantOf path).foldl Dict.erase objects

def unexportNode (path : ObjectPath) (kind : ObjectKind) (l : Link) : Link :=
  match l.objects.get? path with
  | none => l
  | some interfaces =>
      if interfaces.contains kind.interface then
        let left := interfaces.erase kind.interface
        if !isBare left then { l with objects := l.objects.insert path left }
        else if path = .root then
          { l with objects := l.objects.insert path left, broken := true }
        else { l with objects := dropSubtree path l.objects }
      else l

/-! Requests -/

/-- A request that needs the link. -/
def overLink {α : Type} (request : Request Link α) : Request Link α := fun l =>
  if l.closed then (.error .notConnected, l) else request l

/-- A reply whose texts cannot all be read. -/
def unreadableReply : BusError :=
  .protocol
    "invalid value: character `\x00`, expected D-Bus string type must not contain interior null bytes"

def onDaemon {α : Type} (request : Request MemoryBus α) : Request Link α := fun l =>
  let (outcome, daemon) := request l.daemon
  (outcome, { l with daemon := daemon })

/-- An error as it arrives: a text that cannot be read is left out. -/
def arrivingError : BusError → BusError
  | .remote name text => .remote name (if isReadable text then text else "")
  | e => e

/-- A call that is never answered: the caller's own time runs out. -/
def unanswered (timeout : Duration) (received : Bool) : CallOutcome :=
  ⟨.error (.timeout timeout), received, timeout⟩

/-- The daemon does not see a call that it cannot read. -/
def call (call : ManagerCall) (timeout : Duration) (l : Link) : CallOutcome × Link :=
  if l.closed then (.atOnce (.error .notConnected), l)
  else if (textsIn (encodeMap (call.options?.getD .empty))).all isReadable then
    match onDaemon (MemoryBus.call call) l with
    | (.error (.timeout _), l) => (unanswered timeout true, l)
    | (result, l) => (⟨result.mapError arrivingError, true, .zero⟩, l)
  else (unanswered timeout false, l)

def unsupported (interface name : String) : BusError :=
  .protocol (interface ++ "." ++ name ++ " has an unsupported type")

/-- The value of a property as it arrives, which has to have a property form. -/
def arriving (interface name : String) (value : Value) : Except BusError Property :=
  if value.texts.all isReadable then
    match value.toProperty? with
    | some p => .ok p
    | none => .error (unsupported interface name)
  else .error unreadableReply

def getProperty (path : ObjectPath) (interface name : String) : Request Link Property :=
  overLink fun l =>
    match l.raw.lookup ⟨path, interface, name⟩ with
    | some value =>
        if l.daemon.refusedProperties.contains name then (.error MemoryBus.propertyRefused, l)
        else (arriving interface name value, l)
    | none =>
        let (outcome, l) := onDaemon (MemoryBus.getProperty path interface name) l
        (outcome.bind fun p => arriving interface name (.ofProperty p), l)

def setProperty (path : ObjectPath) (interface name : String) (value : Property) :
    Request Link Unit :=
  overLink (onDaemon (MemoryBus.setProperty path interface name value))

/-- The daemon's objects with the values that only exist on the wire among their properties. -/
def daemonObjects (l : Link) : Dict ObjectPath (Dict String ValueMap) :=
  l.raw.reverse.foldl
    (fun objects e =>
      objects.update e.1.path .empty fun interfaces =>
        interfaces.update e.1.interface .empty fun values => values.insert e.1.name e.2)
    (l.daemon.managed.mapValues encodeInterfaces)

def managedObjects : Request Link ManagedObjects :=
  overLink fun l =>
    let objects := l.daemonObjects
    if objects.toList.all fun e => (textsInInterfaces e.2).all isReadable then
      (.ok (objects.mapValues fun interfaces => interfaces.mapValues decodeMap), l)
    else (.error unreadableReply, l)

/-- A change that the far end cannot read does not arrive there. -/
def emit (path : ObjectPath) (interface : String) (changed : PropertyMap) (l : Link) : Link :=
  if l.closed || !(interface :: textsIn (encodeMap changed)).all isReadable then l
  else { l with arrived := l.arrived ++ [⟨path, interface, changed⟩] }

def subscribe (rule : SignalRule) : Request Link Nat :=
  overLink fun l =>
    (.ok l.nextSubscription,
      { l with
        subscriptions := l.subscriptions ++ [(l.nextSubscription, rule)]
        nextSubscription := l.nextSubscription + 1 })

def unsubscribe (subscription : Nat) (l : Link) : Link :=
  { l with subscriptions := l.subscriptions.filter (·.1 != subscription) }

def receivers (signal : GattPeripheral.Signal) (l : Link) : Nat :=
  if l.closed then 0 else l.subscriptions.countP (signal.isMatch ·.2)

instance : Transport Link where
  exportNode path node l := (.ok (), l.exportNode path node)
  unexportNode path kind l := (.ok (), l.unexportNode path kind)
  travels l := !l.closed
  call _ call timeout l := l.call call timeout
  getProperty := getProperty
  setProperty := setProperty
  managedObjects := managedObjects
  emit := emit
  subscribe := subscribe
  unsubscribe subscription l := (.ok (), l.unsubscribe subscription)
  receivers := receivers
  isBroken l := l.broken

end Link
end GattPeripheral.Wire
