import GattPeripheral.Host.Request

/-!
The properties of an adapter, and finding one.
-/

namespace GattPeripheral.Adapter

variable {β : Type} [Transport β]

/-- The time an adapter takes to settle after it was powered on. -/
def settleTime : Duration := .ofMillis 200

def get (path : ObjectPath) (name : String) : Routine (Host β) (Except GattError Property) :=
  return (← Host.getProperty path Names.adapter name).mapError .bus

def set (path : ObjectPath) (name : String) (value : Property) :
    Routine (Host β) (Except GattError Unit) :=
  return (← Host.setProperty path Names.adapter name value).mapError .bus

/-- The value of a property that has to be of one type. -/
def typed {α : Type} (name expected : String) (view : Property → Option α) :
    Except GattError Property → Except GattError α
  | .error e => .error e
  | .ok value =>
      match view value with
      | some a => .ok a
      | none => .error (.failed ("adapter property " ++ name ++ " is not " ++ expected))

def getBool (path : ObjectPath) (name : String) : Routine (Host β) (Except GattError Bool) :=
  return typed name "a boolean" Property.asBool? (← get path name)

def getText (path : ObjectPath) (name : String) : Routine (Host β) (Except GattError String) :=
  return typed name "a string" Property.asStr? (← get path name)

def isPowered (path : ObjectPath) : Routine (Host β) (Except GattError Bool) :=
  getBool path Names.powered

def setPowered (path : ObjectPath) (value : Bool) : Routine (Host β) (Except GattError Unit) :=
  set path Names.powered (.bool value)

def isDiscoverable (path : ObjectPath) : Routine (Host β) (Except GattError Bool) :=
  getBool path Names.discoverable

def setDiscoverable (path : ObjectPath) (value : Bool) :
    Routine (Host β) (Except GattError Unit) :=
  set path Names.discoverable (.bool value)

/-- Seconds for which the adapter stays discoverable, 0 for ever. -/
def setDiscoverableTimeout (path : ObjectPath) (seconds : UInt32) :
    Routine (Host β) (Except GattError Unit) :=
  set path Names.discoverableTimeout (.u32 seconds)

def friendlyName (path : ObjectPath) : Routine (Host β) (Except GattError String) :=
  getText path Names.friendlyName

def setFriendlyName (path : ObjectPath) (value : String) : Routine (Host β) (Except GattError Unit) :=
  set path Names.friendlyName (.str value)

def address (path : ObjectPath) : Routine (Host β) (Except GattError String) :=
  getText path Names.address

/-- Powers the adapter on unless it is, and lets it settle. -/
def powerOn (path : ObjectPath) : Routine (Host β) (Except GattError Unit) := do
  match ← isPowered path with
  | .error e => return .error e
  | .ok true => return .ok ()
  | .ok false =>
      match ← setPowered path true with
      | .error e => return .error e
      | .ok () =>
          Routine.wait settleTime
          return .ok ()

/-- The adapter with this name among the daemon's objects, or else the first adapter. -/
def choose? (name : String) (objects : ManagedObjects) : Option ObjectPath :=
  let adapters := (objects.toList.filter (·.2.contains Names.adapter)).map Prod.fst
  (adapters.find? (·.name == name)) <|> adapters.head?

def locate (name : String) : Routine (Host β) (Except GattError ObjectPath) := do
  match ← Host.managedObjects with
  | .error e => return .error (.bus e)
  | .ok objects =>
      match choose? name objects with
      | some path => return .ok path
      | none => return .error (.adapterNotFound name)

end GattPeripheral.Adapter
