import GattPeripheral.Bus.Transport

/-!
A bus in memory.

Replies to manager calls are queued in advance, refusals are arranged by path or property name, and
everything that is sent is kept for inspection.
-/

namespace GattPeripheral

structure PropertyKey where
  path : ObjectPath
  interface : String
  name : String
  deriving DecidableEq

structure Change where
  path : ObjectPath
  interface : String
  changed : PropertyMap
  deriving DecidableEq

structure MemoryBus where
  exported : Dict ObjectPath NodeRef
  refusedExports : List ObjectPath
  calls : List ManagerCall
  /-- Outcomes of the next calls; calls succeed once it is empty. -/
  replies : List (Except BusError Unit)
  emitted : List Change
  properties : List (PropertyKey × Property)
  refusedProperties : List String
  managed : ManagedObjects
  subscriptions : List (Nat × SignalRule)
  nextSubscription : Nat
  subscriptionLimit : Option Nat
  /-- How many of the next requests to unsubscribe fail. -/
  failingUnsubscribes : Nat

namespace MemoryBus

def empty : MemoryBus where
  exported := .empty
  refusedExports := []
  calls := []
  replies := []
  emitted := []
  properties := []
  refusedProperties := []
  managed := .empty
  subscriptions := []
  nextSubscription := 0
  subscriptionLimit := none
  failingUnsubscribes := 0

instance : Inhabited MemoryBus := ⟨empty⟩

/-! Arranging the daemon's side -/

def pushReply (reply : Except BusError Unit) (b : MemoryBus) : MemoryBus :=
  { b with replies := b.replies ++ [reply] }

def refuseExport (path : ObjectPath) (b : MemoryBus) : MemoryBus :=
  { b with refusedExports := path :: b.refusedExports }

def refuseProperty (name : String) (b : MemoryBus) : MemoryBus :=
  { b with refusedProperties := name :: b.refusedProperties }

def property? (b : MemoryBus) (key : PropertyKey) : Option Property :=
  b.properties.lookup key

def putProperty (key : PropertyKey) (value : Property) (b : MemoryBus) : MemoryBus :=
  { b with properties := (key, value) :: b.properties.filter (·.1 != key) }

def addManaged (path : ObjectPath) (interface : String) (properties : PropertyMap)
    (b : MemoryBus) : MemoryBus :=
  { b with managed := b.managed.update path .empty (·.insert interface properties) }

def limitSubscriptions (limit : Nat) (b : MemoryBus) : MemoryBus :=
  { b with subscriptionLimit := some limit }

def failUnsubscribes (count : Nat) (b : MemoryBus) : MemoryBus :=
  { b with failingUnsubscribes := count }

def clearEmitted (b : MemoryBus) : MemoryBus := { b with emitted := [] }

def isExported (b : MemoryBus) (path : ObjectPath) : Bool := b.exported.contains path

/-! Requests -/

def exportNode (path : ObjectPath) (node : NodeRef) : Request MemoryBus Unit := fun b =>
  if b.refusedExports.contains path then
    (.error (.exportFailed path.text "export refused"), b)
  else (.ok (), { b with exported := b.exported.insert path node })

/-- Removes whatever is exported at the path. -/
def unexportNode (path : ObjectPath) : Request MemoryBus Unit := fun b =>
  (.ok (), { b with exported := b.exported.erase path })

def call (call : ManagerCall) : Request MemoryBus Unit := fun b =>
  let b := { b with calls := b.calls ++ [call] }
  match b.replies with
  | [] => (.ok (), b)
  | reply :: rest => (reply, { b with replies := rest })

def propertyRefused : BusError := .remote Names.failed "property refused"

def getProperty (path : ObjectPath) (interface name : String) : Request MemoryBus Property :=
  fun b =>
    if b.refusedProperties.contains name then (.error propertyRefused, b)
    else
      match b.property? ⟨path, interface, name⟩ with
      | some value => (.ok value, b)
      | none => (.error (.remote Names.invalidArgs ("No such property '" ++ name ++ "'")), b)

def setProperty (path : ObjectPath) (interface name : String) (value : Property) :
    Request MemoryBus Unit := fun b =>
  if b.refusedProperties.contains name then (.error propertyRefused, b)
  else (.ok (), b.putProperty ⟨path, interface, name⟩ value)

def emit (path : ObjectPath) (interface : String) (changed : PropertyMap) (b : MemoryBus) :
    MemoryBus :=
  { b with emitted := b.emitted ++ [⟨path, interface, changed⟩] }

def isFull (b : MemoryBus) : Bool := b.subscriptionLimit.any (· ≤ b.subscriptions.length)

def subscribe (rule : SignalRule) : Request MemoryBus Nat := fun b =>
  if b.isFull then (.error .notConnected, b)
  else
    (.ok b.nextSubscription,
      { b with
        subscriptions := b.subscriptions ++ [(b.nextSubscription, rule)]
        nextSubscription := b.nextSubscription + 1 })

def unsubscribe (subscription : Nat) : Request MemoryBus Unit := fun b =>
  match b.failingUnsubscribes with
  | 0 => (.ok (), { b with subscriptions := b.subscriptions.filter (·.1 != subscription) })
  | n + 1 => (.error .notConnected, { b with failingUnsubscribes := n })

def receivers (signal : Signal) (b : MemoryBus) : Nat :=
  b.subscriptions.countP (signal.isMatch ·.2)

instance : Transport MemoryBus where
  exportNode := exportNode
  unexportNode path _ := unexportNode path
  travels _ := false
  call _ call _ b :=
    let (result, b) := MemoryBus.call call b
    (.atOnce result, b)
  getProperty := getProperty
  setProperty := setProperty
  managedObjects b := (.ok b.managed, b)
  emit := emit
  subscribe := subscribe
  unsubscribe := unsubscribe
  receivers := receivers
  isBroken _ := false

end MemoryBus
end GattPeripheral
