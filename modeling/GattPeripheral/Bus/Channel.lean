import GattPeripheral.Bus.Transport

/-!
A bus together with the record of what happened on it.

Each request passes through to the bus and leaves one event behind, which names the failure if there
was one.
-/

namespace GattPeripheral

structure Channel (β : Type) where
  bus : β
  trace : List Event

namespace Channel

variable {β : Type} [Transport β]

def ofBus (bus : β) : Channel β := ⟨bus, []⟩

def record (event : Event) : StateM (Channel β) Unit :=
  modify fun c => { c with trace := c.trace ++ [event] }

def failure? {α : Type} : Except BusError α → Option BusError
  | .ok _ => none
  | .error e => some e

/-- Lets the bus work, without a record of it. -/
def work {α : Type} (act : β → α × β) : StateM (Channel β) α := do
  let c ← get
  let (result, bus) := act c.bus
  set { c with bus := bus }
  return result

def request {α : Type} (act : Request β α) (event : Option BusError → Event) :
    StateM (Channel β) (Except BusError α) := do
  let outcome ← work act
  record (event (failure? outcome))
  return outcome

def exportNode (path : ObjectPath) (node : NodeRef) : StateM (Channel β) (Except BusError Unit) :=
  request (Transport.exportNode path node) (.exported path node.kind)

def unexportNode (path : ObjectPath) (kind : ObjectKind) :
    StateM (Channel β) (Except BusError Unit) :=
  request (Transport.unexportNode path kind) (.unexported path kind)

def subscribe (rule : SignalRule) : StateM (Channel β) (Except BusError Nat) :=
  request (Transport.subscribe rule) (.subscribed rule)

def unsubscribe (subscription : Nat) : StateM (Channel β) (Except BusError Unit) :=
  request (Transport.unsubscribe subscription) (.unsubscribed subscription)

def emit (path : ObjectPath) (interface : String) (changed : PropertyMap) :
    StateM (Channel β) Unit := do
  modify fun c => { c with bus := Transport.emit path interface changed c.bus }
  record (.emitted path interface changed)

end Channel
end GattPeripheral
