import GattPeripheral.Bus.Event

/-!
Everything the library asks of a message bus, as transitions of the bus's state.
-/

namespace GattPeripheral

/-- A state transition that can fail; the state counts either way. -/
abbrev Request (β α : Type) := β → Except BusError α × β

structure CallOutcome where
  result : Except BusError Unit
  /-- Whether a daemon at the other end of a link received the call. -/
  received : Bool
  /-- How long the caller waits for the result. -/
  delay : Duration

/-- The outcome of a call that no link carries. -/
def CallOutcome.atOnce (result : Except BusError Unit) : CallOutcome := ⟨result, false, .zero⟩

class Transport (β : Type) where
  exportNode : ObjectPath → NodeRef → Request β Unit
  unexportNode : ObjectPath → ObjectKind → Request β Unit
  /-- Whether calls and questions about properties and objects are answered from elsewhere, so that
  their answers take a while. -/
  travels : β → Bool
  call : ObjectPath → ManagerCall → Duration → β → CallOutcome × β
  getProperty : ObjectPath → String → String → Request β Property
  setProperty : ObjectPath → String → String → Property → Request β Unit
  managedObjects : Request β ManagedObjects
  /-- Sends a property change of a node; never fails. -/
  emit : ObjectPath → String → PropertyMap → β → β
  subscribe : SignalRule → Request β Nat
  unsubscribe : Nat → Request β Unit
  receivers : Signal → β → Nat
  /-- Whether the bus broke down, which no program survives. -/
  isBroken : β → Bool

end GattPeripheral
