import GattPeripheral.Attribute.Access
import GattPeripheral.Error

/-!
Application code behind an attribute.

A provider answers a read or vets a write; it may refuse with an error or crash, and both reach the
client as a failure. An observer is told when notifications start or stop.
-/

namespace GattPeripheral

inductive Reply (α : Type) where
  | answer (a : α)
  | refuse (error : GattError)
  | crash
  deriving Repr

/-- The outcome of a request to a provider; `what` names the request in the text of a crash. -/
def Reply.outcome {α : Type} (what : String) : Reply α → Except GattError α
  | answer a => .ok a
  | refuse error => .error error.asFailure
  | crash => .error (.failed (what ++ " callback panicked"))

structure ReadProvider where
  reply : AccessOptions → Reply Bytes

structure WriteProvider where
  reply : Bytes → AccessOptions → Reply Unit

/-- What an observer does once it has been told. -/
inductive Observer where
  | record
  | crash
  | store (value : Bytes)
  | stop
  deriving DecidableEq, Repr

end GattPeripheral
