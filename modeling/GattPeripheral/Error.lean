import GattPeripheral.Bus.Error
import GattPeripheral.Bus.Names

/-!
Failures of operations on attributes, applications and advertisements.
-/

namespace GattPeripheral

inductive GattError where
  | malformedIdentifier (input : String)
  | notSupported (reason : String)
  | notPermitted (reason : String)
  | failed (reason : String)
  | invalidState (reason : String)
  | topologyFrozen
  | invalidOffset (offset : Nat)
  | unknownFlag (name : String)
  | adapterNotFound (name : String)
  | advertisingUnavailable
  | bus (error : BusError)
  deriving DecidableEq, Repr, Inhabited

namespace GattError

def message : GattError → String
  | malformedIdentifier input => "Malformed identifier: " ++ Text.quoted input
  | notSupported reason => "Operation not supported: " ++ reason
  | notPermitted reason => "Operation not permitted: " ++ reason
  | failed reason => "Operation failed: " ++ reason
  | invalidState reason => "Invalid state: " ++ reason
  | topologyFrozen => "Topology is frozen while the application is published"
  | invalidOffset offset => "Offset " ++ toString offset ++ " is past the attribute length limit"
  | unknownFlag name => "Unknown flag: " ++ name
  | adapterNotFound name => "Adapter not found: " ++ name
  | advertisingUnavailable => "All advertising methods failed"
  | bus error => "Bus error: " ++ error.message

/-- The name under which a remote caller receives the error. -/
def remoteName : GattError → String
  | notSupported _ => Names.notSupported
  | notPermitted _ | topologyFrozen => Names.notPermitted
  | malformedIdentifier _ | unknownFlag _ => Names.invalidArguments
  | invalidOffset _ => Names.invalidOffset
  | invalidState _ => Names.inProgress
  | adapterNotFound _ => Names.doesNotExist
  | failed _ | advertisingUnavailable | bus _ => Names.failed

/-- A provider's error as a plain failure that keeps the text. -/
def asFailure : GattError → GattError
  | failed reason => failed reason
  | other => failed other.message

/-- What an operation reports: the error's own text, then that of the error behind it. -/
def chain : GattError → List String
  | bus error => [(bus error).message, error.message]
  | other => [other.message]

end GattError
end GattPeripheral
