import GattPeripheral.Attribute.Access
import GattPeripheral.Bus.Call
import GattPeripheral.Bus.Object
import GattPeripheral.Bus.Signal
import GattPeripheral.Identifier

/-!
What can be observed while the library works: requests to the bus with their failures, property
changes sent, what connection delegates are told, and calls to application code.
-/

namespace GattPeripheral

inductive Notice where
  | connected (address : String) (path : ObjectPath)
  | disconnected (address : String) (path : ObjectPath)
  | property (path : ObjectPath) (interface name : String) (value : Property)
  deriving DecidableEq

inductive Event where
  | exported (path : ObjectPath) (kind : ObjectKind) (failure : Option BusError)
  | unexported (path : ObjectPath) (kind : ObjectKind) (failure : Option BusError)
  | called (adapter : ObjectPath) (call : ManagerCall) (timeout : Duration)
  /-- The daemon at the other end of a link received the call. -/
  | received (adapter : ObjectPath) (call : ManagerCall)
  | callFailed (failure : BusError)
  | gotProperty (path : ObjectPath) (interface name : String) (failure : Option BusError)
  | setProperty (path : ObjectPath) (interface name : String) (value : Property)
      (failure : Option BusError)
  | listedObjects (failure : Option BusError)
  | subscribed (rule : SignalRule) (failure : Option BusError)
  | unsubscribed (subscription : Nat) (failure : Option BusError)
  | emitted (path : ObjectPath) (interface : String) (changed : PropertyMap)
  | noticed (notice : Notice)
  | readProvider (options : AccessOptions)
  | writeProvider (bytes : Bytes) (options : AccessOptions)
  | observer (identifier : Identifier) (notifying : Bool)
  | fallback (name : String)

end GattPeripheral
