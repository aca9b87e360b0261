import GattPeripheral.Error
import GattPeripheral.Json.Form
import GattPeripheral.Wire.Remote

/-!
JSON forms of failures.

A report of a failure names its kind and gives its text; where a remote caller would see the failure
under a name of its own, the report gives that too.
-/

namespace GattPeripheral

abbrev Report := List (String × Json)

namespace BusError

def kind : BusError → String
  | remote _ _ => "Remote"
  | timeout _ => "Timeout"
  | notConnected => "NotConnected"
  | exportFailed _ _ => "Export"
  | invalidPath _ => "InvalidPath"
  | protocol _ => "Protocol"

def qualifiedKind (e : BusError) : String := "Bus." ++ e.kind

def report (e : BusError) : Report :=
  [("error", .string e.qualifiedKind), ("message", .string e.message)]

def ofForm (j : Json) : Formed BusError := do
  let text ← j.getD "text" ""
  match (← j.get "kind" : String) with
  | "Remote" => return remote (← j.getD "name" "") text
  | "Timeout" => return timeout ⟨(← j.getD "secs" 0) * 1000000000 + (← j.getD "nanos" 0)⟩
  | "NotConnected" => return notConnected
  | "Export" => return exportFailed (← j.getD "path" "") text
  | "InvalidPath" => return invalidPath text
  | "Protocol" => return protocol text
  | _ => .error (.expected "a kind of bus error")

end BusError

instance : OfJson BusError := ⟨BusError.ofForm⟩

namespace GattError

def kind : GattError → String
  | malformedIdentifier _ => "MalformedIdentifier"
  | notSupported _ => "NotSupported"
  | notPermitted _ => "NotPermitted"
  | failed _ => "Failed"
  | invalidState _ => "InvalidState"
  | topologyFrozen => "TopologyFrozen"
  | invalidOffset _ => "InvalidOffset"
  | unknownFlag _ => "UnknownFlag"
  | adapterNotFound _ => "AdapterNotFound"
  | advertisingUnavailable => "AdvertisingUnavailable"
  | bus e => e.qualifiedKind

def report (e : GattError) : Report :=
  [("error", .string e.kind), ("message", .string e.message), ("dbus_name", .string e.remoteName)]

def ofForm (j : Json) : Formed GattError := do
  let text ← j.getD "text" ""
  match (← j.get "kind" : String) with
  | "MalformedIdentifier" => return malformedIdentifier text
  | "NotSupported" => return notSupported text
  | "NotPermitted" => return notPermitted text
  | "Failed" => return failed text
  | "InvalidState" => return invalidState text
  | "TopologyFrozen" => return topologyFrozen
  | "InvalidOffset" => return invalidOffset (← j.getD "n" 0)
  | "UnknownFlag" => return unknownFlag text
  | "AdapterNotFound" => return adapterNotFound text
  | "AdvertisingUnavailable" => return advertisingUnavailable
  | "Bus" => return bus (← j.get "bus")
  | _ => .error (.expected "a kind of error")

end GattError

instance : OfJson GattError := ⟨GattError.ofForm⟩

/-- A reply to a client carries a text only if it was not the bus that made it up. -/
def Wire.RemoteError.report (e : RemoteError) : Report :=
  ("error", .string e.name) :: (e.message.map fun text => ("message", Json.string text)).toList

/-- The outcome that a failure, if there is one, stands for. -/
def outcomeOf {ε : Type} : Option ε → Except ε Unit
  | none => .ok ()
  | some e => .error e

end GattPeripheral
