import GattPeripheral.Duration
import GattPeripheral.Text.Quoted

/-!
Failures of requests to the message bus.
-/

namespace GattPeripheral

inductive BusError where
  /-- An error reply, with the name and the text the other side gave it. -/
  | remote (name message : String)
  | timeout (after : Duration)
  | notConnected
  | exportFailed (path reason : String)
  | invalidPath (text : String)
  | protocol (text : String)
  deriving DecidableEq, Repr, Inhabited

namespace BusError

def message : BusError → String
  | remote name text => "Remote error " ++ name ++ ": " ++ text
  | timeout after => "Call timed out after " ++ after.text
  | notConnected => "Not connected to the bus"
  | exportFailed path reason => "Export failed for " ++ path ++ ": " ++ reason
  | invalidPath text => "Invalid object path: " ++ Text.quoted text
  | protocol text => "Protocol error: " ++ text

/-- Whether `needle` occurs in `hay` as consecutive characters. -/
def occursIn (needle : List Char) : List Char → Bool
  | [] => needle.isEmpty
  | c :: hay => needle.isPrefixOf (c :: hay) || occursIn needle hay

def endsIn (text suffix : String) : Bool := suffix.toList.isSuffixOf text.toList

def mentions (text needle : String) : Bool := occursIn needle.toList text.toList

/-- The manager already holds a registration for the path. -/
def isAlreadyExists : BusError → Bool
  | remote name text =>
      endsIn name ".AlreadyExists" || mentions text "Already Exists" ||
        mentions text "already registered"
  | _ => false

/-- The manager holds no registration for the path. -/
def isDoesNotExist : BusError → Bool
  | remote name text =>
      endsIn name ".DoesNotExist" || mentions text "Does Not Exist" ||
        mentions text "not registered"
  | _ => false

end BusError
end GattPeripheral
