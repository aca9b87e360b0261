import GattPeripheral.Bus.Names
import GattPeripheral.Property

/-!
Signals from the daemon, and the classes of them that can be subscribed to.
-/

namespace GattPeripheral

inductive SignalRule where
  | added
  | removed
  /-- Property changes of one interface. -/
  | changed (interface : String)
  deriving DecidableEq, Repr

inductive Signal where
  | added (path : ObjectPath) (interfaces : InterfaceMap)
  | removed (path : ObjectPath) (interfaces : List String)
  | changed (path : ObjectPath) (interface : String) (changed : PropertyMap)
      (invalidated : List String)
  deriving DecidableEq

def Signal.isMatch : Signal → SignalRule → Bool
  | added _ _, .added => true
  | removed _ _, .removed => true
  | changed _ interface _ _, .changed wanted => interface == wanted
  | _, _ => false

end GattPeripheral
