import GattPeripheral.Bus.Names
import GattPeripheral.Property

/-!
Calls into the managers of an adapter.
-/

namespace GattPeripheral

inductive ManagerCall where
  | registerApplication (path : ObjectPath) (options : PropertyMap)
  | unregisterApplication (path : ObjectPath)
  | registerAdvertisement (path : ObjectPath) (options : PropertyMap)
  | unregisterAdvertisement (path : ObjectPath)
  deriving DecidableEq

namespace ManagerCall

def interface : ManagerCall → String
  | registerApplication _ _ | unregisterApplication _ => Names.gattManager
  | registerAdvertisement _ _ | unregisterAdvertisement _ => Names.advertisingManager

def member : ManagerCall → String
  | registerApplication _ _ => Names.registerApplication
  | unregisterApplication _ => Names.unregisterApplication
  | registerAdvertisement _ _ => Names.registerAdvertisement
  | unregisterAdvertisement _ => Names.unregisterAdvertisement

def path : ManagerCall → ObjectPath
  | registerApplication p _ | unregisterApplication p => p
  | registerAdvertisement p _ | unregisterAdvertisement p => p

/-- Only a registration carries options. -/
def options? : ManagerCall → Option PropertyMap
  | registerApplication _ o | registerAdvertisement _ o => some o
  | unregisterApplication _ | unregisterAdvertisement _ => none

def ofMember? (member : String) (path : ObjectPath) (options : PropertyMap) : Option ManagerCall :=
  [registerApplication path options, unregisterApplication path, registerAdvertisement path options,
    unregisterAdvertisement path].find? (·.member == member)

end ManagerCall
end GattPeripheral
