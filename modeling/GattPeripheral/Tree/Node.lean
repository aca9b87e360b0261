import GattPeripheral.Attribute.Callback
import GattPeripheral.Attribute.Flags
import GattPeripheral.Attribute.Permissions
import GattPeripheral.Bus.Object
import GattPeripheral.Identifier

/-!
The attribute tree.

An application owns services, a service characteristics and a characteristic descriptors. A service
that was removed from the tree stays beside it, since handles to its nodes may outlive the removal.
-/

namespace GattPeripheral

structure Descriptor where
  identifier : Identifier
  path : ObjectPath
  /-- The path of the characteristic it was made for. -/
  characteristicPath : ObjectPath
  permissions : Permissions
  value : Bytes
  published : Bool
  readProvider : Option ReadProvider
  writeProvider : Option WriteProvider

structure Characteristic where
  identifier : Identifier
  path : ObjectPath
  /-- The path of the service it was made for. -/
  servicePath : ObjectPath
  flags : Flags
  permissions : Permissions
  value : Bytes
  notifying : Bool
  published : Bool
  readProvider : Option ReadProvider
  writeProvider : Option WriteProvider
  observer : Option Observer
  descriptors : List Descriptor

structure Service where
  key : Nat
  identifier : Identifier
  path : ObjectPath
  primary : Bool
  published : Bool
  characteristics : List Characteristic

inductive ApplicationState where
  /-- Nothing is exported. -/
  | unpublished
  /-- Exported, and not known to the daemon. -/
  | published
  /-- Registered with the daemon. -/
  | registered
  deriving DecidableEq, Repr

structure Application where
  path : ObjectPath
  state : ApplicationState
  /-- Whether the shape of the tree is fixed. -/
  frozen : Bool
  services : List Service
  removed : List Service
  /-- The key of the next service. -/
  nextKey : Nat

def ApplicationState.name : ApplicationState → String
  | unpublished => "Unpublished"
  | published => "Published"
  | registered => "Registered"

namespace Descriptor

def new (identifier : Identifier) (path characteristicPath : ObjectPath) (permissions : Permissions) :
    Descriptor where
  identifier := identifier
  path := path
  characteristicPath := characteristicPath
  permissions := permissions
  value := []
  published := false
  readProvider := none
  writeProvider := none

def isClientConfiguration (d : Descriptor) : Bool := d.identifier == .clientConfiguration

def shown (d : Descriptor) : String :=
  Text.shownRecord "Descriptor"
    [("uuid", d.identifier.shown), ("path", d.path.shown), ("permissions", d.permissions.shown)]

end Descriptor

namespace Characteristic

def new (identifier : Identifier) (path servicePath : ObjectPath) (flags : Flags)
    (permissions : Permissions) : Characteristic where
  identifier := identifier
  path := path
  servicePath := servicePath
  flags := flags
  permissions := permissions
  value := []
  notifying := false
  published := false
  readProvider := none
  writeProvider := none
  observer := none
  descriptors := []

def shown (c : Characteristic) : String :=
  Text.shownRecord "Characteristic"
    [("uuid", c.identifier.shown), ("path", c.path.shown), ("flags", c.flags.shown),
      ("notifying", Text.shownBool c.notifying)]

end Characteristic

namespace Service

def new (key : Nat) (identifier : Identifier) (path : ObjectPath) (primary : Bool) : Service where
  key := key
  identifier := identifier
  path := path
  primary := primary
  published := false
  characteristics := []

def shown (s : Service) : String :=
  Text.shownRecord "Service"
    [("uuid", s.identifier.shown), ("path", s.path.shown), ("primary", Text.shownBool s.primary)]

end Service

namespace Application

def new (path : ObjectPath) : Application where
  path := path
  state := .unpublished
  frozen := false
  services := []
  removed := []
  nextKey := 0

def isRegistered (a : Application) : Bool := a.state = .registered

def shown (a : Application) : String :=
  Text.shownRecord "Application"
    [("path", a.path.shown), ("state", a.state.name), ("services", toString a.services.length)]

/-! Nodes by reference -/

def allServices (a : Application) : List Service := a.services ++ a.removed

def service? (a : Application) (key : Nat) : Option Service :=
  a.allServices.find? (·.key == key)

def characteristic? (a : Application) (key position : Nat) : Option Characteristic :=
  (a.service? key).bind (·.characteristics[position]?)

def descriptor? (a : Application) (key position index : Nat) : Option Descriptor :=
  (a.characteristic? key position).bind (·.descriptors[index]?)

/-- Changes the service with this key, in the tree or beside it. -/
def modifyService (a : Application) (key : Nat) (f : Service → Service) : Application :=
  let change := fun s : Service => if s.key = key then f s else s
  { a with services := a.services.map change, removed := a.removed.map change }

def modifyCharacteristic (a : Application) (key position : Nat)
    (f : Characteristic → Characteristic) : Application :=
  a.modifyService key fun s => { s with characteristics := s.characteristics.modify position f }

def modifyDescriptor (a : Application) (key position index : Nat) (f : Descriptor → Descriptor) :
    Application :=
  a.modifyCharacteristic key position fun c => { c with descriptors := c.descriptors.modify index f }

end Application
end GattPeripheral
