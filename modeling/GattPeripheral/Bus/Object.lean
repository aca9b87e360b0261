import GattPeripheral.Bus.Names

/-!
What can be exported on the bus: the kinds of nodes, and references to single nodes.
-/

namespace GattPeripheral

inductive ObjectKind where
  | application
  | service
  | characteristic
  | descriptor
  | advertisement
  deriving DecidableEq, Repr

namespace ObjectKind

def all : List ObjectKind := [application, service, characteristic, descriptor, advertisement]

/-- The interface an object implements besides the standard ones. -/
def interface : ObjectKind → String
  | application => Names.objectManager
  | service => Names.gattService
  | characteristic => Names.gattCharacteristic
  | descriptor => Names.gattDescriptor
  | advertisement => Names.advertisement

def label : ObjectKind → String
  | application => "Application"
  | service => "Service"
  | characteristic => "Characteristic"
  | descriptor => "Descriptor"
  | advertisement => "Advertisement"

end ObjectKind

/-- A node. A service has a key of its own; characteristics and descriptors are counted within their
parent, where they are only ever added. -/
inductive NodeRef where
  | application
  | service (key : Nat)
  | characteristic (service position : Nat)
  | descriptor (service characteristic position : Nat)
  | advertisement (key : Nat)
  deriving DecidableEq, Repr, Inhabited

def NodeRef.kind : NodeRef → ObjectKind
  | application => .application
  | service _ => .service
  | characteristic _ _ => .characteristic
  | descriptor _ _ _ => .descriptor
  | advertisement _ => .advertisement

end GattPeripheral
