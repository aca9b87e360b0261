import GattPeripheral.Property
import GattPeripheral.Tree.Node

/-!
The description of the tree that the daemon asks for: one entry for each service, characteristic and
descriptor, with the node's own interface and its fixed properties.
-/

namespace GattPeripheral

def Service.properties (s : Service) : PropertyMap :=
  .ofList [(Names.uuid, .str s.identifier.dashed), (Names.primary, .bool s.primary)]

def Characteristic.properties (c : Characteristic) : PropertyMap :=
  .ofList [(Names.uuid, .str c.identifier.dashed), (Names.serviceProperty, .path c.servicePath),
    (Names.flags, .strs c.flags.names)]

def Descriptor.properties (d : Descriptor) : PropertyMap :=
  .ofList [(Names.uuid, .str d.identifier.dashed),
    (Names.characteristicProperty, .path d.characteristicPath), (Names.flags, .strs d.permissions.names)]

/-- An object with a single interface. -/
def objectEntry (path : ObjectPath) (kind : ObjectKind) (properties : PropertyMap) :
    ObjectPath × InterfaceMap :=
  (path, Dict.empty.insert kind.interface properties)

def Characteristic.entries (c : Characteristic) : List (ObjectPath × InterfaceMap) :=
  objectEntry c.path .characteristic c.properties ::
    c.descriptors.map fun d => objectEntry d.path .descriptor d.properties

def Service.entries (s : Service) : List (ObjectPath × InterfaceMap) :=
  objectEntry s.path .service s.properties :: s.characteristics.flatMap Characteristic.entries

def Application.managedObjects (a : Application) : ManagedObjects :=
  .ofList (a.services.flatMap Service.entries)

end GattPeripheral
