/-!
Names on the wire: the daemon's service, interfaces, members, properties and errors.
-/

namespace GattPeripheral.Names

def service : String := "org.bluez"

def defaultAdapter : String := "/org/bluez/hci0"

def gattService : String := "org.bluez.GattService1"
def gattCharacteristic : String := "org.bluez.GattCharacteristic1"
def gattDescriptor : String := "org.bluez.GattDescriptor1"
def gattManager : String := "org.bluez.GattManager1"
def advertisement : String := "org.bluez.LEAdvertisement1"
def advertisingManager : String := "org.bluez.LEAdvertisingManager1"
def adapter : String := "org.bluez.Adapter1"
def device : String := "org.bluez.Device1"
def objectManager : String := "org.freedesktop.DBus.ObjectManager"

def registerApplication : String := "RegisterApplication"
def unregisterApplication : String := "UnregisterApplication"
def registerAdvertisement : String := "RegisterAdvertisement"
def unregisterAdvertisement : String := "UnregisterAdvertisement"
def interfacesAdded : String := "InterfacesAdded"
def interfacesRemoved : String := "InterfacesRemoved"
def propertiesChanged : String := "PropertiesChanged"
def getManagedObjects : String := "GetManagedObjects"

/-- Every member that is called or received. -/
def members : List String :=
  [registerApplication, unregisterApplication, registerAdvertisement, unregisterAdvertisement,
    interfacesAdded, interfacesRemoved, propertiesChanged, getManagedObjects]

def uuid : String := "UUID"
def primary : String := "Primary"
def serviceProperty : String := "Service"
def characteristicProperty : String := "Characteristic"
def characteristics : String := "Characteristics"
def descriptors : String := "Descriptors"
def value : String := "Value"
def notifying : String := "Notifying"
def flags : String := "Flags"

def powered : String := "Powered"
def discoverable : String := "Discoverable"
def discoverableTimeout : String := "DiscoverableTimeout"
def friendlyName : String := "Alias"
def address : String := "Address"
def connected : String := "Connected"

def failed : String := "org.bluez.Error.Failed"
def notSupported : String := "org.bluez.Error.NotSupported"
def notPermitted : String := "org.bluez.Error.NotPermitted"
def invalidArguments : String := "org.bluez.Error.InvalidArguments"
def invalidOffset : String := "org.bluez.Error.InvalidOffset"
def inProgress : String := "org.bluez.Error.InProgress"
def doesNotExist : String := "org.bluez.Error.DoesNotExist"

def unknownObject : String := "org.freedesktop.DBus.Error.UnknownObject"
def unknownInterface : String := "org.freedesktop.DBus.Error.UnknownInterface"
def unknownMethod : String := "org.freedesktop.DBus.Error.UnknownMethod"
def unknownProperty : String := "org.freedesktop.DBus.Error.UnknownProperty"
def invalidArgs : String := "org.freedesktop.DBus.Error.InvalidArgs"

/-- Arguments or an answer that cannot be read. -/
def unreadable : String := "org.freedesktop.zbus.Error"

end GattPeripheral.Names
