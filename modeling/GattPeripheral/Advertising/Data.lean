import GattPeripheral.Dict
import GattPeripheral.Identifier
import GattPeripheral.Text.Hex

/-!
The payload of an advertisement.

A field that the daemon only sends on request names itself among the includes when it is set. Lists of
identifiers and includes hold no entry twice and keep the order of first insertion.
-/

namespace GattPeripheral

inductive AdvertisementKind where
  | peripheral
  | broadcast
  deriving DecidableEq, Repr

def AdvertisementKind.name : AdvertisementKind → String
  | peripheral => "peripheral"
  | broadcast => "broadcast"

def AdvertisementKind.label : AdvertisementKind → String
  | peripheral => "Peripheral"
  | broadcast => "Broadcast"

namespace Include

def localName : String := "local-name"
def txPower : String := "tx-power"
def appearance : String := "appearance"
def serviceUuids : String := "service-uuids"

def all : List String := [localName, txPower, appearance, serviceUuids]

end Include

structure AdvertisementData where
  kind : AdvertisementKind
  localName : Option String
  serviceUuids : List Identifier
  solicitUuids : List Identifier
  manufacturerData : Dict UInt16 Bytes
  serviceData : Dict Identifier Bytes
  includes : List String
  appearance : Option UInt16
  duration : Option UInt16
  timeout : Option UInt16
  txPower : Option Int16
  discoverable : Bool

namespace AdvertisementData

/-- The appearance that the daemon reads as not set. -/
def appearanceUnset : UInt16 := 0xffff

/-- The power that states no preference. -/
def noPowerPreference : Int16 := 127

def new (kind : AdvertisementKind) : AdvertisementData where
  kind := kind
  localName := none
  serviceUuids := []
  solicitUuids := []
  manufacturerData := .empty
  serviceData := .empty
  includes := []
  appearance := none
  duration := none
  timeout := none
  txPower := none
  discoverable := true

/-- Appends an entry unless the list has one equal to it. -/
def addOnce {α : Type} [BEq α] (xs : List α) (x : α) : List α := if xs.contains x then xs else xs ++ [x]

def addInclude (d : AdvertisementData) (name : String) : AdvertisementData :=
  { d with includes := addOnce d.includes name }

def setLocalName (d : AdvertisementData) (name : String) : AdvertisementData :=
  { d with localName := some name }.addInclude Include.localName

def addServiceUuid (d : AdvertisementData) (u : Identifier) : AdvertisementData :=
  { d with serviceUuids := addOnce d.serviceUuids u }.addInclude Include.serviceUuids

def addSolicitUuid (d : AdvertisementData) (u : Identifier) : AdvertisementData :=
  { d with solicitUuids := addOnce d.solicitUuids u }

def setManufacturerData (d : AdvertisementData) (company : UInt16) (bytes : Bytes) :
    AdvertisementData :=
  { d with manufacturerData := d.manufacturerData.insert company bytes }

def setServiceData (d : AdvertisementData) (u : Identifier) (bytes : Bytes) : AdvertisementData :=
  { d with serviceData := d.serviceData.insert u bytes }

/-- The appearance 0 stands for an unknown one and clears the field. -/
def setAppearance (d : AdvertisementData) (appearance : UInt16) : AdvertisementData :=
  if appearance = 0 then
    { d with appearance := none, includes := d.includes.filter (· != Include.appearance) }
  else { d with appearance := some appearance }.addInclude Include.appearance

def setDuration (d : AdvertisementData) (seconds : UInt16) : AdvertisementData :=
  { d with duration := some seconds }

def setTimeout (d : AdvertisementData) (seconds : UInt16) : AdvertisementData :=
  { d with timeout := some seconds }

def setTxPower (d : AdvertisementData) (power : Int16) : AdvertisementData :=
  { d with txPower := some power }.addInclude Include.txPower

inductive Edit where
  | localName (name : String)
  | serviceUuid (u : Identifier)
  | solicitUuid (u : Identifier)
  | manufacturerData (company : UInt16) (bytes : Bytes)
  | serviceData (u : Identifier) (bytes : Bytes)
  | includeField (name : String)
  | appearance (value : UInt16)
  | duration (seconds : UInt16)
  | timeout (seconds : UInt16)
  | txPower (power : Int16)
  | discoverable (value : Bool)
  | kind (value : AdvertisementKind)

def edit (d : AdvertisementData) : Edit → AdvertisementData
  | .localName name => d.setLocalName name
  | .serviceUuid u => d.addServiceUuid u
  | .solicitUuid u => d.addSolicitUuid u
  | .manufacturerData company bytes => d.setManufacturerData company bytes
  | .serviceData u bytes => d.setServiceData u bytes
  | .includeField name => d.addInclude name
  | .appearance value => d.setAppearance value
  | .duration seconds => d.setDuration seconds
  | .timeout seconds => d.setTimeout seconds
  | .txPower power => d.setTxPower power
  | .discoverable value => { d with discoverable := value }
  | .kind value => { d with kind := value }

def shownNumber? (n : Option UInt16) : String :=
  Text.shownOption (n.map fun n => toString n.toNat)

def shownOctets (bytes : Bytes) : String := Text.shownList (bytes.map fun b => toString b.toNat)

def shown (d : AdvertisementData) : String :=
  Text.shownRecord "AdvertisementData"
    [("kind", d.kind.label),
      ("local_name", Text.shownOption (d.localName.map Text.quoted)),
      ("service_uuids", Text.shownList (d.serviceUuids.map Identifier.shown)),
      ("solicit_uuids", Text.shownList (d.solicitUuids.map Identifier.shown)),
      ("manufacturer_data",
        Text.shownDict (d.manufacturerData.toList.map fun e =>
          (toString e.1.toNat, shownOctets e.2))),
      ("service_data",
        Text.shownDict (d.serviceData.toList.map fun e => (e.1.shown, shownOctets e.2))),
      ("includes", Text.shownList (d.includes.map Text.quoted)),
      ("appearance", shownNumber? d.appearance),
      ("duration", shownNumber? d.duration),
      ("timeout", shownNumber? d.timeout),
      ("tx_power", Text.shownOption (d.txPower.map fun n => toString n.toInt)),
      ("discoverable", Text.shownBool d.discoverable)]

end AdvertisementData
end GattPeripheral
