import GattPeripheral.Dict
import GattPeripheral.Host
import GattPeripheral.Text.Hex

/-!
The configuration: which adapter, under which name, how patient, and what the attribute tree holds.
-/

namespace GattPeripheral

structure DescriptorConfig where
  uuid : String
  permissions : List String
  /-- The initial value in hexadecimal digits. -/
  value : String
  deriving DecidableEq, Repr

structure CharacteristicConfig where
  uuid : String
  flags : List String
  /-- The initial value in hexadecimal digits. -/
  value : String
  descriptors : List DescriptorConfig
  deriving DecidableEq, Repr

structure ServiceConfig where
  uuid : String
  primary : Bool
  characteristics : List CharacteristicConfig
  deriving DecidableEq, Repr

structure AdvertisementConfig where
  /-- Takes the place of the device name in the payload. -/
  localName : Option String
  discoverable : Bool
  includeTxPower : Bool
  appearance : Option UInt16
  duration : Option UInt16
  timeout : Option UInt16
  /-- Payloads in hexadecimal digits, by company. -/
  manufacturerData : Dict UInt16 String
  deriving DecidableEq

structure Config where
  /-- The name of an adapter, or its object path. -/
  adapter : String
  deviceName : String
  applicationPath : String
  logLevel : String
  logDir : Option String
  advertise : Bool
  registrationTimeoutSecs : UInt64
  retryDelayMs : UInt64
  enableFallbacks : Bool
  advertisement : AdvertisementConfig
  services : List ServiceConfig
  deriving DecidableEq

def AdvertisementConfig.standard : AdvertisementConfig where
  localName := none
  discoverable := true
  includeTxPower := false
  appearance := none
  duration := none
  timeout := none
  manufacturerData := .empty

namespace Config

/-- A battery service and a service with a value to read, write and subscribe to. -/
def standardServices : List ServiceConfig :=
  [{ uuid := "180F", primary := true,
     characteristics :=
      [{ uuid := "2A19", flags := ["read", "notify"], value := "64", descriptors := [] }] },
   { uuid := "11111111-2222-3333-4444-555555555555", primary := true,
     characteristics :=
      [{ uuid := "11111111-2222-3333-4444-666666666666", flags := ["read", "write", "notify"],
         value := "11223344",
         descriptors :=
          [{ uuid := "2901", permissions := ["read"],
             value := Text.encodeHex "GattKit custom value".toUTF8.toList }] }] }]

def standard : Config where
  adapter := "hci0"
  deviceName := "GattKit"
  applicationPath := "/com/gattkit"
  logLevel := "info"
  logDir := none
  advertise := true
  registrationTimeoutSecs := 10
  retryDelayMs := 500
  enableFallbacks := true
  advertisement := .standard
  services := standardServices

def registrationOptions (c : Config) : RegistrationOptions :=
  { RegistrationOptions.standard with
    timeout := .ofSeconds c.registrationTimeoutSecs.toNat
    retryDelay := .ofMillis c.retryDelayMs.toNat
    enableFallbacks := c.enableFallbacks }

def advertisedName (c : Config) : String := c.advertisement.localName.getD c.deviceName

end Config
end GattPeripheral
