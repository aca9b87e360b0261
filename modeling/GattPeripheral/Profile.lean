import GattPeripheral.Bus.Memory
import GattPeripheral.Config.Basic
import GattPeripheral.Text.Blank
import GattPeripheral.Tree.Topology
import GattPeripheral.Tree.Values

/-!
The attribute tree and the advertisement that a configuration describes.

Entries with the same identifier meet in one node, which keeps the shape of the first entry and takes
the value of the last.
-/

namespace GattPeripheral

inductive ProfileError where
  | applicationPath (text : String) (error : BusError)
  | service (uuid : String) (error : ProfileError)
  | characteristic (uuid : String) (error : ProfileError)
  | hex (text : String) (error : Text.HexError)
  | gatt (error : GattError)
  | path (error : BusError)
  deriving DecidableEq, Repr

/-- What the error says, and then what is behind it. -/
def ProfileError.chain : ProfileError → List String
  | applicationPath text error => ["Invalid application path " ++ text, error.message]
  | service uuid error => ("Invalid service " ++ uuid) :: error.chain
  | characteristic uuid error => ("Invalid characteristic " ++ uuid) :: error.chain
  | hex text error => ["Invalid hex value " ++ Text.quoted text, error.message]
  | gatt error => error.chain
  | path error => [error.message]

namespace Profile

/-- The permissions that follow from the properties of a characteristic. -/
def permissionsFor (flags : Flags) : Permissions :=
  let implied : List (Permission × List Flag) :=
    [(.read, [.read]), (.write, [.write, .writeWithoutResponse]), (.readEncrypted, [.encryptRead]),
      (.writeEncrypted, [.encryptWrite]), (.readAuthenticated, [.encryptAuthenticatedRead]),
      (.writeAuthenticated, [.encryptAuthenticatedWrite])]
  .ofList ((implied.filter fun e => e.2.any flags.contains).map Prod.fst)

/-- Hexadecimal digits with blanks around them and `0x` or `0X` in front. -/
def decodeValue (text : String) : Except ProfileError Bytes :=
  let trimmed := Text.trim text.toList
  let digits :=
    match trimmed with
    | '0' :: 'x' :: digits | '0' :: 'X' :: digits => digits
    | digits => digits
  (Text.decodeHex (String.ofList digits)).mapError (.hex text)

def attempt {α : Type} (r : Except GattError α) : Except ProfileError α := r.mapError .gatt

/-- Work on a characteristic of a tree that is being built. No node of it is published yet, so any bus does. -/
def offBus {α : Type} (work : Work Characteristic MemoryBus α) (c : Characteristic) : α × Characteristic :=
  let (result, done) := work ⟨c, .ofBus .empty⟩
  (result, done.node)

/-- The value that a descriptor starts with. A client configuration that asks for notifications starts
them, and is refused where there are none. -/
def storeInitial (position : Nat) (value : Bytes) (c : Characteristic) :
    Except GattError Characteristic :=
  let (outcome, stored) := offBus (Characteristic.setDescriptorValue true position value) c
  outcome.map fun _ => stored

def addDescriptor (c : Characteristic) (config : DescriptorConfig) :
    Except ProfileError Characteristic := do
  let permissions ← attempt (Permissions.parse config.permissions)
  let identifier ← attempt (Identifier.parse config.uuid)
  let (created, c) := c.createDescriptor false identifier permissions
  let position ← attempt created
  let value ← decodeValue config.value
  attempt (storeInitial position value c)

def addCharacteristic (s : Service) (config : CharacteristicConfig) :
    Except ProfileError Service := do
  let flags ← attempt (Flags.parse config.flags)
  let identifier ← attempt (Identifier.parse config.uuid)
  let (created, s) := s.createCharacteristic false identifier flags (permissionsFor flags)
  let position ← attempt created
  let value ← decodeValue config.value
  match s.characteristics[position]? with
  | none => return s
  | some c =>
      let c ← config.descriptors.foldlM addDescriptor (offBus (Characteristic.setValue value) c).2
      return { s with characteristics := s.characteristics.set position c }

def addService (a : Application) (config : ServiceConfig) : Except ProfileError Application := do
  let identifier ← attempt (Identifier.parse config.uuid)
  let (created, a) := a.createService identifier config.primary
  let key ← attempt created
  match a.service? key with
  | none => return a
  | some s =>
      let s ← config.characteristics.foldlM (fun s c =>
        (addCharacteristic s c).mapError (.characteristic c.uuid)) s
      return a.modifyService key fun _ => s

def application (c : Config) : Except ProfileError Application := do
  let path ← (ObjectPath.parse c.applicationPath).mapError (.applicationPath c.applicationPath)
  c.services.foldlM (fun a s => (addService a s).mapError (.service s.uuid)) (.new path)

/-- The payload that the configuration describes, which lists every service of the tree. -/
def advertisementData (c : Config) (a : Application) : Except ProfileError AdvertisementData := do
  let named := (AdvertisementData.new .peripheral).setLocalName c.advertisedName
  let listed := a.services.foldl (fun d s => d.addServiceUuid s.identifier) named
  let settings := c.advertisement
  let d := { listed with discoverable := settings.discoverable }
  let d := if settings.includeTxPower then d.addInclude Include.txPower else d
  let d := settings.appearance.elim d d.setAppearance
  let d := settings.duration.elim d d.setDuration
  let d := settings.timeout.elim d d.setTimeout
  settings.manufacturerData.toList.foldlM (fun d e =>
    return d.setManufacturerData e.1 (← decodeValue e.2)) d

/-- The advertisement stands directly below the root of the tree. -/
def advertisement (c : Config) (a : Application) : Except ProfileError Advertisement := do
  let data ← advertisementData c a
  let path ← (a.path.child "advertisement0").mapError .path
  return .new path data

def batteryLevel? (a : Application) : Option (Nat × Nat) := do
  let s ← a.findService? .batteryService
  let position ← s.findCharacteristic? .batteryLevel
  return (s.key, position)

end Profile
end GattPeripheral
