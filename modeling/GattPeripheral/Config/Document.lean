import GattPeripheral.Config.Basic
import GattPeripheral.Json.Reader
import GattPeripheral.Json.Value

/-!
The configuration as a JSON document.
-/

namespace GattPeripheral

open Json (FieldSpec Shape Reader)

/-! Writing -/

def DescriptorConfig.toJson (d : DescriptorConfig) : Json :=
  .object [("uuid", .string d.uuid), ("permissions", .ofStrings d.permissions),
    ("value", .string d.value)]

def CharacteristicConfig.toJson (c : CharacteristicConfig) : Json :=
  .object [("uuid", .string c.uuid), ("flags", .ofStrings c.flags), ("value", .string c.value),
    ("descriptors", .array (c.descriptors.map DescriptorConfig.toJson))]

def ServiceConfig.toJson (s : ServiceConfig) : Json :=
  .object [("uuid", .string s.uuid), ("primary", .bool s.primary),
    ("characteristics", .array (s.characteristics.map CharacteristicConfig.toJson))]

def AdvertisementConfig.toJson (a : AdvertisementConfig) : Json :=
  let number := Json.ofOption fun n : UInt16 => .ofNat n.toNat
  .object [("local_name", .ofOption .string a.localName), ("discoverable", .bool a.discoverable),
    ("include_tx_power", .bool a.includeTxPower), ("appearance", number a.appearance),
    ("duration", number a.duration), ("timeout", number a.timeout),
    ("manufacturer_data",
      .object (a.manufacturerData.toList.map fun e => (toString e.1.toNat, .string e.2)))]

def Config.toJson (c : Config) : Json :=
  .object [("adapter", .string c.adapter), ("device_name", .string c.deviceName),
    ("application_path", .string c.applicationPath), ("log_level", .string c.logLevel),
    ("log_dir", .ofOption .string c.logDir), ("advertise", .bool c.advertise),
    ("registration_timeout_secs", .ofNat c.registrationTimeoutSecs.toNat),
    ("retry_delay_ms", .ofNat c.retryDelayMs.toNat),
    ("enable_fallbacks", .bool c.enableFallbacks), ("advertisement", c.advertisement.toJson),
    ("services", .array (c.services.map ServiceConfig.toJson))]

def Config.save (c : Config) : String := c.toJson.spreadText

/-! Reading -/

namespace Config

/-- A field that has to be given. -/
def required {τ α : Type} (name : String) (r : Reader α) (set : τ → α → τ) : FieldSpec τ :=
  ⟨name, true, fun record => return set record (← r)⟩

/-- A field that keeps its default unless it is given. -/
def defaulted {τ α : Type} (name : String) (r : Reader α) (set : τ → α → τ) : FieldSpec τ :=
  ⟨name, false, fun record => return set record (← r)⟩

def uint16 : Reader UInt16 := return UInt16.ofNat (← Reader.natural UInt16.size "u16")

def uint64 : Reader UInt64 := return UInt64.ofNat (← Reader.natural UInt64.size "u64")

def company : Reader UInt16 := return UInt16.ofNat (← Reader.numericKey UInt16.size "u16")

def descriptorShape : Shape DescriptorConfig where
  name := "DescriptorConfig"
  start := ⟨"", [], ""⟩
  fields :=
    [required "uuid" Reader.string fun d v => { d with uuid := v },
     required "permissions" (Reader.list Reader.string) fun d v => { d with permissions := v },
     defaulted "value" Reader.string fun d v => { d with value := v }]

def characteristicShape : Shape CharacteristicConfig where
  name := "CharacteristicConfig"
  start := ⟨"", [], "", []⟩
  fields :=
    [required "uuid" Reader.string fun c v => { c with uuid := v },
     required "flags" (Reader.list Reader.string) fun c v => { c with flags := v },
     defaulted "value" Reader.string fun c v => { c with value := v },
     defaulted "descriptors" (Reader.list (Reader.record descriptorShape)) fun c v =>
      { c with descriptors := v }]

def serviceShape : Shape ServiceConfig where
  name := "ServiceConfig"
  start := ⟨"", true, []⟩
  fields :=
    [required "uuid" Reader.string fun s v => { s with uuid := v },
     defaulted "primary" Reader.bool fun s v => { s with primary := v },
     defaulted "characteristics" (Reader.list (Reader.record characteristicShape)) fun s v =>
      { s with characteristics := v }]

def advertisementShape : Shape AdvertisementConfig where
  name := "AdvertisementConfig"
  start := .standard
  fields :=
    [defaulted "local_name" (Reader.optional Reader.string) fun a v => { a with localName := v },
     defaulted "discoverable" Reader.bool fun a v => { a with discoverable := v },
     defaulted "include_tx_power" Reader.bool fun a v => { a with includeTxPower := v },
     defaulted "appearance" (Reader.optional uint16) fun a v => { a with appearance := v },
     defaulted "duration" (Reader.optional uint16) fun a v => { a with duration := v },
     defaulted "timeout" (Reader.optional uint16) fun a v => { a with timeout := v },
     defaulted "manufacturer_data" (Reader.dict company Reader.string) fun a v =>
      { a with manufacturerData := .ofList v }]

def shape : Shape Config where
  name := "Config"
  start := .standard
  fields :=
    [defaulted "adapter" Reader.string fun c v => { c with adapter := v },
     defaulted "device_name" Reader.string fun c v => { c with deviceName := v },
     defaulted "application_path" Reader.string fun c v => { c with applicationPath := v },
     defaulted "log_level" Reader.string fun c v => { c with logLevel := v },
     defaulted "log_dir" (Reader.optional Reader.string) fun c v => { c with logDir := v },
     defaulted "advertise" Reader.bool fun c v => { c with advertise := v },
     defaulted "registration_timeout_secs" uint64 fun c v => { c with registrationTimeoutSecs := v },
     defaulted "retry_delay_ms" uint64 fun c v => { c with retryDelayMs := v },
     defaulted "enable_fallbacks" Reader.bool fun c v => { c with enableFallbacks := v },
     defaulted "advertisement" (Reader.record advertisementShape) fun c v =>
      { c with advertisement := v },
     defaulted "services" (Reader.list (Reader.record serviceShape)) fun c v =>
      { c with services := v }]

def load (text : String) : Except Json.ReadError Config :=
  Reader.document (Reader.record shape) text

/-- What is said about a file that cannot be loaded, and then what is wrong with it. -/
def loadFailure (e : Json.ReadError) : List String := ["Failed to parse config file", e.message]

end Config
end GattPeripheral
