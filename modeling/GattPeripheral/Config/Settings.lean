import GattPeripheral.Config.Basic
import GattPeripheral.Text.Numeral

/-!
The settings that can be listed and changed by key.

A change is refused as a whole or takes effect in the one setting it names. Optional settings are
cleared by the empty text.
-/

namespace GattPeripheral

inductive SettingError where
  | unknownKey (key : String)
  | invalidPath (error : BusError)
  | invalidBool
  | invalidNumber (error : Text.NumeralError)
  deriving DecidableEq, Repr

/-- What the error says, and then what is behind it. -/
def SettingError.chain : SettingError → List String
  | unknownKey key => ["Unknown config key: " ++ key]
  | invalidPath error => ["Invalid object path", error.message]
  | invalidBool => ["Invalid boolean value", "provided string was not `true` or `false`"]
  | invalidNumber error => ["Invalid number", error.message]

namespace Config

def unset : String := "(unset)"

def shownSeconds (n : UInt16) : String := toString n.toNat ++ "s"

def shownAppearance (n : UInt16) : String := "0x" ++ String.ofList (Text.fixedHex 4 n.toNat)

/-- Every setting with its text, in the order of the listing. -/
def list (c : Config) : List (String × String) :=
  let a := c.advertisement
  [("adapter", c.adapter),
   ("device_name", c.deviceName),
   ("application_path", c.applicationPath),
   ("log_level", c.logLevel),
   ("log_dir", c.logDir.getD unset),
   ("advertise", Text.shownBool c.advertise),
   ("registration_timeout_secs", toString c.registrationTimeoutSecs.toNat),
   ("retry_delay_ms", toString c.retryDelayMs.toNat),
   ("enable_fallbacks", Text.shownBool c.enableFallbacks),
   ("advertisement.local_name", a.localName.getD unset),
   ("advertisement.discoverable", Text.shownBool a.discoverable),
   ("advertisement.include_tx_power", Text.shownBool a.includeTxPower),
   ("advertisement.appearance", (a.appearance.map shownAppearance).getD unset),
   ("advertisement.duration", (a.duration.map shownSeconds).getD unset),
   ("advertisement.timeout", (a.timeout.map shownSeconds).getD unset)]

def get? (c : Config) (key : String) : Option String := c.list.lookup key

/-! Reading the text of a setting -/

def readBool : String → Except SettingError Bool
  | "true" => .ok true
  | "false" => .ok false
  | _ => .error .invalidBool

/-- A number as a value of the type that holds it. -/
def numeral {α : Type} (of : Nat → α) (r : Except Text.NumeralError Nat) : Except SettingError α :=
  (r.map of).mapError .invalidNumber

def readUInt64 (s : String) : Except SettingError UInt64 :=
  numeral UInt64.ofNat (Text.readDecimal UInt64.size s)

/-- Digits behind `0x` or `0X` are hexadecimal. -/
def readMarked (limit : Nat) (s : String) : Except Text.NumeralError Nat :=
  match s.toList with
  | '0' :: 'x' :: digits | '0' :: 'X' :: digits => Text.readHex limit digits
  | _ => Text.readDecimal limit s

def readUInt16 (s : String) : Except SettingError UInt16 :=
  numeral UInt16.ofNat (readMarked UInt16.size s)

def readOptionalText (s : String) : Option String := if s.isEmpty then none else some s

def readOptionalUInt16 (s : String) : Except SettingError (Option UInt16) :=
  if s.isEmpty then .ok none else (readUInt16 s).map some

def readPath (s : String) : Except SettingError String :=
  match ObjectPath.parse s with
  | .ok _ => .ok s
  | .error e => .error (.invalidPath e)

/-! Changing a setting -/

/-- Steps on a configuration in place: what was assigned before a step fails stays assigned. -/
abbrev Change : Type → Type := ExceptT SettingError (StateM Config)

def assign {α : Type} (read : Except SettingError α) (set : Config → α → Config) : Change Unit := do
  let v ← read
  modify fun c => set c v

def assignAdvertised {α : Type} (read : Except SettingError α)
    (set : AdvertisementConfig → α → AdvertisementConfig) : Change Unit :=
  assign read fun c v => { c with advertisement := set c.advertisement v }

def change (key value : String) : Change Unit :=
  match key with
  | "adapter" => modify fun c => { c with adapter := value }
  | "device_name" => modify fun c => { c with deviceName := value }
  | "application_path" => assign (readPath value) fun c v => { c with applicationPath := v }
  | "log_level" => modify fun c => { c with logLevel := value }
  | "log_dir" => modify fun c => { c with logDir := readOptionalText value }
  | "advertise" => assign (readBool value) fun c v => { c with advertise := v }
  | "registration_timeout_secs" =>
      assign (readUInt64 value) fun c v => { c with registrationTimeoutSecs := v }
  | "retry_delay_ms" => assign (readUInt64 value) fun c v => { c with retryDelayMs := v }
  | "enable_fallbacks" => assign (readBool value) fun c v => { c with enableFallbacks := v }
  | "advertisement.local_name" =>
      assignAdvertised (.ok (readOptionalText value)) fun a v => { a with localName := v }
  | "advertisement.discoverable" =>
      assignAdvertised (readBool value) fun a v => { a with discoverable := v }
  | "advertisement.include_tx_power" =>
      assignAdvertised (readBool value) fun a v => { a with includeTxPower := v }
  | "advertisement.appearance" =>
      assignAdvertised (readOptionalUInt16 value) fun a v => { a with appearance := v }
  | "advertisement.duration" =>
      assignAdvertised (readOptionalUInt16 value) fun a v => { a with duration := v }
  | "advertisement.timeout" =>
      assignAdvertised (readOptionalUInt16 value) fun a v => { a with timeout := v }
  | _ => throw (.unknownKey key)

/-- The configuration behind a change, or why there is none. -/
def apply (c : Config) (key value : String) : Except SettingError Config :=
  match (change key value).run c with
  | (.ok (), changed) => .ok changed
  | (.error e, _) => .error e

end Config
end GattPeripheral
