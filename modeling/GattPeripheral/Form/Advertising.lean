import GattPeripheral.Advertising.Advertisement
import GattPeripheral.Form.Access
import GattPeripheral.Form.Failure

/-!
JSON forms of advertisements: the payload, its edits, fallback steps and the mode of advertising.
-/

namespace GattPeripheral

def AdvertisementKind.all : List AdvertisementKind := [peripheral, broadcast]

def AdvertisementKind.ofName? (name : String) : Option AdvertisementKind :=
  all.find? (·.name == name)

instance : ToJson AdvertisementData where
  toJson d :=
    .object
      [("kind", .string d.kind.name), ("local_name", toJson d.localName),
       ("service_uuids", toJson d.serviceUuids), ("solicit_uuids", toJson d.solicitUuids),
       ("manufacturer_data", .pairs toJson d.manufacturerData),
       ("service_data", .pairs toJson d.serviceData), ("includes", toJson d.includes),
       ("appearance", toJson d.appearance), ("duration", toJson d.duration),
       ("timeout", toJson d.timeout), ("tx_power", toJson (d.txPower.map Int16.toInt)),
       ("discoverable", toJson d.discoverable)]

instance : ToJson AdvertisingMode where
  toJson
    | .registered =>
        .object [("mode", .string "registered"), ("text", .string AdvertisingMode.registered.text)]
    | .fallback step =>
        .object [("mode", .string "fallback"), ("step", .string step),
          ("text", .string (AdvertisingMode.fallback step).text)]

inductive EditError where
  | form (error : FormError)
  | identifier (error : GattError)
  | kind (name : String)

def kindOfName (name : String) : Except EditError AdvertisementKind :=
  match AdvertisementKind.ofName? name with
  | some kind => .ok kind
  | none => .error (.kind name)

def identifierOfForm (j : Json) : Except EditError Identifier := do
  (Identifier.parse (← (ofJson j).mapError .form)).mapError .identifier

/-- An edit is a list of its name and its arguments. -/
def AdvertisementData.Edit.ofForm (j : Json) : Except EditError Edit :=
  let plain : {α : Type} → [OfJson α] → Json → (α → Edit) → Except EditError Edit :=
    fun j edit => (ofJson j).mapError .form |>.map edit
  match j with
  | .array [.string "local_name", t] => plain t localName
  | .array [.string "service_uuid", u] => (identifierOfForm u).map serviceUuid
  | .array [.string "solicit_uuid", u] => (identifierOfForm u).map solicitUuid
  | .array [.string "manufacturer", n, bytes] => do
      let company ← (ofJson n).mapError .form
      plain bytes (manufacturerData company)
  | .array [.string "service_data", u, bytes] => do
      let bytes ← (ofJson bytes).mapError .form
      return serviceData (← identifierOfForm u) bytes
  | .array [.string "include", t] => plain t includeField
  | .array [.string "appearance", n] => plain n appearance
  | .array [.string "duration", n] => plain n duration
  | .array [.string "timeout", n] => plain n timeout
  | .array [.string "tx_power", n] => plain n txPower
  | .array [.string "discoverable", b] => plain b discoverable
  | .array [.string "kind", k] => do
      return kind (← kindOfName (← (ofJson k).mapError .form))
  | _ => .error (.form (.expected "an edit"))

/-- A new payload; the kind is optional, and `default` is the standard one. -/
def AdvertisementData.ofKindForm : Option Json → Except EditError AdvertisementData
  | none | some (.string "default") => .ok (.new .peripheral)
  | some j => do return .new (← kindOfName (← (ofJson j).mapError .form))

/-- A step that an application supplies has a name and an outcome. -/
instance : OfJson FallbackStep where
  ofJson j := do return .supplied (← j.get "name") (outcomeOf (← j.get? "error"))

def Advertisement.report (a : Advertisement) : Json :=
  .object [("path", toJson a.path), ("registered", toJson a.registered),
    ("published", toJson a.published), ("data", toJson a.data)]

end GattPeripheral
