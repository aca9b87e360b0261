import GattPeripheral.Attribute.Access
import GattPeripheral.Form.Property
import GattPeripheral.Identifier

/-!
JSON forms of identifiers and of the options of an access.
-/

namespace GattPeripheral

instance : ToJson Identifier := ⟨fun u => .string u.dashed⟩

/-- Everything there is to say about an identifier. -/
def Identifier.details (u : Identifier) : Json :=
  .object
    [("display", toJson u), ("display2", toJson u), ("wire", .string u.wire),
     ("width", .string u.width.label), ("short", toJson u.short?), ("medium", toJson u.medium?),
     ("base_derived", .bool u.isBaseDerived), ("hex", .string u.wire)]

/-- The assigned identifiers by name. -/
def Identifier.assigned : Json :=
  .object ([("extended_properties", extendedProperties), ("user_description", userDescription),
    ("cccd", clientConfiguration), ("server_configuration", serverConfiguration),
    ("presentation_format", presentationFormat), ("aggregate_format", aggregateFormat),
    ("device_information_service", deviceInformationService), ("battery_service", batteryService),
    ("device_name", deviceName), ("battery_level", batteryLevel)].map fun e => (e.1, toJson e.2))

instance : ToJson AccessOptions where
  toJson o :=
    .object
      [("offset", toJson o.offset), ("device", toJson o.device), ("mtu", toJson o.mtu),
       ("link", toJson o.link), ("type", toJson (o.writeKind.map WriteKind.name)),
       ("prepare_authorize", toJson o.prepareAuthorize)]

end GattPeripheral
