import GattPeripheral.Json.Form
import GattPeripheral.Property
import GattPeripheral.Wire.Value

/-!
JSON forms of paths, of property values and of values on the wire.

A value is an object of one member, whose name tells the type.
-/

namespace GattPeripheral

instance : ToJson ObjectPath := ⟨fun p => .string p.text⟩

instance : OfJson ObjectPath where
  ofJson j := do
    match ObjectPath.parse (← ofJson j) with
    | .ok p => return p
    | .error e => .error (.path e)

def Property.toJson : Property → Json
  | bool v => .object [("bool", .bool v)]
  | byte v => .object [("byte", .ofNat v.toNat)]
  | u16 v => .object [("u16", .ofNat v.toNat)]
  | i16 v => .object [("i16", .number v.toInt 0)]
  | u32 v => .object [("u32", .ofNat v.toNat)]
  | str v => .object [("str", .string v)]
  | path v => .object [("path", ToJson.toJson v)]
  | bytes v => .object [("bytes", ToJson.toJson v)]
  | strs v => .object [("strs", ToJson.toJson v)]
  | paths v => .object [("paths", ToJson.toJson v)]
  | u16Bytes v => .object [("u16_bytes", .pairs ToJson.toJson v)]
  | strBytes v => .object [("str_bytes", .pairs ToJson.toJson v)]

instance : ToJson Property := ⟨Property.toJson⟩

def Property.ofTagged (tag : String) (j : Json) : Formed Property :=
  match tag with
  | "bool" => (ofJson j).map bool
  | "byte" => (ofJson j).map byte
  | "u16" => (ofJson j).map u16
  | "i16" => (ofJson j).map i16
  | "u32" => (ofJson j).map u32
  | "str" => (ofJson j).map str
  | "path" => (ofJson j).map path
  | "bytes" => (ofJson j).map bytes
  | "strs" => (ofJson j).map strs
  | "paths" => (ofJson j).map paths
  | "u16_bytes" => (ofJson j).map fun pairs => u16Bytes (.ofList pairs)
  | "str_bytes" => (ofJson j).map fun pairs => strBytes (.ofList pairs)
  | _ => .error (.expected "the name of a type")

instance : OfJson Property where
  ofJson
    | .object [(tag, j)] => Property.ofTagged tag j
    | _ => .error (.expected "a value")

/-- Everything there is to say about a property value. -/
def Property.details (p : Property) : Json :=
  .object
    [("value", ToJson.toJson p), ("bool", ToJson.toJson p.asBool?), ("str", ToJson.toJson p.asStr?),
     ("path", ToJson.toJson p.asPath?), ("bytes", ToJson.toJson p.asBytes?),
     ("strs", ToJson.toJson p.asStrs?), ("u32", ToJson.toJson p.asNumber?), ("debug", .string p.shown)]

instance : ToJson ManagedObjects :=
  ⟨fun objects => .object (objects.toList.map fun e => (e.1.text, toJson e.2))⟩

namespace Wire

/-- The value that a type's name and the form of its content describe; a variant holds another value. -/
def Value.ofTagged (tag : String) (j : Json) : Formed Value :=
  match tag with
  | "i32" => (ofJson j).map i32
  | "u64" => (ofJson j).map u64
  | "i64" => (ofJson j).map i64
  | "f64" => .ok (f64 0)
  | "i32s" => (ofJson j).map fun (items : List Int32) => array .i32 (items.map i32)
  | "pair" => (ofJson j).map fun (e : UInt32 × String) => struct [u32 e.1, str e.2]
  | tag => (Property.ofTagged tag j).map ofProperty

def Value.ofForm : Json → Formed Value
  | .object [("variant", inner)] => (ofForm inner).map variant
  | .object [(tag, j)] => ofTagged tag j
  | _ => .error (.expected "a value")

instance : OfJson Value := ⟨Value.ofForm⟩

end Wire
end GattPeripheral
