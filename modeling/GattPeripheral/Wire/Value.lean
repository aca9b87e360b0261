import GattPeripheral.Attribute.Access
import GattPeripheral.Bus.Signal

/-!
Values as they travel over a link.

Every property value has a form on the wire. An array there carries the type of its elements, so that an
empty one has a type too, and a dictionary has the types of its keys and values. Coming back, variants are
unwrapped, arrays are told apart by the type of their elements, and values outside the property model,
among them all dictionaries, have no property form: they are dropped from maps. A text with a zero
character in it can be sent, but the other end cannot read it, nor anything that comes with it. This is
the only check of the other end that is modelled; what it says to values nested too deeply or too long is
not. Signatures and file descriptors, which a value on the wire can also be, have no shape here: no
property has them, and they would be dropped.
-/

namespace GattPeripheral.Wire

/-- The type of a value, as an array or a dictionary names it. -/
inductive Signature where
  | bool
  | byte
  | u16
  | i16
  | u32
  | i32
  | u64
  | i64
  | f64
  | str
  | path
  | variant
  | array (element : Signature)
  | dict (key value : Signature)
  | struct (fields : List Signature)

inductive Value where
  | bool (v : Bool)
  | byte (v : UInt8)
  | u16 (v : UInt16)
  | i16 (v : Int16)
  | u32 (v : UInt32)
  | i32 (v : Int32)
  | u64 (v : UInt64)
  | i64 (v : Int64)
  /-- A floating point number, by its bits. -/
  | f64 (bits : UInt64)
  | str (v : String)
  | path (text : String)
  | array (element : Signature) (items : List Value)
  | dict (key value : Signature) (entries : List (Value × Value))
  | struct (fields : List Value)
  | variant (inner : Value)

namespace Value

def octets (v : Bytes) : Value := array .byte (v.map byte)

def ofProperty : Property → Value
  | .bool v => bool v
  | .byte v => byte v
  | .u16 v => u16 v
  | .i16 v => i16 v
  | .u32 v => u32 v
  | .str v => str v
  | .path v => path v.text
  | .bytes v => octets v
  | .strs v => array .str (v.map str)
  | .paths v => array .path (v.map fun p => path p.text)
  | .u16Bytes v => dict .u16 .variant (v.toList.map fun e => (u16 e.1, variant (octets e.2)))
  | .strBytes v => dict .str .variant (v.toList.map fun e => (str e.1, variant (octets e.2)))

def asByte? : Value → Option UInt8
  | byte v => some v
  | _ => none

def asStr? : Value → Option String
  | str v => some v
  | _ => none

def asPath? : Value → Option ObjectPath
  | path text => ObjectPath.ofText? text
  | _ => none

/-- Items that do not fit the type of their array are left out. -/
def toProperty? : Value → Option Property
  | bool v => some (.bool v)
  | byte v => some (.byte v)
  | u16 v => some (.u16 v)
  | i16 v => some (.i16 v)
  | u32 v => some (.u32 v)
  | str v => some (.str v)
  | path text => (ObjectPath.ofText? text).map .path
  | variant inner => toProperty? inner
  | array .byte items => some (.bytes (items.filterMap asByte?))
  | array .str items => some (.strs (items.filterMap asStr?))
  | array .path items => some (.paths (items.filterMap asPath?))
  | _ => none

end Value

abbrev ValueMap := Dict String Value

/-- The entries that have a property form. -/
def decodeMap (values : ValueMap) : PropertyMap := values.filterMap fun _ v => v.toProperty?

/-! Texts -/

/-- A text that can be read where it arrives. -/
def isReadable (s : String) : Bool := !s.toList.contains '\x00'

mutual

/-- The texts in a value, also in those that have no property form. -/
def Value.texts : Value → List String
  | .str v => [v]
  | .path text => [text]
  | .array _ items => textsInItems items
  | .dict _ _ entries => textsInEntries entries
  | .struct fields => textsInItems fields
  | .variant inner => inner.texts
  | .bool _ | .byte _ | .u16 _ | .i16 _ | .u32 _ | .i32 _ | .u64 _ | .i64 _ | .f64 _ => []

def textsInItems : List Value → List String
  | [] => []
  | item :: items => item.texts ++ textsInItems items

def textsInEntries : List (Value × Value) → List String
  | [] => []
  | (key, value) :: entries => key.texts ++ value.texts ++ textsInEntries entries

end

def textsIn (values : ValueMap) : List String :=
  values.toList.flatMap fun e => e.1 :: e.2.texts

def textsInInterfaces (interfaces : Dict String ValueMap) : List String :=
  interfaces.toList.flatMap fun e => e.1 :: textsIn e.2

def encodeMap (properties : PropertyMap) : ValueMap := properties.mapValues Value.ofProperty

def encodeInterfaces (interfaces : InterfaceMap) : Dict String ValueMap :=
  interfaces.mapValues encodeMap

/-- The options that come with a remote access. -/
def accessOptions (values : ValueMap) : AccessOptions := .ofMap (decodeMap values)

inductive Signal where
  | added (path : ObjectPath) (interfaces : Dict String ValueMap)
  | removed (path : ObjectPath) (interfaces : List String)
  | changed (path : ObjectPath) (interface : String) (values : ValueMap)
      (invalidated : List String)
  /-- A signal whose body has the wrong form. -/
  | malformed (path : ObjectPath) (interface member : String)

def Signal.texts : Signal → List String
  | added _ interfaces => textsInInterfaces interfaces
  | removed _ interfaces => interfaces
  | changed _ interface values invalidated => interface :: textsIn values ++ invalidated
  | malformed _ _ _ => []

def Signal.decode? (signal : Signal) : Option GattPeripheral.Signal :=
  if signal.texts.all isReadable then
    match signal with
    | added path interfaces => some (.added path (interfaces.mapValues decodeMap))
    | removed path interfaces => some (.removed path interfaces)
    | changed path interface values invalidated =>
        some (.changed path interface (decodeMap values) invalidated)
    | malformed _ _ _ => none
  else none

end GattPeripheral.Wire
