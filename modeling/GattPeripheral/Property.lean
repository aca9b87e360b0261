import GattPeripheral.Dict
import GattPeripheral.ObjectPath
import GattPeripheral.Text.Hex

/-!
Property values, and the dictionaries of them that objects are described by.
-/

namespace GattPeripheral

inductive Property where
  | bool (v : Bool)
  | byte (v : UInt8)
  | u16 (v : UInt16)
  | i16 (v : Int16)
  | u32 (v : UInt32)
  | str (v : String)
  | path (v : ObjectPath)
  | bytes (v : Bytes)
  | strs (v : List String)
  | paths (v : List ObjectPath)
  | u16Bytes (v : Dict UInt16 Bytes)
  | strBytes (v : Dict String Bytes)
  deriving DecidableEq, Inhabited

abbrev PropertyMap := Dict String Property

abbrev InterfaceMap := Dict String PropertyMap

abbrev ManagedObjects := Dict ObjectPath InterfaceMap

namespace Property

def asBool? : Property → Option Bool
  | bool v => some v
  | _ => none

def asStr? : Property → Option String
  | str v => some v
  | _ => none

def asPath? : Property → Option ObjectPath
  | path v => some v
  | _ => none

def asBytes? : Property → Option Bytes
  | bytes v => some v
  | _ => none

def asStrs? : Property → Option (List String)
  | strs v => some v
  | _ => none

/-- The unsigned numbers, whatever their width. -/
def asNumber? : Property → Option Nat
  | byte v => some v.toNat
  | u16 v => some v.toNat
  | u32 v => some v.toNat
  | _ => none

def shownBytes (v : Bytes) : String := Text.shownList (v.map fun b => toString b.toNat)

def shown : Property → String
  | bool v => Text.shownCall "Bool" [Text.shownBool v]
  | byte v => Text.shownCall "Byte" [toString v.toNat]
  | u16 v => Text.shownCall "U16" [toString v.toNat]
  | i16 v => Text.shownCall "I16" [toString v.toInt]
  | u32 v => Text.shownCall "U32" [toString v.toNat]
  | str v => Text.shownCall "Str" [Text.quoted v]
  | path v => Text.shownCall "Path" [v.shown]
  | bytes v => Text.shownCall "Bytes" [shownBytes v]
  | strs v => Text.shownCall "StrList" [Text.shownList (v.map Text.quoted)]
  | paths v => Text.shownCall "PathList" [Text.shownList (v.map ObjectPath.shown)]
  | u16Bytes v =>
      Text.shownCall "U16KeyedBytes"
        [Text.shownDict (v.toList.map fun e => (toString e.1.toNat, shownBytes e.2))]
  | strBytes v =>
      Text.shownCall "StrKeyedBytes"
        [Text.shownDict (v.toList.map fun e => (Text.quoted e.1, shownBytes e.2))]

end Property

def PropertyMap.single (name : String) (value : Property) : PropertyMap :=
  Dict.empty.insert name value

end GattPeripheral
