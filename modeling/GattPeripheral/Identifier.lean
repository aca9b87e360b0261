import GattPeripheral.Error
import GattPeripheral.Text.Hex
import GattPeripheral.Text.Shown

/-!
Attribute identifiers.

An identifier is a 128-bit number. Standard attributes have a 16- or 32-bit alias, which stands in the
high bits of the base identifier. Equality and order look at the number alone, so an identifier is the
same however wide it was written. Dictionaries keyed by identifiers rely on `compare` being the order
of the numbers.
-/

namespace GattPeripheral

/-- The width of the form an identifier was written in. -/
inductive Width where
  | short
  | medium
  | full
  deriving DecidableEq, Repr, Inhabited

def Width.label : Width → String
  | short => "Bits16"
  | medium => "Bits32"
  | full => "Bits128"

structure Identifier where
  bits : BitVec 128
  width : Width
  deriving Repr, Inhabited

namespace Identifier

/-- The identifier that aliases are counted from. -/
def base : Nat := 0x1000800000805f9b34fb

/-- An alias stands above the low 96 bits. -/
def aliasShift : Nat := 0x1000000000000000000000000

instance : BEq Identifier := ⟨fun a b => a.bits == b.bits⟩

instance : Ord Identifier := ⟨fun a b => compare a.bits.toNat b.bits.toNat⟩

instance : Std.TransOrd Identifier where
  eq_swap := Std.OrientedOrd.eq_swap (α := Nat)
  isLE_trans := Std.TransOrd.isLE_trans (α := Nat)

def ofShort (number : UInt16) : Identifier :=
  ⟨BitVec.ofNat 128 (number.toNat * aliasShift + base), .short⟩

def ofMedium (number : UInt32) : Identifier :=
  ⟨BitVec.ofNat 128 (number.toNat * aliasShift + base), .medium⟩

def ofBits (bits : BitVec 128) : Identifier := ⟨bits, .full⟩

def number (digits : List Nat) : Nat := digits.foldl (fun n d => 16 * n + d) 0

/-- The values of the hexadecimal digits in a text; all other characters are passed over. -/
def digits (s : String) : List Nat := s.toList.filterMap Text.hexValue?

/-- Reads 4, 8 or 32 hexadecimal digits, whatever stands between them. -/
def parse (s : String) : Except GattError Identifier :=
  let ds := digits s
  match ds.length with
  | 4 => .ok (ofShort (UInt16.ofNat (number ds)))
  | 8 => .ok (ofMedium (UInt32.ofNat (number ds)))
  | 32 => .ok (ofBits (BitVec.ofNat 128 (number ds)))
  | _ => .error (.malformedIdentifier s)

def isBaseDerived (u : Identifier) : Bool := u.bits.toNat % aliasShift == base

def medium? (u : Identifier) : Option Nat :=
  if u.isBaseDerived then some (u.bits.toNat / aliasShift) else none

def short? (u : Identifier) : Option Nat := u.medium?.filter (· < UInt16.size)

def wireDigits (u : Identifier) : List Char := Text.fixedHex 32 u.bits.toNat

def wire (u : Identifier) : String := String.ofList u.wireDigits

/-- The digits in groups of 8, 4, 4, 4 and 12 with dashes between them. -/
def dashed (u : Identifier) : String :=
  let ds := u.wireDigits
  String.ofList (ds.take 8 ++ '-' :: ((ds.drop 8).take 4 ++ '-' :: ((ds.drop 12).take 4 ++
    '-' :: ((ds.drop 16).take 4 ++ '-' :: ds.drop 20))))

def shown (u : Identifier) : String :=
  Text.shownRecord "GattUuid" [("value", u.dashed), ("width", u.width.label)]

/-! Assigned identifiers -/

def extendedProperties : Identifier := ofShort 0x2900
def userDescription : Identifier := ofShort 0x2901
/-- The descriptor through which a client switches notifications on and off. -/
def clientConfiguration : Identifier := ofShort 0x2902
def serverConfiguration : Identifier := ofShort 0x2903
def presentationFormat : Identifier := ofShort 0x2904
def aggregateFormat : Identifier := ofShort 0x2905
def deviceInformationService : Identifier := ofShort 0x180a
def batteryService : Identifier := ofShort 0x180f
def deviceName : Identifier := ofShort 0x2a00
def batteryLevel : Identifier := ofShort 0x2a19

end Identifier
end GattPeripheral
