import GattPeripheral.Text.Quoted

/-!
Bytes as pairs of hexadecimal digits.

Writing uses lowercase digits without separators; reading takes digits of either case and says which
byte of the text is at fault.
-/

namespace GattPeripheral

/-- The value of an attribute, or any other run of octets. -/
abbrev Bytes := List UInt8

namespace Text

def hexDigit (n : Nat) : Char := Nat.digitChar n

def hexValue? (c : Char) : Option Nat :=
  if '0' ≤ c ∧ c ≤ '9' then some (c.toNat - 48)
  else if 'a' ≤ c ∧ c ≤ 'f' then some (c.toNat - 87)
  else if 'A' ≤ c ∧ c ≤ 'F' then some (c.toNat - 55)
  else none

def byteDigits (b : UInt8) : List Char := [hexDigit (b.toNat / 16), hexDigit (b.toNat % 16)]

def encodeHex (bytes : Bytes) : String := String.ofList (bytes.flatMap byteDigits)

/-- Exactly `width` digits of `n`, high digits first. -/
def fixedHex (width n : Nat) : List Char :=
  match width with
  | 0 => []
  | width + 1 => fixedHex width (n / 16) ++ [hexDigit (n % 16)]

/-- Why a text is not a sequence of byte pairs. -/
inductive HexError where
  | oddLength
  /-- `octet` at byte position `index` of the text is no digit. -/
  | invalidDigit (octet : UInt8) (index : Nat)
  deriving DecidableEq, Repr

/-- An octet outside ASCII is shown as the character with that code point. -/
def HexError.message : HexError → String
  | .oddLength => "Odd number of digits"
  | .invalidDigit octet index =>
      "Invalid character " ++ quotedChar (Char.ofNat octet.toNat) ++ " at position " ++ toString index

/-- The digit an octet of the text stands for, or the error that names it. -/
def hexOctet (octet : UInt8) (index : Nat) : Except HexError Nat :=
  match hexValue? (Char.ofNat octet.toNat) with
  | some v => .ok v
  | none => .error (.invalidDigit octet index)

/-- Reads an even number of octets from position `index` on. -/
def decodePairs (index : Nat) : Bytes → Except HexError Bytes
  | high :: low :: rest => do
      let h ← hexOctet high index
      let l ← hexOctet low (index + 1)
      let tail ← decodePairs (index + 2) rest
      return UInt8.ofNat (16 * h + l) :: tail
  | _ => .ok []

/-- The length is judged before any digit. -/
def decodeHex (s : String) : Except HexError Bytes :=
  let octets := s.toUTF8.toList
  if octets.length % 2 = 1 then .error .oddLength else decodePairs 0 octets

end Text
end GattPeripheral
