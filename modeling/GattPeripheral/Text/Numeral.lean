import GattPeripheral.Text.Hex

/-!
Numerals typed by a person: digits with an optional plus sign in front, bounded by the type that is
to hold the number.
-/

namespace GattPeripheral.Text

inductive NumeralError where
  | missing
  | invalidDigit
  | tooLarge
  deriving DecidableEq, Repr

def NumeralError.message : NumeralError → String
  | .missing => "cannot parse integer from empty string"
  | .invalidDigit => "invalid digit found in string"
  | .tooLarge => "number too large to fit in target type"

def decimalValue? (c : Char) : Option Nat :=
  if '0' ≤ c ∧ c ≤ '9' then some (c.toNat - 48) else none

/-- Extends `n` digit by digit; whichever fault comes first in the text is reported. -/
def readDigits (value? : Char → Option Nat) (base limit : Nat) (n : Nat) :
    List Char → Except NumeralError Nat
  | [] => .ok n
  | c :: rest =>
      match value? c with
      | none => .error .invalidDigit
      | some v =>
          if base * n + v < limit then readDigits value? base limit (base * n + v) rest
          else .error .tooLarge

/-- A numeral below `limit`. -/
def readNumeral (value? : Char → Option Nat) (base limit : Nat) :
    List Char → Except NumeralError Nat
  | [] => .error .missing
  | ['+'] => .error .invalidDigit
  | '+' :: digits => readDigits value? base limit 0 digits
  | digits => readDigits value? base limit 0 digits

def readDecimal (limit : Nat) (s : String) : Except NumeralError Nat :=
  readNumeral decimalValue? 10 limit s.toList

def readHex (limit : Nat) (cs : List Char) : Except NumeralError Nat :=
  readNumeral hexValue? 16 limit cs

end GattPeripheral.Text
