import GattPeripheral.Json.Cursor
import GattPeripheral.Text.Shortest

/-!
Reading numbers.

A number without fraction and exponent that fits 64 bits is an integer; every other number is a
floating point number, computed from its leading digits and a power of ten.
-/

namespace GattPeripheral.Json

inductive Number where
  | unsigned (n : Nat)
  | signed (n : Int)
  | float (x : Float)

def Number.description : Number → String
  | unsigned n => "integer `" ++ toString n ++ "`"
  | signed n => "integer `" ++ toString n ++ "`"
  | float x => "floating point `" ++ Text.floatText x ++ "`"

namespace Number

def isDigit (c : Char) : Bool := '0' ≤ c && c ≤ '9'

def digitValue (c : Char) : Nat := c.toNat - 48

/-- Numbers from here on do not fit 64 bits. -/
def unsignedLimit : Nat := UInt64.size

/-- Ten to a power below 309. -/
def powerOfTen (n : Nat) : Float := Float.ofScientific 1 false n

/-- A significand times a power of ten, `none` when it is too large. -/
def scale : Nat → Float → Int → Option Float
  | 0, f, _ => some f
  | fuel + 1, f, exponent =>
      if exponent.natAbs ≤ 308 then
        if exponent ≥ 0 then
          let scaled := f * powerOfTen exponent.natAbs
          if scaled.isInf then none else some scaled
        else some (f / powerOfTen exponent.natAbs)
      else if f == 0.0 then some f
      else if exponent ≥ 0 then none
      else scale fuel (f / powerOfTen 308) (exponent + 308)

/-- Takes digits into the significand while it fits 64 bits: the significand, the digits taken, and
those that are left. -/
def takeDigits (significand taken : Nat) : List Char → Nat × Nat × List Char
  | [] => (significand, taken, [])
  | c :: rest =>
      if isDigit c && 10 * significand + digitValue c < unsignedLimit then
        takeDigits (10 * significand + digitValue c) (taken + 1) rest
      else (significand, taken, c :: rest)

end Number

namespace Reader

open Number

def digitsAhead : Reader (List Char) := fun c => (.ok (c.rest.takeWhile isDigit), c)

def skipDigits : Reader Unit := fun c => (.ok (), Cursor.skipWhile isDigit c.rest c.position)

def nextIs (test : Char → Bool) : Reader Bool := return (← peek).any test

def finish (negative : Bool) (significand : Nat) (exponent : Int) : Reader Number := do
  match scale (exponent.natAbs + 1) (Float.ofNat significand) exponent with
  | none => fail .numberOutOfRange
  | some x => return .float (if negative then -x else x)

/-- Passes over the digits of an exponent up to the one that makes it too large. -/
def skipExponent (n : Nat) : Nat → Reader (Option Nat)
  | 0 => return some n
  | fuel + 1 => do
      match ← peek with
      | none => return some n
      | some c =>
          if isDigit c then
            skipOne
            let n := 10 * n + digitValue c
            if n < 0x80000000 then skipExponent n fuel else return none
          else return some n

def exponentSign : Reader Bool := do
  match ← peek with
  | some '+' => do skipOne; return false
  | some '-' => do skipOne; return true
  | _ => return false

def exponentPart (negative : Bool) (significand : Nat) (exponent : Int) : Reader Number := do
  skipOne
  let down ← exponentSign
  match ← peek with
  | none => fail .truncatedValue
  | some c =>
      if !isDigit c then failAhead .invalidNumber
      match ← skipExponent 0 (← measure) with
      | some n => finish negative significand (if down then exponent - n else exponent + n)
      | none =>
          if significand ≠ 0 ∧ !down then fail .numberOutOfRange
          skipDigits
          return .float (if negative then -0.0 else 0.0)

def fractionPart (negative : Bool) (significand : Nat) (exponent : Int) : Reader Number := do
  skipOne
  let digits ← digitsAhead
  if digits.isEmpty then
    if (← peek).isSome then failAhead .invalidNumber else failAhead .truncatedValue
  let (significand, taken, _) := takeDigits significand 0 digits
  skipDigits
  let exponent := exponent - taken
  if ← nextIs (fun c => c = 'e' || c = 'E') then exponentPart negative significand exponent
  else finish negative significand exponent

/-- The integer with this sign, which is a floating point number if it is a negative zero or does not
fit. -/
def integer (negative : Bool) (n : Nat) : Number :=
  if !negative then .unsigned n
  else if 0 < n ∧ n ≤ 0x8000000000000000 then .signed (-(n : Int))
  else .float (-(Float.ofNat n))

def number (negative : Bool) : Reader Number := do
  match ← peek with
  | none => fail .truncatedValue
  | some first =>
      let digits ← digitsAhead
      if digits.isEmpty then failAhead .invalidNumber
      if first = '0' ∧ 1 < digits.length then do
        skipOne
        failAhead .invalidNumber
      let (significand, _, extra) := takeDigits 0 0 digits
      skipDigits
      if ← nextIs (· = '.') then fractionPart negative significand extra.length
      else if ← nextIs (fun c => c = 'e' || c = 'E') then
        exponentPart negative significand extra.length
      else if extra.isEmpty then return integer negative significand
      else finish negative significand extra.length

end Reader
end GattPeripheral.Json
