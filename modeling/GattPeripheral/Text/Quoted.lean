import GattPeripheral.Text.Printable

/-!
Quoted text for diagnostics.

A quoted text stands between double quotes. A backslash and a double quote are written behind a
backslash, as are the four controls with a letter of their own; every other character that has no
visible form or combines with its neighbour is written as its hexadecimal code point.
-/

namespace GattPeripheral.Text

/-- Lowercase hexadecimal digits, at least one. -/
def hexDigits (n : Nat) : List Char := Nat.toDigits 16 n

/-- A code point in braces, for a character that cannot be shown as itself. -/
def codePointEscape (c : Char) : List Char :=
  ['\\', 'u', Char.ofNat 0x7b] ++ hexDigits c.toNat ++ [Char.ofNat 0x7d]

/-- The letter that stands for a control character behind a backslash. -/
def controlLetter? : Char → Option Char
  | '\x00' => some '0'
  | '\t' => some 't'
  | '\n' => some 'n'
  | '\r' => some 'r'
  | _ => none

/-- One character between quotes; `quote` is the mark the text stands in. -/
def escapeChar (quote c : Char) : List Char :=
  match controlLetter? c with
  | some letter => ['\\', letter]
  | none =>
      if c = quote ∨ c = '\\' then ['\\', c]
      else if isCombining c || !isPrintable c then codePointEscape c
      else [c]

def quoted (s : String) : String :=
  "\"" ++ String.ofList (s.toList.flatMap (escapeChar '"')) ++ "\""

def quotedChar (c : Char) : String :=
  "'" ++ String.ofList (escapeChar '\'' c) ++ "'"

example : quoted "a\"b\\\n" = "\"a\\\"b\\\\\\n\"" := by decide +kernel

end GattPeripheral.Text
