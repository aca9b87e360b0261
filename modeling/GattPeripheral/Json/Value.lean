import GattPeripheral.Text.Hex

/-!
JSON values and their two written forms.

The compact form has no blanks. The spread form puts every item on a line of its own, indented by two
blanks for each level, and keeps empty lists and objects on one line. Characters outside ASCII stand
as they are; of the controls only those below the blank are escaped.
-/

namespace GattPeripheral

inductive Json where
  | null
  | bool (value : Bool)
  /-- A decimal number: `mantissa` divided by ten to the power `places`. -/
  | number (mantissa : Int) (places : Nat)
  | string (value : String)
  | array (items : List Json)
  | object (members : List (String × Json))
  deriving Inhabited

namespace Json

def ofNat (n : Nat) : Json := .number n 0

def ofStrings (ss : List String) : Json := .array (ss.map .string)

def ofOption {α : Type} (f : α → Json) : Option α → Json
  | none => .null
  | some a => f a

/-- The letter behind the backslash for characters with a short escape. -/
def shortEscape? : Char → Option Char
  | '"' => some '"'
  | '\\' => some '\\'
  | '\x08' => some 'b'
  | '\x0c' => some 'f'
  | '\n' => some 'n'
  | '\r' => some 'r'
  | '\t' => some 't'
  | _ => none

def escape (c : Char) : List Char :=
  match shortEscape? c with
  | some letter => ['\\', letter]
  | none => if c.toNat < 0x20 then '\\' :: 'u' :: Text.fixedHex 4 c.toNat else [c]

def quote (s : String) : List Char := '"' :: (s.toList.flatMap escape ++ ['"'])

/-- A decimal number with exactly `places` digits behind the point. -/
def decimal (mantissa : Int) (places : Nat) : List Char :=
  let digits := Nat.toDigits 10 mantissa.natAbs
  let sign := if mantissa < 0 then ['-'] else []
  match places with
  | 0 => sign ++ digits
  | _ =>
      let padded := List.replicate (places + 1 - digits.length) '0' ++ digits
      let whole := padded.length - places
      sign ++ padded.take whole ++ '.' :: padded.drop whole

def bool.text (b : Bool) : List Char := if b then "true".toList else "false".toList

mutual

def compact : Json → List Char
  | .null => "null".toList
  | .bool b => bool.text b
  | .number mantissa places => decimal mantissa places
  | .string s => quote s
  | .array items => '[' :: compactItems items ++ [']']
  | .object members => '\x7b' :: compactMembers members ++ ['\x7d']

def compactItems : List Json → List Char
  | [] => []
  | [j] => compact j
  | j :: rest => compact j ++ ',' :: compactItems rest

def compactMembers : List (String × Json) → List Char
  | [] => []
  | [(k, j)] => quote k ++ ':' :: compact j
  | (k, j) :: rest => quote k ++ ':' :: (compact j ++ ',' :: compactMembers rest)

end

def newLine (depth : Nat) : List Char := '\n' :: List.replicate (2 * depth) ' '

mutual

/-- The spread form, of which the first line is already indented to `depth`. -/
def spread (depth : Nat) : Json → List Char
  | .null => "null".toList
  | .bool b => bool.text b
  | .number mantissa places => decimal mantissa places
  | .string s => quote s
  | .array [] => ['[', ']']
  | .array items => '[' :: spreadItems (depth + 1) items ++ newLine depth ++ [']']
  | .object [] => ['\x7b', '\x7d']
  | .object members =>
      '\x7b' :: spreadMembers (depth + 1) members ++ newLine depth ++ ['\x7d']

def spreadItems (depth : Nat) : List Json → List Char
  | [] => []
  | [j] => newLine depth ++ spread depth j
  | j :: rest => newLine depth ++ spread depth j ++ ',' :: spreadItems depth rest

def spreadMembers (depth : Nat) : List (String × Json) → List Char
  | [] => []
  | [(k, j)] => newLine depth ++ quote k ++ ':' :: ' ' :: spread depth j
  | (k, j) :: rest =>
      newLine depth ++ quote k ++ ':' :: ' ' :: (spread depth j ++ ',' :: spreadMembers depth rest)

end

def compactText (j : Json) : String := String.ofList j.compact

def spreadText (j : Json) : String := String.ofList (j.spread 0)

end Json
end GattPeripheral
