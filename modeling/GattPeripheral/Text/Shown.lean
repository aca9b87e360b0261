import GattPeripheral.Text.Quoted

/-!
Diagnostic forms of structured values: records with named fields, constructors with arguments, lists,
dictionaries and optional values.
-/

namespace GattPeripheral.Text

def commaSeparated (parts : List String) : String := String.intercalate ", " parts

/-- A name with its fields between braces. -/
def shownRecord (name : String) (fields : List (String × String)) : String :=
  name ++ " \x7b " ++ commaSeparated (fields.map fun f => f.1 ++ ": " ++ f.2) ++ " \x7d"

/-- A name with its arguments between parentheses. -/
def shownCall (name : String) (arguments : List String) : String :=
  name ++ "(" ++ commaSeparated arguments ++ ")"

def shownList (items : List String) : String := "[" ++ commaSeparated items ++ "]"

def shownDict (entries : List (String × String)) : String :=
  "\x7b" ++ commaSeparated (entries.map fun e => e.1 ++ ": " ++ e.2) ++ "\x7d"

def shownOption : Option String → String
  | none => "None"
  | some s => shownCall "Some" [s]

def shownBool (b : Bool) : String := if b then "true" else "false"

end GattPeripheral.Text
