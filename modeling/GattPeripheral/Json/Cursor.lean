import GattPeripheral.Text.Quoted

/-!
A place in a JSON text, and what can go wrong there.

Places are counted in lines from 1 and in octets of the line read so far. A fault found in the next
character is placed one octet further than a fault of the character just read.
-/

namespace GattPeripheral.Json

structure Position where
  line : Nat
  column : Nat
  deriving DecidableEq, Repr, Inhabited

def Position.after (p : Position) (c : Char) : Position :=
  if c = '\n' then ⟨p.line + 1, 0⟩ else ⟨p.line, p.column + c.utf8Size⟩

/-- The place `count` octets further in a text. -/
def Position.afterOctets (p : Position) : Nat → List Char → Position
  | 0, _ => p
  | _, [] => p
  | count + 1, c :: rest =>
      if c.utf8Size ≤ count + 1 then (p.after c).afterOctets (count + 1 - c.utf8Size) rest
      else ⟨p.line, p.column + (count + 1)⟩
termination_by _ cs => cs.length

structure Cursor where
  rest : List Char
  position : Position
  deriving Repr, Inhabited

namespace Cursor

def start (s : String) : Cursor := ⟨s.toList, ⟨1, 0⟩⟩

/-- Where a fault of the next character is placed. -/
def ahead (c : Cursor) : Position := c.position.afterOctets 1 c.rest

def skipOne (c : Cursor) : Cursor :=
  match c.rest with
  | [] => c
  | x :: rest => ⟨rest, c.position.after x⟩

def isBlank (c : Char) : Bool := c = ' ' || c = '\n' || c = '\t' || c = '\r'

/-- Passes over the longest run of characters in a class. -/
def skipWhile (test : Char → Bool) : List Char → Position → Cursor
  | [], p => ⟨[], p⟩
  | x :: rest, p => if test x then skipWhile test rest (p.after x) else ⟨x :: rest, p⟩

def skipBlanks (c : Cursor) : Cursor := skipWhile isBlank c.rest c.position

end Cursor

/-- The kinds of faults: a text that is no JSON, one that ends too early, and JSON of another shape
than expected. -/
inductive FaultKind where
  | malformed
  | truncated
  | mismatched
  deriving DecidableEq, Repr

inductive Fault where
  | truncatedList
  | truncatedObject
  | truncatedString
  | truncatedValue
  | expectedColon
  | expectedListEnd
  | expectedObjectEnd
  | expectedWord
  | expectedValue
  | invalidEscape
  | invalidNumber
  | numberOutOfRange
  | controlCharacter
  | keyNotString
  | keyNotNumeric
  | expectedQuote
  | loneSurrogate
  | unfinishedSurrogate
  | trailingComma
  | trailingCharacters
  | mismatch (text : String)
  deriving DecidableEq, Repr

namespace Fault

def kind : Fault → FaultKind
  | truncatedList | truncatedObject | truncatedString | truncatedValue => .truncated
  | mismatch _ => .mismatched
  | _ => .malformed

def message : Fault → String
  | truncatedList => "EOF while parsing a list"
  | truncatedObject => "EOF while parsing an object"
  | truncatedString => "EOF while parsing a string"
  | truncatedValue => "EOF while parsing a value"
  | expectedColon => "expected `:`"
  | expectedListEnd => "expected `,` or `]`"
  | expectedObjectEnd => "expected `,` or `\x7d`"
  | expectedWord => "expected ident"
  | expectedValue => "expected value"
  | invalidEscape => "invalid escape"
  | invalidNumber => "invalid number"
  | numberOutOfRange => "number out of range"
  | controlCharacter => "control character (\\u0000-\\u001F) found while parsing a string"
  | keyNotString => "key must be a string"
  | keyNotNumeric => "invalid value: expected key to be a number in quotes"
  | expectedQuote => "expected `\"`"
  | loneSurrogate => "lone leading surrogate in hex escape"
  | unfinishedSurrogate => "unexpected end of hex escape"
  | trailingComma => "trailing comma"
  | trailingCharacters => "trailing characters"
  | mismatch text => text

end Fault

/-- A fault and its place, which a mismatch only gets when the value around it has been closed. -/
structure ReadError where
  fault : Fault
  position : Option Position
  deriving DecidableEq, Repr

namespace ReadError

def settle (e : ReadError) (p : Position) : ReadError :=
  { e with position := some (e.position.getD p) }

def message (e : ReadError) : String :=
  match e.position with
  | none => e.fault.message
  | some p =>
      e.fault.message ++ " at line " ++ toString p.line ++ " column " ++ toString p.column

end ReadError

/-- A reader moves the cursor, also when it fails. -/
abbrev Reader : Type → Type := ExceptT ReadError (StateM Cursor)

namespace Reader

variable {α : Type}

def fail (fault : Fault) : Reader α := fun c => (.error ⟨fault, some c.position⟩, c)

def failAhead (fault : Fault) : Reader α := fun c => (.error ⟨fault, some c.ahead⟩, c)

def mismatch (text : String) : Reader α := fun c => (.error ⟨.mismatch text, none⟩, c)

def peek : Reader (Option Char) := fun c => (.ok c.rest.head?, c)

def skipOne : Reader Unit := fun c => (.ok (), c.skipOne)

def peekValue : Reader (Option Char) := fun c =>
  let c := c.skipBlanks
  (.ok c.rest.head?, c)

/-- Gives a mismatch of the reader its place. -/
def located (r : Reader α) : Reader α := fun c =>
  match r c with
  | (.error e, c) => (.error (e.settle c.position), c)
  | (.ok a, c) => (.ok a, c)

/-- Reads a body and what closes it. The closing part is read even behind a faulty body, whose fault
wins. -/
def enclosed (body : Reader α) (close : Reader Unit) : Reader α := fun c =>
  match body c with
  | (.error e, c) => (.error e, (close c).2)
  | (.ok a, c) =>
      match close c with
      | (.error e, c) => (.error e, c)
      | (.ok (), c) => (.ok a, c)

/-- An upper bound on the number of items still to come. -/
def measure : Reader Nat := fun c => (.ok (c.rest.length + 1), c)

end Reader
end GattPeripheral.Json
