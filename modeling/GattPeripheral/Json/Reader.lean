import GattPeripheral.Json.Number
import GattPeripheral.Json.Text

/-!
Typed readers of JSON values.

A record is read from an object, whose members may come in any order and may include unknown ones, or
from an array that lists the fields in declaration order. A field that need not be given keeps the
value the record started with. The first fault in the text is the one that is reported.
-/

namespace GattPeripheral.Json

/-- One field of a record: how a value of it is read into the record. -/
structure FieldSpec (τ : Type) where
  name : String
  required : Bool
  read : τ → Reader τ

structure Shape (τ : Type) where
  name : String
  start : τ
  fields : List (FieldSpec τ)

namespace Reader

open Number (isDigit)

variable {α τ : Type}

/-- The rest of a word whose first letter has been read. -/
def word : List Char → Reader Unit
  | [] => pure ()
  | expected :: rest => do
      match ← peek with
      | none => fail .truncatedValue
      | some c =>
          if c = expected then
            skipOne
            word rest
          else failAhead .expectedWord

def unexpected (found expected : String) : Reader α :=
  mismatch ("invalid type: " ++ found ++ ", expected " ++ expected)

def wrongType (expected : String) : Reader α := do
  match ← peek with
  | some 'n' => do skipOne; word ['u', 'l', 'l']; unexpected "null" expected
  | some 't' => do skipOne; word ['r', 'u', 'e']; unexpected "boolean `true`" expected
  | some 'f' => do skipOne; word ['a', 'l', 's', 'e']; unexpected "boolean `false`" expected
  | some '-' => do skipOne; unexpected (← number true).description expected
  | some '"' => do skipOne; unexpected ("string " ++ Text.quoted (← text)) expected
  | some '[' => unexpected "sequence" expected
  | some '\x7b' => unexpected "map" expected
  | some c =>
      if isDigit c then do unexpected (← number false).description expected
      else failAhead .expectedValue
  | none => failAhead .expectedValue

def valueStart : Reader Char := do
  match ← peekValue with
  | some c => return c
  | none => failAhead .truncatedValue

def bool : Reader Bool := located do
  match ← valueStart with
  | 't' => do skipOne; word ['r', 'u', 'e']; return true
  | 'f' => do skipOne; word ['a', 'l', 's', 'e']; return false
  | _ => wrongType "a boolean"

def string : Reader String := located do
  match ← valueStart with
  | '"' => do skipOne; text
  | _ => wrongType "a string"

/-- A number as a value below `limit` of the named type. -/
def bounded (limit : Nat) (type : String) : Number → Reader Nat
  | .unsigned n =>
      if n < limit then return n
      else mismatch ("invalid value: integer `" ++ toString n ++ "`, expected " ++ type)
  | .signed n => mismatch ("invalid value: integer `" ++ toString n ++ "`, expected " ++ type)
  | .float x => unexpected (Number.float x).description type

def natural (limit : Nat) (type : String) : Reader Nat := located do
  match ← valueStart with
  | '-' => do skipOne; bounded limit type (← number true)
  | c => if isDigit c then do bounded limit type (← number false) else wrongType type

/-- A value or `null`. -/
def optional (r : Reader α) : Reader (Option α) := do
  match ← peekValue with
  | some 'n' => do skipOne; word ['u', 'l', 'l']; return none
  | _ => return some (← r)

/-! Values of unknown members -/

def skipFraction : Reader Unit := do
  if ← nextIs (· = '.') then
    skipOne
    if !(← nextIs isDigit) then failAhead .invalidNumber
    skipDigits

def skipExponentPart : Reader Unit := do
  if ← nextIs (fun c => c = 'e' || c = 'E') then
    skipOne
    let _ ← exponentSign
    if ← nextIs isDigit then skipDigits else failAhead .invalidNumber

def skipNumber : Reader Unit := do
  let digits ← digitsAhead
  match digits with
  | [] => failAhead .invalidNumber
  | '0' :: _ :: _ => do skipOne; failAhead .invalidNumber
  | _ => do
      skipDigits
      skipFraction
      skipExponentPart

/-- Passes over a value without parts and says so, or opens a list or an object. -/
def skipOpening : Reader (Option Char) := do
  match ← valueStart with
  | 'n' => do skipOne; word ['u', 'l', 'l']; return none
  | 't' => do skipOne; word ['r', 'u', 'e']; return none
  | 'f' => do skipOne; word ['a', 'l', 's', 'e']; return none
  | '-' => do skipOne; skipNumber; return none
  | '"' => do skipOne; skipText; return none
  | '[' => do skipOne; return some '['
  | '\x7b' => do skipOne; return some '\x7b'
  | c =>
      if isDigit c then do skipNumber; return none
      else failAhead .expectedValue

def closes (opening c : Char) : Bool :=
  (opening = '[' && c = ']') || (opening = '\x7b' && c = '\x7d')

def skipName : Reader Unit := do
  match ← peekValue with
  | none => failAhead .truncatedObject
  | some '"' => do
      skipOne
      skipText
      match ← peekValue with
      | none => failAhead .truncatedObject
      | some ':' => skipOne
      | some _ => failAhead .expectedColon
  | some _ => failAhead .keyNotString

/-- Goes on behind a value inside the open lists and objects, the innermost first, until the next value
starts or all are closed. `comma` says whether a comma may come. -/
def skipBetween (comma : Bool) : List Char → Reader (List Char)
  | [] => return []
  | opening :: outer => do
      match ← peekValue with
      | none => failAhead (if opening = '[' then .truncatedList else .truncatedObject)
      | some c =>
          if c = ',' && comma then
            skipOne
            if opening = '\x7b' then skipName
            return opening :: outer
          else if closes opening c then
            skipOne
            skipBetween true outer
          else if comma then
            failAhead (if opening = '[' then .expectedListEnd else .expectedObjectEnd)
          else
            if opening = '\x7b' then skipName
            return opening :: outer

/-- Passes over a value inside the given open lists and objects, and over the rest of these. -/
def skipValues : Nat → List Char → Reader Unit
  | 0, _ => failAhead .truncatedValue
  | fuel + 1, outer => do
      let opened ← skipOpening
      let left ←
        match opened with
        | none => skipBetween true outer
        | some c => skipBetween false (c :: outer)
      if left.isEmpty then return () else skipValues fuel left

def skipValue : Reader Unit := do skipValues (← measure) []

/-! Lists and objects -/

/-- Moves to the next item of a list; `false` at its end. -/
def nextItem (first : Bool) : Reader Bool := do
  match ← peekValue with
  | none => failAhead .truncatedList
  | some ']' => return false
  | some c =>
      if first then return true
      else if c = ',' then
        skipOne
        match ← peekValue with
        | none => failAhead .truncatedValue
        | some ']' => failAhead .trailingComma
        | some _ => return true
      else failAhead .expectedListEnd

/-- Moves to the next key of an object; `false` at its end. -/
def nextKey (first : Bool) : Reader Bool := do
  match ← peekValue with
  | none => failAhead .truncatedObject
  | some '\x7d' => return false
  | some c =>
      if first then
        if c = '"' then return true else failAhead .keyNotString
      else if c = ',' then
        skipOne
        match ← peekValue with
        | none => failAhead .truncatedValue
        | some '"' => return true
        | some '\x7d' => failAhead .trailingComma
        | some _ => failAhead .keyNotString
      else failAhead .expectedObjectEnd

def closeList : Reader Unit := do
  match ← peekValue with
  | none => failAhead .truncatedList
  | some ']' => skipOne
  | some ',' => do
      skipOne
      if (← peekValue) = some ']' then failAhead .trailingComma else failAhead .trailingCharacters
  | some _ => failAhead .trailingCharacters

def closeObject : Reader Unit := do
  match ← peekValue with
  | none => failAhead .truncatedObject
  | some '\x7d' => skipOne
  | some ',' => failAhead .trailingComma
  | some _ => failAhead .trailingCharacters

def colon : Reader Unit := do
  match ← peekValue with
  | none => failAhead .truncatedObject
  | some ':' => skipOne
  | some _ => failAhead .expectedColon

def items (r : Reader α) : Nat → Bool → Reader (List α)
  | 0, _ => failAhead .truncatedList
  | fuel + 1, first => do
      if ← nextItem first then
        let a ← r
        return a :: (← items r fuel false)
      else return []

def list (r : Reader α) : Reader (List α) := located do
  match ← valueStart with
  | '[' => do
      skipOne
      enclosed (do items r (← measure) true) closeList
  | _ => wrongType "a sequence"

/-- A number in quotes. -/
def numericKey (limit : Nat) (type : String) : Reader Nat := do
  skipOne
  if !(← nextIs fun c => isDigit c || c = '-') then fail .keyNotNumeric
  let n ← natural limit type
  if ← nextIs (· = '"') then
    skipOne
    return n
  else failAhead .expectedQuote

def entries (key : Reader α) (value : Reader τ) : Nat → Bool → Reader (List (α × τ))
  | 0, _ => failAhead .truncatedObject
  | fuel + 1, first => do
      if ← nextKey first then
        let k ← key
        colon
        let v ← value
        return (k, v) :: (← entries key value fuel false)
      else return []

def dict (key : Reader α) (value : Reader τ) : Reader (List (α × τ)) := located do
  match ← valueStart with
  | '\x7b' => do
      skipOne
      enclosed (do entries key value (← measure) true) closeObject
  | _ => wrongType "a map"

/-! Records -/

/-- Reads members until the end of the object: the record, and the names that were given. -/
def members (fields : List (FieldSpec τ)) : Nat → Bool → List String → τ → Reader (List String × τ)
  | 0, _, _, _ => failAhead .truncatedObject
  | fuel + 1, first, given, record => do
      if ← nextKey first then
        skipOne
        let key ← text
        match fields.find? (·.name == key) with
        | none => do
            colon
            skipValue
            members fields fuel false given record
        | some field =>
            if given.contains key then mismatch ("duplicate field `" ++ key ++ "`")
            else do
              colon
              let record ← field.read record
              members fields fuel false (key :: given) record
      else return (given, record)

/-- The record from an object's members; the first required field that is missing is a mismatch. -/
def recordFromObject (shape : Shape τ) : Reader τ := do
  let (given, record) ← members shape.fields (← measure) true [] shape.start
  match shape.fields.find? fun f => f.required && !given.contains f.name with
  | some f => mismatch ("missing field `" ++ f.name ++ "`")
  | none => return record

def plural (n : Nat) (noun : String) : String :=
  toString n ++ " " ++ noun ++ (if n = 1 then "" else "s")

/-- The record from the items of an array, in declaration order. -/
def recordFromList (shape : Shape τ) : Nat → Bool → List (FieldSpec τ) → τ → Reader τ
  | _, _, [], record => return record
  | index, first, field :: fields, record => do
      if ← nextItem first then
        recordFromList shape (index + 1) false fields (← field.read record)
      else if field.required then
        mismatch ("invalid length " ++ toString index ++ ", expected struct " ++ shape.name ++
          " with " ++ plural shape.fields.length "element")
      else recordFromList shape (index + 1) first fields record

def record (shape : Shape τ) : Reader τ := located do
  match ← valueStart with
  | '[' => do
      skipOne
      enclosed (recordFromList shape 0 true shape.fields shape.start) closeList
  | '\x7b' => do
      skipOne
      enclosed (recordFromObject shape) closeObject
  | _ => wrongType ("struct " ++ shape.name)

def document (r : Reader α) (s : String) : Except ReadError α :=
  ((do
    let a ← r
    match ← peekValue with
    | none => return a
    | some _ => failAhead .trailingCharacters : Reader α) (Cursor.start s)).1

end Reader
end GattPeripheral.Json
