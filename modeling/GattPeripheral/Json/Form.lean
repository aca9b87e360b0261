import GattPeripheral.Bus.Error
import GattPeripheral.Dict
import GattPeripheral.Json.Value

/-!
JSON forms of values: writing a value as JSON, and reading it back from a document at hand.

Absent members and members that are `null` read alike where a member is optional.
-/

namespace GattPeripheral

/-- Why a document is not the form of a value. -/
inductive FormError where
  | missing (member : String)
  | expected (what : String)
  /-- A text at the place of an object path. -/
  | path (error : BusError)
  deriving DecidableEq, Repr

def FormError.message : FormError → String
  | missing member => "missing member " ++ member
  | expected what => "expected " ++ what
  | path error => error.message

abbrev Formed (α : Type) := Except FormError α

class ToJson (α : Type) where
  toJson : α → Json

export ToJson (toJson)

class OfJson (α : Type) where
  ofJson : Json → Formed α

export OfJson (ofJson)

namespace Json

def member? (name : String) : Json → Option Json
  | object members =>
      match members.lookup name with
      | none | some null => none
      | some j => some j
  | _ => none

def has (j : Json) (name : String) : Bool := (j.member? name).isSome

/-- The member with a name; it may be `null`. -/
def member (name : String) : Json → Formed Json
  | object members =>
      match members.lookup name with
      | some j => .ok j
      | none => .error (.missing name)
  | _ => .error (.expected "an object")

def members : Json → Formed (List (String × Json))
  | object members => .ok members
  | _ => .error (.expected "an object")

def items : Json → Formed (List Json)
  | array items => .ok items
  | _ => .error (.expected "a list")

variable {α : Type} [OfJson α]

def get (j : Json) (name : String) : Formed α := (j.member name).bind ofJson

def get? (j : Json) (name : String) : Formed (Option α) :=
  match j.member? name with
  | none => .ok none
  | some value => (ofJson value).map some

def getD (j : Json) (name : String) (fallback : α) : Formed α :=
  (j.get? name).map (·.getD fallback)

end Json

section Writing

variable {α : Type} [ToJson α]

instance : ToJson Json := ⟨id⟩
instance : ToJson Bool := ⟨.bool⟩
instance : ToJson Nat := ⟨.ofNat⟩
instance : ToJson Int := ⟨(.number · 0)⟩
instance : ToJson UInt16 := ⟨fun n => .ofNat n.toNat⟩
instance : ToJson String := ⟨.string⟩
instance : ToJson (Option α) := ⟨.ofOption toJson⟩
instance : ToJson (List α) := ⟨fun items => .array (items.map toJson)⟩
instance : ToJson Unit := ⟨fun _ => .null⟩

/-- Octets are written as hexadecimal digits. -/
instance : ToJson Bytes := ⟨fun bytes => .string (Text.encodeHex bytes)⟩

instance : ToJson (Dict String α) :=
  ⟨fun d => .object (d.toList.map fun e => (e.1, toJson e.2))⟩

/-- Entries whose keys are not texts are written as pairs. -/
def Json.pairs {κ : Type} [Ord κ] (key : κ → Json) (d : Dict κ α) : Json :=
  .array (d.toList.map fun e => .array [key e.1, toJson e.2])

end Writing

section Reading

variable {α : Type} [OfJson α]

instance : OfJson Json := ⟨.ok⟩

instance : OfJson Bool where
  ofJson
    | .bool b => .ok b
    | _ => .error (.expected "a boolean")

instance : OfJson Int where
  ofJson
    | .number n 0 => .ok n
    | _ => .error (.expected "an integer")

instance : OfJson Nat where
  ofJson
    | .number (.ofNat n) 0 => .ok n
    | _ => .error (.expected "a natural number")

instance : OfJson UInt8 := ⟨fun j => (ofJson j).map UInt8.ofNat⟩
instance : OfJson UInt16 := ⟨fun j => (ofJson j).map UInt16.ofNat⟩
instance : OfJson UInt32 := ⟨fun j => (ofJson j).map UInt32.ofNat⟩
instance : OfJson UInt64 := ⟨fun j => (ofJson j).map UInt64.ofNat⟩
instance : OfJson Int16 := ⟨fun j => (ofJson j).map Int16.ofInt⟩
instance : OfJson Int32 := ⟨fun j => (ofJson j).map Int32.ofInt⟩
instance : OfJson Int64 := ⟨fun j => (ofJson j).map Int64.ofInt⟩

instance : OfJson String where
  ofJson
    | .string s => .ok s
    | _ => .error (.expected "a text")

/-- Here `null` is a value of its own. -/
instance : OfJson (Option α) where
  ofJson
    | .null => .ok none
    | j => (ofJson j).map some

instance : OfJson (List α) := ⟨fun j => do (← j.items).mapM ofJson⟩

instance {τ : Type} [OfJson τ] : OfJson (α × τ) where
  ofJson
    | .array [a, t] => return (← ofJson a, ← ofJson t)
    | _ => .error (.expected "a pair")

instance : OfJson Bytes where
  ofJson j := do
    match Text.decodeHex (← ofJson j) with
    | .ok bytes => return bytes
    | .error _ => .error (.expected "hexadecimal digits")

/-- `null` stands for the empty dictionary. -/
instance : OfJson (Dict String α) where
  ofJson
    | .null => .ok .empty
    | j => do return .ofList (← (← j.members).mapM fun e => return (e.1, ← ofJson e.2))

end Reading
end GattPeripheral
