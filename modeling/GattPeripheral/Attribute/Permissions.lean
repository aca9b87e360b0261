import GattPeripheral.Error
import GattPeripheral.Text.Shown

/-!
Attribute permissions.
-/

namespace GattPeripheral

inductive Permission where
  | read
  | write
  | readEncrypted
  | writeEncrypted
  | readAuthenticated
  | writeAuthenticated
  deriving DecidableEq, Repr

namespace Permission

/-- The permissions from the lowest bit to the highest. -/
def all : List Permission :=
  [read, write, readEncrypted, writeEncrypted, readAuthenticated, writeAuthenticated]

def name : Permission → String
  | read => "read"
  | write => "write"
  | readEncrypted => "encrypt-read"
  | writeEncrypted => "encrypt-write"
  | readAuthenticated => "encrypt-authenticated-read"
  | writeAuthenticated => "encrypt-authenticated-write"

def label : Permission → String
  | read => "READ"
  | write => "WRITE"
  | readEncrypted => "READ_ENCRYPTED"
  | writeEncrypted => "WRITE_ENCRYPTED"
  | readAuthenticated => "READ_AUTHENTICATED"
  | writeAuthenticated => "WRITE_AUTHENTICATED"

def position (p : Permission) : Nat := p.ctorIdx

def ofName? (s : String) : Option Permission := all.find? (·.name == s)

end Permission

structure Permissions where
  bits : BitVec 6
  deriving DecidableEq, Repr, Inhabited

namespace Permissions

def empty : Permissions := ⟨0⟩

def contains (ps : Permissions) (p : Permission) : Bool := ps.bits.getLsbD p.position

def insert (ps : Permissions) (p : Permission) : Permissions :=
  ⟨ps.bits ||| BitVec.twoPow 6 p.position⟩

def ofList (ps : List Permission) : Permissions := ps.foldl insert empty

/-- Bits without a permission are dropped. -/
def ofBits (n : Nat) : Permissions := ⟨BitVec.ofNat 6 n⟩

def toList (ps : Permissions) : List Permission := Permission.all.filter ps.contains

def names (ps : Permissions) : List String := ps.toList.map Permission.name

/-- Combines a list of names and refuses the first unknown one. -/
def parse (names : List String) : Except GattError Permissions :=
  names.foldlM (fun ps name =>
    match Permission.ofName? name with
    | some p => .ok (ps.insert p)
    | none => .error (.unknownFlag name)) empty

def readWrite : Permissions := ofList [.read, .write]

def shown (ps : Permissions) : String :=
  Text.shownCall "Permissions"
    [if ps.toList.isEmpty then "0x0" else String.intercalate " | " (ps.toList.map Permission.label)]

end Permissions
end GattPeripheral
