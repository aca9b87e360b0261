import GattPeripheral.Error
import GattPeripheral.Text.Shown

/-!
Characteristic properties.

A set of properties is written as a list of names in bit order.
-/

namespace GattPeripheral

inductive Flag where
  | broadcast
  | read
  | writeWithoutResponse
  | write
  | notify
  | indicate
  | authenticatedSignedWrites
  | extendedProperties
  | reliableWrite
  | writableAuxiliaries
  | encryptRead
  | encryptWrite
  | encryptAuthenticatedRead
  | encryptAuthenticatedWrite
  deriving DecidableEq, Repr

namespace Flag

/-- The flags from the lowest bit to the highest. -/
def all : List Flag :=
  [broadcast, read, writeWithoutResponse, write, notify, indicate, authenticatedSignedWrites,
    extendedProperties, reliableWrite, writableAuxiliaries, encryptRead, encryptWrite,
    encryptAuthenticatedRead, encryptAuthenticatedWrite]

def name : Flag → String
  | broadcast => "broadcast"
  | read => "read"
  | writeWithoutResponse => "write-without-response"
  | write => "write"
  | notify => "notify"
  | indicate => "indicate"
  | authenticatedSignedWrites => "authenticated-signed-writes"
  | extendedProperties => "extended-properties"
  | reliableWrite => "reliable-write"
  | writableAuxiliaries => "writable-auxiliaries"
  | encryptRead => "encrypt-read"
  | encryptWrite => "encrypt-write"
  | encryptAuthenticatedRead => "encrypt-authenticated-read"
  | encryptAuthenticatedWrite => "encrypt-authenticated-write"

def label : Flag → String
  | broadcast => "BROADCAST"
  | read => "READ"
  | writeWithoutResponse => "WRITE_WITHOUT_RESPONSE"
  | write => "WRITE"
  | notify => "NOTIFY"
  | indicate => "INDICATE"
  | authenticatedSignedWrites => "AUTHENTICATED_SIGNED_WRITES"
  | extendedProperties => "EXTENDED_PROPERTIES"
  | reliableWrite => "RELIABLE_WRITE"
  | writableAuxiliaries => "WRITABLE_AUXILIARIES"
  | encryptRead => "ENCRYPT_READ"
  | encryptWrite => "ENCRYPT_WRITE"
  | encryptAuthenticatedRead => "ENCRYPT_AUTHENTICATED_READ"
  | encryptAuthenticatedWrite => "ENCRYPT_AUTHENTICATED_WRITE"

def position (f : Flag) : Nat := f.ctorIdx

def ofName? (s : String) : Option Flag := all.find? (·.name == s)

end Flag

structure Flags where
  bits : BitVec 14
  deriving DecidableEq, Repr, Inhabited

namespace Flags

def empty : Flags := ⟨0⟩

def contains (fs : Flags) (f : Flag) : Bool := fs.bits.getLsbD f.position

def insert (fs : Flags) (f : Flag) : Flags := ⟨fs.bits ||| BitVec.twoPow 14 f.position⟩

def ofList (fs : List Flag) : Flags := fs.foldl insert empty

/-- Bits without a flag are dropped. -/
def ofBits (n : Nat) : Flags := ⟨BitVec.ofNat 14 n⟩

def toList (fs : Flags) : List Flag := Flag.all.filter fs.contains

def names (fs : Flags) : List String := fs.toList.map Flag.name

/-- Combines a list of names and refuses the first unknown one. -/
def parse (names : List String) : Except GattError Flags :=
  names.foldlM (fun fs name =>
    match Flag.ofName? name with
    | some f => .ok (fs.insert f)
    | none => .error (.unknownFlag name)) empty

/-- Whether clients can subscribe to the value. -/
def notifies (fs : Flags) : Bool := fs.contains .notify || fs.contains .indicate

def shown (fs : Flags) : String :=
  Text.shownCall "CharacteristicFlags"
    [if fs.toList.isEmpty then "0x0" else String.intercalate " | " (fs.toList.map Flag.label)]

end Flags
end GattPeripheral
