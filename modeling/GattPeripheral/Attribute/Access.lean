import GattPeripheral.Error
import GattPeripheral.Property

/-!
Reads and writes at an offset.

A remote access comes with a dictionary of options, of which only entries of the expected type count.
A write at the start replaces the value; a write further on overlays it and fills a gap with zeros.
-/

namespace GattPeripheral

inductive WriteKind where
  | command
  | request
  | reliable
  deriving DecidableEq, Repr

def WriteKind.name : WriteKind → String
  | command => "command"
  | request => "request"
  | reliable => "reliable"

def WriteKind.ofName? : String → Option WriteKind
  | "command" => some command
  | "request" => some request
  | "reliable" => some reliable
  | _ => none

structure AccessOptions where
  offset : Nat
  /-- The device that the request came from. -/
  device : Option ObjectPath
  mtu : Option UInt16
  link : Option String
  writeKind : Option WriteKind
  prepareAuthorize : Bool
  deriving DecidableEq

namespace AccessOptions

def atOffset (offset : Nat) : AccessOptions := ⟨offset, none, none, none, none, false⟩

def narrow? (n : Nat) : Option UInt16 := if n < UInt16.size then some (UInt16.ofNat n) else none

/-- Takes over what one entry says. An entry of another type says no more than one that is missing. -/
def absorb (o : AccessOptions) (name : String) (value : Property) : AccessOptions :=
  match name with
  | "offset" =>
      match value.asNumber? with
      | some offset => { o with offset := offset }
      | none => o
  | "device" => { o with device := value.asPath? }
  | "mtu" => { o with mtu := value.asNumber?.bind narrow? }
  | "link" => { o with link := value.asStr? }
  | "type" => { o with writeKind := value.asStr?.bind WriteKind.ofName? }
  | "prepare-authorize" => { o with prepareAuthorize := value.asBool?.getD false }
  | _ => o

def ofMap (entries : PropertyMap) : AccessOptions :=
  entries.toList.foldl (fun o e => o.absorb e.1 e.2) (atOffset 0)

end AccessOptions

/-- The longest attribute value, and the largest offset. -/
def maxAttributeLength : Nat := 512

def checkOffset (offset : Nat) : Except GattError Unit :=
  if offset > maxAttributeLength then .error (.invalidOffset offset) else .ok ()

namespace Bytes

/-- The octets from `offset` on, none past the end. -/
def readAt (value : Bytes) (offset : Nat) : Bytes := value.drop offset

def writeAt (value : Bytes) (offset : Nat) (bytes : Bytes) : Bytes :=
  if offset = 0 then bytes
  else value.take offset ++ List.replicate (offset - value.length) 0 ++ bytes ++
    value.drop (offset + bytes.length)

end Bytes
end GattPeripheral
