import GattPeripheral.Tree.Node

/-!
The shape of the tree: finding, adding and removing nodes.

Siblings are told apart by their identifiers: creating a node whose identifier a sibling has gives that
sibling back unchanged. A new node takes the least number that no sibling's path uses. While the tree
is frozen nothing can be added.
-/

namespace GattPeripheral

def Element.service : Element := ⟨"service", by decide +kernel⟩
def Element.char : Element := ⟨"char", by decide +kernel⟩
def Element.desc : Element := ⟨"desc", by decide +kernel⟩

namespace Characteristic

def findDescriptor? (c : Characteristic) (identifier : Identifier) : Option Nat :=
  c.descriptors.findIdx? (·.identifier == identifier)

/-- Adds a descriptor whether or not the tree is frozen. -/
def addDescriptor (c : Characteristic) (identifier : Identifier) (permissions : Permissions) :
    Characteristic :=
  let path := c.path.freeChild .desc (c.descriptors.map Descriptor.path)
  { c with descriptors := c.descriptors ++ [.new identifier path c.path permissions] }

/-- The position of the descriptor with this identifier, which is created if need be. -/
def createDescriptor (frozen : Bool) (identifier : Identifier) (permissions : Permissions)
    (c : Characteristic) : Except GattError Nat × Characteristic :=
  match c.findDescriptor? identifier with
  | some position => (.ok position, c)
  | none =>
      if frozen then (.error .topologyFrozen, c)
      else (.ok c.descriptors.length, c.addDescriptor identifier permissions)

end Characteristic

namespace Service

def findCharacteristic? (s : Service) (identifier : Identifier) : Option Nat :=
  s.characteristics.findIdx? (·.identifier == identifier)

def addCharacteristic (s : Service) (identifier : Identifier) (flags : Flags)
    (permissions : Permissions) : Service :=
  let path := s.path.freeChild .char (s.characteristics.map Characteristic.path)
  { s with characteristics := s.characteristics ++ [.new identifier path s.path flags permissions] }

def createCharacteristic (frozen : Bool) (identifier : Identifier) (flags : Flags)
    (permissions : Permissions) (s : Service) : Except GattError Nat × Service :=
  match s.findCharacteristic? identifier with
  | some position => (.ok position, s)
  | none =>
      if frozen then (.error .topologyFrozen, s)
      else (.ok s.characteristics.length, s.addCharacteristic identifier flags permissions)

end Service

namespace Application

def findService? (a : Application) (identifier : Identifier) : Option Service :=
  a.services.find? (·.identifier == identifier)

def addService (a : Application) (identifier : Identifier) (primary : Bool) : Application :=
  let path := a.path.freeChild .service (a.services.map Service.path)
  { a with
    services := a.services ++ [.new a.nextKey identifier path primary]
    nextKey := a.nextKey + 1 }

def createService (identifier : Identifier) (primary : Bool) (a : Application) :
    Except GattError Nat × Application :=
  match a.findService? identifier with
  | some s => (.ok s.key, a)
  | none =>
      if a.frozen then (.error .topologyFrozen, a)
      else (.ok a.nextKey, a.addService identifier primary)

/-- Adds a characteristic to a service of the application, in the tree or beside it. -/
def createCharacteristic (key : Nat) (identifier : Identifier) (flags : Flags)
    (permissions : Permissions) (a : Application) : Except GattError Nat × Application :=
  match a.service? key with
  | none => (.error (.invalidState "no such service"), a)
  | some s =>
      let (outcome, s') := s.createCharacteristic a.frozen identifier flags permissions
      (outcome, a.modifyService key fun _ => s')

def createDescriptor (key position : Nat) (identifier : Identifier) (permissions : Permissions)
    (a : Application) : Except GattError Nat × Application :=
  match a.characteristic? key position with
  | none => (.error (.invalidState "no such characteristic"), a)
  | some c =>
      let (outcome, c') := c.createDescriptor a.frozen identifier permissions
      (outcome, a.modifyCharacteristic key position fun _ => c')

/-- Takes a service out of a tree that nothing is exported from. -/
def removeService (identifier : Identifier) (a : Application) :
    Except GattError (Option Service) × Application :=
  if a.state = .unpublished then
    match a.findService? identifier with
    | none => (.ok none, a)
    | some s =>
        (.ok (some s),
          { a with
            services := a.services.filter (·.key != s.key)
            removed := a.removed ++ [s] })
  else (.error (.invalidState ("cannot remove a service while " ++ a.state.name)), a)

end Application
end GattPeripheral
