import GattPeripheral.Bus.Channel
import GattPeripheral.Tree.Node

/-!
Reading, writing and notifying.

A stored value of a characteristic is sent to subscribers while it is both notifying and published.
The client configuration descriptor drives the notifications of its characteristic: a value with bit 0
or 1 set starts them and any other value stops them, before the value itself is stored. A write that is
refused leaves everything as it was.
-/

namespace GattPeripheral

variable {β : Type} [Transport β]

/-- A node at work, with the channel it sends on. -/
structure Active (ν β : Type) where
  node : ν
  channel : Channel β

abbrev Work (ν β : Type) : Type → Type := StateM (Active ν β)

namespace Work

variable {ν α : Type}

def onChannel (act : StateM (Channel β) α) : Work ν β α := fun a =>
  let (result, channel) := act a.channel
  (result, { a with channel := channel })

def modifyNode (f : ν → ν) : Work ν β Unit := modify fun a => { a with node := f a.node }

def node : Work ν β ν := return (← get).node

end Work

def emitOne (path : ObjectPath) (kind : ObjectKind) (name : String) (value : Property) :
    StateM (Channel β) Unit :=
  Channel.emit path kind.interface (.single name value)

namespace Characteristic

def emit (name : String) (value : Property) : Work Characteristic β Unit := do
  let c ← Work.node
  if c.published then Work.onChannel (emitOne c.path .characteristic name value)

def valueChanged : Work Characteristic β Unit := do
  let c ← Work.node
  if c.notifying then emit Names.value (.bytes c.value)

/-- Replaces the value; providers are not asked. -/
def setValue (bytes : Bytes) : Work Characteristic β Unit := do
  Work.modifyNode fun c => { c with value := bytes }
  valueChanged

/-- Sets the flag and tells client and observer. -/
def announce (notifying : Bool) : Work Characteristic β Unit := do
  Work.modifyNode fun c => { c with notifying := notifying }
  emit Names.notifying (.bool notifying)
  let c ← Work.node
  if c.observer.isSome then Work.onChannel (Channel.record (.observer c.identifier notifying))

def reactToStop : Work Characteristic β Unit := do
  match (← Work.node).observer with
  | some (.store value) => setValue value
  | _ => pure ()

def stopNotify : Work Characteristic β Unit := do
  if (← Work.node).notifying then
    announce false
    reactToStop

def reactToStart : Work Characteristic β Unit := do
  match (← Work.node).observer with
  | some (.store value) => setValue value
  | some .stop => stopNotify
  | _ => pure ()

def startNotify : Work Characteristic β (Except GattError Unit) := do
  let c ← Work.node
  if c.flags.notifies then
    if !c.notifying then
      announce true
      reactToStart
    return .ok ()
  else
    return .error (.notSupported
      ("characteristic " ++ c.identifier.dashed ++ " does not notify or indicate"))

/-- The provider's answer, or else the stored octets from the offset on. -/
def read (options : AccessOptions) : Work Characteristic β (Except GattError Bytes) := do
  let c ← Work.node
  match c.readProvider with
  | none => return .ok (Bytes.readAt c.value options.offset)
  | some provider =>
      Work.onChannel (Channel.record (.readProvider options))
      return (provider.reply options).outcome "characteristic read"

/-- Asks a write provider, if there is one. -/
def vet (provider : Option WriteProvider) (what : String) (bytes : Bytes) (options : AccessOptions) :
    Work Characteristic β (Except GattError Unit) := do
  match provider with
  | none => return .ok ()
  | some provider =>
      Work.onChannel (Channel.record (.writeProvider bytes options))
      return (provider.reply bytes options).outcome what

def write (bytes : Bytes) (options : AccessOptions) :
    Work Characteristic β (Except GattError Unit) := do
  let c ← Work.node
  match checkOffset options.offset with
  | .error e => return .error e
  | .ok () =>
      match ← vet c.writeProvider "characteristic write" bytes options with
      | .error e => return .error e
      | .ok () =>
          Work.modifyNode fun c => { c with value := Bytes.writeAt c.value options.offset bytes }
          valueChanged
          return .ok ()

/-! Descriptors, at their position in the characteristic -/

/-- Whether a client configuration value asks for notifications or indications. -/
def wantsNotifications (value : Bytes) : Bool := (value.head?.getD 0) &&& 3 != 0

def configure (value : Bytes) : Work Characteristic β (Except GattError Unit) := do
  if wantsNotifications value then startNotify
  else
    stopNotify
    return .ok ()

/-- What a store does before the value is kept; `owned` says whether the characteristic is alive. -/
def prepareStore (owned : Bool) (d : Descriptor) (next : Bytes) :
    Work Characteristic β (Except GattError Unit) :=
  if d.isClientConfiguration && owned then configure next else return .ok ()

/-- Keeps a descriptor's value, and sends it if it was replaced from the start. -/
def commit (position : Nat) (d : Descriptor) (next : Bytes) (offset : Nat) :
    Work Characteristic β Unit := do
  Work.modifyNode fun c =>
    { c with descriptors := c.descriptors.modify position fun d => { d with value := next } }
  if offset = 0 && d.published then
    Work.onChannel (emitOne d.path .descriptor Names.value (.bytes next))

def storeDescriptor (owned : Bool) (position : Nat) (bytes : Bytes) (offset : Nat) :
    Work Characteristic β (Except GattError Unit) := do
  match (← Work.node).descriptors[position]? with
  | none => return .ok ()
  | some d =>
      match checkOffset offset with
      | .error e => return .error e
      | .ok () =>
          let next := Bytes.writeAt d.value offset bytes
          match ← prepareStore owned d next with
          | .error e => return .error e
          | .ok () =>
              commit position d next offset
              return .ok ()

/-- Replaces the value of a descriptor; providers are not asked. -/
def setDescriptorValue (owned : Bool) (position : Nat) (bytes : Bytes) :
    Work Characteristic β (Except GattError Unit) :=
  storeDescriptor owned position bytes 0

def readDescriptor (position : Nat) (options : AccessOptions) :
    Work Characteristic β (Except GattError Bytes) := do
  match (← Work.node).descriptors[position]? with
  | none => return .ok []
  | some d =>
      match d.readProvider with
      | none => return .ok (Bytes.readAt d.value options.offset)
      | some provider =>
          Work.onChannel (Channel.record (.readProvider options))
          return (provider.reply options).outcome "descriptor read"

def writeDescriptor (owned : Bool) (position : Nat) (bytes : Bytes) (options : AccessOptions) :
    Work Characteristic β (Except GattError Unit) := do
  match (← Work.node).descriptors[position]? with
  | none => return .ok ()
  | some d =>
      match checkOffset options.offset with
      | .error e => return .error e
      | .ok () =>
          match ← vet d.writeProvider "descriptor write" bytes options with
          | .error e => return .error e
          | .ok () => storeDescriptor owned position bytes options.offset

end Characteristic
end GattPeripheral
