import GattPeripheral.Bus.Channel
import GattPeripheral.Tree.Topology

/-!
Exporting the tree and taking it off the bus.

Exports go bottom-up, so that whatever a client can reach has all its children in place; removal goes
top-down. Either stops at the first failure and keeps what it did until then.
-/

namespace GattPeripheral

variable {β : Type} [Transport β]

/-- What a step of publication leaves: the node, and whether the bus agreed. -/
abbrev Stepped (ν : Type) := ν × Except BusError Unit

/-- Takes each node of a list through a step and stops after the first failure. Positions count from
`position`. -/
def publishEach {ν : Type} (step : Nat → ν → StateM (Channel β) (Stepped ν)) :
    Nat → List ν → StateM (Channel β) (Stepped (List ν))
  | _, [] => pure ([], .ok ())
  | position, x :: xs => do
      let (x', outcome) ← step position x
      match outcome with
      | .error e => pure (x' :: xs, .error e)
      | .ok () =>
          let (xs', outcome) ← publishEach step (position + 1) xs
          pure (x' :: xs', outcome)

namespace Descriptor

def publish (node : NodeRef) (d : Descriptor) : StateM (Channel β) (Stepped Descriptor) := do
  match ← Channel.exportNode d.path node with
  | .ok () => pure ({ d with published := true }, .ok ())
  | .error e => pure (d, .error e)

def unpublish (d : Descriptor) : StateM (Channel β) (Stepped Descriptor) := do
  let outcome ← Channel.unexportNode d.path .descriptor
  pure ({ d with published := false }, outcome)

end Descriptor

namespace Characteristic

/-- A characteristic that clients can subscribe to has a client configuration descriptor. -/
def withClientConfiguration (c : Characteristic) : Characteristic :=
  if c.flags.notifies && (c.findDescriptor? .clientConfiguration).isNone then
    c.addDescriptor .clientConfiguration .readWrite
  else c

def publish (service position : Nat) (c : Characteristic) : StateM (Channel β) (Stepped Characteristic) := do
  let c := c.withClientConfiguration
  let (ds, outcome) ←
    publishEach (fun i d => d.publish (.descriptor service position i)) 0 c.descriptors
  let c := { c with descriptors := ds }
  match outcome with
  | .error e => pure (c, .error e)
  | .ok () =>
      match ← Channel.exportNode c.path (.characteristic service position) with
      | .ok () => pure ({ c with published := true }, .ok ())
      | .error e => pure (c, .error e)

def unpublish (c : Characteristic) : StateM (Channel β) (Stepped Characteristic) := do
  let c := { c with published := false }
  match ← Channel.unexportNode c.path .characteristic with
  | .error e => pure (c, .error e)
  | .ok () =>
      let (ds, outcome) ← publishEach (fun _ d => d.unpublish) 0 c.descriptors
      pure ({ c with descriptors := ds }, outcome)

end Characteristic

namespace Service

def publish (s : Service) : StateM (Channel β) (Stepped Service) := do
  let (cs, outcome) ← publishEach (fun i c => c.publish s.key i) 0 s.characteristics
  let s := { s with characteristics := cs }
  match outcome with
  | .error e => pure (s, .error e)
  | .ok () =>
      match ← Channel.exportNode s.path (.service s.key) with
      | .ok () => pure ({ s with published := true }, .ok ())
      | .error e => pure (s, .error e)

def unpublish (s : Service) : StateM (Channel β) (Stepped Service) := do
  let s := { s with published := false }
  match ← Channel.unexportNode s.path .service with
  | .error e => pure (s, .error e)
  | .ok () =>
      let (cs, outcome) ← publishEach (fun _ c => c.unpublish) 0 s.characteristics
      pure ({ s with characteristics := cs }, outcome)

end Service

namespace Application

def exportTree (a : Application) : StateM (Channel β) (Stepped Application) := do
  let (ss, outcome) ← publishEach (fun _ s => s.publish) 0 a.services
  let a := { a with services := ss }
  match outcome with
  | .error e => pure (a, .error e)
  | .ok () => pure (a, ← Channel.exportNode a.path .application)

/-- The tree is frozen before the first export, and thawed again if a tree that was not published
fails to become so. -/
def publish (a : Application) : StateM (Channel β) (Application × Except GattError Unit) := do
  if a.isRegistered then
    pure (a, .error
      (.invalidState "application is registered; unregister before publishing"))
  else
    let (a, outcome) ← exportTree { a with frozen := true }
    match outcome with
    | .ok () => pure ({ a with state := .published }, .ok ())
    | .error e =>
        pure (if a.state = .unpublished then { a with frozen := false } else a, .error (.bus e))

def withdraw (a : Application) : StateM (Channel β) (Application × Except GattError Unit) := do
  match ← Channel.unexportNode a.path .application with
  | .error e => pure (a, .error (.bus e))
  | .ok () =>
      let (ss, outcome) ← publishEach (fun _ s => s.unpublish) 0 a.services
      let a := { a with services := ss }
      match outcome with
      | .error e => pure (a, .error (.bus e))
      | .ok () => pure ({ a with state := .unpublished, frozen := false }, .ok ())

end Application
end GattPeripheral
