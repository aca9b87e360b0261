import GattPeripheral.Host.Transition

/-!
A session: a host together with the nodes that its user holds by name.

A name belongs to one kind of node. Holding a node keeps it alive, and giving a name to another node
lets the former one go.
-/

namespace GattPeripheral

structure Handle where
  name : String
  node : NodeRef
  deriving DecidableEq, Repr

def Handle.answersTo (kind : ObjectKind) (name : String) (h : Handle) : Bool :=
  h.node.kind == kind && h.name == name

structure Session (β : Type) where
  host : Host β
  handles : List Handle
  holdsApplication : Bool

namespace Session

variable {β : Type}

def ofHost (host : Host β) : Session β := ⟨host, [], true⟩

def node? (s : Session β) (kind : ObjectKind) (name : String) : Option NodeRef :=
  (s.handles.find? (Handle.answersTo kind name)).map Handle.node

def namesOf (s : Session β) (node : NodeRef) : List String :=
  ((s.handles.filter (·.node == node)).map Handle.name).mergeSort (· ≤ ·)

/-- Gives up a name, and tells whether there was a node under it. -/
def release (kind : ObjectKind) (name : String) (s : Session β) : Bool × Session β :=
  match s.node? kind name with
  | none => (false, s)
  | some node =>
      (true,
        { s with
          host := s.host.letGo node
          handles := s.handles.filter (!Handle.answersTo kind name ·) })

/-- Gives up the application; its state goes on as long as something else owns it. -/
def releaseApplication (s : Session β) : Bool × Session β :=
  if s.holdsApplication then
    (true, { s with host := s.host.letGo .application, holdsApplication := false })
  else (false, s)

def bind (name : String) (node : NodeRef) (s : Session β) : Session β :=
  let held := { s with host := s.host.hold node }
  let free := (held.release node.kind name).2
  { free with handles := free.handles ++ [⟨name, node⟩] }

/-- The node that owns a node of the tree, if it is alive. -/
def parent? (s : Session β) (node : NodeRef) : Option NodeRef :=
  let owner :=
    match node with
    | .characteristic key _ => some (NodeRef.service key)
    | .descriptor key position _ => some (NodeRef.characteristic key position)
    | _ => none
  owner.filter s.host.isAlive

inductive Standing where
  /-- The state of the application; `none` once it was given up. -/
  | application (state : Option ApplicationState)
  | peripheral (state : Option PeripheralState)
  | advertising (mode : AdvertisingMode)

def standing (held : Bool) (transition : Transition) (h : Host β) : Option AdvertisingMode → Standing
  | some mode => .advertising mode
  | none =>
      if transition.isOfPeripheral then .peripheral (h.peripheral.map Peripheral.state)
      else .application (if held then some h.application.state else none)

variable [Transport β]

/-- A transition and the standing after it. An application that was given up takes no steps. -/
def perform (held : Bool) (transition : Transition) :
    Routine (Host β) (Except GattError Standing) := do
  if transition.isOfApplication && !held then return .ok (.application none)
  else
    let outcome ← transition.routine
    let h ← Routine.read
    return outcome.map (standing held transition h)

end Session
end GattPeripheral
