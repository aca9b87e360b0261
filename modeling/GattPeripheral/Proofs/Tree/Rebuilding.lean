import GattPeripheral.Proofs.Tree.Descent

/-!
# The same calls on two trees

`Application.construct` carries out a list of calls that create nodes, each below what an earlier call gave. Two trees
that differ in the keys of their services only (`Renumbered`) take the same calls to two such trees; the nodes that the
calls give have the same numbers below their services (`Renumbered.construct`). The snapshot does not show keys.
-/

namespace GattPeripheral

/-- A call for a node. Children are created on the node that the call at position `parent` gave. -/
inductive Creation where
  | service (identifier : Identifier) (primary : Bool)
  | characteristic (parent : Nat) (identifier : Identifier) (flags : Flags) (permissions : Permissions)
  | descriptor (parent : Nat) (identifier : Identifier) (permissions : Permissions)

structure Construction where
  tree : Application
  /-- What the calls gave so far. -/
  nodes : List (Option NodeRef)

def Construction.give {α : Type} (result : Except GattError α × Application) (node : α → NodeRef) (b : Construction) :
    Construction := ⟨result.2, b.nodes ++ [result.1.toOption.map node]⟩

/-- A call on something that cannot have such a child does nothing. -/
def Creation.perform (creation : Creation) (b : Construction) : Construction :=
  match creation with
  | service identifier primary => b.give (b.tree.createService identifier primary) .service
  | characteristic parent identifier flags permissions =>
      match b.nodes[parent]? with
      | some (some (.service key)) =>
          b.give (b.tree.createCharacteristic key identifier flags permissions) (.characteristic key)
      | _ => { b with nodes := b.nodes ++ [none] }
  | descriptor parent identifier permissions =>
      match b.nodes[parent]? with
      | some (some (.characteristic key position)) =>
          b.give (b.tree.createDescriptor key position identifier permissions) (.descriptor key position)
      | _ => { b with nodes := b.nodes ++ [none] }

def Application.construct (calls : List Creation) (a : Application) : Construction :=
  calls.foldl (fun b call => call.perform b) ⟨a, []⟩

theorem Creation.perform_cases (call : Creation) (b : Construction) :
    (call.perform b).tree = b.tree ∨ ∃ edit : Edit, (call.perform b).tree = edit.apply b.tree := by
  cases call with
  | service identifier primary => exact .inr ⟨.service identifier primary, rfl⟩
  | characteristic parent identifier flags permissions =>
      simp only [perform]
      split
      next key _ => exact .inr ⟨.characteristic key identifier flags permissions, rfl⟩
      next => exact .inl rfl
  | descriptor parent identifier permissions =>
      simp only [perform]
      split
      next key position _ => exact .inr ⟨.descriptor key position identifier permissions, rfl⟩
      next => exact .inl rfl

theorem Application.Placed.construct {a : Application} (placed : a.Placed) (calls : List Creation) :
    (a.construct calls).tree.Placed := by
  suffices ∀ b : Construction, b.tree.Placed → (calls.foldl (fun b call => call.perform b) b).tree.Placed from
    this ⟨a, []⟩ placed
  induction calls with
  | nil => exact fun b placed => placed
  | cons call calls ih =>
      refine fun b placed => ih _ ?_
      rcases call.perform_cases b with same | ⟨edit, eq⟩
      · rwa [same]
      · rw [eq]
        exact edit.placed placed

/-! ## Other keys -/

def NodeRef.renumbered (offset : Nat) : NodeRef → NodeRef
  | service key => service (key + offset)
  | characteristic key position => characteristic (key + offset) position
  | descriptor key position index => descriptor (key + offset) position index
  | node => node

def Service.renumbered (offset : Nat) (s : Service) : Service := { s with key := s.key + offset }

theorem Service.createCharacteristic_renumbered (offset : Nat) (frozen : Bool) (identifier : Identifier) (flags : Flags)
    (permissions : Permissions) (s : Service) :
    (s.renumbered offset).createCharacteristic frozen identifier flags permissions =
      ((s.createCharacteristic frozen identifier flags permissions).1,
        (s.createCharacteristic frozen identifier flags permissions).2.renumbered offset) := by
  have found : (s.renumbered offset).findCharacteristic? identifier = s.findCharacteristic? identifier := rfl
  rw [createCharacteristic, createCharacteristic, found]
  cases s.findCharacteristic? identifier with
  | some position => rfl
  | none => cases frozen <;> rfl

namespace Application

/-- The second tree is the first one under other keys, beside services that were taken out of it before. -/
structure Renumbered (offset : Nat) (a b : Application) : Prop where
  path : b.path = a.path
  frozen : b.frozen = a.frozen
  services : b.services = a.services.map (Service.renumbered offset)
  nextKey : b.nextKey = a.nextKey + offset
  alone : a.removed = []
  earlier : ∀ s ∈ b.removed, s.key < offset

namespace Renumbered

variable {offset : Nat} {a b : Application} (alike : Renumbered offset a b)
include alike

theorem service? (key : Nat) : b.service? (key + offset) = (a.service? key).map (Service.renumbered offset) := by
  have keys : (fun s : Service => s.key == key + offset) ∘ Service.renumbered offset = fun s => s.key == key := by
    funext s
    simp [Service.renumbered]
  have beside : b.removed.find? (fun s => s.key == key + offset) = none := by
    rw [List.find?_eq_none]
    intro s member
    have := alike.earlier s member
    simp only [beq_iff_eq]
    omega
  rw [Application.service?, Application.service?, allServices, allServices, alike.alone, List.append_nil,
    List.find?_append, beside, Option.or_none, alike.services, List.find?_map, keys]

theorem characteristic? (key position : Nat) :
    b.characteristic? (key + offset) position = a.characteristic? key position := by
  rw [Application.characteristic?, Application.characteristic?, alike.service?, Option.bind_map]
  rfl

theorem modifyService {f g : Service → Service} (same : ∀ s, g (s.renumbered offset) = (f s).renumbered offset)
    (key : Nat) : Renumbered offset (a.modifyService key f) (b.modifyService (key + offset) g) where
  path := alike.path
  frozen := alike.frozen
  services := by
    simp only [Application.modifyService, alike.services, List.map_map]
    refine List.map_congr_left fun s _ => ?_
    have shifted : (s.renumbered offset).key = key + offset ↔ s.key = key := Nat.add_right_cancel_iff
    by_cases here : s.key = key
    · simp only [Function.comp_apply, if_pos here, if_pos (shifted.mpr here), same]
    · simp only [Function.comp_apply, if_neg here, if_neg (mt shifted.mp here)]
  nextKey := alike.nextKey
  alone := by simp [Application.modifyService, alike.alone]
  earlier := by
    simp only [Application.modifyService, List.forall_mem_map]
    intro s member
    have old := alike.earlier s member
    have elsewhere : s.key ≠ key + offset := by omega
    rwa [if_neg elsewhere]

theorem modifyCharacteristic (key position : Nat) (f : Characteristic → Characteristic) : Renumbered offset
    (a.modifyCharacteristic key position f) (b.modifyCharacteristic (key + offset) position f) := by
  refine alike.modifyService ?_ key
  exact fun _ => rfl

/-! ### One call -/

theorem addService (identifier : Identifier) (primary : Bool) :
    Renumbered offset (a.addService identifier primary) (b.addService identifier primary) where
  path := alike.path
  frozen := alike.frozen
  services := by
    have paths : (a.services.map (Service.renumbered offset)).map Service.path = a.services.map Service.path := by
      rw [List.map_map]
      rfl
    simp only [Application.addService, alike.path, alike.services, alike.nextKey, paths, List.map_append,
      List.map_cons, List.map_nil]
    rfl
  nextKey := by
    simp only [Application.addService, alike.nextKey]
    omega
  alone := alike.alone
  earlier := alike.earlier

theorem createService (identifier : Identifier) (primary : Bool) :
    (b.createService identifier primary).1 = (a.createService identifier primary).1.map (· + offset) ∧
      Renumbered offset (a.createService identifier primary).2 (b.createService identifier primary).2 := by
  have found : b.findService? identifier = (a.findService? identifier).map (Service.renumbered offset) := by
    rw [findService?, findService?, alike.services, List.find?_map]
    rfl
  rw [Application.createService, Application.createService, found, alike.frozen]
  cases a.findService? identifier with
  | some s => exact ⟨rfl, alike⟩
  | none =>
      cases a.frozen with
      | true => exact ⟨rfl, alike⟩
      | false => exact ⟨congrArg Except.ok alike.nextKey, alike.addService identifier primary⟩

theorem createCharacteristic (key : Nat) (identifier : Identifier) (flags : Flags) (permissions : Permissions) :
    (b.createCharacteristic (key + offset) identifier flags permissions).1 =
        (a.createCharacteristic key identifier flags permissions).1 ∧
      Renumbered offset (a.createCharacteristic key identifier flags permissions).2
        (b.createCharacteristic (key + offset) identifier flags permissions).2 := by
  rw [Application.createCharacteristic, Application.createCharacteristic, alike.service?, alike.frozen]
  cases a.service? key with
  | none => exact ⟨rfl, alike⟩
  | some s =>
      rw [Option.map_some]
      simp only [s.createCharacteristic_renumbered, true_and]
      refine alike.modifyService ?_ key
      exact fun _ => rfl

theorem createDescriptor (key position : Nat) (identifier : Identifier) (permissions : Permissions) :
    (b.createDescriptor (key + offset) position identifier permissions).1 =
        (a.createDescriptor key position identifier permissions).1 ∧
      Renumbered offset (a.createDescriptor key position identifier permissions).2
        (b.createDescriptor (key + offset) position identifier permissions).2 := by
  rw [Application.createDescriptor, Application.createDescriptor, alike.characteristic?, alike.frozen]
  cases a.characteristic? key position with
  | none => exact ⟨rfl, alike⟩
  | some c =>
      refine ⟨rfl, ?_⟩
      exact alike.modifyCharacteristic key position fun _ => (c.createDescriptor a.frozen identifier permissions).2

end Renumbered
end Application

/-! ## All calls -/

structure Construction.Renumbered (offset : Nat) (a b : Construction) : Prop where
  tree : a.tree.Renumbered offset b.tree
  nodes : b.nodes = a.nodes.map (Option.map (NodeRef.renumbered offset))

namespace Construction.Renumbered

variable {offset : Nat} {a b : Construction} (alike : Renumbered offset a b)
include alike

theorem give {α : Type} {result result' : Except GattError α × Application} {node node' : α → NodeRef}
    (tree : result.2.Renumbered offset result'.2)
    (gives : result'.1.toOption.map node' = (result.1.toOption.map node).map (NodeRef.renumbered offset)) :
    Renumbered offset (a.give result node) (b.give result' node') where
  tree := tree
  nodes := by simp only [Construction.give, alike.nodes, gives, List.map_append, List.map_cons, List.map_nil]

theorem skip : Renumbered offset { a with nodes := a.nodes ++ [none] } { b with nodes := b.nodes ++ [none] } where
  tree := alike.tree
  nodes := by simp [alike.nodes]

theorem perform (call : Creation) : Renumbered offset (call.perform a) (call.perform b) := by
  have parent (position : Nat) :
      b.nodes[position]? = a.nodes[position]?.map (Option.map (NodeRef.renumbered offset)) := by
    rw [alike.nodes, List.getElem?_map]
  cases call with
  | service identifier primary =>
      obtain ⟨result, tree⟩ := alike.tree.createService identifier primary
      refine alike.give tree ?_
      rw [result]
      cases (a.tree.createService identifier primary).1 <;> rfl
  | characteristic position identifier flags permissions =>
      simp only [Creation.perform, parent]
      match a.nodes[position]? with
      | some (some (.service key)) =>
          obtain ⟨result, tree⟩ := alike.tree.createCharacteristic key identifier flags permissions
          refine alike.give tree ?_
          rw [result, Option.map_map]
          rfl
      | some (some .application) | some (some (.characteristic ..)) | some (some (.descriptor ..))
      | some (some (.advertisement _)) | some none | none => exact alike.skip
  | descriptor position identifier permissions =>
      simp only [Creation.perform, parent]
      match a.nodes[position]? with
      | some (some (.characteristic key position)) =>
          obtain ⟨result, tree⟩ := alike.tree.createDescriptor key position identifier permissions
          refine alike.give tree ?_
          rw [result, Option.map_map]
          rfl
      | some (some .application) | some (some (.service _)) | some (some (.descriptor ..))
      | some (some (.advertisement _)) | some none | none => exact alike.skip

end Construction.Renumbered

namespace Application.Renumbered

variable {offset : Nat} {a b : Application}

theorem construct (alike : Renumbered offset a b) (calls : List Creation) :
    (a.construct calls).Renumbered offset (b.construct calls) := by
  suffices ∀ c d : Construction, c.Renumbered offset d → Construction.Renumbered offset
      (calls.foldl (fun b call => call.perform b) c) (calls.foldl (fun b call => call.perform b) d) from
    this _ _ ⟨alike, rfl⟩
  induction calls with
  | nil => exact fun c d alike => alike
  | cons call calls ih => exact fun c d alike => ih _ _ (alike.perform call)

theorem of_empty (placed : b.Placed) (empty : b.services = []) (unfrozen : b.frozen = false) :
    Renumbered b.nextKey (.new b.path) b where
  path := rfl
  frozen := unfrozen
  services := empty
  nextKey := (Nat.zero_add _).symm
  alone := rfl
  earlier s member := placed.below s (List.mem_append_right _ member)

theorem managedObjects_settled (alike : Renumbered offset a b) :
    b.settled.managedObjects = a.settled.managedObjects := by
  rw [managedObjects, managedObjects, settled, settled, alike.services]
  simp only [List.flatMap_map]
  rfl

end Application.Renumbered

/-! ## Trees with nothing left to add -/

namespace Application

variable {a b : Application}

theorem Subscribable.settled (complete : a.Subscribable) : a.settled = a := by
  have services : a.services.map Service.settle = a.services.map id :=
    List.map_congr_left fun s member => s.grown_settle.eq (complete s member)
  rw [Application.settled, services, List.map_id]

theorem Grown.managedObjects (grown : a.Grown b) (complete : b.Subscribable) :
    b.managedObjects = a.settled.managedObjects := by
  have shape := grown.shape_settled
  rw [complete.settled] at shape
  exact managedObjects_shape shape

end Application
end GattPeripheral
