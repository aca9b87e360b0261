import GattPeripheral.Proofs.Path.Reading
import GattPeripheral.Proofs.Profile.Entries
import GattPeripheral.Proofs.Profile.Merging
import GattPeripheral.Proofs.Tree.Recording

/-!
# The tree of a list of entries

All entries with one identifier share a node: it has the shape of the first of them and the value of the last, and what
stands below any of them stands below it. `Profile.described` is the whole tree. `Profile.Acceptable` is what a
configuration must satisfy for the tree to be built.
-/

namespace GattPeripheral

open Profile

theorem Identifier.clientConfiguration_bits :
    clientConfiguration.bits = 0x0000290200001000800000805f9b34fb#128 := by decide

namespace DescriptorEntry

/-- The node at a position below its parent, of all entries that share it. -/
def node (parent : ObjectPath) (position : Nat) (first : DescriptorEntry) (group : List DescriptorEntry) :
    Descriptor where
  identifier := first.identifier
  path := parent.push (Element.desc.numbered position)
  characteristicPath := parent
  permissions := first.permissions
  value := (group.map value).getLastD []
  published := false
  readProvider := none
  writeProvider := none

def isConfiguration (d : DescriptorEntry) : Bool := d.identifier.bits == 0x0000290200001000800000805f9b34fb#128

def Asks (d : DescriptorEntry) : Prop := d.isConfiguration = true ∧ d.value.Subscribes

def Granted (flags : Flags) (d : DescriptorEntry) : Prop :=
  d.Asks → flags.contains .notify = true ∨ flags.contains .indicate = true

def AllGranted (flags : Flags) (ds : List DescriptorEntry) : Prop := ∀ d ∈ ds, d.Granted flags

theorem AllGranted.shrinks (flags : Flags) (ds : List DescriptorEntry) (d : DescriptorEntry)
    (granted : AllGranted flags (ds ++ [d])) : AllGranted flags ds := (List.forall_mem_append.mp granted).1

theorem allGranted_concat {flags : Flags} {ds : List DescriptorEntry} {d : DescriptorEntry} :
    AllGranted flags (ds ++ [d]) ↔ AllGranted flags ds ∧ d.Granted flags := by
  rw [AllGranted, List.forall_mem_append, List.forall_mem_singleton, AllGranted]

/-- The value that the client configuration among the descriptors is left with. -/
def configuration (ds : List DescriptorEntry) : Bytes := ((ds.filter isConfiguration).map value).getLastD []

theorem configuration_concat (ds : List DescriptorEntry) (d : DescriptorEntry) :
    configuration (ds ++ [d]) = if d.isConfiguration then d.value else configuration ds := by
  rw [configuration, List.filter_append, List.filter_singleton, List.map_append]
  cases d.isConfiguration with
  | true => exact List.getLastD_concat
  | false =>
      rw [Bool.cond_false, List.map_nil, List.append_nil]
      rfl

end DescriptorEntry

namespace CharacteristicEntry

def node (parent : ObjectPath) (position : Nat) (first : CharacteristicEntry) (group : List CharacteristicEntry) :
    Characteristic where
  identifier := first.identifier
  path := parent.push (Element.char.numbered position)
  servicePath := parent
  flags := first.flags
  permissions := first.permissions
  value := (group.map value).getLastD []
  notifying := decide (DescriptorEntry.configuration (group.flatMap descriptors)).Subscribes
  published := false
  readProvider := none
  writeProvider := none
  observer := none
  descriptors := merged DescriptorEntry.identifier (DescriptorEntry.node (parent.push (Element.char.numbered position)))
    (group.flatMap descriptors)

def Granted (first : CharacteristicEntry) (group : List CharacteristicEntry) : Prop :=
  DescriptorEntry.AllGranted first.flags (group.flatMap descriptors)

theorem Granted.shrinks (first : CharacteristicEntry) (group : List CharacteristicEntry) (e : CharacteristicEntry)
    (granted : first.Granted (group ++ [e])) : first.Granted group := by
  rw [Granted, List.flatMap_append] at granted
  exact of_append (DescriptorEntry.AllGranted.shrinks first.flags) granted

def AllGranted (es : List CharacteristicEntry) : Prop := EachNode identifier Granted es

end CharacteristicEntry

namespace ServiceEntry

def node (root : ObjectPath) (position : Nat) (first : ServiceEntry) (group : List ServiceEntry) : Service where
  key := position
  identifier := first.identifier
  path := root.push (Element.service.numbered position)
  primary := first.primary
  published := false
  characteristics := merged CharacteristicEntry.identifier
    (CharacteristicEntry.node (root.push (Element.service.numbered position))) (group.flatMap characteristics)

def Granted (_ : ServiceEntry) (group : List ServiceEntry) : Prop :=
  CharacteristicEntry.AllGranted (group.flatMap characteristics)

theorem Granted.shrinks (first : ServiceEntry) (group : List ServiceEntry) (e : ServiceEntry)
    (granted : first.Granted (group ++ [e])) : first.Granted group := by
  rw [Granted, List.flatMap_append] at granted
  exact of_append (EachNode.shrinks CharacteristicEntry.Granted.shrinks) granted

def AllGranted (es : List ServiceEntry) : Prop := EachNode identifier Granted es

end ServiceEntry

def Application.holding (root : ObjectPath) (services : List Service) : Application where
  path := root
  state := .unpublished
  frozen := false
  services := services
  removed := []
  nextKey := services.length

namespace Profile

def described (root : ObjectPath) (es : List ServiceEntry) : Application :=
  .holding root (merged ServiceEntry.identifier (ServiceEntry.node root) es)

theorem exists_of_mem_merged {η ν : Type} {identifier : η → Identifier} {make : Nat → η → List η → ν} {es : List η}
    {x : ν} (member : x ∈ merged identifier make es) : ∃ position first group, x = make position first group := by
  obtain ⟨position, -, rfl⟩ := List.mem_mapIdx.mp member
  exact ⟨position, _, _, rfl⟩

theorem placed_characteristicNode (parent : ObjectPath) (position : Nat) (first : CharacteristicEntry)
    (group : List CharacteristicEntry) : (CharacteristicEntry.node parent position first group).Placed where
  siblings := siblings_merged (DescriptorEntry.node _) Descriptor.identifier (fun _ _ _ => rfl) (fun _ _ _ => rfl) _
  owned d member := by
    obtain ⟨position, first, group, rfl⟩ := exists_of_mem_merged member
    rfl

theorem placed_serviceNode (root : ObjectPath) (position : Nat) (first : ServiceEntry) (group : List ServiceEntry) :
    (ServiceEntry.node root position first group).Placed where
  siblings :=
    siblings_merged (CharacteristicEntry.node _) Characteristic.identifier (fun _ _ _ => rfl) (fun _ _ _ => rfl) _
  owned c member := by
    obtain ⟨position, first, group, rfl⟩ := exists_of_mem_merged member
    rfl
  inner c member := by
    obtain ⟨position, first, group, rfl⟩ := exists_of_mem_merged member
    exact placed_characteristicNode _ position first group

theorem allServices_described (root : ObjectPath) (es : List ServiceEntry) :
    (described root es).allServices = merged ServiceEntry.identifier (ServiceEntry.node root) es := List.append_nil _

theorem keys_described (root : ObjectPath) (es : List ServiceEntry) :
    (described root es).allServices.map Service.key = List.range (described root es).services.length := by
  rw [allServices_described]
  apply List.ext_getElem
  · rw [List.length_map, List.length_range]
    rfl
  · intro i _ _
    simp only [merged, List.getElem_map, List.getElem_mapIdx, List.getElem_range]
    rfl

theorem placed_described (root : ObjectPath) (es : List ServiceEntry) : (described root es).Placed where
  siblings := siblings_merged (ServiceEntry.node root) Service.identifier (fun _ _ _ => rfl) (fun _ _ _ => rfl) es
  inner s member := by
    obtain ⟨position, first, group, rfl⟩ := exists_of_mem_merged (allServices_described root es ▸ member)
    exact placed_serviceNode root position first group
  keys := keys_described root es ▸ List.nodup_range
  below s member := by
    have key := List.mem_map_of_mem (f := Service.key) member
    rw [keys_described] at key
    exact List.mem_range.mp key

/-- All texts can be read, and no characteristic is asked for notifications that its first entry does not grant. -/
@[mk_iff]
structure Acceptable (c : Config) : Prop where
  path : ObjectPath.IsPathText c.applicationPath
  legible : ∀ s ∈ c.services, s.Legible
  granted : ∀ es, List.Forall₂ ServiceConfig.Means c.services es → ServiceEntry.AllGranted es

end Profile
end GattPeripheral
