import GattPeripheral.Proofs.Dict
import GattPeripheral.Proofs.Tree.Placement
import GattPeripheral.Tree.Snapshot
import Mathlib.Data.List.Perm.Basic

/-!
# The snapshot of a tree

The snapshot is a dictionary, so nodes that shared a path would hide one another.
`Application.Placed.keys_managedObjects`: in a placed tree its keys are the paths of the nodes, each
once. `Placed.shows_service`, `Placed.shows_characteristic` and `Placed.shows_descriptor` say which object
stands at each of them.
-/

namespace GattPeripheral

/-- The object has the interface of its kind and no other, with these among its properties. -/
def ManagedObjects.Shows (objects : ManagedObjects) (path : ObjectPath) (kind : ObjectKind)
    (known : List (String × Property)) : Prop :=
  ∃ properties : PropertyMap, (objects.get? path).map Dict.toList = some [(kind.interface, properties)] ∧
    ∀ e ∈ known, properties.get? e.1 = some e.2

/-! ## Keys -/

theorem Characteristic.entries_paths (c : Characteristic) : (c.entries.map Prod.fst).Perm c.paths := by
  have own : c.entries.map Prod.fst = c.path :: c.descriptors.flatMap fun d => [d.path] := by
    simp only [entries, objectEntry, List.map_cons, List.map_map, ← List.map_eq_flatMap]
    rfl
  rw [own]
  exact (List.perm_append_singleton _ _).symm

theorem Service.entries_paths (s : Service) : (s.entries.map Prod.fst).Perm s.paths := by
  have own : s.entries.map Prod.fst = s.path :: s.characteristics.flatMap fun c => c.entries.map Prod.fst := by
    simp only [entries, objectEntry, List.map_cons, List.map_flatMap]
  rw [own]
  have inner := List.Perm.flatMap_left s.characteristics fun c _ => c.entries_paths
  exact (inner.cons s.path).trans (List.perm_append_singleton _ _).symm

namespace Application

variable {a : Application}

theorem entries_paths (a : Application) : ((a.services.flatMap Service.entries).map Prod.fst).Perm a.paths := by
  rw [List.map_flatMap]
  exact List.Perm.flatMap_left a.services fun s _ => s.entries_paths

theorem Placed.distinct_entries (placed : a.Placed) : ((a.services.flatMap Service.entries).map Prod.fst).Nodup :=
  a.entries_paths.nodup_iff.mpr (List.nodup_append.mp placed.nodup.1).1

theorem Placed.keys_managedObjects (placed : a.Placed) : a.managedObjects.keys.Perm a.paths :=
  ((Dict.entries_ofList_perm placed.distinct_entries).map Prod.fst).trans a.entries_paths

theorem Placed.size_managedObjects (placed : a.Placed) : a.managedObjects.size = a.paths.length := by
  rw [← placed.keys_managedObjects.length_eq, Dict.keys, List.length_map, Dict.size]

/-! ## Objects -/

theorem Placed.shows (placed : a.Placed) {path : ObjectPath} {kind : ObjectKind}
    {listed known : List (String × Property)} (names : (listed.map Prod.fst).Nodup) (some : known ⊆ listed)
    (member : objectEntry path kind (.ofList listed) ∈ a.services.flatMap Service.entries) :
    a.managedObjects.Shows path kind known := by
  refine ⟨.ofList listed, ?_, fun e inside => Dict.get?_ofList_of_mem names (some inside)⟩
  rw [managedObjects, Dict.get?_ofList_of_mem placed.distinct_entries member]
  rfl

theorem Placed.shows_service (placed : a.Placed) {s : Service} (member : s ∈ a.services) :
    a.managedObjects.Shows s.path .service [(Names.uuid, .str s.identifier.dashed)] := by
  have entry : objectEntry s.path .service s.properties ∈ s.entries := List.mem_cons_self
  refine placed.shows ?_ ?_ (List.mem_flatMap.mpr ⟨s, member, entry⟩)
  · simp [Names.uuid, Names.primary]
  · simp

theorem Placed.shows_characteristic (placed : a.Placed) {s : Service} (member : s ∈ a.services)
    {c : Characteristic} (inside : c ∈ s.characteristics) :
    a.managedObjects.Shows c.path .characteristic
      [(Names.uuid, .str c.identifier.dashed), (Names.serviceProperty, .path s.path)] := by
  have entry : objectEntry c.path .characteristic c.properties ∈ s.entries :=
    List.mem_cons_of_mem _ (List.mem_flatMap.mpr ⟨c, inside, List.mem_cons_self⟩)
  rw [← (placed.inner s (List.mem_append_left _ member)).owned c inside]
  refine placed.shows ?_ ?_ (List.mem_flatMap.mpr ⟨s, member, entry⟩)
  · simp [Names.uuid, Names.serviceProperty, Names.flags]
  · simp

theorem Placed.shows_descriptor (placed : a.Placed) {s : Service} (member : s ∈ a.services)
    {c : Characteristic} (inside : c ∈ s.characteristics) {d : Descriptor} (below : d ∈ c.descriptors) :
    a.managedObjects.Shows d.path .descriptor
      [(Names.uuid, .str d.identifier.dashed), (Names.characteristicProperty, .path c.path)] := by
  have entry : objectEntry d.path .descriptor d.properties ∈ c.entries :=
    List.mem_cons_of_mem _ (List.mem_map.mpr ⟨d, below, rfl⟩)
  have entry : objectEntry d.path .descriptor d.properties ∈ s.entries :=
    List.mem_cons_of_mem _ (List.mem_flatMap.mpr ⟨c, inside, entry⟩)
  rw [← ((placed.inner s (List.mem_append_left _ member)).inner c inside).owned d below]
  refine placed.shows ?_ ?_ (List.mem_flatMap.mpr ⟨s, member, entry⟩)
  · simp [Names.uuid, Names.characteristicProperty, Names.flags]
  · simp

end Application
end GattPeripheral
