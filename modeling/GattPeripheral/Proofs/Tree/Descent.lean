import GattPeripheral.Proofs.Tree.Frozen
import GattPeripheral.Proofs.Tree.Order
import Mathlib.Logic.Relation

/-!
# Parents and children

`Application.HasChild` relates the paths of two nodes of a tree, `Below` that of a node to those of its
descendants. Children stand before their parents in `bottomUp` and behind them in `topDown`. What a node has below
it in the settled tree does not change with what a publication adds: `Grown.hasChild`.
-/

namespace GattPeripheral

section Lists
variable {ν α : Type}

theorem mem_prefix_of_sublist {x y : α} {front xs : List α} (distinct : xs.Nodup)
    (order : [x, y].Sublist xs) (before : front <+: xs) (member : y ∈ front) : x ∈ front := by
  obtain ⟨back, rfl⟩ := before
  obtain ⟨first, second, split, inFront, inBack⟩ := List.sublist_append_iff.mp order
  cases first with
  | nil =>
      obtain rfl : [x, y] = second := split
      have later : y ∈ back := inBack.subset (List.mem_cons_of_mem x (List.mem_singleton_self y))
      exact absurd rfl ((List.nodup_append.mp distinct).2.2 y member y later)
  | cons x' first =>
      obtain ⟨rfl, -⟩ := List.cons.inj split
      exact inFront.subset List.mem_cons_self

theorem exists_of_map_eq {f : ν → α} {xs ys : List ν} (same : ys.map f = xs.map f) {x : ν} (member : x ∈ xs) :
    ∃ y ∈ ys, f y = f x := List.mem_map.mp (same ▸ List.mem_map_of_mem member)

theorem sublist_flatMap (f : ν → List α) {xs : List ν} {x : ν} (member : x ∈ xs) :
    (f x).Sublist (xs.flatMap f) := List.sublist_flatten_of_mem (List.mem_map_of_mem member)

theorem sublist_singleton_flatMap {f : ν → List α} {xs : List ν} {x : ν} {y : α} (inside : y ∈ f x)
    (member : x ∈ xs) : [y].Sublist (xs.flatMap f) :=
  List.singleton_sublist.mpr (List.mem_flatMap.mpr ⟨x, member, inside⟩)

end Lists

namespace Application

inductive HasChild (a : Application) : ObjectPath → ObjectPath → Prop
  | service {s : Service} (tree : s ∈ a.services) : HasChild a a.path s.path
  | characteristic {s : Service} {c : Characteristic} (tree : s ∈ a.services) (inside : c ∈ s.characteristics) :
      HasChild a s.path c.path
  | descriptor {s : Service} {c : Characteristic} {d : Descriptor} (tree : s ∈ a.services)
      (inside : c ∈ s.characteristics) (below : d ∈ c.descriptors) : HasChild a c.path d.path

abbrev Below (a : Application) : ObjectPath → ObjectPath → Prop := Relation.TransGen a.HasChild

variable {a b : Application} {p q : ObjectPath}

theorem Below.of_children {P : ObjectPath → Prop} (children : ∀ p q, a.HasChild p q → P p → P q)
    (below : a.Below p q) (holds : P p) : P q := by
  induction below with
  | single child => exact children _ _ child holds
  | tail _ child ih => exact children _ _ child ih

/-! ## Order -/

theorem HasChild.bottomUp (child : a.HasChild p q) : [q, p].Sublist (a.bottomUp.map Prod.fst) := by
  rw [map_fst_bottomUp, paths]
  -- Paths come in the order of the nodes, a family ending with the parent.
  cases child with
  | @service s tree =>
      have own : s.path ∈ s.paths := List.mem_append_right _ (List.mem_singleton_self _)
      exact (sublist_singleton_flatMap own tree).append_right [a.path]
  | @characteristic s c tree inside =>
      have own : c.path ∈ c.paths := List.mem_append_right _ (List.mem_singleton_self _)
      have family : [c.path, s.path].Sublist s.paths := (sublist_singleton_flatMap own inside).append_right [s.path]
      exact (family.trans (sublist_flatMap _ tree)).trans (List.sublist_append_left _ _)
  | @descriptor s c d tree inside below =>
      have own : [d.path].Sublist (c.descriptors.flatMap fun d => [d.path]) :=
        sublist_flatMap (fun d => [d.path]) below
      have family : [d.path, c.path].Sublist c.paths := own.append_right [c.path]
      have families : c.paths.Sublist s.paths := (sublist_flatMap _ inside).trans (List.sublist_append_left _ _)
      exact ((family.trans families).trans (sublist_flatMap _ tree)).trans (List.sublist_append_left _ _)

theorem HasChild.topDown (child : a.HasChild p q) : [p, q].Sublist (a.topDown.map Prod.fst) := by
  simp only [Application.topDown, Service.topDown, Characteristic.topDown, List.map_cons, List.map_flatMap,
    List.map_nil]
  -- Here a family starts with the parent.
  cases child with
  | service tree => exact .cons_cons _ (sublist_singleton_flatMap List.mem_cons_self tree)
  | characteristic tree inside =>
      refine .cons _ (.trans ?_ (sublist_flatMap _ tree))
      exact .cons_cons _ (sublist_singleton_flatMap List.mem_cons_self inside)
  | descriptor tree inside below =>
      refine .cons _ (.trans ?_ (sublist_flatMap _ tree))
      refine .cons _ (.trans ?_ (sublist_flatMap _ inside))
      exact .cons_cons _ (sublist_flatMap (fun d : Descriptor => [d.path]) below)

theorem Placed.nodup_bottomUp (placed : a.Placed) : (a.bottomUp.map Prod.fst).Nodup := by
  rw [map_fst_bottomUp]
  exact placed.nodup.1

end Application

theorem Characteristic.perm_topDown (c : Characteristic) : (c.topDown.map Prod.fst).Perm c.paths := by
  simp only [topDown, List.map_cons, List.map_flatMap, List.map_nil]
  exact (List.perm_append_singleton _ _).symm

theorem Service.perm_topDown (s : Service) : (s.topDown.map Prod.fst).Perm s.paths := by
  rw [topDown, List.map_cons, List.map_flatMap]
  refine .trans (.cons _ ?_) (List.perm_append_singleton _ _).symm
  exact .flatMap_left _ fun c _ => c.perm_topDown

namespace Application

theorem perm_topDown (a : Application) : (a.topDown.map Prod.fst).Perm (a.paths ++ [a.path]) := by
  rw [topDown, List.map_cons, List.map_flatMap]
  refine .trans (.cons _ ?_) (List.perm_append_singleton _ _).symm
  exact .flatMap_left _ fun s _ => s.perm_topDown

variable {a b : Application} {p q : ObjectPath}

theorem Placed.nodup_topDown (placed : a.Placed) : (a.topDown.map Prod.fst).Nodup :=
  a.perm_topDown.nodup_iff.mpr placed.nodup.1

end Application

/-! ## Settled trees -/

theorem Characteristic.withClientConfiguration_twice (c : Characteristic) :
    c.withClientConfiguration.withClientConfiguration = c.withClientConfiguration := by
  rcases c.withClientConfiguration_cases with ⟨same, -⟩ | ⟨-, -, added⟩
  · rw [same, same]
  · rcases c.withClientConfiguration.withClientConfiguration_cases with ⟨same, -⟩ | ⟨-, new, -⟩
    · exact same
    · rw [added, findDescriptor?, List.findIdx?_eq_none_iff] at new
      cases new _ (List.mem_append_right _ (List.mem_singleton_self _))

theorem Characteristic.shape_addDescriptor (c : Characteristic) (identifier : Identifier) (permissions : Permissions) :
    (c.addDescriptor identifier permissions).outline.blank = c.outline.blank.addDescriptor identifier permissions := by
  simp only [addDescriptor, outline, blank, List.map_append, List.map_map, List.map_cons, List.map_nil]
  rfl

theorem Characteristic.shape_withClientConfiguration (c : Characteristic) :
    c.withClientConfiguration.outline.blank = c.outline.blank.withClientConfiguration := by
  have found : c.outline.blank.findDescriptor? .clientConfiguration = c.findDescriptor? .clientConfiguration := by
    simp only [findDescriptor?, outline, blank, List.findIdx?_map]
    rfl
  rw [withClientConfiguration, withClientConfiguration, found, ← shape_addDescriptor]
  exact apply_ite (fun c : Characteristic => c.outline.blank) _ _ _

theorem Characteristic.path_withClientConfiguration (c : Characteristic) : c.withClientConfiguration.path = c.path :=
  (Grown.standsFor (.inr rfl)).path

theorem Characteristic.descriptors_withClientConfiguration (c : Characteristic) :
    c.descriptors ⊆ c.withClientConfiguration.descriptors := by
  rcases c.withClientConfiguration_cases with ⟨same, -⟩ | ⟨-, -, added⟩
  · rw [same]
    exact List.Subset.refl _
  · rw [added]
    exact List.subset_append_left _ _

namespace Service

theorem grown_settle (s : Service) : s.Grown s.settle := ⟨rfl, forall₂_map fun _ _ => .inr rfl⟩

theorem Grown.settle {s t : Service} (grown : s.Grown t) : t.settle = s.settle := by
  rw [grown.same]
  refine congrArg (fun cs => { s with characteristics := cs }) (map_eq_of_forall₂ ?_ grown.characteristics)
  rintro c d (rfl | rfl)
  · rfl
  · exact c.withClientConfiguration_twice

theorem shape_settle (s : Service) : s.settle.shape = s.shape.settle := by
  simp only [shape, settle, outline, blank, List.map_map, Function.comp_def,
    Characteristic.shape_withClientConfiguration]

theorem path_of_shape {s t : Service} (alike : t.shape = s.shape) : t.path = s.path := by
  injection alike

theorem exists_of_shape {s t : Service} (alike : t.shape = s.shape) {c : Characteristic}
    (inside : c ∈ s.characteristics) : ∃ e ∈ t.characteristics, e.path = c.path ∧
      e.descriptors.map Descriptor.path = c.descriptors.map Descriptor.path := by
  injection alike with _ _ _ _ _ rows
  simp only [outline, List.map_map] at rows
  obtain ⟨e, inside, same⟩ := exists_of_map_eq rows inside
  injection same with _ path _ _ _ _ _ _ _ _ _ descriptors
  have paths := congrArg (List.map Descriptor.path) descriptors
  simp only [Characteristic.outline, List.map_map] at paths
  exact ⟨e, inside, path, paths⟩

end Service

namespace Application

variable {a b : Application} {p q : ObjectPath}

theorem Placed.settled (placed : a.Placed) : a.settled.Placed :=
  (placed.extends_grown (forall₂_map fun s _ => s.grown_settle)).placed

theorem shape_settled (a : Application) : a.settled.shape = a.shape.map Service.settle := by
  simp only [shape, Application.settled, List.map_map, Function.comp_def, Service.shape_settle]

theorem Grown.shape_settled (grown : a.Grown b) : b.settled.shape = a.settled.shape := by
  obtain ⟨gs, rows, alike⟩ := grown.services
  have blank : b.shape = Application.shape { a with services := gs } := shape_of_blank alike
  have settled : gs.map Service.settle = a.services.map Service.settle :=
    map_eq_of_forall₂ (fun _ _ grown => grown.settle) rows
  rw [b.shape_settled, blank, ← Application.shape_settled]
  exact congrArg (List.map Service.shape) settled

theorem HasChild.of_shape (path : b.path = a.path) (same : b.shape = a.shape) (child : a.HasChild p q) :
    b.HasChild p q := by
  have service {s : Service} (tree : s ∈ a.services) : ∃ t ∈ b.services, t.shape = s.shape :=
    exists_of_map_eq same tree
  cases child with
  | service tree =>
      obtain ⟨t, tree, alike⟩ := service tree
      exact path ▸ Service.path_of_shape alike ▸ .service tree
  | characteristic tree inside =>
      obtain ⟨t, tree, alike⟩ := service tree
      obtain ⟨e, inside, own, -⟩ := Service.exists_of_shape alike inside
      exact Service.path_of_shape alike ▸ own ▸ .characteristic tree inside
  | descriptor tree inside below =>
      obtain ⟨t, tree, alike⟩ := service tree
      obtain ⟨e, inside, parent, rows⟩ := Service.exists_of_shape alike inside
      obtain ⟨d, below, own⟩ := exists_of_map_eq rows below
      exact parent ▸ own ▸ .descriptor tree inside below

theorem HasChild.settled (child : a.HasChild p q) : a.settled.HasChild p q := by
  have service {s : Service} (tree : s ∈ a.services) : s.settle ∈ a.settled.services := List.mem_map_of_mem tree
  have characteristic {s : Service} {c : Characteristic} (inside : c ∈ s.characteristics) :
      c.withClientConfiguration ∈ s.settle.characteristics := List.mem_map_of_mem inside
  cases child with
  | @service s tree => exact .service (s := s.settle) (service tree)
  | @characteristic s c tree inside =>
      rw [← c.path_withClientConfiguration]
      exact .characteristic (s := s.settle) (service tree) (characteristic inside)
  | @descriptor s c d tree inside below =>
      rw [← c.path_withClientConfiguration]
      exact .descriptor (service tree) (characteristic inside) (c.descriptors_withClientConfiguration below)

theorem shape_settled_of_outline (same : b.outline = a.outline) : b.settled.shape = a.settled.shape := by
  rw [b.shape_settled, shape_of_outline same, a.shape_settled]

theorem Grown.hasChild (grown : a.Grown b) (child : b.HasChild p q) : a.settled.HasChild p q :=
  .of_shape (a := b.settled) grown.path.symm grown.shape_settled.symm child.settled

theorem HasChild.of_withdrawn (child : a.withdrawn.HasChild p q) : a.HasChild p q := by
  refine .of_shape (a := a.withdrawn) rfl (shape_of_blank ?_) child
  simp only [Application.withdrawn, List.map_map, Function.comp_def, Service.blank_blank]

end Application
end GattPeripheral
