import GattPeripheral.Proofs.Tree.Sites
import Mathlib.Data.List.Forall2

/-!
# Where nodes are placed

`Application.Placed` is what every tree built by the library satisfies: siblings have different
identifiers and paths, every path is its parent's with one more element, every node knows the path of
its parent, and no two services share a key. `Application.Placed.nodup` concludes that no two nodes share
a path. `Application.Carries` says that the characteristics of a tree stay where they are referred to.
-/

namespace GattPeripheral

/-! ## The paths of a tree -/

def Characteristic.paths (c : Characteristic) : List ObjectPath :=
  c.descriptors.flatMap (fun d => [d.path]) ++ [c.path]

def Service.paths (s : Service) : List ObjectPath :=
  s.characteristics.flatMap Characteristic.paths ++ [s.path]

def Application.paths (a : Application) : List ObjectPath := a.services.flatMap Service.paths

theorem Descriptor.map_path_sites (service characteristic position : Nat) (d : Descriptor) :
    (d.sites service characteristic position).map Site.path = [d.path] := rfl

theorem Characteristic.map_path_sites (service position : Nat) (c : Characteristic) :
    (c.sites service position).map Site.path = c.paths := by
  simp only [sites, paths, List.map_append, List.map_cons, List.map_nil]
  rw [map_sitesFrom fun i d => Descriptor.map_path_sites service position i d]

theorem Service.map_path_sites (s : Service) : s.sites.map Site.path = s.paths := by
  simp only [sites, paths, List.map_append, List.map_cons, List.map_nil]
  rw [map_sitesFrom fun i c => c.map_path_sites s.key i]

theorem Application.map_path_sites (a : Application) : a.sites.map Site.path = a.paths := by
  rw [sites, paths, map_sitesFrom fun _ s => s.map_path_sites]

theorem Application.mem_sites {a : Application} {site : Site} :
    site ∈ a.sites ↔ ∃ s ∈ a.services, site ∈ s.sites := by
  rw [sites, mem_sitesFrom]
  constructor
  · rintro ⟨i, s, found, member⟩
    exact ⟨s, List.mem_of_getElem? found, member⟩
  · rintro ⟨s, inside, member⟩
    obtain ⟨i, found⟩ := List.getElem?_of_mem inside
    exact ⟨i, s, found, member⟩

/-! ## Placed trees -/

structure Characteristic.Placed (c : Characteristic) : Prop where
  siblings : Siblings .desc c.path (c.descriptors.map Descriptor.path) (c.descriptors.map Descriptor.identifier)
  owned : ∀ d ∈ c.descriptors, d.characteristicPath = c.path

structure Service.Placed (s : Service) : Prop where
  siblings : Siblings .char s.path (s.characteristics.map Characteristic.path)
    (s.characteristics.map Characteristic.identifier)
  owned : ∀ c ∈ s.characteristics, c.servicePath = s.path
  inner : ∀ c ∈ s.characteristics, c.Placed

structure Application.Placed (a : Application) : Prop where
  siblings : Siblings .service a.path (a.services.map Service.path) (a.services.map Service.identifier)
  inner : ∀ s ∈ a.allServices, s.Placed
  keys : (a.allServices.map Service.key).Nodup
  below : ∀ s ∈ a.allServices, s.key < a.nextKey

theorem Characteristic.placed_iff (c : Characteristic) : c.Placed ↔
    Siblings .desc c.path (c.descriptors.map Descriptor.path) (c.descriptors.map Descriptor.identifier) ∧
      ∀ d ∈ c.descriptors, d.characteristicPath = c.path := ⟨fun ⟨h, k⟩ => ⟨h, k⟩, fun ⟨h, k⟩ => ⟨h, k⟩⟩

theorem Characteristic.Placed.new (identifier : Identifier) (path servicePath : ObjectPath) (flags : Flags)
    (permissions : Permissions) : (Characteristic.new identifier path servicePath flags permissions).Placed :=
  ⟨.none _ _, by simp [Characteristic.new]⟩

theorem Service.Placed.new (key : Nat) (identifier : Identifier) (path : ObjectPath) (primary : Bool) :
    (Service.new key identifier path primary).Placed :=
  ⟨.none _ _, by simp [Service.new], by simp [Service.new]⟩

theorem Application.placed_new (path : ObjectPath) : (Application.new path).Placed :=
  ⟨.none _ _, by simp [new, allServices], .nil, by simp [new, allServices]⟩

/-- A parent and the families of its children: if no path repeats within a family and each family
lies below its own path, then no path repeats at all and everything lies below the parent. -/
theorem nodup_families {ν : Type} {own : ν → ObjectPath} {paths : ν → List ObjectPath} {xs : List ν}
    {stem : Element} {parent : ObjectPath} {identifiers : List Identifier}
    (siblings : Siblings stem parent (xs.map own) identifiers)
    (inner : ∀ x ∈ xs, (paths x).Nodup)
    (under : ∀ x ∈ xs, ∀ p ∈ paths x, (own x).elements <+: p.elements) :
    (xs.flatMap paths ++ [parent]).Nodup ∧
      ∀ p ∈ xs.flatMap paths ++ [parent], parent.elements <+: p.elements := by
  have placed : ∀ x ∈ xs, ∃ n, own x = parent.push (stem.numbered n) := fun x member =>
    siblings.children _ (List.mem_map_of_mem member)
  have strictly : ∀ p ∈ xs.flatMap paths, ∃ n, (parent.push (stem.numbered n)).elements <+: p.elements := by
    intro p member
    obtain ⟨x, inside, member⟩ := List.mem_flatMap.mp member
    obtain ⟨n, eq⟩ := placed x inside
    exact ⟨n, eq ▸ under x inside p member⟩
  constructor
  · rw [List.nodup_append]
    refine ⟨List.nodup_flatMap.mpr ⟨inner, ?_⟩, List.nodup_singleton _, ?_⟩
    -- What lies below different children lies apart.
    · refine (List.Pairwise.and_mem.mp (List.pairwise_map.mp siblings.apart)).imp ?_
      rintro x y ⟨left, right, different⟩ p inLeft inRight
      obtain ⟨m, eqLeft⟩ := placed x left
      obtain ⟨n, eqRight⟩ := placed y right
      rw [eqLeft, eqRight] at different
      exact ObjectPath.apart_of_push_ne different (eqLeft ▸ under x left p inLeft)
        (eqRight ▸ under y right p inRight) rfl
    · intro p member q last same
      rw [List.mem_singleton] at last
      subst last same
      obtain ⟨n, below⟩ := strictly p member
      exact ObjectPath.ne_of_prefix_push below rfl
  · intro p member
    rcases List.mem_append.mp member with deeper | last
    · obtain ⟨n, below⟩ := strictly p deeper
      exact (ObjectPath.prefix_push _ _).trans below
    · obtain rfl := List.mem_singleton.mp last
      exact List.prefix_rfl

theorem Characteristic.Placed.nodup {c : Characteristic} (placed : c.Placed) :
    c.paths.Nodup ∧ ∀ p ∈ c.paths, c.path.elements <+: p.elements :=
  nodup_families placed.siblings (fun _ _ => List.nodup_singleton _) fun d _ p member => by
    obtain rfl := List.mem_singleton.mp member
    exact List.prefix_rfl

theorem Characteristic.Placed.apart {c : Characteristic} (placed : c.Placed) :
    ∀ d ∈ c.descriptors, d.path ≠ c.path := by
  intro d member
  obtain ⟨n, child⟩ := placed.siblings.children d.path (List.mem_map_of_mem member)
  rw [child]
  exact (ObjectPath.ne_of_prefix_push List.prefix_rfl).symm

theorem Service.Placed.nodup {s : Service} (placed : s.Placed) :
    s.paths.Nodup ∧ ∀ p ∈ s.paths, s.path.elements <+: p.elements :=
  nodup_families placed.siblings (fun c member => (placed.inner c member).nodup.1)
    fun c member => (placed.inner c member).nodup.2

theorem Application.Placed.nodup {a : Application} (placed : a.Placed) :
    (a.paths ++ [a.path]).Nodup ∧ ∀ p ∈ a.paths ++ [a.path], a.path.elements <+: p.elements :=
  have inner : ∀ s ∈ a.services, s.Placed := fun s member =>
    placed.inner s (List.mem_append_left _ member)
  nodup_families placed.siblings (fun s member => (inner s member).nodup.1)
    fun s member => (inner s member).nodup.2

theorem Application.Placed.path_not_mem {a : Application} (placed : a.Placed) : a.path ∉ a.paths := by
  intro member
  exact (List.nodup_append.mp placed.nodup.1).2.2 _ member _ (List.mem_singleton_self _) rfl

/-! ## Changes that keep a tree placed -/

section Rows
variable {ν α : Type} {R : ν → ν → Prop} {xs ys : List ν}

theorem map_eq_of_forall₂ {f : ν → α} (same : ∀ x y, R x y → f y = f x) (rows : List.Forall₂ R xs ys) :
    ys.map f = xs.map f := by
  induction rows with
  | nil => rfl
  | cons here _ ih => rw [List.map_cons, List.map_cons, same _ _ here, ih]

theorem exists_of_forall₂ (rows : List.Forall₂ R xs ys) {y : ν} (member : y ∈ ys) :
    ∃ x ∈ xs, R x y := by
  induction rows with
  | nil => cases member
  | cons here _ ih =>
      rcases List.mem_cons.mp member with rfl | later
      · exact ⟨_, List.mem_cons_self, here⟩
      · obtain ⟨x, inside, related⟩ := ih later
        exact ⟨x, List.mem_cons_of_mem _ inside, related⟩

theorem find?_of_forall₂ {p : ν → Bool} (same : ∀ x y, R x y → p y = p x) (rows : List.Forall₂ R xs ys) {x : ν}
    (found : xs.find? p = some x) : ∃ y, ys.find? p = some y ∧ R x y := by
  induction rows with
  | nil => cases found
  | @cons x' y' _ _ here _ ih =>
      rw [List.find?_cons] at found ⊢
      rw [same _ _ here]
      cases holds : p x' with
      | true =>
          rw [holds] at found
          obtain rfl : x' = x := Option.some.inj found
          exact ⟨y', rfl, here⟩
      | false =>
          rw [holds] at found
          exact ih found

theorem getElem?_of_forall₂ (rows : List.Forall₂ R xs ys) {position : Nat} {x : ν} (found : xs[position]? = some x) :
    ∃ y, ys[position]? = some y ∧ R x y := by
  induction rows generalizing position with
  | nil => cases found
  | @cons x' y' _ _ here _ ih =>
      cases position with
      | zero =>
          obtain rfl : x' = x := Option.some.inj found
          exact ⟨y', rfl, here⟩
      | succ position => exact ih found

theorem forall₂_map {f : ν → ν} (related : ∀ x ∈ xs, R x (f x)) : List.Forall₂ R xs (xs.map f) :=
  List.forall₂_map_right_iff.mpr (List.forall₂_same.mpr related)

theorem forall₂_of_map_eq {f : ν → α} (same : ys.map f = xs.map f) :
    List.Forall₂ (fun x y => f y = f x) xs ys := by
  have rows : List.Forall₂ Eq (xs.map f) (ys.map f) := List.forall₂_eq_eq_eq ▸ same.symm
  rw [List.forall₂_map_left_iff, List.forall₂_map_right_iff] at rows
  exact rows.imp fun _ _ => Eq.symm

theorem map_modify_same {f : ν → ν} {g : ν → α} {position : Nat} {xs : List ν}
    (same : ∀ x, xs[position]? = some x → g (f x) = g x) : (xs.modify position f).map g = xs.map g := by
  induction xs generalizing position with
  | nil => simp
  | cons x xs ih =>
      cases position with
      | zero => simp [same x rfl]
      | succ position => simp [ih same]

theorem forall₂_modify (refl : ∀ x, R x x) {f : ν → ν} {position : Nat} {x : ν}
    (found : xs[position]? = some x) (related : R x (f x)) :
    List.Forall₂ R xs (xs.modify position f) := by
  induction xs generalizing position with
  | nil => cases found
  | cons y xs ih =>
      cases position with
      | zero =>
          obtain rfl : y = x := Option.some.inj found
          exact .cons related (List.forall₂_same.mpr fun x _ => refl x)
      | succ position => exact .cons (refl y) (ih found)

end Rows

structure Characteristic.StandsFor (d c : Characteristic) : Prop where
  path : d.path = c.path
  servicePath : d.servicePath = c.servicePath
  identifier : d.identifier = c.identifier
  placed : c.Placed → d.Placed

structure Service.StandsFor (t s : Service) : Prop where
  key : t.key = s.key
  path : t.path = s.path
  identifier : t.identifier = s.identifier
  placed : s.Placed → t.Placed

theorem Characteristic.StandsFor.refl (c : Characteristic) : c.StandsFor c := ⟨rfl, rfl, rfl, id⟩

theorem Characteristic.standsFor_blank (c : Characteristic) : c.blank.StandsFor c ∧ c.StandsFor c.blank := by
  have same : c.blank.Placed ↔ c.Placed := by
    simp only [placed_iff, blank, List.map_map, List.forall_mem_map]
    exact Iff.rfl
  exact ⟨⟨rfl, rfl, rfl, same.mpr⟩, ⟨rfl, rfl, rfl, same.mp⟩⟩

theorem Characteristic.standsFor_outline (c : Characteristic) :
    c.outline.StandsFor c ∧ c.StandsFor c.outline := by
  have same : c.outline.Placed ↔ c.Placed := by
    simp only [placed_iff, outline, List.map_map, List.forall_mem_map]
    exact Iff.rfl
  exact ⟨⟨rfl, rfl, rfl, same.mpr⟩, ⟨rfl, rfl, rfl, same.mp⟩⟩

namespace Service.StandsFor

theorem refl (s : Service) : s.StandsFor s := ⟨rfl, rfl, rfl, id⟩

theorem trans {r s t : Service} (first : s.StandsFor r) (second : t.StandsFor s) : t.StandsFor r :=
  ⟨second.key.trans first.key, second.path.trans first.path, second.identifier.trans first.identifier,
    second.placed ∘ first.placed⟩

theorem of_characteristics {s t : Service} (key : t.key = s.key) (path : t.path = s.path)
    (identifier : t.identifier = s.identifier)
    (rows : List.Forall₂ (fun c d => d.StandsFor c) s.characteristics t.characteristics) :
    t.StandsFor s := by
  refine ⟨key, path, identifier, fun placed => ⟨?_, ?_, ?_⟩⟩
  · rw [map_eq_of_forall₂ (fun _ _ stands => stands.path) rows,
      map_eq_of_forall₂ (fun _ _ stands => stands.identifier) rows, path]
    exact placed.siblings
  · intro d member
    obtain ⟨c, inside, stands⟩ := exists_of_forall₂ rows member
    rw [stands.servicePath, placed.owned c inside, path]
  · intro d member
    obtain ⟨c, inside, stands⟩ := exists_of_forall₂ rows member
    exact stands.placed (placed.inner c inside)

theorem of_erasure {erase : Characteristic → Characteristic}
    (erased : ∀ c, (erase c).StandsFor c ∧ c.StandsFor (erase c)) {s t : Service} (key : t.key = s.key)
    (path : t.path = s.path) (identifier : t.identifier = s.identifier)
    (same : t.characteristics.map erase = s.characteristics.map erase) : t.StandsFor s := by
  let middle : Service := { s with characteristics := s.characteristics.map erase }
  have down : middle.StandsFor s :=
    of_characteristics rfl rfl rfl (forall₂_map fun c _ => (erased c).1)
  have up : t.StandsFor middle := by
    refine of_characteristics key path identifier ?_
    simp only [middle, ← same]
    exact List.forall₂_map_left_iff.mpr (List.forall₂_same.mpr fun c _ => (erased c).2)
  exact down.trans up

theorem of_blank {s t : Service} (same : t.blank = s.blank) : t.StandsFor s := by
  injection same with key identifier path _ _ characteristics
  exact of_erasure Characteristic.standsFor_blank key path identifier characteristics

theorem of_outline {s t : Service} (same : t.outline = s.outline) : t.StandsFor s := by
  injection same with key identifier path _ _ characteristics
  exact of_erasure Characteristic.standsFor_outline key path identifier characteristics

end Service.StandsFor

abbrev Replaced : List Service → List Service → Prop := List.Forall₂ fun s t => t.StandsFor s

theorem Application.Placed.replaced {a b : Application} (placed : a.Placed) (path : b.path = a.path)
    (next : b.nextKey = a.nextKey) (tree : Replaced a.services b.services)
    (beside : Replaced a.removed b.removed) : b.Placed := by
  have everything : Replaced a.allServices b.allServices := List.rel_append tree beside
  constructor
  · rw [map_eq_of_forall₂ (fun _ _ stands => stands.path) tree,
      map_eq_of_forall₂ (fun _ _ stands => stands.identifier) tree, path]
    exact placed.siblings
  · intro t member
    obtain ⟨s, inside, stands⟩ := exists_of_forall₂ everything member
    exact stands.placed (placed.inner s inside)
  · rw [map_eq_of_forall₂ (fun _ _ stands => stands.key) everything]
    exact placed.keys
  · intro t member
    obtain ⟨s, inside, stands⟩ := exists_of_forall₂ everything member
    rw [stands.key, next]
    exact placed.below s inside

/-! ## Characteristics in their places -/

/-- What neither edits nor publications touch of a characteristic. -/
def Characteristic.core (c : Characteristic) : Characteristic := { c with published := false, descriptors := [] }

structure Service.Carries (s t : Service) : Prop where
  key : t.key = s.key
  characteristics : ∀ (position : Nat) (c : Characteristic), s.characteristics[position]? = some c →
    ∃ d, t.characteristics[position]? = some d ∧ d.core = c.core

def Application.Carries (a b : Application) : Prop :=
  ∀ key position (c : Characteristic), a.characteristic? key position = some c →
    ∃ d, b.characteristic? key position = some d ∧ d.core = c.core

theorem Service.Carries.refl (s : Service) : s.Carries s := ⟨rfl, fun _ c found => ⟨c, found, rfl⟩⟩

theorem Service.Carries.of_rows {s t : Service} (key : t.key = s.key)
    (rows : List.Forall₂ (fun c d => Characteristic.core d = c.core) s.characteristics t.characteristics) :
    s.Carries t :=
  ⟨key, fun _ _ found => getElem?_of_forall₂ rows found⟩

theorem Service.Carries.of_blank {s t : Service} (same : t.blank = s.blank) : s.Carries t := by
  injection same with key _ _ _ _ characteristics
  refine .of_rows key ((forall₂_of_map_eq characteristics).imp fun c d alike => ?_)
  have same := congrArg Characteristic.core alike
  exact same

namespace Application.Carries

variable {a b : Application}

theorem of_services (each : ∀ key s, a.service? key = some s → ∃ t, b.service? key = some t ∧ s.Carries t) :
    a.Carries b := by
  intro key position c found
  obtain ⟨s, service, row⟩ := Option.bind_eq_some_iff.mp found
  obtain ⟨t, service', carries⟩ := each key s service
  obtain ⟨d, row', same⟩ := carries.characteristics position c row
  exact ⟨d, Option.bind_eq_some_iff.mpr ⟨t, service', row'⟩, same⟩

theorem of_rows (tree : List.Forall₂ Service.Carries a.services b.services)
    (beside : List.Forall₂ Service.Carries a.removed b.removed) : a.Carries b := by
  refine of_services fun key s found => ?_
  refine find?_of_forall₂ (fun s t carries => ?_) (List.rel_append tree beside) found
  rw [carries.key]

theorem refl (a : Application) : a.Carries a := fun _ _ c found => ⟨c, found, rfl⟩

theorem trans {e : Application} (first : a.Carries b) (second : b.Carries e) : a.Carries e := by
  intro key position c found
  obtain ⟨d, found, same⟩ := first key position c found
  obtain ⟨d', found, same'⟩ := second key position d found
  exact ⟨d', found, same'.trans same⟩

end Application.Carries
end GattPeripheral
