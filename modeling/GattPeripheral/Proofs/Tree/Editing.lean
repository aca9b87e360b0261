import GattPeripheral.Proofs.Tree.Placement
import Mathlib.Data.List.Pairwise

/-!
# Changing the shape of a tree

`Edit.apply_cases` says what an edit can do to a placed tree: nothing, add sites to a tree that is not
frozen, or take a service out of a tree that is not published. Either way the tree stays placed.
-/

namespace GattPeripheral

inductive Edit where
  | service (identifier : Identifier) (primary : Bool)
  | characteristic (service : Nat) (identifier : Identifier) (flags : Flags) (permissions : Permissions)
  | descriptor (service position : Nat) (identifier : Identifier) (permissions : Permissions)
  | remove (identifier : Identifier)

def Edit.apply (edit : Edit) (a : Application) : Application :=
  match edit with
  | service identifier primary => (a.createService identifier primary).2
  | characteristic key identifier flags permissions =>
      (a.createCharacteristic key identifier flags permissions).2
  | descriptor key position identifier permissions =>
      (a.createDescriptor key position identifier permissions).2
  | remove identifier => (a.removeService identifier).2

/-- The second list has all sites of the first, and what it has beyond them is not published. -/
structure Sprouted (old new : List Site) : Prop where
  kept : old ⊆ new
  fresh : ∀ site ∈ new, site ∈ old ∨ site.published = false

namespace Sprouted

theorem refl (sites : List Site) : Sprouted sites sites := ⟨List.Subset.refl _, fun _ => .inl⟩

theorem append {old new old' new' : List Site} (front : Sprouted old new) (back : Sprouted old' new') :
    Sprouted (old ++ old') (new ++ new') where
  kept := by
    rw [List.append_subset]
    exact ⟨List.subset_append_of_subset_left _ front.kept, List.subset_append_of_subset_right _ back.kept⟩
  fresh site member := by
    rcases List.mem_append.mp member with inFront | inBack
    · exact (front.fresh site inFront).imp_left (List.mem_append_left _)
    · exact (back.fresh site inBack).imp_left (List.mem_append_right _)

theorem add {sites : List Site} {site : Site} (unpublished : site.published = false) :
    Sprouted sites (sites ++ [site]) where
  kept := List.subset_append_left _ _
  fresh other member := by
    rcases List.mem_append.mp member with old | new
    · exact .inl old
    · rw [List.mem_singleton.mp new]
      exact .inr unpublished

theorem sitesFrom {ν : Type} {sites : Nat → ν → List Site} {xs ys : List ν}
    (rows : List.Forall₂ (fun x y => ∀ i, Sprouted (sites i x) (sites i y)) xs ys) (position : Nat) :
    Sprouted (sitesFrom sites position xs) (sitesFrom sites position ys) := by
  induction rows generalizing position with
  | nil => exact refl _
  | cons here _ ih => exact (here position).append (ih (position + 1))

end Sprouted

/-! ## New nodes -/

theorem Characteristic.standsFor_addDescriptor {c : Characteristic} {identifier : Identifier}
    {permissions : Permissions} (new : c.findDescriptor? identifier = none) :
    (c.addDescriptor identifier permissions).StandsFor c := by
  refine ⟨rfl, rfl, rfl, fun placed => ⟨?_, ?_⟩⟩
  · simp only [addDescriptor, List.map_append, List.map_cons, List.map_nil, Descriptor.new]
    refine placed.siblings.add ?_
    simpa [findDescriptor?] using new
  · intro d member
    rcases List.mem_append.mp member with old | added
    · exact placed.owned d old
    · rw [List.mem_singleton.mp added]
      rfl

theorem Characteristic.sprouted_addDescriptor (c : Characteristic) (identifier : Identifier)
    (permissions : Permissions) (service position : Nat) :
    Sprouted (c.sites service position) ((c.addDescriptor identifier permissions).sites service position) := by
  simp only [sites, addDescriptor, sitesFrom_append]
  exact (Sprouted.add rfl).append (.refl _)

theorem Service.carries_addCharacteristic (s : Service) (identifier : Identifier) (flags : Flags)
    (permissions : Permissions) : s.Carries (s.addCharacteristic identifier flags permissions) := by
  refine ⟨rfl, fun position c found => ⟨c, ?_, rfl⟩⟩
  rw [addCharacteristic, List.getElem?_append_left (List.getElem?_eq_some_iff.mp found).1]
  exact found

theorem Service.standsFor_addCharacteristic {s : Service} {identifier : Identifier} {flags : Flags}
    {permissions : Permissions} (new : s.findCharacteristic? identifier = none) :
    (s.addCharacteristic identifier flags permissions).StandsFor s := by
  refine ⟨rfl, rfl, rfl, fun placed => ⟨?_, ?_, ?_⟩⟩
  · simp only [addCharacteristic, List.map_append, List.map_cons, List.map_nil, Characteristic.new]
    refine placed.siblings.add ?_
    simpa [findCharacteristic?] using new
  · intro c member
    rcases List.mem_append.mp member with old | added
    · exact placed.owned c old
    · rw [List.mem_singleton.mp added]
      rfl
  · intro c member
    rcases List.mem_append.mp member with old | added
    · exact placed.inner c old
    · rw [List.mem_singleton.mp added]
      exact .new _ _ _ _ _

theorem Service.sprouted_addCharacteristic (s : Service) (identifier : Identifier) (flags : Flags)
    (permissions : Permissions) : Sprouted s.sites (s.addCharacteristic identifier flags permissions).sites := by
  simp only [sites, addCharacteristic, sitesFrom_append]
  exact (Sprouted.add rfl).append (.refl _)

/-! ## Changes within the application -/

namespace Application

theorem service?_some {a : Application} {key : Nat} {s : Service} (found : a.service? key = some s) :
    s ∈ a.allServices ∧ s.key = key :=
  ⟨List.mem_of_find?_eq_some found, by simpa using List.find?_some found⟩

theorem Placed.eq_of_key {a : Application} (placed : a.Placed) {s t : Service} (left : s ∈ a.allServices)
    (right : t ∈ a.allServices) (same : s.key = t.key) : s = t :=
  List.inj_on_of_nodup_map placed.keys left right same

theorem Placed.service?_of_mem {a : Application} (placed : a.Placed) {s : Service} (member : s ∈ a.allServices) :
    a.service? s.key = some s := by
  cases found : a.service? s.key with
  | none => simpa using List.find?_eq_none.mp found s member
  | some t =>
      obtain ⟨inside, same⟩ := service?_some found
      rw [placed.eq_of_key inside member same]

theorem Placed.carries_of_subset {a b : Application} (placed : b.Placed) (kept : a.allServices ⊆ b.allServices) :
    a.Carries b := by
  refine .of_services fun key s found => ?_
  obtain ⟨inside, rfl⟩ := service?_some found
  exact ⟨s, placed.service?_of_mem (kept inside), .refl s⟩

theorem Placed.forall₂_modifyService {a : Application} (placed : a.Placed) {key : Nat} {s : Service}
    (found : a.service? key = some s) {f : Service → Service} {R : Service → Service → Prop}
    (refl : ∀ t, R t t) (changed : R s (f s)) :
    List.Forall₂ R a.services (a.modifyService key f).services ∧
      List.Forall₂ R a.removed (a.modifyService key f).removed := by
  obtain ⟨inside, hasKey⟩ := service?_some found
  have each : ∀ t ∈ a.allServices, R t (if t.key = key then f t else t) := by
    intro t member
    split
    next same => rw [placed.eq_of_key member inside (same.trans hasKey.symm)]; exact changed
    next => exact refl t
  exact ⟨forall₂_map fun t member => each t (List.mem_append_left _ member),
    forall₂_map fun t member => each t (List.mem_append_right _ member)⟩

theorem Placed.modifyService_self {a : Application} (placed : a.Placed) {key : Nat} {s : Service}
    (found : a.service? key = some s) {f : Service → Service} (same : f s = s) :
    a.modifyService key f = a := by
  obtain ⟨tree, beside⟩ := placed.forall₂_modifyService found (R := Eq) (fun _ => rfl) same.symm
  rw [List.forall₂_eq_eq_eq] at tree beside
  simp only [modifyService] at tree beside ⊢
  rw [← tree, ← beside]

structure Extends (b a : Application) : Prop where
  path : b.path = a.path
  state : b.state = a.state
  frozen : b.frozen = a.frozen
  placed : b.Placed
  sites : Sprouted a.sites b.sites
  carries : a.Carries b

theorem Placed.extends_modifyService {a : Application} (placed : a.Placed) {key : Nat} {s : Service}
    (found : a.service? key = some s) {f : Service → Service} (stands : (f s).StandsFor s)
    (sprouted : Sprouted s.sites (f s).sites) (carries : s.Carries (f s)) : (a.modifyService key f).Extends a := by
  obtain ⟨tree, beside⟩ := placed.forall₂_modifyService found (R := fun s t => t.StandsFor s)
    Service.StandsFor.refl stands
  obtain ⟨sites, -⟩ := placed.forall₂_modifyService found (R := fun s t => Sprouted s.sites t.sites)
    (fun t => .refl t.sites) sprouted
  obtain ⟨carriesTree, carriesBeside⟩ := placed.forall₂_modifyService found Service.Carries.refl carries
  exact ⟨rfl, rfl, rfl, placed.replaced rfl rfl tree beside,
    Sprouted.sitesFrom (sites.imp fun _ _ h _ => h) 0, .of_rows carriesTree carriesBeside⟩

theorem allServices_addService (a : Application) (identifier : Identifier) (primary : Bool) :
    (a.addService identifier primary).allServices.Perm
      (.new a.nextKey identifier (a.path.freeChild .service (a.services.map Service.path)) primary ::
        a.allServices) := by
  simp only [allServices, addService, List.append_assoc]
  exact List.perm_middle

theorem Placed.addService {a : Application} (placed : a.Placed) {identifier : Identifier} {primary : Bool}
    (new : a.findService? identifier = none) : (a.addService identifier primary).Placed := by
  have all := a.allServices_addService identifier primary
  refine ⟨?_, ?_, ?_, ?_⟩
  · simp only [Application.addService, List.map_append, List.map_cons, List.map_nil, Service.new]
    refine placed.siblings.add ?_
    simpa [findService?] using new
  · intro t member
    rcases List.mem_cons.mp (all.mem_iff.mp member) with rfl | old
    · exact .new _ _ _ _
    · exact placed.inner t old
  · rw [(all.map Service.key).nodup_iff, List.map_cons, List.nodup_cons]
    refine ⟨fun repeated => ?_, placed.keys⟩
    obtain ⟨t, inside, same⟩ := List.mem_map.mp repeated
    exact Nat.lt_irrefl _ (same ▸ placed.below t inside)
  · intro t member
    rcases List.mem_cons.mp (all.mem_iff.mp member) with rfl | old
    · exact Nat.lt_succ_self _
    · exact Nat.lt_succ_of_lt (placed.below t old)

theorem Placed.extends_addService {a : Application} (placed : a.Placed) {identifier : Identifier}
    {primary : Bool} (new : a.findService? identifier = none) :
    (a.addService identifier primary).Extends a := by
  have grown : (a.addService identifier primary).Placed := placed.addService new
  refine ⟨rfl, rfl, rfl, grown, ?_, grown.carries_of_subset fun t member => ?_⟩
  · simp only [sites, Application.addService, sitesFrom_append]
    exact Sprouted.add rfl
  · exact (a.allServices_addService identifier primary).mem_iff.mpr (List.mem_cons_of_mem _ member)

def without (a : Application) (s : Service) : Application :=
  { a with services := a.services.filter (·.key != s.key), removed := a.removed ++ [s] }

theorem Placed.without {a : Application} (placed : a.Placed) {s : Service} (member : s ∈ a.services) :
    (a.without s).Placed := by
  have fewer : (a.services.filter (·.key != s.key)).Sublist a.services := List.filter_sublist
  have known : ∀ t ∈ (a.without s).allServices, t ∈ a.allServices := by
    intro t inside
    simp only [allServices, Application.without, List.mem_append, List.mem_singleton] at inside ⊢
    rcases inside with tree | beside | rfl
    · exact .inl (fewer.subset tree)
    · exact .inr beside
    · exact .inl member
  refine ⟨placed.siblings.sublist (fewer.map _) (fewer.map _), fun t inside => placed.inner t (known t inside),
    ?_, fun t inside => placed.below t (known t inside)⟩
  have keys := placed.keys
  simp only [allServices, Application.without, ← List.append_assoc, List.map_append, List.map_cons,
    List.map_nil] at keys ⊢
  rw [List.nodup_append]
  refine ⟨keys.sublist ((fewer.map _).append (List.Sublist.refl _)), List.nodup_singleton _, ?_⟩
  intro key inside other last same
  rw [List.mem_singleton] at last
  subst last same
  rcases List.mem_append.mp inside with tree | beside
  · obtain ⟨t, kept, same⟩ := List.mem_map.mp tree
    simp [same] at kept
  · exact (List.nodup_append.mp keys).2.2 _ (List.mem_map_of_mem member) _ beside rfl

theorem Placed.carries_without {a : Application} (placed : a.Placed) {s : Service} (member : s ∈ a.services) :
    a.Carries (a.without s) := by
  refine (placed.without member).carries_of_subset fun t inside => ?_
  by_cases same : t.key = s.key
  · obtain rfl := placed.eq_of_key inside (List.mem_append_left _ member) same
    exact List.mem_append_right _ (List.mem_append_right _ (List.mem_singleton_self _))
  · rcases List.mem_append.mp inside with tree | beside
    · exact List.mem_append_left _ (List.mem_filter.mpr ⟨tree, by simpa using same⟩)
    · exact List.mem_append_right _ (List.mem_append_left _ beside)

theorem Placed.eq_of_shared_path {a : Application} (placed : a.Placed) {s t : Service}
    (left : s ∈ a.services) (right : t ∈ a.services) {p : ObjectPath} (inLeft : p ∈ s.paths)
    (inRight : p ∈ t.paths) : s = t := by
  have apart := (List.nodup_flatMap.mp (List.nodup_append.mp placed.nodup.1).1).2
  have symmetric : Std.Symm (Function.onFun List.Disjoint Service.paths) :=
    ⟨fun _ _ disjoint _ right left => disjoint left right⟩
  by_contra different
  exact apart.forall left right different inLeft inRight

theorem sites_without_subset (a : Application) (s : Service) : (a.without s).sites ⊆ a.sites := by
  intro site member
  obtain ⟨t, kept, inside⟩ := mem_sites.mp member
  exact mem_sites.mpr ⟨t, (List.mem_filter.mp kept).1, inside⟩

theorem Placed.mem_sites_without {a : Application} (placed : a.Placed) {s : Service}
    (member : s ∈ a.services) {site : Site} (inside : site ∈ a.sites) :
    site ∈ (a.without s).sites ∨ site ∈ s.sites := by
  obtain ⟨t, inTree, inside⟩ := mem_sites.mp inside
  by_cases same : t.key = s.key
  · obtain rfl := placed.eq_of_key (List.mem_append_left _ inTree) (List.mem_append_left _ member) same
    exact .inr inside
  · exact .inl (mem_sites.mpr ⟨t, List.mem_filter.mpr ⟨inTree, by simpa using same⟩, inside⟩)

theorem Placed.not_mem_paths_without {a : Application} (placed : a.Placed) {s : Service}
    (member : s ∈ a.services) {p : ObjectPath} (inside : p ∈ s.paths) : p ∉ (a.without s).paths := by
  intro left
  obtain ⟨t, kept, shared⟩ := List.mem_flatMap.mp left
  obtain ⟨inTree, otherKey⟩ := List.mem_filter.mp kept
  obtain rfl := placed.eq_of_shared_path inTree member shared inside
  simp at otherKey

/-! ## One edit -/

theorem Placed.createService_cases {a : Application} (placed : a.Placed) (identifier : Identifier)
    (primary : Bool) : (a.createService identifier primary).2 = a ∨
      a.frozen = false ∧ (a.createService identifier primary).2.Extends a := by
  unfold createService
  cases found : a.findService? identifier with
  | some s => exact .inl rfl
  | none =>
      cases frozen : a.frozen with
      | true => exact .inl rfl
      | false => exact .inr ⟨rfl, placed.extends_addService found⟩

theorem Placed.createCharacteristic_cases {a : Application} (placed : a.Placed) (key : Nat)
    (identifier : Identifier) (flags : Flags) (permissions : Permissions) :
    (a.createCharacteristic key identifier flags permissions).2 = a ∨
      a.frozen = false ∧ (a.createCharacteristic key identifier flags permissions).2.Extends a := by
  unfold createCharacteristic
  cases found : a.service? key with
  | none => exact .inl rfl
  | some s =>
      simp only [Service.createCharacteristic]
      cases known : s.findCharacteristic? identifier with
      | some position => exact .inl (placed.modifyService_self found rfl)
      | none =>
          cases frozen : a.frozen with
          | true => exact .inl (placed.modifyService_self found rfl)
          | false =>
              exact .inr ⟨rfl, placed.extends_modifyService found (Service.standsFor_addCharacteristic known)
                (s.sprouted_addCharacteristic identifier flags permissions)
                (s.carries_addCharacteristic identifier flags permissions)⟩

theorem characteristic?_some {a : Application} {key position : Nat} {c : Characteristic}
    (found : a.characteristic? key position = some c) :
    ∃ s, a.service? key = some s ∧ s.characteristics[position]? = some c :=
  Option.bind_eq_some_iff.mp found

theorem Placed.characteristic {a : Application} (placed : a.Placed) {key position : Nat} {c : Characteristic}
    (found : a.characteristic? key position = some c) : c.Placed := by
  obtain ⟨s, service, row⟩ := characteristic?_some found
  exact (placed.inner s (service?_some service).1).inner c (List.mem_of_getElem? row)

theorem service?_modifyService (a : Application) (key k : Nat) {f : Service → Service}
    (keeps : ∀ s, (f s).key = s.key) :
    (a.modifyService key f).service? k = (a.service? k).map fun s => if s.key = key then f s else s := by
  let change : Service → Service := fun s => if s.key = key then f s else s
  have all : (a.modifyService key f).allServices = a.allServices.map change := List.map_append.symm
  -- The change keeps all keys, so the same service is found.
  have same : (fun s : Service => s.key == k) ∘ change = fun s => s.key == k := by
    funext s
    by_cases here : s.key = key <;> simp [change, here, keeps]
  rw [service?, all, List.find?_map, same, service?]

theorem characteristic?_modifyCharacteristic_self (a : Application) (key position : Nat)
    (f : Characteristic → Characteristic) :
    (a.modifyCharacteristic key position f).characteristic? key position = (a.characteristic? key position).map f := by
  rw [characteristic?, modifyCharacteristic, service?_modifyService a key key (by simp), characteristic?]
  cases found : a.service? key with
  | none => rfl
  | some s => simp [(service?_some found).2]

theorem characteristic?_modifyCharacteristic {a : Application} {key position : Nat} {c : Characteristic}
    (found : a.characteristic? key position = some c) (f : Characteristic → Characteristic) :
    (a.modifyCharacteristic key position f).characteristic? key position = some (f c) := by
  rw [characteristic?_modifyCharacteristic_self, found, Option.map_some]

theorem characteristic?_modifyCharacteristic_of_ne (a : Application) {key position k p : Nat}
    (other : ¬ (k = key ∧ p = position)) (f : Characteristic → Characteristic) :
    (a.modifyCharacteristic key position f).characteristic? k p = a.characteristic? k p := by
  rw [characteristic?, modifyCharacteristic, service?_modifyService a key k (by simp), characteristic?]
  cases found : a.service? k with
  | none => rfl
  | some s =>
      have hasKey : s.key = k := (service?_some found).2
      by_cases here : k = key
      · have elsewhere : position ≠ p := fun same => other ⟨here, same.symm⟩
        simp [hasKey, here, elsewhere]
      · simp [hasKey, here]

theorem Placed.modifyCharacteristic_self {a : Application} (placed : a.Placed) {key position : Nat} {c : Characteristic}
    (found : a.characteristic? key position = some c) :
    a.modifyCharacteristic key position (fun _ => c) = a := by
  obtain ⟨s, service, row⟩ := characteristic?_some found
  have rows := forall₂_modify (R := Eq) (fun _ => rfl) (f := fun _ => c) row rfl
  rw [List.forall₂_eq_eq_eq] at rows
  exact placed.modifyService_self service (by rw [← rows])

theorem Placed.createDescriptor_cases {a : Application} (placed : a.Placed) (key position : Nat)
    (identifier : Identifier) (permissions : Permissions) :
    (a.createDescriptor key position identifier permissions).2 = a ∨
      a.frozen = false ∧ (a.createDescriptor key position identifier permissions).2.Extends a := by
  unfold createDescriptor
  cases found : a.characteristic? key position with
  | none => exact .inl rfl
  | some c =>
      obtain ⟨s, service, row⟩ := characteristic?_some found
      have unchanged := placed.modifyCharacteristic_self found
      simp only [Characteristic.createDescriptor]
      cases known : c.findDescriptor? identifier with
      | some index => exact .inl unchanged
      | none =>
          cases frozen : a.frozen with
          | true => exact .inl unchanged
          | false =>
              refine .inr ⟨rfl, placed.extends_modifyService service ?_ ?_ ?_⟩
              · exact .of_characteristics rfl rfl rfl
                  (forall₂_modify .refl row (Characteristic.standsFor_addDescriptor known))
              · exact (Sprouted.sitesFrom (forall₂_modify (fun c i => .refl _) row fun i =>
                  c.sprouted_addDescriptor identifier permissions s.key i) 0).append (.refl _)
              · exact .of_rows rfl (forall₂_modify (R := fun c d => Characteristic.core d = Characteristic.core c)
                  (fun _ => rfl) row rfl)

theorem removeService_cases (a : Application) (identifier : Identifier) :
    (a.removeService identifier).2 = a ∨ a.state = .unpublished ∧ ∃ s ∈ a.services,
      a.findService? identifier = some s ∧ (a.removeService identifier).2 = a.without s := by
  unfold removeService
  by_cases unpublished : a.state = .unpublished
  · rw [if_pos unpublished]
    cases found : a.findService? identifier with
    | none => exact .inl rfl
    | some s => exact .inr ⟨unpublished, s, List.mem_of_find?_eq_some found, rfl, rfl⟩
  · rw [if_neg unpublished]
    exact .inl rfl

end Application

structure Edit.Removes (edit : Edit) (a : Application) (s : Service) : Prop where
  unpublished : a.state = .unpublished
  member : s ∈ a.services
  named : ∃ identifier, edit = .remove identifier ∧ a.findService? identifier = some s

theorem Edit.Removes.apply {edit : Edit} {a : Application} {s : Service} (removes : edit.Removes a s) :
    edit.apply a = a.without s := by
  obtain ⟨identifier, rfl, found⟩ := removes.named
  simp only [Edit.apply, Application.removeService, if_pos removes.unpublished, found]
  rfl

theorem Edit.apply_cases {a : Application} (placed : a.Placed) (edit : Edit) :
    edit.apply a = a ∨ a.frozen = false ∧ (edit.apply a).Extends a ∨
      ∃ s, edit.Removes a s ∧ edit.apply a = a.without s := by
  cases edit with
  | service identifier primary => exact (placed.createService_cases identifier primary).imp_right .inl
  | characteristic key identifier flags permissions =>
      exact (placed.createCharacteristic_cases key identifier flags permissions).imp_right .inl
  | descriptor key position identifier permissions =>
      exact (placed.createDescriptor_cases key position identifier permissions).imp_right .inl
  | remove identifier =>
      rcases a.removeService_cases identifier with same | ⟨unpublished, s, member, found, eq⟩
      · exact .inl same
      · exact .inr (.inr ⟨s, ⟨unpublished, member, identifier, rfl, found⟩, eq⟩)

theorem Edit.apply_beside (edit : Edit) (a : Application) :
    (edit.apply a).path = a.path ∧ (edit.apply a).state = a.state := by
  cases edit with
  | service identifier primary =>
      simp only [apply, Application.createService]
      split
      · exact ⟨rfl, rfl⟩
      · split <;> exact ⟨rfl, rfl⟩
  | characteristic key identifier flags permissions =>
      simp only [apply, Application.createCharacteristic]
      split <;> exact ⟨rfl, rfl⟩
  | descriptor key position identifier permissions =>
      simp only [apply, Application.createDescriptor]
      split <;> exact ⟨rfl, rfl⟩
  | remove identifier =>
      rcases a.removeService_cases identifier with same | ⟨-, s, -, -, eq⟩
      · exact ⟨congrArg Application.path same, congrArg Application.state same⟩
      · rw [apply, eq]
        exact ⟨rfl, rfl⟩

theorem Edit.placed {a : Application} (placed : a.Placed) (edit : Edit) : (edit.apply a).Placed := by
  rcases edit.apply_cases placed with same | ⟨-, grown⟩ | ⟨s, removes, eq⟩
  · rwa [same]
  · exact grown.placed
  · rw [eq]
    exact placed.without removes.member

theorem Edit.carries {a : Application} (placed : a.Placed) (edit : Edit) : a.Carries (edit.apply a) := by
  rcases edit.apply_cases placed with same | ⟨-, grown⟩ | ⟨s, removes, eq⟩
  · rw [same]
    exact .refl a
  · exact grown.carries
  · rw [eq]
    exact placed.carries_without removes.member

end GattPeripheral
