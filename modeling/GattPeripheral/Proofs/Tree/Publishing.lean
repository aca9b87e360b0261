import GattPeripheral.Proofs.Attribute.Flags
import GattPeripheral.Proofs.Tree.Editing
import GattPeripheral.Tree.Publication

/-!
# Publishing a tree

`exportSites` exports a list of sites one after the other. `Application.exportTree_flat`: exporting a
tree does to the bus what exporting the list of its sites does, once the characteristics it came to have
their client configuration descriptor. `Level` collects what this needs to know about the nodes of one
kind, and `Level.row_flat` lifts the statement from one node to nodes in a row.
-/

namespace GattPeripheral

variable {β : Type}

theorem stateM_bind {σ α γ : Type} (x : StateM σ α) (f : α → StateM σ γ) (s : σ) :
    (x >>= f) s = f (x s).1 (x s).2 := rfl

theorem stateM_pure {σ α : Type} (a : α) (s : σ) : (pure a : StateM σ α) s = (a, s) := rfl

section Each
variable {ν : Type} {step : Nat → ν → StateM (Channel β) (Stepped ν)}

theorem publishEach_nil (position : Nat) (c : Channel β) :
    publishEach step position [] c = (([], .ok ()), c) := rfl

theorem publishEach_cons_ok {position : Nat} {x x' : ν} {xs : List ν} {c c' : Channel β}
    (here : step position x c = ((x', .ok ()), c')) :
    publishEach step position (x :: xs) c =
      ((x' :: (publishEach step (position + 1) xs c').1.1, (publishEach step (position + 1) xs c').1.2),
        (publishEach step (position + 1) xs c').2) := by
  rw [publishEach, stateM_bind, here]
  rfl

theorem publishEach_cons_error {position : Nat} {x x' : ν} {xs : List ν} {c c' : Channel β}
    {e : BusError} (here : step position x c = ((x', .error e), c')) :
    publishEach step position (x :: xs) c = ((x' :: xs, .error e), c') := by
  rw [publishEach, stateM_bind, here]
  rfl

end Each

/-! ## Exporting sites -/

def Site.marked (site : Site) : Site := { site with published := true }

/-- Exports the sites in order up to the first failure, and marks those that the bus took. -/
def exportSites [Transport β] : List Site → StateM (Channel β) (Stepped (List Site))
  | [], c => (([], .ok ()), c)
  | site :: sites, c =>
      match Channel.exportNode site.path site.node c with
      | (.error e, c) => ((site :: sites, .error e), c)
      | (.ok (), c) =>
          let ((sites, outcome), c) := exportSites sites c
          ((site.marked :: sites, outcome), c)

section ExportSites
variable [Transport β]

theorem exportSites_cons_error {site : Site} {c c' : Channel β} {e : BusError}
    (here : Channel.exportNode site.path site.node c = (.error e, c')) (sites : List Site) :
    exportSites (site :: sites) c = ((site :: sites, .error e), c') := by
  rw [exportSites, here]

theorem exportSites_cons_ok {site : Site} {c c' : Channel β}
    (here : Channel.exportNode site.path site.node c = (.ok (), c')) (sites : List Site) :
    exportSites (site :: sites) c =
      ((site.marked :: (exportSites sites c').1.1, (exportSites sites c').1.2), (exportSites sites c').2) := by
  rw [exportSites, here]
  rfl

theorem exportSites_append_ok {front front' : List Site} {c c' : Channel β}
    (done : exportSites front c = ((front', .ok ()), c')) (back : List Site) :
    exportSites (front ++ back) c =
      ((front' ++ (exportSites back c').1.1, (exportSites back c').1.2), (exportSites back c').2) := by
  induction front generalizing front' c with
  | nil => cases done; rfl
  | cons site front ih =>
      rw [List.cons_append]
      cases here : Channel.exportNode site.path site.node c with
      | mk outcome d =>
          cases outcome with
          | error e => rw [exportSites_cons_error here] at done; cases done
          | ok =>
              rw [exportSites_cons_ok here] at done ⊢
              obtain ⟨both, rfl⟩ := Prod.mk.inj done
              obtain ⟨rfl, ok⟩ := Prod.mk.inj both
              rw [ih (Prod.ext (Prod.ext rfl ok) rfl)]
              rfl

theorem exportSites_append_error {front front' : List Site} {c c' : Channel β} {e : BusError}
    (failed : exportSites front c = ((front', .error e), c')) (back : List Site) :
    exportSites (front ++ back) c = ((front' ++ back, .error e), c') := by
  induction front generalizing front' c with
  | nil => cases failed
  | cons site front ih =>
      rw [List.cons_append]
      cases here : Channel.exportNode site.path site.node c with
      | mk outcome d =>
          cases outcome with
          | error e' =>
              rw [exportSites_cons_error here] at failed ⊢
              cases failed
              rfl
          | ok =>
              rw [exportSites_cons_ok here] at failed ⊢
              obtain ⟨both, rfl⟩ := Prod.mk.inj failed
              obtain ⟨rfl, error⟩ := Prod.mk.inj both
              rw [ih (Prod.ext (Prod.ext rfl error) rfl)]
              rfl

theorem exportSites_singleton (site : Site) (c : Channel β) :
    exportSites [site] c =
      match Channel.exportNode site.path site.node c with
      | (.error e, c) => (([site], .error e), c)
      | (.ok (), c) => (([site.marked], .ok ()), c) := rfl

theorem exportSites_parent {children children' : List Site} {c c' : Channel β}
    (done : exportSites children c = ((children', .ok ()), c')) (parent : Site) :
    exportSites (children ++ [parent]) c =
      match Channel.exportNode parent.path parent.node c' with
      | (.error e, c) => ((children' ++ [parent], .error e), c)
      | (.ok (), c) => ((children' ++ [parent.marked], .ok ()), c) := by
  rw [exportSites_append_ok done, exportSites_singleton]
  cases Channel.exportNode parent.path parent.node c' with
  | mk outcome d => cases outcome <;> rfl

end ExportSites

/-! ## Nodes of one kind -/

structure Level (ν : Type) where
  sites : Nat → ν → List Site
  /-- The node without marks of publication. -/
  blank : ν → ν
  /-- The node with everything that its publication adds. -/
  settle : ν → ν
  /-- The second node has part of what a publication of the first adds. -/
  grown : ν → ν → Prop
  refl : ∀ x, grown x x

def Level.row {ν : Type} (L : Level ν) : Level (List ν) where
  sites := sitesFrom L.sites
  blank := List.map L.blank
  settle := List.map L.settle
  grown := List.Forall₂ L.grown
  refl _ := List.forall₂_same.mpr fun x _ => L.refl x

/-- What `result` is when a node `x` was published: the sites of a node `g` that grew from `x` were
exported. -/
structure Level.Flat {ν : Type} [Transport β] (L : Level ν) (position : Nat) (x : ν) (c : Channel β)
    (result : Stepped ν × Channel β) (g : ν) : Prop where
  grown : L.grown x g
  alike : L.blank result.1.1 = L.blank g
  exports : exportSites (L.sites position g) c =
    ((L.sites position result.1.1, result.1.2), result.2)
  settled : result.1.2 = .ok () → g = L.settle x

theorem Level.row_flat {ν : Type} [Transport β] (L : Level ν)
    {step : Nat → ν → StateM (Channel β) (Stepped ν)}
    (each : ∀ i x c, ∃ g, L.Flat i x c (step i x c) g) (position : Nat) (xs : List ν) (c : Channel β) :
    ∃ gs, L.row.Flat position xs c (publishEach step position xs c) gs := by
  induction xs generalizing position c with
  | nil => exact ⟨[], .nil, rfl, rfl, fun _ => rfl⟩
  | cons x xs ih =>
      obtain ⟨g, flat⟩ := each position x c
      cases h : step position x c with
      | mk stepped d =>
          obtain ⟨x', outcome⟩ := stepped
          rw [h] at flat
          cases outcome with
          | error e =>
              rw [publishEach_cons_error h]
              refine ⟨g :: xs, .cons flat.grown (L.row.refl xs), ?_, ?_, fun ok => by cases ok⟩
              · exact congrArg (· :: xs.map L.blank) flat.alike
              · exact exportSites_append_error flat.exports _
          | ok =>
              rw [publishEach_cons_ok h]
              obtain ⟨gs, later⟩ := ih (position + 1) d
              refine ⟨g :: gs, .cons flat.grown later.grown, ?_, ?_, fun ok => ?_⟩
              · exact congrArg₂ List.cons flat.alike later.alike
              · have front := exportSites_append_ok flat.exports (sitesFrom L.sites (position + 1) gs)
                rw [show exportSites (sitesFrom L.sites (position + 1) gs) d = _ from later.exports] at front
                exact front
              · exact congrArg₂ List.cons (flat.settled rfl) (later.settled ok)

/-! ## The kinds of nodes -/

def Characteristic.Grown (c d : Characteristic) : Prop := d = c ∨ d = c.withClientConfiguration

structure Service.Grown (s t : Service) : Prop where
  same : t = { s with characteristics := t.characteristics }
  characteristics : List.Forall₂ Characteristic.Grown s.characteristics t.characteristics

def Service.settle (s : Service) : Service :=
  { s with characteristics := s.characteristics.map Characteristic.withClientConfiguration }

def Descriptor.level (service characteristic : Nat) : Level Descriptor where
  sites := Descriptor.sites service characteristic
  blank := Descriptor.blank
  settle := id
  grown := Eq
  refl _ := rfl

def Characteristic.level (service : Nat) : Level Characteristic where
  sites := Characteristic.sites service
  blank := Characteristic.blank
  settle := Characteristic.withClientConfiguration
  grown := Characteristic.Grown
  refl _ := .inl rfl

def Service.level : Level Service where
  sites _ := Service.sites
  blank := Service.blank
  settle := Service.settle
  grown := Service.Grown
  refl _ := ⟨rfl, List.forall₂_same.mpr fun _ _ => .inl rfl⟩

section Kinds
variable [Transport β]

theorem Descriptor.publish_flat (service characteristic position : Nat) (d : Descriptor) (c : Channel β) :
    ∃ g, (level service characteristic).Flat position d c
      (d.publish (.descriptor service characteristic position) c) g := by
  refine ⟨d, rfl, ?_, ?_, fun _ => rfl⟩
  all_goals
    simp only [publish, stateM_bind, level, sites, exportSites_singleton]
    cases Channel.exportNode d.path (.descriptor service characteristic position) c with
    | mk outcome c' => cases outcome <;> rfl

theorem Characteristic.publish_flat (service position : Nat) (x : Characteristic) (c : Channel β) :
    ∃ g, (level service).Flat position x c (x.publish service position c) g := by
  let y := x.withClientConfiguration
  obtain ⟨ds, children⟩ := (Descriptor.level service position).row_flat
    (Descriptor.publish_flat (β := β) service position) 0 y.descriptors c
  -- Descriptors do not grow, so the walk goes through those that the characteristic has by then.
  obtain rfl : y.descriptors = ds := by
    rw [← List.forall₂_eq_eq_eq]
    exact children.grown
  have settled : (level service).grown x y := .inr rfl
  refine ⟨y, ?_⟩
  simp only [publish, stateM_bind]
  cases h : publishEach (fun i d => d.publish (.descriptor service position i)) 0 y.descriptors c with
  | mk stepped c' =>
      obtain ⟨ds, outcome⟩ := stepped
      rw [h] at children
      have alike (published : Bool) : ({ y with descriptors := ds, published } : Characteristic).blank = y.blank :=
        congrArg (fun ds => { y with published := false, descriptors := ds }) children.alike
      cases outcome with
      | error e =>
          exact ⟨settled, alike _, exportSites_append_error children.exports _, fun _ => rfl⟩
      | ok =>
          have here := exportSites_parent children.exports
            ⟨.characteristic service position, x.withClientConfiguration.path, y.published⟩
          cases own : Channel.exportNode x.withClientConfiguration.path (.characteristic service position) c' with
          | mk outcome c'' =>
              simp only [own] at here
              simp only [stateM_bind, own]
              cases outcome with
              | error e => exact ⟨settled, alike _, here, fun _ => rfl⟩
              | ok => exact ⟨settled, alike _, here, fun _ => rfl⟩

theorem Service.publish_flat (position : Nat) (x : Service) (c : Channel β) :
    ∃ g, level.Flat position x c (x.publish c) g := by
  obtain ⟨cs, children⟩ := (Characteristic.level x.key).row_flat
    (Characteristic.publish_flat (β := β) x.key) 0 x.characteristics c
  let y : Service := { x with characteristics := cs }
  have grown : level.grown x y := ⟨rfl, children.grown⟩
  refine ⟨y, ?_⟩
  simp only [publish, stateM_bind]
  cases h : publishEach (fun i c => c.publish x.key i) 0 x.characteristics c with
  | mk stepped c' =>
      obtain ⟨cs', outcome⟩ := stepped
      rw [h] at children
      have alike (published : Bool) : ({ x with characteristics := cs', published } : Service).blank = y.blank :=
        congrArg (fun cs => { x with published := false, characteristics := cs }) children.alike
      cases outcome with
      | error e =>
          exact ⟨grown, alike _, exportSites_append_error children.exports _, fun ok => by cases ok⟩
      | ok =>
          have settled : y = x.settle := congrArg (fun cs => { x with characteristics := cs }) (children.settled rfl)
          have here := exportSites_parent children.exports ⟨.service x.key, x.path, x.published⟩
          cases own : Channel.exportNode x.path (.service x.key) c' with
          | mk outcome c'' =>
              simp only [own] at here
              simp only [stateM_bind, own]
              cases outcome with
              | error e => exact ⟨grown, alike _, here, fun _ => settled⟩
              | ok => exact ⟨grown, alike _, here, fun _ => settled⟩

/-- The root, which keeps no mark of its own. -/
def Application.rootSite (a : Application) (published : Bool) : Site := ⟨.application, a.path, published⟩

def Outcome.isOk {α : Type} : Except BusError α → Bool
  | .ok _ => true
  | .error _ => false

theorem Application.exportTree_flat (a : Application) (c : Channel β) :
    ∃ gs ss outcome c', List.Forall₂ Service.Grown a.services gs ∧
      a.exportTree c = (({ a with services := ss }, outcome), c') ∧
      ss.map Service.blank = gs.map Service.blank ∧
      exportSites (sites { a with services := gs } ++ [a.rootSite false]) c =
        ((sites { a with services := ss } ++ [a.rootSite (Outcome.isOk outcome)], outcome), c') ∧
      (outcome = .ok () → gs = a.services.map Service.settle) := by
  obtain ⟨gs, children⟩ := Service.level.row_flat (Service.publish_flat (β := β)) 0 a.services c
  simp only [exportTree, stateM_bind]
  cases h : publishEach (fun _ s => s.publish) 0 a.services c with
  | mk stepped c' =>
      obtain ⟨ss, outcome⟩ := stepped
      rw [h] at children
      cases outcome with
      | error e =>
          exact ⟨gs, ss, _, _, children.grown, rfl, children.alike,
            exportSites_append_error children.exports _, fun ok => by cases ok⟩
      | ok =>
          have here := exportSites_parent children.exports (a.rootSite false)
          cases own : Channel.exportNode a.path .application c' with
          | mk outcome c'' =>
              simp only [rootSite, own] at here
              refine ⟨gs, ss, outcome, c'', children.grown, ?_, children.alike, ?_, fun _ => children.settled rfl⟩
              · simp only [stateM_bind, stateM_pure, own]
              · cases outcome <;> exact here

end Kinds

/-! ## What a publication adds to a tree -/

def Characteristic.Subscribable (c : Characteristic) : Prop :=
  c.flags.contains .notify = true ∨ c.flags.contains .indicate = true →
    c.descriptors.countP Descriptor.isClientConfiguration = 1

def Service.Subscribable (s : Service) : Prop := ∀ c ∈ s.characteristics, c.Subscribable

theorem Characteristic.withClientConfiguration_cases (c : Characteristic) :
    c.withClientConfiguration = c ∧
        (c.flags.contains .notify = true ∨ c.flags.contains .indicate = true →
          (c.findDescriptor? .clientConfiguration).isSome) ∨
      (c.flags.contains .notify = true ∨ c.flags.contains .indicate = true) ∧
        c.findDescriptor? .clientConfiguration = none ∧
        c.withClientConfiguration = c.addDescriptor .clientConfiguration .readWrite := by
  rw [withClientConfiguration, ← Flags.notifies_iff]
  cases found : c.findDescriptor? .clientConfiguration with
  | some position => simp
  | none => cases c.flags.notifies <;> simp

namespace Characteristic.Grown

variable {c d : Characteristic}

theorem standsFor (grown : c.Grown d) : d.StandsFor c := by
  rcases grown with rfl | rfl
  · exact .refl _
  · rcases c.withClientConfiguration_cases with ⟨same, -⟩ | ⟨-, new, added⟩
    · rw [same]
      exact .refl c
    · rw [added]
      exact standsFor_addDescriptor new

theorem core (grown : c.Grown d) : d.core = c.core := by
  rcases grown with rfl | rfl
  · rfl
  · rcases c.withClientConfiguration_cases with ⟨same, -⟩ | ⟨-, -, added⟩
    · rw [same]
    · rw [added]
      rfl

theorem sprouted (grown : c.Grown d) (service position : Nat) :
    Sprouted (c.sites service position) (d.sites service position) := by
  rcases grown with rfl | rfl
  · exact .refl _
  · rcases c.withClientConfiguration_cases with ⟨same, -⟩ | ⟨-, -, added⟩
    · rw [same]
      exact .refl _
    · rw [added]
      exact c.sprouted_addDescriptor _ _ service position

end Characteristic.Grown

namespace Service.Grown

variable {s t : Service}

theorem standsFor (grown : s.Grown t) : t.StandsFor s := by
  rw [grown.same]
  exact .of_characteristics rfl rfl rfl (grown.characteristics.imp fun _ _ => Characteristic.Grown.standsFor)

theorem carries (grown : s.Grown t) : s.Carries t := by
  rw [grown.same]
  exact .of_rows rfl (grown.characteristics.imp fun _ _ => Characteristic.Grown.core)

theorem sprouted (grown : s.Grown t) : Sprouted s.sites t.sites := by
  rw [grown.same]
  have rows := grown.characteristics.imp fun _ _ grown => grown.sprouted s.key
  exact (Sprouted.sitesFrom rows 0).append (.refl _)

end Service.Grown

theorem Application.Placed.extends_grown {a : Application} (placed : a.Placed) {gs : List Service}
    (grown : List.Forall₂ Service.Grown a.services gs) :
    Application.Extends { a with services := gs } a where
  path := rfl
  state := rfl
  frozen := rfl
  placed := placed.replaced rfl rfl (grown.imp fun _ _ => Service.Grown.standsFor)
    (List.forall₂_same.mpr fun _ _ => .refl _)
  sites := Sprouted.sitesFrom (grown.imp fun _ _ grown _ => grown.sprouted) 0
  carries := .of_rows (grown.imp fun _ _ => Service.Grown.carries) (List.forall₂_same.mpr fun s _ => .refl s)

theorem Characteristic.Placed.count_le_one {c : Characteristic} (placed : c.Placed) :
    c.descriptors.countP Descriptor.isClientConfiguration ≤ 1 := by
  have distinct : (c.descriptors.map (·.identifier.bits)).Nodup := by
    refine List.pairwise_map.mpr ((List.pairwise_map.mp placed.siblings.different).imp ?_)
    intro d e different
    exact beq_eq_false_iff_ne.mp different
  have count := List.nodup_iff_count_le_one.mp distinct Identifier.clientConfiguration.bits
  rwa [List.count, List.countP_map] at count

theorem Characteristic.Placed.subscribable {c : Characteristic} (placed : c.Placed) :
    c.withClientConfiguration.Subscribable := by
  intro notifies
  have atMost := (Grown.standsFor (.inr rfl)).placed placed |>.count_le_one
  apply Nat.le_antisymm atMost
  rw [Nat.one_le_iff_ne_zero, Nat.ne_zero_iff_zero_lt, List.countP_pos_iff]
  rcases c.withClientConfiguration_cases with ⟨same, found⟩ | ⟨-, -, added⟩
  · rw [same] at notifies ⊢
    simpa [findDescriptor?, Descriptor.isClientConfiguration] using found notifies
  · rw [added]
    exact ⟨_, List.mem_append_right _ (List.mem_singleton_self _), rfl⟩

theorem Characteristic.subscribable_blank (c : Characteristic) : c.blank.Subscribable ↔ c.Subscribable := by
  simp only [Subscribable, blank, List.countP_map]
  exact Iff.rfl

theorem Characteristic.subscribable_outline (c : Characteristic) : c.outline.Subscribable ↔ c.Subscribable := by
  simp only [Subscribable, outline, List.countP_map]
  exact Iff.rfl

theorem Service.subscribable_blank (s : Service) : s.blank.Subscribable ↔ s.Subscribable := by
  simp only [Subscribable, blank, List.forall_mem_map, Characteristic.subscribable_blank]

theorem Service.subscribable_outline (s : Service) : s.outline.Subscribable ↔ s.Subscribable := by
  simp only [Subscribable, outline, List.forall_mem_map, Characteristic.subscribable_outline]

theorem Service.Placed.subscribable {s : Service} (placed : s.Placed) : s.settle.Subscribable := by
  simp only [Subscribable, settle, List.forall_mem_map]
  exact fun c member => (placed.inner c member).subscribable

theorem Characteristic.Grown.eq {c d : Characteristic} (grown : c.Grown d) (complete : c.Subscribable) :
    d = c := by
  rcases grown with rfl | rfl
  · rfl
  · rcases c.withClientConfiguration_cases with ⟨same, -⟩ | ⟨notifies, new, -⟩
    · exact same
    · have none : c.descriptors.countP Descriptor.isClientConfiguration = 0 := by
        simpa [findDescriptor?, Descriptor.isClientConfiguration] using new
      rw [complete notifies] at none
      cases none

theorem Service.Grown.eq {s t : Service} (grown : s.Grown t) (complete : s.Subscribable) : t = s := by
  have rows := (List.forall₂_and_left _ _).mpr ⟨complete, grown.characteristics⟩
  have same : List.Forall₂ Eq s.characteristics t.characteristics :=
    rows.imp fun _ _ both => (both.2.eq both.1).symm
  rw [List.forall₂_eq_eq_eq] at same
  rw [grown.same, ← same]

def Application.Subscribable (a : Application) : Prop := ∀ s ∈ a.services, s.Subscribable

theorem forall_of_map_eq {ν : Type} {erase : ν → ν} {P : ν → Prop} (blind : ∀ x, P (erase x) ↔ P x)
    {xs ys : List ν} (same : ys.map erase = xs.map erase) (holds : ∀ x ∈ xs, P x) : ∀ y ∈ ys, P y := by
  intro y member
  obtain ⟨x, inside, eq⟩ := List.mem_map.mp (same ▸ List.mem_map_of_mem (f := erase) member)
  exact (blind y).mp (eq ▸ (blind x).mpr (holds x inside))

end GattPeripheral
