import GattPeripheral.Proofs.Naming

/-!
# The sites of a tree

Publication sees a tree as the list of its sites: every node with its path and whether it counts as
published, children before their parent. Two erasures say what an operation leaves alone: `blank`
forgets what publication sets, and `outline` forgets what reads, writes and notifications touch.
-/

namespace GattPeripheral

structure Site where
  node : NodeRef
  path : ObjectPath
  published : Bool
  deriving DecidableEq

/-- The sites of nodes in a row, whose positions count from `position`. -/
def sitesFrom {ν : Type} (sites : Nat → ν → List Site) : Nat → List ν → List Site
  | _, [] => []
  | position, x :: xs => sites position x ++ sitesFrom sites (position + 1) xs

def Descriptor.sites (service characteristic position : Nat) (d : Descriptor) : List Site :=
  [⟨.descriptor service characteristic position, d.path, d.published⟩]

def Characteristic.sites (service position : Nat) (c : Characteristic) : List Site :=
  sitesFrom (Descriptor.sites service position) 0 c.descriptors ++
    [⟨.characteristic service position, c.path, c.published⟩]

def Service.sites (s : Service) : List Site :=
  sitesFrom (Characteristic.sites s.key) 0 s.characteristics ++ [⟨.service s.key, s.path, s.published⟩]

def Application.sites (a : Application) : List Site := sitesFrom (fun _ => Service.sites) 0 a.services

section SitesFrom
variable {ν : Type} {sites : Nat → ν → List Site}

theorem sitesFrom_append (position : Nat) (xs ys : List ν) :
    sitesFrom sites position (xs ++ ys) =
      sitesFrom sites position xs ++ sitesFrom sites (position + xs.length) ys := by
  induction xs generalizing position with
  | nil => rfl
  | cons x xs ih =>
      simp only [List.cons_append, sitesFrom, ih, List.append_assoc, List.length_cons]
      rw [Nat.add_assoc, Nat.add_comm 1]

theorem mem_sitesFrom {site : Site} {position : Nat} {xs : List ν} :
    site ∈ sitesFrom sites position xs ↔ ∃ i x, xs[i]? = some x ∧ site ∈ sites (position + i) x := by
  induction xs generalizing position with
  | nil => simp [sitesFrom]
  | cons x xs ih =>
      rw [sitesFrom, List.mem_append, ih]
      constructor
      · rintro (here | ⟨i, y, found, later⟩)
        · exact ⟨0, x, rfl, here⟩
        · exact ⟨i + 1, y, found, by rwa [Nat.add_right_comm] at later⟩
      · rintro ⟨i, y, found, member⟩
        cases i with
        | zero =>
            obtain rfl : x = y := Option.some.inj found
            exact .inl member
        | succ i => exact .inr ⟨i, y, found, by rwa [Nat.add_right_comm]⟩

theorem sitesFrom_map {f : ν → ν} {g : Site → Site} (each : ∀ i x, sites i (f x) = (sites i x).map g)
    (position : Nat) (xs : List ν) :
    sitesFrom sites position (xs.map f) = (sitesFrom sites position xs).map g := by
  induction xs generalizing position with
  | nil => rfl
  | cons x xs ih => simp only [List.map_cons, sitesFrom, each, ih, List.map_append]

theorem sitesFrom_map_same {f : ν → ν} (same : ∀ i x, sites i (f x) = sites i x) (position : Nat)
    (xs : List ν) : sitesFrom sites position (xs.map f) = sitesFrom sites position xs := by
  rw [sitesFrom_map (g := id) fun i x => by rw [same, List.map_id], List.map_id]

theorem map_sitesFrom {α : Type} {g : Site → α} {shows : ν → List α}
    (own : ∀ i x, (sites i x).map g = shows x) (position : Nat) (xs : List ν) :
    (sitesFrom sites position xs).map g = xs.flatMap shows := by
  induction xs generalizing position with
  | nil => rfl
  | cons x xs ih => simp only [sitesFrom, List.map_append, own, ih, List.flatMap_cons]

end SitesFrom

theorem forall_sitesFrom {ν : Type} {sites : Nat → ν → List Site} {P : Site → Prop} {xs : List ν} :
    (∀ site ∈ sitesFrom sites 0 xs, P site) ↔ ∀ i x, xs[i]? = some x → ∀ site ∈ sites i x, P site := by
  simp only [mem_sitesFrom, Nat.zero_add]
  constructor
  · exact fun all i x found site member => all site ⟨i, x, found, member⟩
  · rintro all site ⟨i, x, found, member⟩
    exact all i x found site member

theorem Application.forall_sites {a : Application} {P : Site → Prop} :
    (∀ site ∈ a.sites, P site) ↔ ∀ s ∈ a.services, P ⟨.service s.key, s.path, s.published⟩ ∧
      ∀ i c, s.characteristics[i]? = some c → P ⟨.characteristic s.key i, c.path, c.published⟩ ∧
        ∀ j d, c.descriptors[j]? = some d → P ⟨.descriptor s.key i j, d.path, d.published⟩ := by
  simp only [sites, Service.sites, Characteristic.sites, Descriptor.sites, forall_sitesFrom,
    List.forall_mem_append, List.forall_mem_singleton, and_comm]
  constructor
  · intro all s member
    obtain ⟨i, found⟩ := List.getElem?_of_mem member
    exact all i s found
  · exact fun all i s found => all s (List.mem_of_getElem? found)

/-! ## Erasing marks of publication -/

def Descriptor.blank (d : Descriptor) : Descriptor := { d with published := false }

def Characteristic.blank (c : Characteristic) : Characteristic :=
  { c with published := false, descriptors := c.descriptors.map Descriptor.blank }

def Service.blank (s : Service) : Service :=
  { s with published := false, characteristics := s.characteristics.map Characteristic.blank }

theorem Characteristic.blank_blank (c : Characteristic) : c.blank.blank = c.blank := by
  simp only [blank, List.map_map]
  rfl

theorem Service.blank_blank (s : Service) : s.blank.blank = s.blank := by
  simp only [blank, List.map_map, Function.comp_def, Characteristic.blank_blank]

def Site.cleared (site : Site) : Site := { site with published := false }

theorem Descriptor.sites_blank (service characteristic position : Nat) (d : Descriptor) :
    d.blank.sites service characteristic position =
      (d.sites service characteristic position).map Site.cleared := rfl

theorem Characteristic.sites_blank (service position : Nat) (c : Characteristic) :
    c.blank.sites service position = (c.sites service position).map Site.cleared := by
  simp only [sites, blank, List.map_append, List.map_cons, List.map_nil]
  rw [sitesFrom_map fun i d => d.sites_blank service position i]
  rfl

theorem Service.sites_blank (s : Service) : s.blank.sites = s.sites.map Site.cleared := by
  simp only [sites, blank, List.map_append, List.map_cons, List.map_nil]
  rw [sitesFrom_map fun i c => c.sites_blank s.key i]
  rfl

/-! ## Erasing values -/

def Descriptor.outline (d : Descriptor) : Descriptor :=
  { d with value := [], readProvider := none, writeProvider := none }

def Characteristic.outline (c : Characteristic) : Characteristic :=
  { c with
    value := []
    notifying := false
    readProvider := none
    writeProvider := none
    observer := none
    descriptors := c.descriptors.map Descriptor.outline }

def Service.outline (s : Service) : Service :=
  { s with characteristics := s.characteristics.map Characteristic.outline }

def Application.outline (a : Application) : Application :=
  { a with services := a.services.map Service.outline, removed := a.removed.map Service.outline }

theorem Descriptor.sites_outline (service characteristic position : Nat) (d : Descriptor) :
    d.outline.sites service characteristic position = d.sites service characteristic position := rfl

theorem Characteristic.sites_outline (service position : Nat) (c : Characteristic) :
    c.outline.sites service position = c.sites service position := by
  simp only [sites, outline]
  rw [sitesFrom_map_same fun i d => d.sites_outline service position i]

theorem Service.sites_outline (s : Service) : s.outline.sites = s.sites := by
  simp only [sites, outline]
  rw [sitesFrom_map_same fun i c => c.sites_outline s.key i]

theorem Application.sites_outline (a : Application) : a.outline.sites = a.sites := by
  simp only [sites, outline]
  rw [sitesFrom_map_same fun _ s => s.sites_outline]

end GattPeripheral
