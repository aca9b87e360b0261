import GattPeripheral.Bus.Memory
import GattPeripheral.Proofs.Dict
import GattPeripheral.Proofs.Tree.Publishing

/-!
# Publishing on a bus in memory

`exportSites_memory`: sites are exported up to the first one whose path is refused.
`Application.withdraw_memory`: taking the tree off the bus always succeeds. The table of the bus after
either is described by `exportAll_of_mem`, `exportAll_of_not_mem` and `get?_eraseAll`.
-/

namespace GattPeripheral

/-! ## Tables -/

abbrev ExportTable := Dict ObjectPath NodeRef

def ExportTable.exportAll (table : ExportTable) (sites : List Site) : ExportTable :=
  sites.foldl (fun d site => d.insert site.path site.node) table

def ExportTable.eraseAll (table : ExportTable) (paths : List ObjectPath) : ExportTable :=
  paths.foldl Dict.erase table

namespace ExportTable

theorem exportAll_of_not_mem {sites : List Site} {p : ObjectPath} (other : p ∉ sites.map Site.path)
    (table : ExportTable) : (table.exportAll sites).get? p = table.get? p := by
  induction sites generalizing table with
  | nil => rfl
  | cons site sites ih =>
      rw [List.map_cons, List.mem_cons, not_or] at other
      rw [exportAll, List.foldl_cons, ← exportAll, ih other.2, Dict.get?_insert_eq, if_neg other.1]

theorem exportAll_of_mem {sites : List Site} (distinct : (sites.map Site.path).Nodup) {site : Site}
    (member : site ∈ sites) (table : ExportTable) :
    (table.exportAll sites).get? site.path = some site.node := by
  induction sites generalizing table with
  | nil => cases member
  | cons first sites ih =>
      rw [List.map_cons, List.nodup_cons] at distinct
      rw [exportAll, List.foldl_cons, ← exportAll]
      rcases List.mem_cons.mp member with rfl | later
      · rw [exportAll_of_not_mem distinct.1, Dict.get?_insert_eq, if_pos rfl]
      · exact ih distinct.2 later _

theorem get?_eraseAll (table : ExportTable) (paths : List ObjectPath) (p : ObjectPath) :
    (table.eraseAll paths).get? p = if p ∈ paths then none else table.get? p := by
  induction paths generalizing table with
  | nil => simp [eraseAll]
  | cons first paths ih =>
      rw [eraseAll, List.foldl_cons, ← eraseAll, ih, Dict.get?_erase_eq]
      by_cases here : p = first <;> by_cases later : p ∈ paths <;> simp [here, later]

theorem eraseAll_append (table : ExportTable) (front back : List ObjectPath) :
    table.eraseAll (front ++ back) = (table.eraseAll front).eraseAll back := List.foldl_append

end ExportTable

/-! ## Exports -/

theorem Channel.request_eq {β α : Type} (act : Request β α) (event : Option BusError → Event)
    (c : Channel β) : Channel.request act event c =
      ((act c.bus).1, ⟨(act c.bus).2, c.trace ++ [event (failure? (act c.bus).1)]⟩) := rfl

def MemoryBus.accepts (b : MemoryBus) (site : Site) : Bool := !b.refusedExports.contains site.path

def exportRefused (site : Site) : BusError := .exportFailed site.path.text "export refused"

def exportEvent (failure : Option BusError) (site : Site) : Event :=
  .exported site.path site.node.kind failure

def Channel.exporting (sites : List Site) (c : Channel MemoryBus) : Channel MemoryBus where
  bus := { c.bus with exported := ExportTable.exportAll c.bus.exported sites }
  trace := c.trace ++ sites.map (exportEvent none)

theorem exportNode_accepted {site : Site} {c : Channel MemoryBus} (accepted : c.bus.accepts site = true) :
    Channel.exportNode site.path site.node c = (.ok (), c.exporting [site]) := by
  have bus : Transport.exportNode site.path site.node c.bus =
      (.ok (), { c.bus with exported := c.bus.exported.insert site.path site.node }) :=
    if_neg (by simpa [MemoryBus.accepts] using accepted)
  rw [Channel.exportNode, Channel.request_eq, bus]
  rfl

theorem exportNode_refused {site : Site} {c : Channel MemoryBus} (refused : c.bus.accepts site = false) :
    Channel.exportNode site.path site.node c =
      (.error (exportRefused site),
        { c with trace := c.trace ++ [exportEvent (some (exportRefused site)) site] }) := by
  have bus : Transport.exportNode site.path site.node c.bus = (.error (exportRefused site), c.bus) :=
    if_pos (by simpa [MemoryBus.accepts] using refused)
  rw [Channel.exportNode, Channel.request_eq, bus]
  rfl

def MemoryBus.taken (b : MemoryBus) (sites : List Site) : List Site := sites.takeWhile b.accepts

def MemoryBus.left (b : MemoryBus) (sites : List Site) : List Site := sites.dropWhile b.accepts

theorem MemoryBus.taken_append_left (b : MemoryBus) (sites : List Site) :
    b.taken sites ++ b.left sites = sites := List.takeWhile_append_dropWhile

def refusal : List Site → Except BusError Unit
  | [] => .ok ()
  | site :: _ => .error (exportRefused site)

def refusalEvents : List Site → List Event
  | [] => []
  | site :: _ => [exportEvent (some (exportRefused site)) site]

theorem exportSites_memory (sites : List Site) (c : Channel MemoryBus) :
    exportSites sites c =
      (((c.bus.taken sites).map Site.marked ++ c.bus.left sites, refusal (c.bus.left sites)),
        { c.exporting (c.bus.taken sites) with
          trace := (c.exporting (c.bus.taken sites)).trace ++ refusalEvents (c.bus.left sites) }) := by
  induction sites generalizing c with
  | nil => simp [exportSites, MemoryBus.taken, MemoryBus.left, Channel.exporting, ExportTable.exportAll,
      refusal, refusalEvents]
  | cons site sites ih =>
      cases accepted : c.bus.accepts site with
      | false =>
          have none : c.bus.taken (site :: sites) = [] := List.takeWhile_cons_of_neg (by simp [accepted])
          have all : c.bus.left (site :: sites) = site :: sites :=
            List.dropWhile_cons_of_neg (by simp [accepted])
          rw [exportSites_cons_error (exportNode_refused accepted), none, all]
          simp [Channel.exporting, ExportTable.exportAll, refusal, refusalEvents]
      | true =>
          have more : c.bus.taken (site :: sites) = site :: c.bus.taken sites :=
            List.takeWhile_cons_of_pos accepted
          have same : c.bus.left (site :: sites) = c.bus.left sites := List.dropWhile_cons_of_pos accepted
          have taken : (c.exporting [site]).bus.taken sites = c.bus.taken sites := rfl
          have left : (c.exporting [site]).bus.left sites = c.bus.left sites := rfl
          rw [exportSites_cons_ok (exportNode_accepted accepted), ih, more, same, taken, left]
          simp [Channel.exporting, ExportTable.exportAll]

/-! ## Removal -/

def Channel.removing (nodes : List (ObjectPath × ObjectKind)) (c : Channel MemoryBus) : Channel MemoryBus where
  bus := { c.bus with exported := ExportTable.eraseAll c.bus.exported (nodes.map Prod.fst) }
  trace := c.trace ++ nodes.map fun node => .unexported node.1 node.2 none

theorem Channel.removing_append (front back : List (ObjectPath × ObjectKind)) (c : Channel MemoryBus) :
    (c.removing front).removing back = c.removing (front ++ back) := by
  simp [removing, ExportTable.eraseAll_append]

theorem unexportNode_memory (path : ObjectPath) (kind : ObjectKind) (c : Channel MemoryBus) :
    Channel.unexportNode path kind c = (.ok (), c.removing [(path, kind)]) := rfl

def Characteristic.topDown (c : Characteristic) : List (ObjectPath × ObjectKind) :=
  (c.path, .characteristic) :: c.descriptors.flatMap fun d => [(d.path, .descriptor)]

def Service.topDown (s : Service) : List (ObjectPath × ObjectKind) :=
  (s.path, .service) :: s.characteristics.flatMap Characteristic.topDown

def Application.topDown (a : Application) : List (ObjectPath × ObjectKind) :=
  (a.path, .application) :: a.services.flatMap Service.topDown

theorem removeEach_memory {ν : Type} {step : Nat → ν → StateM (Channel MemoryBus) (Stepped ν)}
    {blank : ν → ν} {nodes : ν → List (ObjectPath × ObjectKind)}
    (each : ∀ i x c, step i x c = ((blank x, .ok ()), c.removing (nodes x))) (position : Nat) (xs : List ν)
    (c : Channel MemoryBus) :
    publishEach step position xs c = ((xs.map blank, .ok ()), c.removing (xs.flatMap nodes)) := by
  induction xs generalizing position c with
  | nil => simp [publishEach_nil, Channel.removing, ExportTable.eraseAll]
  | cons x xs ih =>
      rw [publishEach_cons_ok (each position x c), ih, Channel.removing_append]
      rfl

theorem Descriptor.unpublish_memory (x : Descriptor) (c : Channel MemoryBus) :
    x.unpublish c = ((x.blank, .ok ()), c.removing [(x.path, .descriptor)]) := rfl

theorem Characteristic.unpublish_memory (x : Characteristic) (c : Channel MemoryBus) :
    x.unpublish c = ((x.blank, .ok ()), c.removing x.topDown) := by
  simp only [unpublish, stateM_bind, unexportNode_memory]
  rw [removeEach_memory fun _ x c => x.unpublish_memory c, Channel.removing_append]
  rfl

theorem Service.unpublish_memory (x : Service) (c : Channel MemoryBus) :
    x.unpublish c = ((x.blank, .ok ()), c.removing x.topDown) := by
  simp only [unpublish, stateM_bind, unexportNode_memory]
  rw [removeEach_memory fun _ x c => x.unpublish_memory c, Channel.removing_append]
  rfl

def Application.withdrawn (a : Application) : Application :=
  { a with services := a.services.map Service.blank, state := .unpublished, frozen := false }

theorem Application.withdraw_memory (a : Application) (c : Channel MemoryBus) :
    a.withdraw c = ((a.withdrawn, .ok ()), c.removing a.topDown) := by
  simp only [withdraw, stateM_bind, unexportNode_memory]
  rw [removeEach_memory fun _ x c => x.unpublish_memory c, Channel.removing_append]
  rfl

theorem Characteristic.mem_topDown (c : Characteristic) (p : ObjectPath) :
    p ∈ c.topDown.map Prod.fst ↔ p ∈ c.paths := by
  simp [topDown, paths, or_comm]

theorem Service.mem_topDown (s : Service) (p : ObjectPath) : p ∈ s.topDown.map Prod.fst ↔ p ∈ s.paths := by
  rw [topDown, paths, List.map_cons, List.mem_cons, List.map_flatMap, List.mem_append, List.mem_singleton,
    or_comm]
  simp only [List.mem_flatMap, Characteristic.mem_topDown]

theorem Application.mem_topDown (a : Application) (p : ObjectPath) :
    p ∈ a.topDown.map Prod.fst ↔ p ∈ a.paths ++ [a.path] := by
  rw [topDown, paths, List.map_cons, List.mem_cons, List.map_flatMap, List.mem_append, List.mem_singleton,
    or_comm]
  simp only [List.mem_flatMap, Service.mem_topDown]

theorem Application.sites_withdrawn (a : Application) : a.withdrawn.sites = a.sites.map Site.cleared :=
  sitesFrom_map (fun _ s => s.sites_blank) 0 a.services

theorem Application.Placed.withdrawn {a : Application} (placed : a.Placed) : a.withdrawn.Placed := by
  refine placed.replaced rfl rfl (forall₂_map fun s _ => ?_) (List.forall₂_same.mpr fun s _ => .refl s)
  exact .of_blank s.blank_blank

end GattPeripheral
