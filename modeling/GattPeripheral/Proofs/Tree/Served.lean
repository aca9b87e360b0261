import GattPeripheral.Proofs.Tree.Exports

/-!
# What the bus holds of a tree

`Application.Kept` is the invariant that ties a tree to the table of its bus: a node that counts as
published stands in the table, and while the application is published every node does. `Accounts` says
conversely that what stands in the table belongs to the root or to a published node; taking a service
with published nodes out of the tree is the one step that breaks it.
-/

namespace GattPeripheral

/-! ## The record of exports -/

def Event.exportedPath? : Event → Option ObjectPath
  | .exported path _ none => some path
  | _ => none

def Channel.everExported {β : Type} (c : Channel β) : List ObjectPath := c.trace.filterMap Event.exportedPath?

theorem everExported_silent {β : Type} (c : Channel β) (bus : β) {events : List Event}
    (silent : ∀ e ∈ events, e.exportedPath? = none) :
    Channel.everExported ⟨bus, c.trace ++ events⟩ = c.everExported := by
  simp only [Channel.everExported, List.filterMap_append, List.filterMap_eq_nil_iff.mpr silent, List.append_nil]

theorem everExported_exporting (sites : List Site) (c : Channel MemoryBus) (left : List Site) :
    Channel.everExported
        { c.exporting sites with trace := (c.exporting sites).trace ++ refusalEvents left } =
      c.everExported ++ sites.map Site.path := by
  rw [everExported_silent (c.exporting sites) (c.exporting sites).bus]
  · simp only [Channel.everExported, Channel.exporting, List.filterMap_append, List.filterMap_map]
    exact congrArg (c.everExported ++ ·) (List.filterMap_eq_map ▸ rfl)
  · cases left with
    | nil => exact fun e member => by cases member
    | cons site left => simp [refusalEvents, exportEvent, Event.exportedPath?]

theorem everExported_removing (nodes : List (ObjectPath × ObjectKind)) (c : Channel MemoryBus) :
    (c.removing nodes).everExported = c.everExported := by
  rw [Channel.removing, everExported_silent]
  intro e member
  obtain ⟨node, -, rfl⟩ := List.mem_map.mp member
  rfl

structure Channel.Quiet (c d : Channel MemoryBus) : Prop where
  table : d.bus.exported = c.bus.exported
  record : d.everExported = c.everExported

/-! ## One publication -/

def Application.withRoot (a : Application) (sites : List Site) : List Site := sites ++ [a.rootSite false]

/-- What the publication of `a` leaves: it went through `sites`, the sites of a tree that grew from `a`. -/
structure Application.Publication (a : Application) (c : Channel MemoryBus) (sites : List Site)
    (b : Application) (d : Channel MemoryBus) : Prop where
  path : b.path = a.path
  placed : b.Placed
  sprouted : Sprouted a.sites sites
  marks : ∃ published, b.sites ++ [b.rootSite published] =
    (c.bus.taken (a.withRoot sites)).map Site.marked ++ c.bus.left (a.withRoot sites)
  channel : d = { c.exporting (c.bus.taken (a.withRoot sites)) with
    trace := (c.exporting (c.bus.taken (a.withRoot sites))).trace ++ refusalEvents (c.bus.left (a.withRoot sites)) }
  complete : a.Subscribable → sites = a.sites ∧ b.Subscribable

theorem Application.exportTree_memory {a : Application} (placed : a.Placed) (c : Channel MemoryBus) :
    ∃ sites ss d, let b : Application := { a with services := ss }
      a.exportTree c = ((b, refusal (c.bus.left (a.withRoot sites))), d) ∧
        a.Publication c sites b d ∧ (c.bus.left (a.withRoot sites) = [] → b.Subscribable) := by
  obtain ⟨gs, ss, outcome, d, grown, result, alike, exports, settled⟩ := a.exportTree_flat c
  have extended := placed.extends_grown grown
  have stands : Replaced gs ss := (forall₂_of_map_eq alike).imp fun _ _ same => .of_blank same
  rw [exportSites_memory] at exports
  obtain ⟨both, rfl⟩ := Prod.mk.inj exports
  obtain ⟨marks, rfl⟩ := Prod.mk.inj both
  refine ⟨sites { a with services := gs }, ss, _, result, ⟨rfl, ?_, extended.sites, ⟨_, marks.symm⟩, rfl, ?_⟩, ?_⟩
  · exact extended.placed.replaced rfl rfl stands (List.forall₂_same.mpr fun s _ => .refl s)
  · intro complete
    have rows := (List.forall₂_and_left _ _).mpr ⟨complete, grown⟩
    have same : List.Forall₂ Eq a.services gs := rows.imp fun _ _ both => (both.2.eq both.1).symm
    rw [List.forall₂_eq_eq_eq] at same
    subst same
    exact ⟨rfl, forall_of_map_eq Service.subscribable_blank alike complete⟩
  · intro all
    refine forall_of_map_eq Service.subscribable_blank alike ?_
    rw [settled (congrArg refusal all), List.forall_mem_map]
    exact fun s member => (placed.inner s (List.mem_append_left _ member)).subscribable

/-! ## The invariant -/

structure Application.Served (a : Application) (table : ExportTable) : Prop where
  root : table.get? a.path = some .application
  published : ∀ site ∈ a.sites, site.published = true
  subscribable : a.Subscribable

structure Application.Kept (a : Application) (c : Channel MemoryBus) : Prop where
  placed : a.Placed
  held : ∀ site ∈ a.sites, site.published = true →
    c.bus.exported.get? site.path = some site.node ∧ site.path ∈ c.everExported
  editable : a.state = .unpublished → a.frozen = false
  served : a.state ≠ .unpublished → a.frozen = true ∧ a.Served c.bus.exported

theorem Application.kept_new (path : ObjectPath) (c : Channel MemoryBus) : (Application.new path).Kept c where
  placed := placed_new path
  held site member := by cases member
  editable _ := rfl
  served published := absurd rfl published

theorem Application.Placed.standing {a : Application} (placed : a.Placed) (state : ApplicationState)
    (frozen : Bool) : Placed { a with state, frozen } :=
  ⟨placed.siblings, placed.inner, placed.keys, placed.below⟩

namespace Application.Publication

variable {a b : Application} {c d : Channel MemoryBus} {sites : List Site}

theorem standing (publication : a.Publication c sites b d) (state : ApplicationState) (frozen : Bool) :
    a.Publication c sites { b with state, frozen } d :=
  ⟨publication.path, publication.placed.standing state frozen, publication.sprouted, publication.marks,
    publication.channel, publication.complete⟩

theorem nodup (publication : a.Publication c sites b d) :
    ((c.bus.taken (a.withRoot sites)).map Site.path ++ (c.bus.left (a.withRoot sites)).map Site.path).Nodup := by
  obtain ⟨published, marks⟩ := publication.marks
  have distinct := publication.placed.nodup.1
  rw [← b.map_path_sites, show [b.path] = [b.rootSite published].map Site.path from rfl, ← List.map_append,
    marks, List.map_append, List.map_map] at distinct
  exact distinct

theorem exported (publication : a.Publication c sites b d) :
    d.bus.exported = ExportTable.exportAll c.bus.exported (c.bus.taken (a.withRoot sites)) := by
  rw [publication.channel]
  rfl

theorem everExported (publication : a.Publication c sites b d) :
    d.everExported = c.everExported ++ (c.bus.taken (a.withRoot sites)).map Site.path := by
  rw [publication.channel, everExported_exporting]

theorem get?_taken (publication : a.Publication c sites b d) {site : Site}
    (member : site ∈ c.bus.taken (a.withRoot sites)) : d.bus.exported.get? site.path = some site.node := by
  rw [publication.exported]
  exact ExportTable.exportAll_of_mem (List.nodup_append.mp publication.nodup).1 member _

theorem get?_left (publication : a.Publication c sites b d) {site : Site}
    (member : site ∈ c.bus.left (a.withRoot sites)) :
    d.bus.exported.get? site.path = c.bus.exported.get? site.path := by
  rw [publication.exported]
  apply ExportTable.exportAll_of_not_mem
  intro taken
  exact (List.nodup_append.mp publication.nodup).2.2 _ taken _ (List.mem_map_of_mem member) rfl

theorem mem_sites (publication : a.Publication c sites b d) {site : Site} (member : site ∈ b.sites) :
    (∃ old ∈ c.bus.taken (a.withRoot sites), site = old.marked) ∨ site ∈ c.bus.left (a.withRoot sites) := by
  obtain ⟨published, marks⟩ := publication.marks
  have member := List.mem_append_left [b.rootSite published] member
  rw [marks, List.mem_append, List.mem_map] at member
  exact member.imp_left fun ⟨old, taken, eq⟩ => ⟨old, taken, eq.symm⟩

theorem mem_withRoot (site : Site) : site ∈ a.withRoot sites ↔
    site ∈ c.bus.taken (a.withRoot sites) ∨ site ∈ c.bus.left (a.withRoot sites) := by
  rw [← List.mem_append, c.bus.taken_append_left]

theorem mem_of_left (publication : a.Publication c sites b d) {site : Site}
    (left : site ∈ c.bus.left (a.withRoot sites)) (published : site.published = true) : site ∈ a.sites := by
  rcases List.mem_append.mp ((mem_withRoot site).mpr (.inr left)) with inTree | root
  · rcases publication.sprouted.fresh site inTree with old | unpublished
    · exact old
    · rw [published] at unpublished
      cases unpublished
  · rw [List.mem_singleton.mp root] at published
    cases published

theorem held (publication : a.Publication c sites b d) (kept : a.Kept c) : ∀ site ∈ b.sites,
    site.published = true → d.bus.exported.get? site.path = some site.node ∧ site.path ∈ d.everExported := by
  intro site member published
  rw [publication.everExported]
  rcases publication.mem_sites member with ⟨old, taken, rfl⟩ | left
  · have stands := publication.get?_taken taken
    have recorded := List.mem_map_of_mem (f := Site.path) taken
    exact ⟨stands, List.mem_append_right _ recorded⟩
  · obtain ⟨stands, recorded⟩ := kept.held site (publication.mem_of_left left published) published
    exact ⟨(publication.get?_left left).trans stands, List.mem_append_left _ recorded⟩

theorem root_cases (publication : a.Publication c sites b d) :
    d.bus.exported.get? b.path = some .application ∨
      a.rootSite false ∈ c.bus.left (a.withRoot sites) ∧
        d.bus.exported.get? b.path = c.bus.exported.get? a.path := by
  have member : a.rootSite false ∈ a.withRoot sites := List.mem_append_right _ (List.mem_singleton_self _)
  rw [publication.path]
  rcases (mem_withRoot (c := c) _).mp member with taken | left
  · exact .inl (publication.get?_taken taken)
  · exact .inr ⟨left, publication.get?_left left⟩

theorem served (publication : a.Publication c sites b d) (all : c.bus.left (a.withRoot sites) = [])
    (subscribable : b.Subscribable) : b.Served d.bus.exported where
  root := by
    rcases publication.root_cases with stands | ⟨left, -⟩
    · exact stands
    · rw [all] at left
      cases left
  published site member := by
    rcases publication.mem_sites member with ⟨old, -, rfl⟩ | left
    · rfl
    · rw [all] at left
      cases left
  subscribable := subscribable

theorem served_again (publication : a.Publication c sites b d) (served : a.Served c.bus.exported) :
    b.Served d.bus.exported where
  root := by
    rcases publication.root_cases with stands | ⟨-, same⟩
    · exact stands
    · exact same.trans served.root
  published site member := by
    rcases publication.mem_sites member with ⟨old, -, rfl⟩ | left
    · rfl
    · have inside := (mem_withRoot site).mpr (.inr left)
      rw [(publication.complete served.subscribable).1] at inside
      rcases List.mem_append.mp inside with old | root
      · exact served.published site old
      · rw [List.mem_singleton.mp root] at member
        have path := List.mem_map_of_mem (f := Site.path) member
        rw [b.map_path_sites] at path
        exact absurd (publication.path ▸ path) publication.placed.path_not_mem
  subscribable := (publication.complete served.subscribable).2

end Application.Publication

/-! ## What the operations keep -/

namespace Application

variable {a : Application} {c : Channel MemoryBus}

theorem publish_registered {β : Type} [Transport β] {a : Application} {c : Channel β}
    (registered : a.isRegistered = true) : ∃ e, a.publish c = ((a, .error e), c) :=
  ⟨_, by rw [publish, if_pos registered]; rfl⟩

theorem Kept.publish_cases (kept : a.Kept c) (free : a.isRegistered = false) :
    ∃ sites b outcome d, a.publish c = ((b, outcome), d) ∧ a.Publication c sites b d ∧ b.Kept d ∧
      (outcome = .ok () ∧ b.state = .published ∨ (∃ e, outcome = .error e) ∧ b.state = a.state) := by
  let frozen : Application := { a with frozen := true }
  obtain ⟨sites, ss, d, result, raw, complete⟩ := exportTree_memory (kept.placed.standing a.state true) c
  let b : Application := { frozen with services := ss }
  have raw : a.Publication c sites b d :=
    ⟨raw.path, raw.placed, raw.sprouted, raw.marks, raw.channel, raw.complete⟩
  have exports : exportTree frozen c = ((b, refusal (c.bus.left (a.withRoot sites))), d) := result
  cases left : c.bus.left (a.withRoot sites) with
  | nil =>
      have run : a.publish c = (({ b with state := .published }, .ok ()), d) := by
        rw [Application.publish, if_neg (by simp [free]), stateM_bind, exports, left]
        rfl
      have publication := raw.standing .published true
      refine ⟨sites, _, _, d, run, publication, ⟨publication.placed, publication.held kept, ?_, ?_⟩, .inl ⟨rfl, rfl⟩⟩
      · intro unpublished
        cases unpublished
      · intro _
        exact ⟨rfl, publication.served left (complete left)⟩
  | cons site rest =>
      have run : a.publish c = ((if a.state = .unpublished then { b with frozen := false } else b,
          .error (.bus (exportRefused site))), d) := by
        rw [Application.publish, if_neg (by simp [free]), stateM_bind, exports, left]
        rfl
      -- A tree that was published before stays so, since what the walk did not reach stands from then.
      by_cases unpublished : a.state = .unpublished
      · have publication := raw.standing b.state false
        rw [if_pos unpublished] at run
        refine ⟨sites, _, _, d, run, publication, ⟨publication.placed, publication.held kept, fun _ => rfl, ?_⟩,
          .inr ⟨⟨_, rfl⟩, rfl⟩⟩
        exact fun published => absurd unpublished published
      · rw [if_neg unpublished] at run
        refine ⟨sites, _, _, d, run, raw, ⟨raw.placed, raw.held kept, ?_, ?_⟩, .inr ⟨⟨_, rfl⟩, rfl⟩⟩
        · exact fun same => absurd same unpublished
        · exact fun _ => ⟨rfl, raw.served_again (kept.served unpublished).2⟩

theorem Kept.publish (kept : a.Kept c) : (a.publish c).1.1.Kept (a.publish c).2 := by
  cases free : a.isRegistered with
  | true =>
      obtain ⟨e, same⟩ := publish_registered (c := c) free
      rw [same]
      exact kept
  | false =>
      obtain ⟨sites, b, outcome, d, result, -, kept, -⟩ := kept.publish_cases free
      rw [result]
      exact kept

theorem sites_cleared {site : Site} (member : site ∈ a.withdrawn.sites) : site.published = false := by
  rw [sites_withdrawn, List.mem_map] at member
  obtain ⟨old, -, rfl⟩ := member
  rfl

theorem Kept.withdrawn (kept : a.Kept c) : a.withdrawn.Kept (c.removing a.topDown) where
  placed := kept.placed.withdrawn
  held site member published := by
    rw [sites_cleared member] at published
    cases published
  editable _ := rfl
  served published := absurd rfl published

theorem Kept.unpublished_of_open (kept : a.Kept c) (unlocked : a.frozen = false) : a.state = .unpublished := by
  by_contra published
  rw [(kept.served published).1] at unlocked
  cases unlocked

theorem Kept.edit (kept : a.Kept c) (edit : Edit) : (edit.apply a).Kept c := by
  rcases edit.apply_cases kept.placed with same | ⟨unlocked, extended⟩ | ⟨s, removes, eq⟩
  · rwa [same]
  · have unpublished := kept.unpublished_of_open unlocked
    refine ⟨extended.placed, ?_, fun _ => extended.frozen.trans unlocked, ?_⟩
    · intro site member published
      rcases extended.sites.fresh site member with old | fresh
      · exact kept.held site old published
      · rw [published] at fresh
        cases fresh
    · exact fun published => absurd (extended.state.trans unpublished) published
  · rw [eq]
    have unpublished := removes.unpublished
    refine ⟨kept.placed.without removes.member, ?_, fun _ => kept.editable unpublished, ?_⟩
    · exact fun site member => kept.held site (a.sites_without_subset s member)
    · exact fun published => absurd unpublished published

/-! ## The same tree up to values -/

theorem sites_of_outline {b : Application} (same : b.outline = a.outline) : b.sites = a.sites := by
  rw [← b.sites_outline, same, a.sites_outline]

theorem Placed.of_outline {b : Application} (placed : a.Placed) (same : b.outline = a.outline) : b.Placed := by
  injection same with path _ _ services removed next
  refine placed.replaced path next ?_ ?_
  · exact (forall₂_of_map_eq services).imp fun _ _ => .of_outline
  · exact (forall₂_of_map_eq removed).imp fun _ _ => .of_outline

theorem Kept.of_outline {b : Application} {d : Channel MemoryBus} (kept : a.Kept c)
    (same : b.outline = a.outline) (quiet : c.Quiet d) : b.Kept d := by
  have sites := sites_of_outline same
  have placed := kept.placed.of_outline same
  injection same with path state frozen services _ _
  refine ⟨placed, ?_, ?_, ?_⟩
  · rw [sites, quiet.table, quiet.record]
    exact kept.held
  · rw [state, frozen]
    exact kept.editable
  · intro published
    rw [state] at published
    obtain ⟨locked, served⟩ := kept.served published
    refine ⟨frozen.trans locked, ⟨?_, ?_, forall_of_map_eq Service.subscribable_outline services served.subscribable⟩⟩
    · rw [path, quiet.table]
      exact served.root
    · rw [sites]
      exact served.published

theorem Kept.registration (kept : a.Kept c) {state : ApplicationState} (before : a.state ≠ .unpublished)
    (after : state ≠ .unpublished) : Kept { a with state } c where
  placed := kept.placed.standing state a.frozen
  held := kept.held
  editable same := absurd same after
  served _ :=
    have ⟨locked, served⟩ := kept.served before
    ⟨locked, served.root, served.published, served.subscribable⟩

/-! ## Nothing else is exported -/

def Accounts (a : Application) (own : ObjectPath → Prop) (table : ExportTable) : Prop :=
  ∀ p, own p → (table.get? p).isSome = true →
    p = a.path ∨ ∃ site ∈ a.sites, site.published = true ∧ site.path = p

theorem Accounts.publication {own own' : ObjectPath → Prop} {sites : List Site} {b : Application}
    {d : Channel MemoryBus} (accounts : a.Accounts own c.bus.exported)
    (publication : a.Publication c sites b d)
    (fresh : ∀ p, own' p → own p ∨ p ∈ (c.bus.taken (a.withRoot sites)).map Site.path) :
    b.Accounts own' d.bus.exported := by
  obtain ⟨published, marks⟩ := publication.marks
  have marked : ∀ site ∈ (c.bus.taken (a.withRoot sites)).map Site.marked ++ c.bus.left (a.withRoot sites),
      site.published = true → site.path = b.path ∨ ∃ s ∈ b.sites, s.published = true ∧ s.path = site.path := by
    intro site member published
    rw [← marks, List.mem_append, List.mem_singleton] at member
    rcases member with inTree | rfl
    · exact .inr ⟨site, inTree, published, rfl⟩
    · exact .inl rfl
  intro p owned stands
  by_cases taken : p ∈ (c.bus.taken (a.withRoot sites)).map Site.path
  · obtain ⟨site, member, rfl⟩ := List.mem_map.mp taken
    exact marked site.marked (List.mem_append_left _ (List.mem_map_of_mem member)) rfl
  · rw [publication.exported, ExportTable.exportAll_of_not_mem taken] at stands
    rcases accounts p ((fresh p owned).resolve_right taken) stands with root | ⟨site, old, published, rfl⟩
    · exact .inl (root.trans publication.path.symm)
    · have member : site ∈ a.withRoot sites := List.mem_append_left _ (publication.sprouted.kept old)
      rcases (Publication.mem_withRoot (c := c) site).mp member with inTaken | inLeft
      · exact absurd (List.mem_map_of_mem inTaken) taken
      · exact marked site (List.mem_append_right _ inLeft) published

theorem Accounts.of_outline {own : ObjectPath → Prop} {table : ExportTable} {b : Application}
    (accounts : a.Accounts own table) (same : b.outline = a.outline) : b.Accounts own table := by
  have sites := sites_of_outline same
  injection same with path
  rw [Accounts, sites, path]
  exact accounts

theorem Accounts.withdraw {own : ObjectPath → Prop} (accounts : a.Accounts own c.bus.exported) :
    ∀ p, own p → (c.removing a.topDown).bus.exported.get? p = none := by
  intro p owned
  rw [show (c.removing a.topDown).bus.exported =
    ExportTable.eraseAll c.bus.exported (a.topDown.map Prod.fst) from rfl, ExportTable.get?_eraseAll]
  by_cases inTree : p ∈ a.topDown.map Prod.fst
  · exact if_pos inTree
  · rw [if_neg inTree]
    by_contra stands
    rw [mem_topDown, List.mem_append, List.mem_singleton, not_or] at inTree
    rcases accounts p owned (Option.isSome_iff_ne_none.mpr stands) with root | ⟨site, member, -, rfl⟩
    · exact inTree.2 root
    · exact inTree.1 (a.map_path_sites ▸ List.mem_map_of_mem member)

theorem Accounts.edit {own : ObjectPath → Prop} {table : ExportTable} (accounts : a.Accounts own table)
    (placed : a.Placed) (edit : Edit)
    (clean : ∀ s, edit.Removes a s → ∀ site ∈ s.sites, site.published = false) :
    (edit.apply a).Accounts own table := by
  rcases edit.apply_cases placed with same | ⟨-, extended⟩ | ⟨s, removes, eq⟩
  · rwa [same]
  · intro p owned stands
    rcases accounts p owned stands with root | ⟨site, member, published, rfl⟩
    · exact .inl (root.trans extended.path.symm)
    · exact .inr ⟨site, extended.sites.kept member, published, rfl⟩
  · intro p owned stands
    rw [eq]
    rcases accounts p owned stands with root | ⟨site, member, published, rfl⟩
    · exact .inl root
    · rcases placed.mem_sites_without removes.member member with left | gone
      · exact .inr ⟨site, left, published, rfl⟩
      · rw [clean s removes site gone] at published
        cases published

end Application
end GattPeripheral
