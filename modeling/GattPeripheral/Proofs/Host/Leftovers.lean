import GattPeripheral.Proofs.Host.Operation

/-!
# What unpublishing leaves behind

A publication that fails midway leaves nodes exported, and the tree can then be edited again. Unpublishing
goes through the tree as it is by then. `Host.unpublish_clears_iff`: it clears every path that was ever
exported exactly as long as no service with a published node was taken out of the tree before.
-/

namespace GattPeripheral

def Operation.Orphans (op : Operation) (h : Host MemoryBus) : Prop :=
  ∃ edit s, op = .edit edit ∧ edit.Removes h.application s ∧ ∃ site ∈ s.sites, site.published = true

namespace Host

def Cleared (h : Host MemoryBus) : Prop :=
  ∀ p ∈ h.channel.everExported, h.channel.bus.isExported p = false

def Accounted (h : Host MemoryBus) : Prop :=
  h.application.Accounts (· ∈ h.channel.everExported) h.channel.bus.exported

theorem accounted_new (bus : MemoryBus) (root adapter : ObjectPath) (options : RegistrationOptions) :
    (new bus root adapter options).Accounted := fun p exported => by cases exported

namespace Accounted

variable {h h' : Host MemoryBus}

theorem beside (accounted : h.Accounted) (beside : h.Beside MemoryBus.exported h') : h'.Accounted := by
  rw [Accounted, beside.application, beside.everExported, show h'.channel.bus.exported = _ from beside.bus]
  exact accounted

theorem valued (accounted : h.Accounted) (valued : h.Valued Channel.exports h') : h'.Accounted := by
  rw [Accounted, valued.quiet.table, valued.quiet.record]
  exact accounted.of_outline valued.outline

theorem withdrawn (accounted : h.Accounted) : h.withdrawn.Cleared := by
  intro p exported
  rw [show h.withdrawn.channel.everExported = _ from everExported_removing _ _] at exported
  rw [MemoryBus.isExported, Dict.contains, Option.isSome_eq_false_iff, Option.isNone_iff_eq_none]
  exact Application.Accounts.withdraw accounted p exported

theorem publish (accounted : h.Accounted) (kept : h.Kept) : (publishApplication.run h).2.Accounted := by
  rcases kept.publish_cases with ⟨e, run⟩ | ⟨sites, b, outcome, d, run, publication, -⟩
  · rw [run]
    exact accounted
  · rw [run]
    refine Application.Accounts.publication accounted publication fun p exported => ?_
    exact List.mem_append.mp (publication.everExported ▸ exported)

end Accounted

theorem Cleared.accounted {h : Host MemoryBus} (cleared : h.Cleared) : h.Accounted := by
  intro p exported stands
  rw [show (h.channel.bus.exported.get? p).isSome = _ from cleared p exported] at stands
  cases stands

theorem Accounted.unpublish {h : Host MemoryBus} (accounted : h.Accounted) :
    ∃ h', unpublishApplication.run h = (.ok (), h') ∧ h'.Cleared := by
  obtain ⟨h', beside, run⟩ := unpublishApplication_memory h
  have moved : (h.withState (if h.application.isRegistered then .published else h.application.state)).Accounted :=
    accounted
  exact ⟨_, run, (moved.beside beside).withdrawn⟩

namespace Accounted

variable {h : Host MemoryBus}

theorem register (accounted : h.Accounted) : (registerApplication.run h).2.Accounted := by
  obtain ⟨outcome, h', run, ⟨same, -⟩ | ⟨-, -, registered⟩⟩ := registerApplication_cases h MemoryBus.blind_exported
  · rw [run]
    exact accounted.beside same
  · rw [run]
    have moved : (h.withState .registered).Accounted := accounted
    exact moved.beside registered

theorem unregister (accounted : h.Accounted) : (unregisterApplication.run h).2.Accounted := by
  rcases unregisterApplication_cases h MemoryBus.blind_exported with ⟨-, run⟩ | ⟨-, published⟩
  · rw [run]
    exact accounted
  · have moved : (h.withState .published).Accounted := accounted
    exact moved.beside published

theorem transition (accounted : h.Accounted) (kept : h.Kept) {t : Transition} (own : t.isOfApplication = true) :
    (t.routine.run h).2.Accounted := by
  rcases h.transition_cases own with same | ⟨-, run⟩ | run | run | run
  · rwa [same]
  · rw [run]
    exact accounted.publish kept
  · obtain ⟨h', run', cleared⟩ := accounted.unpublish
    rw [run, run']
    exact cleared.accounted
  · rw [run]
    exact accounted.register
  · rw [run]
    exact accounted.unregister

end Accounted

end Host

theorem Operation.accounted {h : Host MemoryBus} (accounted : h.Accounted) (kept : h.Kept) {op : Operation}
    (clean : ¬ op.Orphans h) : (op.perform h).Accounted := by
  cases op with
  | edit e =>
      refine Application.Accounts.edit accounted (Application.Kept.placed kept) e fun s removes site member => ?_
      by_contra published
      exact clean ⟨e, s, rfl, removes, site, member, by simpa using published⟩
  | access a => exact accounted.valued (a.valued Channel.blind_exports (Application.Kept.placed kept))
  | transition t own => exact accounted.transition kept own
  | hold node => exact accounted
  | letGo node => exact accounted
  | arrange around => exact accounted

namespace Host

variable {h : Host MemoryBus}

theorem accounted_after (accounted : h.Accounted) (kept : h.Kept) (ops : List Operation)
    (clean : ∀ front op, front ++ [op] <+: ops → ¬ op.Orphans (h.after front)) : (h.after ops).Accounted :=
  after_without (fun _ _ kept accounted => Operation.accounted accounted kept) kept accounted ops clean

theorem unpublish_orphaned (kept : h.Kept) {op : Operation} (orphans : op.Orphans h) :
    ∃ h', unpublishApplication.run (op.perform h) = (.ok (), h') ∧ ¬ h'.Cleared := by
  obtain ⟨edit, s, rfl, removes, site, inside, published⟩ := orphans
  obtain ⟨h', beside, run⟩ := unpublishApplication_memory (Operation.perform (.edit edit) h)
  have placed := Application.Kept.placed kept
  obtain ⟨stands, recorded⟩ :=
    Application.Kept.held kept site (Application.mem_sites.mpr ⟨s, removes.member, inside⟩) published
  have own : site.path ∈ s.paths := s.map_path_sites ▸ List.mem_map_of_mem inside
  have spared : site.path ∉ h'.application.topDown.map Prod.fst := by
    have tree : h'.application.topDown = (h.application.without s).topDown := by
      rw [beside.application, ← removes.apply]
      rfl
    rw [tree, Application.mem_topDown, List.mem_append, List.mem_singleton, not_or]
    refine ⟨placed.not_mem_paths_without removes.member own, fun root => placed.path_not_mem ?_⟩
    exact List.mem_flatMap.mpr ⟨s, removes.member, root ▸ own⟩
  have table : h'.withdrawn.channel.bus.exported.get? site.path = some site.node := by
    rw [show h'.withdrawn.channel.bus.exported = ExportTable.eraseAll h'.channel.bus.exported _ from rfl,
      ExportTable.get?_eraseAll, if_neg spared, beside.bus]
    exact stands
  refine ⟨_, run, fun cleared => ?_⟩
  have gone := cleared site.path (by
    rw [show h'.withdrawn.channel.everExported = _ from everExported_removing _ _, beside.everExported]
    exact recorded)
  rw [MemoryBus.isExported, Dict.contains, table] at gone
  cases gone

/-- Unpublishing clears every path that was ever exported, after each part of a history, exactly if no
operation of the history orphans nodes. -/
theorem unpublish_clears_iff (bus : MemoryBus) (root adapter : ObjectPath) (options : RegistrationOptions)
    (ops : List Operation) :
    (∀ front, front <+: ops → ∃ h',
        unpublishApplication.run ((new bus root adapter options).after front) = (.ok (), h') ∧ h'.Cleared) ↔
      ∀ front op, front ++ [op] <+: ops → ¬ op.Orphans ((new bus root adapter options).after front) := by
  have kept := kept_new bus root adapter options
  constructor
  -- What an operation orphans shows when the host unpublishes right after it.
  · intro clears front op before orphans
    obtain ⟨h', run, cleared⟩ := clears _ before
    obtain ⟨h'', run', left⟩ := unpublish_orphaned (kept_after kept front) orphans
    rw [after_concat, run'] at run
    cases run
    exact left cleared
  · intro clean front before
    refine Accounted.unpublish (accounted_after (accounted_new bus root adapter options) kept front ?_)
    exact fun front' op before' => clean front' op (before'.trans before)

def refusingSecond : Host MemoryBus :=
  new (MemoryBus.empty.refuseExport (ObjectPath.root.push (Element.service.numbered 1))) .root .root .standard

def orphaningHistory : List Operation :=
  [.edit (.service .batteryService true), .edit (.service .deviceInformationService true),
    .transition .publish Transition.isOfApplication_publish, .edit (.remove .batteryService)]

theorem orphaned_service_stays : ∃ h' p,
    unpublishApplication.run (refusingSecond.after orphaningHistory) = (.ok (), h') ∧
      p ∈ h'.channel.everExported ∧ h'.channel.bus.isExported p = true :=
  ⟨(unpublishApplication.run (refusingSecond.after orphaningHistory)).2,
    ObjectPath.root.push (Element.service.numbered 0), rfl, by decide +kernel, by decide +kernel⟩

end Host
end GattPeripheral
