import GattPeripheral.Proofs.Host.Leftovers

/-!
# Shutting an application down

A shutdown leaves an application unpublished and open to edits, and takes a published tree off the bus. It
passes an unpublished one over, though, and a publication that failed midway leaves nodes of just such an
application exported. `Host.shutdown_clears_iff`: a shutdown clears the tree at every point of a history
exactly if no publication strands nodes.
-/

namespace GattPeripheral

/-- The operation is a publication that fails after it exported something, of an unpublished application. -/
structure Operation.Strands (op : Operation) (h : Host MemoryBus) : Prop where
  publication : ∃ own, op = .transition .publish own
  unpublished : h.application.state = .unpublished
  failed : (Host.publishApplication.run h).1 ≠ .ok ()
  begun : (Host.publishApplication.run h).2.channel.everExported ≠ h.channel.everExported

namespace Host

def Gone (h : Host MemoryBus) : Prop :=
  ∀ p ∈ h.application.paths ++ [h.application.path], h.channel.bus.isExported p = false

def Vacant (h : Host MemoryBus) : Prop := ∀ p, h.channel.bus.isExported p = false

structure Tidy (h : Host MemoryBus) : Prop where
  accounts : h.application.Accounts (fun _ => True) h.channel.bus.exported
  vacant : h.application.state = .unpublished → h.Vacant

variable {h h' : Host MemoryBus}

theorem Vacant.of_table (vacant : h.Vacant) (table : h'.channel.bus.exported = h.channel.bus.exported) :
    h'.Vacant := fun p => by
  rw [MemoryBus.isExported, table]
  exact vacant p

theorem Vacant.tidy (vacant : h.Vacant) : h.Tidy where
  accounts p _ stands := by
    rw [show (h.channel.bus.exported.get? p).isSome = _ from vacant p] at stands
    cases stands
  vacant _ := vacant

namespace Tidy

theorem alike (tidy : h.Tidy) (outline : h'.application.outline = h.application.outline)
    (table : h'.channel.bus.exported = h.channel.bus.exported) : h'.Tidy where
  accounts := by
    rw [table]
    exact tidy.accounts.of_outline outline
  vacant unpublished := by
    injection outline with path state
    exact (tidy.vacant (state.symm.trans unpublished)).of_table table

theorem beside (tidy : h.Tidy) (beside : h.Beside MemoryBus.exported h') : h'.Tidy :=
  tidy.alike (congrArg Application.outline beside.application) beside.bus

theorem withState (tidy : h.Tidy) {state : ApplicationState} (after : state ≠ .unpublished) :
    (h.withState state).Tidy := ⟨tidy.accounts, fun down => absurd down after⟩

theorem withdrawn (tidy : h.Tidy) : h.withdrawn.Vacant := by
  intro p
  rw [MemoryBus.isExported, Dict.contains, Option.isSome_eq_false_iff, Option.isNone_iff_eq_none]
  exact Application.Accounts.withdraw tidy.accounts p trivial

theorem publish (tidy : h.Tidy) (kept : h.Kept) {own : Transition.publish.isOfApplication = true}
    (clean : ¬ Operation.Strands (.transition .publish own) h) : (publishApplication.run h).2.Tidy := by
  rcases kept.publish_cases with ⟨e, run⟩ | ⟨sites, b, outcome, d, run, publication, ended⟩
  · rwa [run]
  rw [run]
  refine ⟨tidy.accounts.publication publication fun _ _ => .inl trivial, fun down => ?_⟩
  rcases ended with ⟨-, up⟩ | ⟨⟨e, rfl⟩, state⟩
  · cases up.symm.trans down
  · have unpublished : h.application.state = .unpublished := state.symm.trans down
    -- A publication that strands nothing exported nothing before it failed.
    have same : d.everExported = h.channel.everExported := by
      by_contra begun
      have failed : (publishApplication.run h).1 ≠ .ok () := by simp [run]
      exact clean ⟨⟨own, rfl⟩, unpublished, failed, by rwa [run]⟩
    have none : h.channel.bus.taken (h.application.withRoot sites) = [] := by
      rw [publication.everExported, List.append_right_eq_self, List.map_eq_nil_iff] at same
      exact same
    refine (tidy.vacant unpublished).of_table ?_
    rw [publication.exported, none]
    rfl

theorem unpublish (tidy : h.Tidy) : (unpublishApplication.run h).2.Vacant := by
  obtain ⟨h', beside, run⟩ := unpublishApplication_memory h
  rw [run]
  have moved : (h.withState (if h.application.isRegistered then .published else h.application.state)).Tidy := by
    cases registered : h.application.isRegistered with
    | false => exact tidy
    | true => exact tidy.withState (by simp)
  exact (moved.beside beside).withdrawn

theorem register (tidy : h.Tidy) : (registerApplication.run h).2.Tidy := by
  obtain ⟨outcome, h', run, ⟨same, -⟩ | ⟨-, -, registered⟩⟩ := registerApplication_cases h MemoryBus.blind_exported
  · rw [run]
    exact tidy.beside same
  · rw [run]
    exact (tidy.withState (by simp)).beside registered

theorem unregister (tidy : h.Tidy) : (unregisterApplication.run h).2.Tidy := by
  rcases unregisterApplication_cases h MemoryBus.blind_exported with ⟨-, run⟩ | ⟨-, published⟩
  · rw [run]
    exact tidy
  · exact (tidy.withState (by simp)).beside published

theorem edit (tidy : h.Tidy) (kept : h.Kept) (e : Edit) : (Operation.perform (.edit e) h).Tidy := by
  by_cases unpublished : h.application.state = .unpublished
  · exact Vacant.tidy (tidy.vacant unpublished)
  · -- The tree of an application that is published is closed.
    rcases e.apply_cases (Application.Kept.placed kept) with same | ⟨unlocked, -⟩ | ⟨s, removes, -⟩
    · exact tidy.alike (congrArg Application.outline same) rfl
    · exact absurd (Application.Kept.unpublished_of_open kept unlocked) unpublished
    · exact absurd removes.unpublished unpublished

end Tidy
end Host

theorem Operation.tidy {h : Host MemoryBus} (kept : h.Kept) (tidy : h.Tidy) {op : Operation}
    (clean : ¬ op.Strands h) : (op.perform h).Tidy := by
  cases op with
  | edit e => exact tidy.edit kept e
  | access a =>
      have valued := a.valued Channel.blind_exports (Application.Kept.placed kept)
      exact tidy.alike valued.outline valued.quiet.table
  | transition t own =>
      rcases h.transition_cases own with same | ⟨rfl, run⟩ | run | run | run
      · rw [perform, same]
        exact tidy
      · rw [perform, run]
        exact tidy.publish kept clean
      · rw [perform, run]
        exact tidy.unpublish.tidy
      · rw [perform, run]
        exact tidy.register
      · rw [perform, run]
        exact tidy.unregister
  | hold node => exact tidy.alike rfl rfl
  | letGo node => exact tidy.alike rfl rfl
  | arrange around => exact tidy.alike rfl rfl

/-! ## The shutdown -/

namespace Host

variable {h : Host MemoryBus}

theorem Vacant.gone (vacant : h.Vacant) : h.Gone := fun p _ => vacant p

theorem gone_withdrawn (h : Host MemoryBus) : h.withdrawn.Gone := by
  intro p member
  have same : h.withdrawn.application.paths = h.application.paths := by
    rw [← Application.map_path_sites, ← Application.map_path_sites, show h.withdrawn.application.sites = _ from
      h.application.sites_withdrawn, List.map_map]
    rfl
  rw [same, show h.withdrawn.application.path = h.application.path from rfl, ← Application.mem_topDown] at member
  rw [MemoryBus.isExported, Dict.contains, show h.withdrawn.channel.bus.exported =
    ExportTable.eraseAll h.channel.bus.exported (h.application.topDown.map Prod.fst) from rfl,
    ExportTable.get?_eraseAll, if_pos member]
  rfl

theorem shutdownApplication_down (kept : h.Kept) :
    let last := (shutdownApplication.run h).2
    last.application.state = .unpublished ∧ last.application.frozen = false ∧
      (h.application.state ≠ .unpublished → last.Gone) := by
  intro last
  rcases h.shutdownApplication_cases with ⟨down, run⟩ | ⟨up, run⟩
  · have same : last = h := congrArg Prod.snd run
    rw [same]
    exact ⟨down, kept.editable down, fun up => absurd down up⟩
  · obtain ⟨h', -, withdrawn⟩ := unpublishApplication_memory h
    have same : last = h'.withdrawn := run.trans (congrArg Prod.snd withdrawn)
    rw [same]
    exact ⟨rfl, rfl, fun _ => h'.gone_withdrawn⟩

theorem Tidy.shutdown (tidy : h.Tidy) : (shutdownApplication.run h).2.Gone := by
  rcases h.shutdownApplication_cases with ⟨down, run⟩ | ⟨-, run⟩
  · rw [run]
    exact (tidy.vacant down).gone
  · rw [run]
    exact tidy.unpublish.gone

theorem shutdown_stranded (kept : h.Kept) {op : Operation} (strands : op.Strands h) :
    ¬ (shutdownApplication.run (op.perform h)).2.Gone := by
  obtain ⟨⟨own, rfl⟩, unpublished, failed, begun⟩ := strands
  rcases kept.publish_cases with ⟨e, run⟩ | ⟨sites, b, outcome, d, run, publication, ended⟩
  · exact absurd (by rw [run]) begun
  rw [run] at failed begun
  obtain ⟨site, taken⟩ : ∃ site, site ∈ h.channel.bus.taken (h.application.withRoot sites) := by
    refine List.exists_mem_of_ne_nil _ fun none => begun ?_
    rw [publication.everExported, none]
    exact List.append_nil _
  have inTree : site.path ∈ b.paths ++ [b.path] := by
    obtain ⟨published, marks⟩ := publication.marks
    have member : site.marked ∈ b.sites ++ [b.rootSite published] := by
      rw [marks]
      exact List.mem_append_left _ (List.mem_map_of_mem taken)
    have path := List.mem_map_of_mem (f := Site.path) member
    rwa [List.map_append, b.map_path_sites] at path
  have performed : Operation.perform (.transition .publish own) h = { h with application := b, channel := d } :=
    congrArg Prod.snd run
  intro gone
  -- The shutdown passes the application over, since its state has not changed.
  rcases shutdownApplication_cases { h with application := b, channel := d } with ⟨-, passed⟩ | ⟨up, -⟩
  · rw [performed, passed] at gone
    have hidden := gone site.path inTree
    rw [MemoryBus.isExported, Dict.contains, publication.get?_taken taken] at hidden
    cases hidden
  · rcases ended with ⟨ok, -⟩ | ⟨-, state⟩
    · exact failed ok
    · exact up (state.trans unpublished)

/-- After any history on a bus of its own, a shutdown leaves the application unpublished and open to edits, and
nothing of a tree exported that was published before. It leaves nothing exported at all points of the history
exactly if no publication of the history strands nodes. -/
theorem shutdown_clears_iff (bus : MemoryBus) (root adapter : ObjectPath) (options : RegistrationOptions)
    (ops : List Operation) :
    let start := new { bus with exported := .empty } root adapter options
    let last (ops : List Operation) := (shutdownApplication.run (start.after ops)).2
    (last ops).application.state = .unpublished ∧ (last ops).application.frozen = false ∧
      ((start.after ops).application.state ≠ .unpublished → (last ops).Gone) ∧
      ((∀ front, front <+: ops → (last front).Gone) ↔
        ∀ front op, front ++ [op] <+: ops → ¬ op.Strands (start.after front)) := by
  intro start last
  have kept : start.Kept := kept_new _ root adapter options
  have vacant : start.Vacant := fun p => rfl
  obtain ⟨down, editable, published⟩ := shutdownApplication_down (kept_after kept ops)
  refine ⟨down, editable, published, fun clears front op before strands => ?_, fun clean front before => ?_⟩
  · have gone : (shutdownApplication.run (start.after (front ++ [op]))).2.Gone := clears _ before
    rw [after_concat] at gone
    exact shutdown_stranded (kept_after kept front) strands gone
  · have tidy : (start.after front).Tidy := by
      refine after_without (fun _ _ kept tidy clean => Operation.tidy kept tidy clean) kept vacant.tidy front ?_
      exact fun front' op before' => clean front' op (before'.trans before)
    exact tidy.shutdown

def strandingHistory : List Operation :=
  [.edit (.service .batteryService true), .edit (.service .deviceInformationService true),
    .transition .publish Transition.isOfApplication_publish]

theorem stranded_service_stays :
    let last := (shutdownApplication.run (refusingSecond.after strandingHistory)).2
    last.application.state = .unpublished ∧ ¬ last.Gone :=
  ⟨rfl, fun gone => absurd (gone (ObjectPath.root.push (Element.service.numbered 0)) (by decide +kernel))
    (by decide +kernel)⟩

end Host
end GattPeripheral
