import GattPeripheral.Proofs.Host.Actions
import GattPeripheral.Proofs.Host.Leftovers
import GattPeripheral.Proofs.Tree.Descent
import Mathlib.Data.List.TakeWhile

/-!
# The order of requests

A publication asks the bus to export the nodes bottom-up and stops at the first refusal; unpublishing asks for
their removal top-down. Hence a node that is exported has everything below it exported, at every moment between
two requests, unless the tree is edited while parts of it are exported: `Host.Whole` is what a history keeps, and
`Host.Unbroken` what it gives for the moments within a publication or a withdrawal. Main statement:
`Host.requests_ordered`.
-/

namespace GattPeripheral

/-! ## What the record says of the bus -/

def Event.unexportedPath? : Event → Option ObjectPath
  | .unexported path _ none => some path
  | _ => none

/-- Whether something is exported at a path after the event, given whether it was before. -/
def Event.redo (p : ObjectPath) (exported : Bool) (e : Event) : Bool :=
  decide (e.exportedPath? = some p) || exported && !decide (e.unexportedPath? = some p)

section Redo
variable {p : ObjectPath} {events : List Event}

theorem redo_exports (only : ∀ e ∈ events, e.unexportedPath? = none) (exported : Bool) :
    events.foldl (Event.redo p) exported = true ↔ exported = true ∨ p ∈ events.filterMap Event.exportedPath? := by
  induction events generalizing exported with
  | nil => simp
  | cons e events ih =>
      rw [List.forall_mem_cons] at only
      rw [List.foldl_cons, ih only.2]
      simp only [Event.redo, only.1, List.mem_filterMap, List.exists_mem_cons_iff]
      simp [or_assoc, or_left_comm]

theorem redo_unexports (only : ∀ e ∈ events, e.exportedPath? = none) (exported : Bool) :
    events.foldl (Event.redo p) exported = true ↔
      exported = true ∧ p ∉ events.filterMap Event.unexportedPath? := by
  induction events generalizing exported with
  | nil => simp
  | cons e events ih =>
      rw [List.forall_mem_cons] at only
      rw [List.foldl_cons, ih only.2]
      simp only [Event.redo, only.1, List.mem_filterMap, List.exists_mem_cons_iff]
      simp [and_assoc]

end Redo

namespace Host

def exported (h : Host MemoryBus) (p : ObjectPath) : Bool :=
  h.channel.everExported.contains p && h.channel.bus.isExported p

def exportedAfter (h : Host MemoryBus) (events : List Event) (p : ObjectPath) : Bool :=
  events.foldl (Event.redo p) (h.exported p)

/-- Whatever part of the events between the two hosts has happened: a node that is exported has all its
descendants exported. -/
def Unbroken (h h' : Host MemoryBus) : Prop :=
  ∃ events, h'.channel.trace = h.channel.trace ++ events ∧ (∀ p, h.exportedAfter events p = h'.exported p) ∧
    ∀ front, front <+: events → ∀ p q, h'.application.Below p q →
      h.exportedAfter front p = true → h.exportedAfter front q = true

end Host

/-- The operation changes a tree that is not published, though some of its nodes are. -/
def Operation.Disturbs (op : Operation) (h : Host MemoryBus) : Prop :=
  ∃ edit, op = .edit edit ∧ edit.apply h.application ≠ h.application ∧ h.application.state = .unpublished ∧
    ∃ site ∈ h.application.sites, site.published = true

theorem MemoryBus.accepts_iff {b : MemoryBus} {site : Site} :
    b.accepts site = true ↔ site.path ∉ b.refusedExports := by
  simp [accepts]

namespace Host

/-! ## The requests of a publication -/

section Publish
variable {h : Host MemoryBus}

def exportRequests (h : Host MemoryBus) : List Event :=
  (h.channel.bus.taken h.application.walk).map (exportEvent none) ++
    refusalEvents (h.channel.bus.left h.application.walk)

theorem publishApplication_registered (registered : h.application.isRegistered = true) :
    (publishApplication.run h).2 = h := by
  obtain ⟨e, same⟩ := Application.publish_registered (c := h.channel) registered
  rw [publishApplication, Routine.run_step, onApplication, same]

section Memory
variable (free : h.application.isRegistered = false)
include free

theorem publishApplication_result : (publishApplication.run h).1 =
    (refusal (h.channel.bus.left h.application.walk)).mapError .bus := (Application.publish_memory free).1

theorem publishApplication_table : (publishApplication.run h).2.channel.bus.exported =
    ExportTable.exportAll h.channel.bus.exported (h.channel.bus.taken h.application.walk) :=
  congrArg (fun c => c.bus.exported) (Application.publish_memory (c := h.channel) free).2

theorem publishApplication_trace :
    (publishApplication.run h).2.channel.trace = h.channel.trace ++ h.exportRequests := by
  rw [exportRequests, ← List.append_assoc]
  exact congrArg Channel.trace (Application.publish_memory (c := h.channel) free).2

end Memory

theorem exportRequests_unexport : ∀ e ∈ h.exportRequests, e.unexportedPath? = none := by
  intro e member
  rcases List.mem_append.mp member with granted | refused
  · obtain ⟨site, -, rfl⟩ := List.mem_map.mp granted
    rfl
  · cases left : h.channel.bus.left h.application.walk with
    | nil =>
        rw [left] at refused
        cases refused
    | cons site sites =>
        rw [left] at refused
        rw [List.mem_singleton.mp refused]
        rfl

theorem exportRequests_export : h.exportRequests.filterMap Event.exportedPath? =
    (h.channel.bus.taken h.application.walk).map Site.path := by
  have record := everExported_exporting (h.channel.bus.taken h.application.walk) h.channel
    (h.channel.bus.left h.application.walk)
  simp only [Channel.everExported, Channel.exporting, List.append_assoc, List.filterMap_append] at record
  rw [exportRequests, List.filterMap_append]
  exact List.append_cancel_left record

theorem taken_front : (h.channel.bus.taken h.application.walk).map Site.path <+:
    h.application.settled.bottomUp.map Prod.fst := by
  rw [← Application.map_path_walk]
  exact (List.takeWhile_prefix _).map _

theorem left_of_root_taken (placed : h.application.Placed)
    (taken : h.application.path ∈ (h.channel.bus.taken h.application.walk).map Site.path) :
    h.channel.bus.left h.application.walk = [] := by
  have order : (h.channel.bus.taken h.application.walk).map Site.path ++
      (h.channel.bus.left h.application.walk).map Site.path = h.application.settled.paths ++ [h.application.path] := by
    rw [← List.map_append, MemoryBus.taken_append_left, Application.map_path_walk, Application.map_fst_bottomUp]
    rfl
  have distinct := placed.settled.nodup.1
  rcases List.eq_nil_or_concat (h.channel.bus.left h.application.walk) with none | ⟨front, last, left⟩
  · exact none
  · rw [left, List.concat_eq_append, List.map_append, ← List.append_assoc] at order
    obtain ⟨-, root⟩ := List.append_inj' order rfl
    rw [← show _ = h.application.settled.paths ++ [h.application.settled.path] from order,
      List.append_assoc] at distinct
    refine absurd rfl ((List.nodup_append.mp distinct).2.2 _ taken _ (List.mem_append_right _ ?_))
    rw [root]
    exact List.mem_singleton_self _

theorem exportedAfter_export {front : List Event} (before : front <+: h.exportRequests) (p : ObjectPath) :
    h.exportedAfter front p = true ↔ h.exported p = true ∨ p ∈ front.filterMap Event.exportedPath? :=
  redo_exports (fun e member => exportRequests_unexport e (before.subset member)) _

theorem exported_eq_true {p : ObjectPath} :
    h.exported p = true ↔ p ∈ h.channel.everExported ∧ (h.channel.bus.exported.get? p).isSome = true := by
  rw [exported, Bool.and_eq_true, List.contains_iff_mem]
  rfl

theorem exported_publish (kept : h.Kept) (free : h.application.isRegistered = false) (p : ObjectPath) :
    (publishApplication.run h).2.exported p = h.exportedAfter h.exportRequests p := by
  have distinct := (Application.Kept.placed kept).settled.nodup_bottomUp.sublist taken_front.sublist
  rw [Bool.eq_iff_iff, exportedAfter_export List.prefix_rfl, exportRequests_export, exported_eq_true, exported_eq_true,
    Channel.everExported, publishApplication_trace free, publishApplication_table free, List.filterMap_append,
    exportRequests_export, List.mem_append]
  by_cases taken : p ∈ (h.channel.bus.taken h.application.walk).map Site.path
  · obtain ⟨site, member, rfl⟩ := List.mem_map.mp taken
    rw [ExportTable.exportAll_of_mem distinct member]
    exact iff_of_true ⟨.inr taken, rfl⟩ (.inr taken)
  · rw [ExportTable.exportAll_of_not_mem taken, or_iff_left taken, or_iff_left taken]
    exact Iff.rfl

end Publish

/-! ## The requests of a withdrawal -/

section Record
variable {β : Type} [Transport β]

abbrev KeepsRecord (h h' : Host β) : Prop := h.channel.trace <+: h'.channel.trace

theorem KeepsRecord.allowsCalls : AllowsCalls (β := β) KeepsRecord where
  clock _ _ := List.prefix_rfl
  runs _ _ := List.prefix_rfl
  getProperty _ _ _ _ := List.prefix_rfl
  setProperty _ _ _ _ _ := List.prefix_rfl
  record _ _ _ := List.prefix_append _ _
  answer h adapter call timeout := by
    rw [onChannel, answerCall_eq]
    exact List.prefix_append _ _
  told _ _ _ := List.prefix_append _ _

end Record

section Unpublish
variable (h : Host MemoryBus)

def unexportRequests : List Event := h.application.topDown.map fun entry => .unexported entry.1 entry.2 none

theorem unpublishApplication_table : (unpublishApplication.run h).2.channel.bus.exported =
    ExportTable.eraseAll h.channel.bus.exported (h.application.topDown.map Prod.fst) := by
  obtain ⟨h', beside, run⟩ := unpublishApplication_memory h
  rw [run, withdrawn, Channel.removing, beside.application, show h'.channel.bus.exported = _ from beside.bus]
  rfl

theorem unregisterApplication_keepsRecord : h.KeepsRecord (unregisterApplication.run h).2 := by
  rcases h.unregisterApplication_run with ⟨-, run⟩ | ⟨-, run⟩
  · exact run ▸ List.prefix_rfl
  · rw [run]
    exact Routine.Moves.run (R := KeepsRecord) (fun _ => List.prefix_rfl) .trans
      (.dropRegistration KeepsRecord.allowsCalls _) h

theorem unregisterApplication_calls : ∃ calls, (∀ e ∈ calls, e.isOfNode = false) ∧
    (unregisterApplication.run h).2.channel.trace = h.channel.trace ++ calls ∧
    (unregisterApplication.run h).2.application.topDown = h.application.topDown := by
  rcases h.unregisterApplication_cases MemoryBus.blind_exported with ⟨-, run⟩ | ⟨-, beside⟩
  · exact ⟨[], by simp, by rw [run, List.append_nil], by rw [run]⟩
  · obtain ⟨calls, trace⟩ := h.unregisterApplication_keepsRecord
    have tree : (unregisterApplication.run h).2.application.topDown = (h.withState .published).application.topDown :=
      congrArg Application.topDown beside.application
    refine ⟨calls, ?_, trace.symm, tree⟩
    have nodes : (h.channel.trace ++ calls).filter Event.isOfNode = h.channel.trace.filter Event.isOfNode :=
      trace ▸ beside.record
    rw [List.filter_append, List.append_right_eq_self, List.filter_eq_nil_iff] at nodes
    simpa using nodes

theorem unpublishApplication_eq_withdraw :
    unpublishApplication.run h = (unregisterApplication.run h).2.onApplication Application.withdraw := by
  rw [unpublishApplication_eq]
  rcases h.unregisterApplication_run with ⟨free, run⟩ | ⟨registered, -⟩
  · rw [free, run]
    rfl
  · rw [if_pos registered]

theorem unpublishApplication_trace : ∃ calls, (∀ e ∈ calls, e.isOfNode = false) ∧
    (unpublishApplication.run h).2.channel.trace = h.channel.trace ++ (calls ++ h.unexportRequests) := by
  obtain ⟨calls, silent, trace, nodes⟩ := h.unregisterApplication_calls
  refine ⟨calls, silent, ?_⟩
  rw [unpublishApplication_eq_withdraw, onApplication, Application.withdraw_memory, nodes, ← List.append_assoc,
    ← trace]
  rfl

variable {h} {calls : List Event} (silent : ∀ e ∈ calls, e.isOfNode = false)
include silent

theorem unexportRequests_export : ∀ e ∈ calls ++ h.unexportRequests, e.exportedPath? = none := by
  intro e member
  rcases List.mem_append.mp member with call | removal
  · have silent := silent e call
    cases e <;> first | rfl | cases silent
  · obtain ⟨entry, -, rfl⟩ := List.mem_map.mp removal
    rfl

theorem unexportRequests_unexport : (calls ++ h.unexportRequests).filterMap Event.unexportedPath? =
    h.application.topDown.map Prod.fst := by
  have none : calls.filterMap Event.unexportedPath? = [] := by
    refine List.filterMap_eq_nil_iff.mpr fun e call => ?_
    have silent := silent e call
    cases e <;> first | rfl | cases silent
  rw [List.filterMap_append, none, List.nil_append, unexportRequests, List.filterMap_map]
  exact List.filterMap_eq_map ▸ rfl

theorem exportedAfter_unexport {front : List Event} (before : front <+: calls ++ h.unexportRequests) (p : ObjectPath) :
    h.exportedAfter front p = true ↔ h.exported p = true ∧ p ∉ front.filterMap Event.unexportedPath? :=
  redo_unexports (fun e member => unexportRequests_export silent e (before.subset member)) _

theorem exported_unpublish
    (trace : (unpublishApplication.run h).2.channel.trace = h.channel.trace ++ (calls ++ h.unexportRequests))
    (p : ObjectPath) :
    (unpublishApplication.run h).2.exported p = h.exportedAfter (calls ++ h.unexportRequests) p := by
  have record : (calls ++ h.unexportRequests).filterMap Event.exportedPath? = [] :=
    List.filterMap_eq_nil_iff.mpr (unexportRequests_export silent)
  rw [Bool.eq_iff_iff, exportedAfter_unexport silent List.prefix_rfl, unexportRequests_unexport silent,
    exported_eq_true, exported_eq_true, Channel.everExported, trace, unpublishApplication_table, List.filterMap_append,
    record, List.append_nil, ExportTable.get?_eraseAll]
  by_cases gone : p ∈ h.application.topDown.map Prod.fst
  · simp [gone]
  · rw [if_neg gone, and_iff_left gone]
    exact Iff.rfl

end Unpublish

/-! ## What histories keep -/

structure Whole (h : Host MemoryBus) : Prop where
  accounted : h.Accounted
  closed : ∀ p q, h.application.settled.HasChild p q → h.exported p = true → h.exported q = true
  root : h.application.state = .unpublished → h.exported h.application.path = false

namespace Whole

variable {h h' : Host MemoryBus}

theorem of_cleared (cleared : h.Cleared) : h.Whole := by
  have none (p : ObjectPath) : h.exported p = false := by
    rw [exported]
    by_cases ever : p ∈ h.channel.everExported
    · rw [cleared p ever, Bool.and_false]
    · simp [ever]
  exact ⟨cleared.accounted, fun p q _ stands => by simp [none] at stands, fun _ => none _⟩

theorem new (bus : MemoryBus) (root adapter : ObjectPath) (options : RegistrationOptions) :
    (new bus root adapter options).Whole := .of_cleared fun p ever => by cases ever

theorem of_outline (whole : h.Whole) (accounted : h'.Accounted)
    (outline : h'.application.outline = h.application.outline) (quiet : h.channel.Quiet h'.channel) : h'.Whole := by
  have same (p : ObjectPath) : h'.exported p = h.exported p := by
    rw [exported, exported, quiet.record, MemoryBus.isExported, MemoryBus.isExported, quiet.table]
  have shape := Application.shape_settled_of_outline outline
  injection outline with path state
  refine ⟨accounted, fun p q child => ?_, fun unpublished => ?_⟩
  · rw [same, same]
    exact whole.closed p q (.of_shape (a := h'.application.settled) path.symm shape.symm child)
  · rw [same, path]
    exact whole.root (state ▸ unpublished)

theorem beside (whole : h.Whole) (beside : h.Beside MemoryBus.exported h') : h'.Whole :=
  whole.of_outline (whole.accounted.beside beside) (congrArg Application.outline beside.application)
    ⟨beside.bus, beside.everExported⟩

theorem valued (whole : h.Whole) (valued : h.Valued Channel.exports h') : h'.Whole :=
  whole.of_outline (whole.accounted.valued valued) valued.outline valued.quiet

theorem withState (whole : h.Whole) {state : ApplicationState} (after : state ≠ .unpublished) :
    (h.withState state).Whole := by
  refine ⟨whole.accounted, fun p q child => whole.closed p q ?_, fun same => absurd same after⟩
  exact .of_shape (a := (h.withState state).application.settled) rfl rfl child

theorem closed_within (whole : h.Whole) (placed : h.application.Placed) {front : List ObjectPath}
    (before : front <+: h.application.settled.bottomUp.map Prod.fst) {p q : ObjectPath}
    (child : h.application.settled.HasChild p q) (stands : h.exported p = true ∨ p ∈ front) :
    h.exported q = true ∨ q ∈ front :=
  stands.imp (whole.closed p q child) (mem_prefix_of_sublist placed.settled.nodup_bottomUp child.bottomUp before)

theorem publish (whole : h.Whole) (kept : h.Kept) : (publishApplication.run h).2.Whole := by
  have accounted := whole.accounted.publish kept
  have placed := Application.Kept.placed kept
  cases free : h.application.isRegistered with
  | true =>
      rw [publishApplication_registered free]
      exact whole
  | false =>
      have stands (p : ObjectPath) : (publishApplication.run h).2.exported p = true ↔
          h.exported p = true ∨ p ∈ (h.channel.bus.taken h.application.walk).map Site.path := by
        rw [exported_publish kept free, exportedAfter_export List.prefix_rfl, exportRequests_export]
      have result := publishApplication_result free
      obtain ⟨b, outcome, d, run, grown, ended⟩ := h.publishApplication_outcome
      refine ⟨accounted, fun p q child => ?_, fun unpublished => ?_⟩
      · have child : h.application.settled.HasChild p q := by
          rw [run] at child
          exact .of_shape (a := b.settled) grown.path.symm grown.shape_settled.symm child
        rw [stands, stands]
        exact whole.closed_within placed taken_front child
      · rw [Bool.eq_false_iff, ne_eq, stands, run, show Host.application _ = b from rfl, grown.path, not_or]
        rw [run] at unpublished result
        obtain ⟨-, state, -⟩ | ⟨⟨e, failed⟩, state, -⟩ := ended
        · cases unpublished.symm.trans state
        · refine ⟨by rw [whole.root (state.symm.trans unpublished)]; simp, fun taken => ?_⟩
          rw [left_of_root_taken placed taken, failed] at result
          cases result

theorem unpublish (whole : h.Whole) : (unpublishApplication.run h).2.Whole := by
  obtain ⟨h', run, cleared⟩ := whole.accounted.unpublish
  rw [run]
  exact .of_cleared cleared

theorem register (whole : h.Whole) : (registerApplication.run h).2.Whole := by
  obtain ⟨outcome, h', run, ⟨same, -⟩ | ⟨-, -, registered⟩⟩ :=
    registerApplication_cases h MemoryBus.blind_exported
  · rw [run]
    exact whole.beside same
  · rw [run]
    exact (whole.withState (by simp)).beside registered

theorem unregister (whole : h.Whole) : (unregisterApplication.run h).2.Whole := by
  rcases unregisterApplication_cases h MemoryBus.blind_exported with ⟨-, run⟩ | ⟨-, published⟩
  · rw [run]
    exact whole
  · exact (whole.withState (by simp)).beside published

theorem transition (whole : h.Whole) (kept : h.Kept) {t : Transition} (own : t.isOfApplication = true) :
    (t.routine.run h).2.Whole := by
  rcases h.transition_cases own with same | ⟨-, run⟩ | run | run | run
  · rwa [same]
  · rw [run]
    exact whole.publish kept
  · rw [run]
    exact whole.unpublish
  · rw [run]
    exact whole.register
  · rw [run]
    exact whole.unregister

theorem edit (whole : h.Whole) (kept : h.Kept) (e : Edit) (calm : ¬ Operation.Disturbs (.edit e) h) :
    (Operation.perform (.edit e) h).Whole := by
  by_cases same : e.apply h.application = h.application
  · rw [Operation.perform, same]
    exact whole
  · have unpublished : h.application.state = .unpublished := by
      by_contra published
      obtain ⟨frozen, served⟩ := Application.Kept.served kept published
      exact same (Application.Fixed.edit ⟨Application.Kept.placed kept, served.subscribable, frozen, published⟩ e)
    have bare : ∀ site ∈ h.application.sites, site.published = false := by
      intro site member
      by_contra published
      exact calm ⟨e, rfl, same, unpublished, site, member, by simpa using published⟩
    refine of_cleared fun p ever => ?_
    rw [← Bool.not_eq_true]
    intro stands
    rcases whole.accounted p ever stands with rfl | ⟨site, member, published, -⟩
    · have root : h.exported h.application.path = true := exported_eq_true.mpr ⟨ever, stands⟩
      cases (whole.root unpublished).symm.trans root
    · cases (bare site member).symm.trans published

end Whole
end Host

theorem Operation.whole {h : Host MemoryBus} (kept : h.Kept) (whole : h.Whole) {op : Operation}
    (calm : ¬ op.Disturbs h) : (op.perform h).Whole := by
  cases op with
  | edit e => exact whole.edit kept e calm
  | access a => exact whole.valued (a.valued Channel.blind_exports (Application.Kept.placed kept))
  | transition t own => exact whole.transition kept own
  | hold node => exact ⟨whole.accounted, whole.closed, whole.root⟩
  | letGo node => exact ⟨whole.accounted, whole.closed, whole.root⟩
  | arrange around => exact ⟨whole.accounted, whole.closed, whole.root⟩

namespace Host

variable {h : Host MemoryBus}

theorem whole_after (kept : h.Kept) (whole : h.Whole) (ops : List Operation)
    (calm : ∀ front op, front ++ [op] <+: ops → ¬ op.Disturbs (h.after front)) : (h.after ops).Whole :=
  after_without (fun _ _ kept whole => Operation.whole kept whole) kept whole ops calm

/-! ## Between two requests -/

theorem Unbroken.of_children {h' : Host MemoryBus} {events : List Event}
    (trace : h'.channel.trace = h.channel.trace ++ events) (last : ∀ p, h'.exported p = h.exportedAfter events p)
    (closed : ∀ front, front <+: events → ∀ p q, h'.application.HasChild p q →
      h.exportedAfter front p = true → h.exportedAfter front q = true) : h.Unbroken h' :=
  ⟨events, trace, fun p => (last p).symm, fun front before _ _ below => below.of_children (closed front before)⟩

theorem Whole.unbroken_publish (whole : h.Whole) (kept : h.Kept) : h.Unbroken (publishApplication.run h).2 := by
  cases free : h.application.isRegistered with
  | true =>
      rw [publishApplication_registered free]
      refine .of_children (List.append_nil _).symm (fun _ => rfl) fun front before p q child => ?_
      rw [List.prefix_nil.mp before]
      exact whole.closed p q child.settled
  | false =>
      obtain ⟨b, outcome, d, run, grown, -⟩ := h.publishApplication_outcome
      refine .of_children (publishApplication_trace free) (exported_publish kept free) fun front before p q child => ?_
      have prefixed : front.filterMap Event.exportedPath? <+: h.application.settled.bottomUp.map Prod.fst :=
        (exportRequests_export ▸ before.filterMap Event.exportedPath?).trans taken_front
      rw [run] at child
      rw [exportedAfter_export before, exportedAfter_export before]
      exact whole.closed_within (Application.Kept.placed kept) prefixed (grown.hasChild child)

theorem hasChild_unpublish {p q : ObjectPath} (child : (unpublishApplication.run h).2.application.HasChild p q) :
    h.application.HasChild p q := by
  obtain ⟨h', beside, run⟩ := unpublishApplication_memory h
  rw [run, withdrawn, beside.application] at child
  refine .of_shape ?_ ?_ child.of_withdrawn <;> rfl

theorem Whole.unbroken_unpublish (whole : h.Whole) (kept : h.Kept) : h.Unbroken (unpublishApplication.run h).2 := by
  obtain ⟨calls, silent, trace⟩ := h.unpublishApplication_trace
  refine .of_children trace (exported_unpublish silent trace) fun front before p q child => ?_
  have child := hasChild_unpublish child
  have prefixed : front.filterMap Event.unexportedPath? <+: h.application.topDown.map Prod.fst :=
    unexportRequests_unexport silent ▸ before.filterMap Event.unexportedPath?
  rw [exportedAfter_unexport silent before, exportedAfter_unexport silent before]
  -- What is removed already has its parent removed.
  refine And.imp (whole.closed p q child.settled) fun stays gone => stays ?_
  exact mem_prefix_of_sublist (Application.Kept.placed kept).nodup_topDown child.topDown prefixed gone

/-! ## All requests of a history -/

def refusalOf (entry : ObjectPath × ObjectKind) : BusError := .exportFailed entry.1.text "export refused"

/-- A publication is granted the exports of `done` and refused that of the first node of `left`. -/
structure PublishesBottomUp (h : Host MemoryBus) (done left : List (ObjectPath × ObjectKind)) : Prop where
  order : done ++ left = h.application.settled.bottomUp
  granted : ∀ entry ∈ done, entry.1 ∉ h.channel.bus.refusedExports
  refused : ∀ entry ∈ left.head?, entry.1 ∈ h.channel.bus.refusedExports
  outcome : (publishApplication.run h).1 = match left.head? with
    | none => .ok ()
    | some entry => .error (.bus (refusalOf entry))
  requests : (publishApplication.run h).2.channel.trace = h.channel.trace ++
    (done.map (fun entry => .exported entry.1 entry.2 none) ++
      left.head?.toList.map fun entry => .exported entry.1 entry.2 (some (refusalOf entry)))
  marks : ∀ site ∈ (publishApplication.run h).2.application.sites,
    site.published = true ↔ site.path ∈ done.map Prod.fst

/-- A withdrawal makes `calls` that are not about nodes and then asks for the removal of each node once. -/
structure UnpublishesTopDown (h : Host MemoryBus) (calls : List Event) : Prop where
  outcome : (unpublishApplication.run h).1 = .ok ()
  silent : ∀ e ∈ calls, e.isOfNode = false
  requests : (unpublishApplication.run h).2.channel.trace = h.channel.trace ++
    (calls ++ h.application.topDown.map fun entry => .unexported entry.1 entry.2 none)
  once : (h.application.topDown.map Prod.fst).Nodup
  root : (h.application.topDown.map Prod.fst).head? = some h.application.path
  order : ∀ p q, h.application.HasChild p q → [p, q].Sublist (h.application.topDown.map Prod.fst)

section Bare
variable (kept : h.Kept)
  (bare : ∀ p ∈ h.application.paths ++ [h.application.path], h.channel.bus.isExported p = false)
include kept bare

theorem free_of_bare : h.application.isRegistered = false := by
  rw [← Bool.not_eq_true]
  intro registered
  have served := (Application.Kept.served kept (Application.published_of_registered registered)).2
  have root := bare h.application.path (List.mem_append_right _ (List.mem_singleton_self _))
  rw [MemoryBus.isExported, Dict.contains, served.root] at root
  cases root

theorem unmarked_of_bare : ∀ site ∈ h.application.sites, site.published = false := by
  intro site member
  rw [← Bool.not_eq_true]
  intro published
  have inside : site.path ∈ h.application.paths := h.application.map_path_sites ▸ List.mem_map_of_mem member
  have stands := bare site.path (List.mem_append_left _ inside)
  rw [MemoryBus.isExported, Dict.contains, (Application.Kept.held kept site member published).1] at stands
  cases stands

theorem publishes_bottom_up : ∃ done left, h.PublishesBottomUp done left := by
  have free := free_of_bare kept bare
  have marks := Application.Kept.publish_marks kept free (unmarked_of_bare kept bare)
  refine ⟨(h.channel.bus.taken h.application.walk).map Site.entry,
    (h.channel.bus.left h.application.walk).map Site.entry, ?_, ?_, ?_, ?_, ?_, ?_⟩
  · rw [← List.map_append, MemoryBus.taken_append_left, Application.map_entry_walk]
  · intro entry member
    obtain ⟨site, taken, rfl⟩ := List.mem_map.mp member
    exact MemoryBus.accepts_iff.mp (List.mem_takeWhile_imp taken)
  · intro entry member
    have stopped := List.head?_dropWhile_not h.channel.bus.accepts h.application.walk
    rw [← MemoryBus.left] at stopped
    cases left : h.channel.bus.left h.application.walk with
    | nil =>
        rw [left] at member
        cases member
    | cons site sites =>
        rw [left] at member stopped
        obtain rfl : site.entry = entry := Option.some.inj member
        by_contra accepted
        cases stopped.symm.trans (MemoryBus.accepts_iff.mpr accepted)
  · rw [publishApplication_result free]
    cases h.channel.bus.left h.application.walk <;> rfl
  · rw [publishApplication_trace free, exportRequests, List.map_map]
    cases h.channel.bus.left h.application.walk <;> rfl
  · intro site member
    rw [List.map_map]
    exact marks site member

end Bare

theorem unpublishes_top_down (kept : h.Kept) : ∃ calls, h.UnpublishesTopDown calls := by
  obtain ⟨calls, silent, trace⟩ := h.unpublishApplication_trace
  obtain ⟨h', -, run⟩ := unpublishApplication_memory h
  have once := (Application.Kept.placed kept).nodup_topDown
  exact ⟨calls, by rw [run], silent, trace, once, rfl, fun _ _ child => child.topDown⟩

/-- On any bus in memory, after any history. When nothing is exported, a publication asks for exports bottom-up,
the descriptors that it adds included, up to the first refusal, which it returns; exactly the nodes whose export
was granted count as published then. Unpublishing asks for removals top-down. As long as no edit disturbs a tree
of which a part is exported, whatever is exported has all its descendants exported at every moment of either. -/
theorem requests_ordered (bus : MemoryBus) (root adapter : ObjectPath) (options : RegistrationOptions)
    (ops : List Operation) :
    let h := (new bus root adapter options).after ops
    ((∀ p ∈ h.application.paths ++ [h.application.path], h.channel.bus.isExported p = false) →
        ∃ done left, h.PublishesBottomUp done left) ∧
      (∃ calls, h.UnpublishesTopDown calls) ∧
      ((∀ front op, front ++ [op] <+: ops → ¬ op.Disturbs ((new bus root adapter options).after front)) →
        h.Unbroken (publishApplication.run h).2 ∧ h.Unbroken (unpublishApplication.run h).2) := by
  intro h
  have fresh := kept_new bus root adapter options
  have kept : h.Kept := kept_after fresh ops
  refine ⟨publishes_bottom_up kept, unpublishes_top_down kept, fun calm => ?_⟩
  have whole : h.Whole := whole_after fresh (.new bus root adapter options) ops calm
  exact ⟨whole.unbroken_publish kept, whole.unbroken_unpublish kept⟩

def halfwayHistory : List Operation :=
  [.edit (.service .batteryService true), .edit (.characteristic 0 .batteryLevel (.ofList [.read, .notify]) .empty),
    .edit (.service .deviceInformationService true), .transition .publish Transition.isOfApplication_publish]

theorem requests_ordered_halfway :
    let h := refusingSecond.after (halfwayHistory.take 3)
    let h' := refusingSecond.after halfwayHistory
    (∃ done left, h.PublishesBottomUp done left) ∧
      (publishApplication.run h).1 =
        .error (.bus (refusalOf (ObjectPath.root.push (Element.service.numbered 1), .service))) ∧
      h'.Unbroken (publishApplication.run h').2 ∧ h'.Unbroken (unpublishApplication.run h').2 := by
  intro h h'
  have bare : ∀ p ∈ h.application.paths ++ [h.application.path], h.channel.bus.isExported p = false := by
    decide +kernel
  have unmarked : ∀ n < 3, ∀ site ∈ (refusingSecond.after (halfwayHistory.take n)).application.sites,
      site.published = false := by decide +kernel
  have calm : ∀ front op, front ++ [op] <+: halfwayHistory → ¬ op.Disturbs (refusingSecond.after front) := by
    rintro front op ⟨back, split⟩ ⟨edit, rfl, -, -, site, member, published⟩
    have place : front = halfwayHistory.take front.length := by simp [← split]
    have here : halfwayHistory[front.length]? = some (.edit edit) := by simp [← split]
    have early : front.length < 3 := by
      have bound : front.length < halfwayHistory.length := (List.getElem?_eq_some_iff.mp here).1
      rcases Nat.lt_succ_iff_lt_or_eq.mp bound with early | last
      · exact early
      · rw [last] at here
        cases here
    rw [place] at member
    cases (unmarked _ early site member).symm.trans published
  have first := requests_ordered (MemoryBus.empty.refuseExport (ObjectPath.root.push (Element.service.numbered 1)))
    .root .root .standard (halfwayHistory.take 3)
  have second := requests_ordered (MemoryBus.empty.refuseExport (ObjectPath.root.push (Element.service.numbered 1)))
    .root .root .standard halfwayHistory
  exact ⟨first.1 bare, rfl, second.2.2 calm⟩

end Host
end GattPeripheral
