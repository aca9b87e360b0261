import GattPeripheral.Proofs.Host.Actions
import GattPeripheral.Proofs.Tree.Frozen

/-!
# While an application is published

From a publication that succeeds to the next withdrawal that does, whatever else is done or refused: the
tree keeps its shape and is closed to edits. `Action.keeps_fixed` is the step, `Host.fixed_through` the run. Main
statement: `Host.closed_while_published`.
-/

namespace GattPeripheral

variable {β : Type} [Transport β]

def Action.isWithdrawal : Action β → Bool
  | .transition .unpublish _ | .transition .shutdown _ => true
  | _ => false

def Action.Withdraws (action : Action β) (h : Host β) : Prop :=
  action.isWithdrawal = true ∧ (Host.unpublishApplication.run h).1 = .ok ()

def Host.Reached (h : Host β) : Prop :=
  ∃ bus root adapter options actions, h = (new bus root adapter options).through actions

theorem Host.Reached.placed {h : Host β} (reached : h.Reached) : h.application.Placed := by
  obtain ⟨bus, root, adapter, options, actions, rfl⟩ := reached
  exact (placed_through (placed_new bus root adapter options) actions).1

/-! ## One action -/

namespace Application.Fixed

omit [Transport β] in
theorem registers {a b : Application} (fixed : a.Fixed) (registers : a.Registers b) : b.Fixed ∧ b.shape = a.shape := by
  have published : b.state ≠ .unpublished := fun down => fixed.published (registers.published.mp down)
  rw [registers.same]
  exact ⟨⟨fixed.placed.standing b.state a.frozen, fixed.subscribable, fixed.frozen, published⟩, rfl⟩

variable {h : Host β}

theorem publish (fixed : h.application.Fixed) : (Host.publishApplication.run h).2.application.Fixed ∧
    (Host.publishApplication.run h).2.application.shape = h.application.shape := by
  obtain ⟨b, outcome, d, run, grown, ⟨-, state, frozen, -⟩ | ⟨-, state, stays⟩⟩ := h.publishApplication_outcome
  · rw [run]
    exact fixed.grown grown frozen (by simp [state])
  · rw [run]
    exact fixed.grown grown (stays fixed.published fixed.frozen) (state ▸ fixed.published)

theorem unpublish (fixed : h.application.Fixed) (refused : (Host.unpublishApplication.run h).1 ≠ .ok ()) :
    (Host.unpublishApplication.run h).2.application.Fixed ∧
      (Host.unpublishApplication.run h).2.application.shape = h.application.shape := by
  obtain ⟨outcome, h', run, grown, ⟨ok, -, -⟩ | ⟨-, state, frozen⟩⟩ := h.unpublishApplication_outcome
  · rw [run] at refused
    exact absurd ok refused
  · rw [run]
    exact fixed.grown grown (frozen.trans fixed.frozen) fun down => fixed.published (state.mp down)

end Application.Fixed

theorem Action.keeps_fixed {h : Host β} (fixed : h.application.Fixed) (action : Action β)
    (stays : ¬ action.Withdraws h) :
    (action.perform h).application.Fixed ∧ (action.perform h).application.shape = h.application.shape := by
  cases action with
  | edit e =>
      have same : e.apply h.application = h.application := fixed.edit e
      rw [perform, same]
      exact ⟨fixed, rfl⟩
  | access a => exact fixed.outline (a.valued Channel.blind_unit fixed.placed).outline
  | transition t own =>
      rw [perform]
      rcases h.transition_cases_tree own with registers | ⟨-, run⟩ | ⟨down, run⟩
      · exact fixed.registers registers
      · rw [run]
        exact fixed.publish
      · rw [run]
        refine fixed.unpublish fun ok => stays ⟨?_, ok⟩
        rcases down with rfl | rfl <;> rfl
  | hold node => exact ⟨fixed, rfl⟩
  | letGo node => exact ⟨fixed, rfl⟩
  | bus change => exact ⟨fixed, rfl⟩

/-! ## The whole period -/

namespace Host

theorem fixed_through {h : Host β} (fixed : h.application.Fixed) (actions : List (Action β))
    (stays : ∀ front action, front ++ [action] <+: actions → ¬ action.Withdraws (h.through front)) :
    (h.through actions).application.Fixed ∧ (h.through actions).application.shape = h.application.shape := by
  -- The shape alone would not do as an invariant: that the tree is frozen and published is what keeps it.
  induction actions generalizing h with
  | nil => exact ⟨fixed, rfl⟩
  | cons action actions ih =>
      obtain ⟨next, same⟩ := action.keeps_fixed fixed (stays [] action ⟨actions, rfl⟩)
      obtain ⟨last, shape⟩ := ih next fun front later before =>
        stays (action :: front) later (List.cons_prefix_cons.mpr ⟨rfl, before⟩)
      exact ⟨last, shape.trans same⟩

theorem fixed_publish {h h' : Host β} (placed : h.application.Placed) (ok : publishApplication.run h = (.ok (), h')) :
    h'.application.Fixed := by
  obtain ⟨b, outcome, d, run, grown, ⟨-, state, frozen, complete⟩ | ⟨⟨e, failed⟩, -⟩⟩ := h.publishApplication_outcome
  · obtain ⟨-, rfl⟩ := Prod.mk.inj (ok.symm.trans run)
    exact ⟨grown.placed placed, complete placed, frozen, by simp [state]⟩
  · obtain ⟨same, -⟩ := Prod.mk.inj (ok.symm.trans run)
    cases same.trans failed

/-- After a publication that succeeded, and as long as the tree is not taken off the bus: the tree has the
shape it was published in, the snapshot is the same, creating a node finds one or fails, and no service
can be removed. -/
theorem closed_while_published {h h' : Host β} (reached : h.Reached) (ok : publishApplication.run h = (.ok (), h'))
    (during : List (Action β))
    (stays : ∀ front action, front ++ [action] <+: during → ¬ action.Withdraws (h'.through front)) :
    let a := (h'.through during).application
    a.shape = h'.application.shape ∧ a.managedObjects = h'.application.managedObjects ∧ a.Closed := by
  intro a
  have fixed := fixed_publish reached.placed ok
  obtain ⟨last, shape⟩ := fixed_through fixed during stays
  exact ⟨shape, Application.managedObjects_shape shape, last.closed⟩

def furnishing : List (Action MemoryBus) :=
  [.edit (.service .batteryService true), .edit (.characteristic 0 .batteryLevel (.ofList [.read, .notify]) .empty)]

def furnished : Host MemoryBus := (new .empty .root .root .standard).through furnishing

def busyPeriod : List (Action MemoryBus) :=
  [.edit (.service .deviceInformationService true), .edit (.remove .batteryService),
    .transition .publish Transition.isOfApplication_publish, .transition .register Transition.isOfApplication_register,
    .bus fun b => b.refuseExport .root, .access (.notify (.characteristic 0 0) true),
    .transition .publish Transition.isOfApplication_publish, .edit (.descriptor 0 0 .userDescription .readWrite)]

theorem closed_while_published_busy : ∃ h', publishApplication.run furnished = (.ok (), h') ∧
    (h'.through busyPeriod).application.managedObjects = h'.application.managedObjects ∧
      (h'.through busyPeriod).application.Closed := by
  have reached : furnished.Reached := ⟨_, _, _, _, furnishing, rfl⟩
  have others : ∀ action ∈ busyPeriod, action.isWithdrawal = false := by simp [busyPeriod, Action.isWithdrawal]
  have ok : publishApplication.run furnished = (.ok (), (publishApplication.run furnished).2) := rfl
  have closed := closed_while_published reached ok busyPeriod
    fun front action before withdraws => by
      have member : action ∈ busyPeriod := before.subset (List.mem_append_right _ (List.mem_singleton_self _))
      cases (others action member).symm.trans withdraws.1
  exact ⟨_, rfl, closed.2⟩

end Host
end GattPeripheral
