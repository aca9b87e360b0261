import GattPeripheral.Proofs.Tree.Publishing

/-!
# What publication does not touch

On any bus, publishing and withdrawing a tree leave every observation of the channel alone that exports
leave alone: `Application.publish_unseen`, `Application.withdraw_unseen`.
-/

namespace GattPeripheral

variable {β γ α ε : Type}

structure Channel.BlindToExports [Transport β] (view : Channel β → γ) : Prop where
  exportNode : ∀ path node c, view (Channel.exportNode path node c).2 = view c
  unexportNode : ∀ path kind c, view (Channel.unexportNode path kind c).2 = view c

def Unseen (view : Channel β → γ) (act : StateM (Channel β) α) : Prop := ∀ c, view (act c).2 = view c

namespace Unseen

variable {view : Channel β → γ}

theorem pure (a : α) : Unseen view (Pure.pure a) := fun _ => rfl

theorem bind {act : StateM (Channel β) α} {later : α → StateM (Channel β) ε} (first : Unseen view act)
    (second : ∀ a, Unseen view (later a)) : Unseen view (act >>= later) :=
  fun c => (second (act c).1 (act c).2).trans (first c)

theorem forM {ν : Type} {act : ν → StateM (Channel β) PUnit} {xs : List ν} (each : ∀ x, Unseen view (act x)) :
    Unseen view (xs.forM act) := by
  induction xs with
  | nil => exact .pure _
  | cons x xs ih => exact .bind (each x) fun _ => ih

theorem publishEach {ν : Type} {step : Nat → ν → StateM (Channel β) (Stepped ν)}
    (each : ∀ i x, Unseen view (step i x)) (position : Nat) (xs : List ν) :
    Unseen view (GattPeripheral.publishEach step position xs) := by
  induction xs generalizing position with
  | nil => exact .pure _
  | cons x xs ih =>
      refine .bind (each position x) fun ⟨_, outcome⟩ => ?_
      cases outcome with
      | error e => exact .pure _
      | ok => exact .bind (ih (position + 1)) fun _ => .pure _

end Unseen

section Exports
variable [Transport β] {view : Channel β → γ} (blind : Channel.BlindToExports view)
include blind

theorem exportNode_unseen (path : ObjectPath) (node : NodeRef) :
    Unseen view (Channel.exportNode path node : StateM (Channel β) _) := blind.exportNode path node

theorem unexportNode_unseen (path : ObjectPath) (kind : ObjectKind) :
    Unseen view (Channel.unexportNode path kind : StateM (Channel β) _) := blind.unexportNode path kind

theorem Descriptor.publish_unseen (node : NodeRef) (d : Descriptor) :
    Unseen view (d.publish node : StateM (Channel β) _) := by
  refine .bind (exportNode_unseen blind _ _) fun outcome => ?_
  cases outcome <;> exact .pure _

theorem Descriptor.unpublish_unseen (d : Descriptor) : Unseen view (d.unpublish : StateM (Channel β) _) :=
  .bind (unexportNode_unseen blind _ _) fun _ => .pure _

theorem Characteristic.publish_unseen (service position : Nat) (c : Characteristic) :
    Unseen view (c.publish service position : StateM (Channel β) _) := by
  refine .bind (.publishEach (fun _ d => d.publish_unseen blind _) _ _) fun ⟨_, outcome⟩ => ?_
  cases outcome with
  | error e => exact .pure _
  | ok =>
      refine .bind (exportNode_unseen blind _ _) fun outcome => ?_
      cases outcome <;> exact .pure _

theorem Characteristic.unpublish_unseen (c : Characteristic) :
    Unseen view (c.unpublish : StateM (Channel β) _) := by
  refine .bind (unexportNode_unseen blind _ _) fun outcome => ?_
  cases outcome with
  | error e => exact .pure _
  | ok => exact .bind (.publishEach (fun _ d => d.unpublish_unseen blind) _ _) fun _ => .pure _

theorem Service.publish_unseen (s : Service) : Unseen view (s.publish : StateM (Channel β) _) := by
  refine .bind (.publishEach (fun _ c => c.publish_unseen blind _ _) _ _) fun ⟨_, outcome⟩ => ?_
  cases outcome with
  | error e => exact .pure _
  | ok =>
      refine .bind (exportNode_unseen blind _ _) fun outcome => ?_
      cases outcome <;> exact .pure _

theorem Service.unpublish_unseen (s : Service) : Unseen view (s.unpublish : StateM (Channel β) _) := by
  refine .bind (unexportNode_unseen blind _ _) fun outcome => ?_
  cases outcome with
  | error e => exact .pure _
  | ok => exact .bind (.publishEach (fun _ c => c.unpublish_unseen blind) _ _) fun _ => .pure _

theorem Application.exportTree_unseen (a : Application) :
    Unseen view (a.exportTree : StateM (Channel β) _) := by
  refine .bind (.publishEach (fun _ s => s.publish_unseen blind) _ _) fun ⟨_, outcome⟩ => ?_
  cases outcome with
  | error e => exact .pure _
  | ok => exact .bind (exportNode_unseen blind _ _) fun _ => .pure _

theorem Application.publish_unseen (a : Application) : Unseen view (a.publish : StateM (Channel β) _) := by
  unfold publish
  split
  · exact .pure _
  · refine .bind (exportTree_unseen blind _) fun ⟨_, outcome⟩ => ?_
    cases outcome <;> exact .pure _

theorem Application.withdraw_unseen (a : Application) : Unseen view (a.withdraw : StateM (Channel β) _) := by
  refine .bind (unexportNode_unseen blind _ _) fun outcome => ?_
  cases outcome with
  | error e => exact .pure _
  | ok =>
      refine .bind (.publishEach (fun _ s => s.unpublish_unseen blind) _ _) fun ⟨_, outcome⟩ => ?_
      cases outcome <;> exact .pure _

end Exports
end GattPeripheral
