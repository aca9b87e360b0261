import GattPeripheral.Bus.Memory
import GattPeripheral.Connection.Tracker
import GattPeripheral.Proofs.Tree.Unseen

/-!
# Following devices

A tracker that started is initialized, and one that stopped is not; a signal changes neither. On the bus
nothing but subscriptions changes.
-/

namespace GattPeripheral

variable {β γ : Type}

structure Transport.BlindToSubscriptions [Transport β] (view : β → γ) : Prop where
  subscribe : ∀ rule b, view (Transport.subscribe rule b).2 = view b
  unsubscribe : ∀ subscription b, view (Transport.unsubscribe subscription b).2 = view b

structure Channel.BlindToSubscriptions [Transport β] (view : Channel β → γ) : Prop where
  subscribe : ∀ rule c, view (Channel.subscribe rule c).2 = view c
  unsubscribe : ∀ subscription c, view (Channel.unsubscribe subscription c).2 = view c

theorem Transport.BlindToSubscriptions.channel [Transport β] {view : β → γ} (blind : Transport.BlindToSubscriptions view) :
    Channel.BlindToSubscriptions fun c : Channel β => view c.bus where
  subscribe rule c := blind.subscribe rule c.bus
  unsubscribe subscription c := blind.unsubscribe subscription c.bus

theorem MemoryBus.blindToSubscriptions_exported : Transport.BlindToSubscriptions MemoryBus.exported := by
  refine ⟨fun rule b => ?_, fun subscription b => ?_⟩
  · simp only [Transport.subscribe, MemoryBus.subscribe]
    split <;> rfl
  · simp only [Transport.unsubscribe, MemoryBus.unsubscribe]
    split <;> rfl

namespace Tracker

theorem handle_subscriptions (signal : Signal) (t : Tracker) : (t.handle signal).1.subscriptions = t.subscriptions := by
  cases signal with
  | added path interfaces =>
      simp only [handle]
      split <;> rfl
  | removed path interfaces =>
      simp only [handle]
      split
      · split <;> rfl
      · rfl
  | changed path interface changed invalidated =>
      simp only [handle]
      split <;> rfl

theorem follow_fst (signal : Signal) (t : Tracker) (c : Channel β) : (t.follow signal c).1 = (t.handle signal).1 := by
  unfold follow
  split <;> rfl

theorem follow_subscriptions (signal : Signal) (t : Tracker) (c : Channel β) :
    (t.follow signal c).1.subscriptions = t.subscriptions := by
  rw [follow_fst, handle_subscriptions]

theorem follow_unseen (view : β → γ) (signal : Signal) (t : Tracker) :
    Unseen (fun c => view c.bus) (t.follow signal : StateM (Channel β) _) := by
  unfold follow
  split
  split
  · exact Unseen.bind (.forM fun _ _ => rfl) fun _ => .pure _
  · exact .pure _

variable [Transport β]

section Subscribed
variable {t : Tracker} {c : Channel β}

theorem not_held (idle : t.isInitialized = false) : t.subscriptions = none :=
  Option.isNone_iff_eq_none.mp (Option.isSome_eq_false_iff.mp idle)

theorem start_again (started : t.isInitialized = true) : t.start c = ((t, .ok ()), c) := by
  unfold start
  rw [if_pos started]
  rfl

theorem start_ok (idle : t.isInitialized = false) {ids : List Nat} (result : (subscribeAll [] rules c).1 = .ok ids) :
    t.start c = (({ t with subscriptions := some ids }, .ok ()), (subscribeAll [] rules c).2) := by
  unfold start
  rw [idle, if_neg Bool.false_ne_true, stateM_bind, result]
  rfl

theorem start_error (idle : t.isInitialized = false) {e : GattError} (result : (subscribeAll [] rules c).1 = .error e) :
    t.start c = ((t, .error e), (subscribeAll [] rules c).2) := by
  unfold start
  rw [idle, if_neg Bool.false_ne_true, stateM_bind, result]
  rfl

theorem stop_held {ids : List Nat} (held : t.subscriptions = some ids) :
    t.stop c = ({ t with subscriptions := none, devices := .empty }, (unsubscribeAll ids c).2) := by
  unfold stop
  rw [held]
  rfl

theorem stop_idle (idle : t.subscriptions = none) : t.stop c = (t, c) := by
  unfold stop
  rw [idle]
  rfl

end Subscribed

theorem start_initialized (t : Tracker) (c : Channel β) (ok : (t.start c).1.2 = .ok ()) :
    (t.start c).1.1.isInitialized = true := by
  cases started : t.isInitialized with
  | true =>
      rw [start_again started]
      exact started
  | false =>
      cases result : (subscribeAll [] rules c).1 with
      | error e =>
          rw [start_error started result] at ok
          cases ok
      | ok ids =>
          rw [start_ok started result]
          rfl

theorem stop_initialized (t : Tracker) (c : Channel β) : (t.stop c).1.isInitialized = false := by
  cases held : t.subscriptions with
  | none =>
      rw [stop_idle held]
      exact congrArg Option.isSome held
  | some ids =>
      rw [stop_held held]
      rfl

section Unseen
variable {view : Channel β → γ} (blind : Channel.BlindToSubscriptions view)
include blind

theorem unsubscribeAll_unseen (ids : List Nat) : Unseen view (unsubscribeAll ids : StateM (Channel β) _) := by
  induction ids with
  | nil => exact .pure _
  | cons id ids ih => exact .bind (fun c => blind.unsubscribe id c) fun _ => ih

theorem subscribeAll_unseen (held : List Nat) (rules : List SignalRule) :
    Unseen view (subscribeAll held rules : StateM (Channel β) _) := by
  induction rules generalizing held with
  | nil => exact .pure _
  | cons rule rules ih =>
      refine .bind (fun c => blind.subscribe rule c) fun outcome => ?_
      cases outcome with
      | ok id => exact ih _
      | error e => exact .bind (unsubscribeAll_unseen blind held) fun _ => .pure _

theorem start_unseen (t : Tracker) : Unseen view (t.start : StateM (Channel β) _) := by
  unfold start
  split
  · exact .pure _
  · refine .bind (subscribeAll_unseen blind [] rules) fun outcome => ?_
    cases outcome <;> exact .pure _

theorem stop_unseen (t : Tracker) : Unseen view (t.stop : StateM (Channel β) _) := by
  unfold stop
  split
  · exact .pure _
  · exact .bind (unsubscribeAll_unseen blind _) fun _ => .pure _

end Unseen

end Tracker
end GattPeripheral
