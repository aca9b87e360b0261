import GattPeripheral.Proofs.Host.Signals
import GattPeripheral.Proofs.Tree.Observing
import Mathlib.Data.List.Destutter

/-!
# Subscriptions

A client subscribes to a characteristic through its client configuration, and the application may switch
notifications itself. `Action.switches` says when the observer is called in one action, `Host.turns_through`
when in a history. `Host.Obeys` is what a store in the client configuration does. Main statement:
`Host.subscriptions_exact`.
-/

namespace GattPeripheral

inductive Deposit where
  | write (bytes : Bytes) (access : AccessOptions)
  | set (bytes : Bytes)

namespace Deposit

def bytes : Deposit → Bytes
  | write bytes _ | set bytes => bytes

def offset : Deposit → Nat
  | write _ access => access.offset
  | set _ => 0

def next (deposit : Deposit) (d : Descriptor) : Bytes := Bytes.writeAt d.value deposit.offset deposit.bytes

/-- Only clients need a provider's consent. -/
def Permitted (deposit : Deposit) (d : Descriptor) : Prop :=
  match deposit with
  | write bytes access => access.offset ≤ maxAttributeLength ∧
      ∀ p, d.writeProvider = some p → p.reply bytes access = .answer ()
  | set _ => True

def asks (deposit : Deposit) (d : Descriptor) : List Event :=
  match deposit with
  | write bytes access => consulted d.writeProvider bytes access
  | set _ => []

variable {β : Type} [Transport β]

def work (deposit : Deposit) (owned : Bool) (index : Nat) : Work Characteristic β (Except GattError Unit) :=
  match deposit with
  | write bytes access => Characteristic.writeDescriptor owned index bytes access
  | set bytes => Characteristic.setDescriptorValue owned index bytes

def run (deposit : Deposit) (node : NodeRef) (h : Host β) : Option (Except GattError Unit) × Host β :=
  match deposit with
  | write bytes access => h.writeAttribute node bytes access
  | set bytes => h.setAttribute node bytes

theorem run_descriptor (deposit : Deposit) (key position index : Nat) (h : Host β) :
    deposit.run (.descriptor key position index) h =
      h.onCharacteristic key position (deposit.work (h.owned key position) index) := by
  cases deposit <;> rfl

section Work
variable {c : Characteristic} (channel : Channel β) {index : Nat} {d : Descriptor}
  (found : c.descriptors[index]? = some d) (deposit : Deposit) {owned : Bool}
include found

variable (owned) in
theorem work_unpermitted (forbidden : ¬ deposit.Permitted d) :
    ∃ e, (deposit.work owned index (⟨c, channel⟩ : Active Characteristic β)).1 = .error e := by
  cases deposit with
  | write bytes access =>
      cases permitted : permission d.writeProvider "descriptor write" bytes access with
      | ok => exact absurd (permission_eq_ok_iff.mp permitted) forbidden
      | error e =>
          rw [work, Characteristic.writeDescriptor_run _ owned found, permitted]
          exact ⟨e, rfl⟩
  | set bytes => exact absurd trivial forbidden

theorem work_refused (permitted : deposit.Permitted d) (denied : c.denies owned d (deposit.next d) = true) :
    deposit.work owned index ⟨c, channel⟩ = (.error c.unable, Active.recording (deposit.asks d) ⟨c, channel⟩) := by
  cases deposit with
  | write bytes access =>
      rw [work, Characteristic.writeDescriptor_run _ owned found, permission_eq_ok_iff.mpr permitted]
      exact Characteristic.storeDescriptor_refused (.recording _ ⟨c, channel⟩) found bytes permitted.1 denied
  | set bytes =>
      rw [asks, Active.recording_nil]
      exact Characteristic.storeDescriptor_refused ⟨c, channel⟩ found bytes (Nat.zero_le _) denied

theorem allowed_of_ok (ok : (deposit.work owned index (⟨c, channel⟩ : Active Characteristic β)).1 = .ok ()) :
    deposit.Permitted d ∧ c.denies owned d (deposit.next d) = false := by
  have permitted : deposit.Permitted d := by
    by_contra forbidden
    obtain ⟨e, failed⟩ := deposit.work_unpermitted channel found owned forbidden
    cases ok.symm.trans failed
  refine ⟨permitted, ?_⟩
  by_contra denied
  have failed := deposit.work_refused channel found permitted ((Bool.not_eq_false _).mp denied)
  cases ok.symm.trans (congrArg Prod.fst failed)

variable (owned) in
theorem work_records (passive : c.isPassive = true) (permitted : deposit.Permitted d)
    (allowed : c.denies owned d (deposit.next d) = false) :
    let notifying := c.flagAfter owned d (deposit.next d)
    (deposit.work owned index (⟨c, channel⟩ : Active Characteristic β)).1 = .ok () ∧
      Records ⟨c, channel⟩ (deposit.work owned index (⟨c, channel⟩ : Active Characteristic β)).2
        ({ c with notifying }.settle index (deposit.next d))
        (deposit.asks d ++ (c.turning notifying ++ Characteristic.told d (deposit.next d) deposit.offset)) := by
  intro notifying
  cases deposit with
  | write bytes access =>
      exact Characteristic.writeDescriptor_records ⟨c, channel⟩ found bytes passive (permission_eq_ok_iff.mpr permitted)
        allowed
  | set bytes =>
      exact Characteristic.storeDescriptor_records ⟨c, channel⟩ found bytes (Nat.zero_le _) passive allowed

end Work
end Deposit

/-! ## Stores in the client configuration -/

section Configuration
variable {β : Type} [Transport β]

/-- What a store in the client configuration `d` of `c` does. It is refused if it would have the characteristic
notify that cannot, and changes nothing then. Otherwise the flag follows the value: first clients hear of a flip,
then the observer, and then clients hear of a value that was replaced from its start. -/
structure Host.Obeys (h : Host β) (key position index : Nat) (c : Characteristic) (d : Descriptor)
    (deposit : Deposit) : Prop where
  kept : ∀ h', deposit.run (.descriptor key position index) h = (some (.ok ()), h') →
    ∃ e, h'.application.characteristic? key position = some e ∧
      h'.attributeValue? (.descriptor key position index) = some (deposit.next d) ∧
      (e.notifying = true ↔ (deposit.next d).Subscribes) ∧
      h'.channel.trace = h.channel.trace ++ (deposit.asks d ++
        (c.turning e.notifying ++ Characteristic.told d (deposit.next d) deposit.offset))
  refused : deposit.Permitted d → c.flags.contains .notify = false → c.flags.contains .indicate = false →
    (deposit.next d).Subscribes → ∃ reason, deposit.run (.descriptor key position index) h =
      (some (.error (.notSupported reason)), h.recording (deposit.asks d))
  done : deposit.Permitted d →
    (c.flags.contains .notify = true ∨ c.flags.contains .indicate = true ∨ ¬ (deposit.next d).Subscribes) →
      (deposit.run (.descriptor key position index) h).1 = some (.ok ())

theorem Host.obeys {h : Host β} (placed : h.application.Placed) {key position index : Nat} {c : Characteristic}
    {d : Descriptor} (found : h.application.characteristic? key position = some c) (passive : c.isPassive = true)
    (row : c.descriptors[index]? = some d) (configuration : d.isClientConfiguration = true)
    (alive : h.isAlive (.characteristic key position) = true) (deposit : Deposit) :
    h.Obeys key position index c d deposit := by
  have owned : h.owned key position = true := alive
  have flag : c.flagAfter true d (deposit.next d) = Characteristic.wantsNotifications (deposit.next d) := by
    rw [Characteristic.flagAfter, configuration]
    rfl
  have denies : c.denies true d (deposit.next d) = true ↔
      c.flags.contains .notify = false ∧ c.flags.contains .indicate = false ∧ (deposit.next d).Subscribes := by
    rw [Characteristic.denies, configuration, ← Characteristic.wantsNotifications_iff, ← and_assoc,
      ← Flags.notifies_eq_false_iff]
    simp [and_comm]
  have records := deposit.work_records h.channel row true passive
  have run := deposit.run_descriptor key position index h
  rw [owned] at run
  refine ⟨fun h' ok => ?_, fun permitted unnotifying unindicating subscribes => ?_, fun permitted able => ?_⟩
  · have answered : (deposit.work true index (⟨c, h.channel⟩ : Active Characteristic β)).1 = .ok () := by
      rw [run, onCharacteristic_found found] at ok
      exact Option.some.inj (congrArg Prod.fst ok)
    obtain ⟨permitted, allowed⟩ := deposit.allowed_of_ok h.channel row answered
    obtain ⟨-, left⟩ := records permitted allowed
    obtain rfl : (h.onCharacteristic key position (deposit.work true index)).2 = h' :=
      congrArg Prod.snd (run.symm.trans ok)
    have here := characteristic?_onCharacteristic found (deposit.work true index)
    rw [left.node] at here
    refine ⟨_, here, ?_, ?_, ?_⟩
    · have settled := Characteristic.settle_here (c := { c with notifying := c.flagAfter true d (deposit.next d) })
        row (deposit.next d)
      rw [attributeValue?_eq, attribute?_onCharacteristic_row found, left.node, settled]
      rfl
    · rw [← Characteristic.wantsNotifications_iff, ← flag]
      rfl
    · rw [onCharacteristic_found found]
      exact left.trace
  · have refused := deposit.work_refused h.channel row permitted (denies.mpr ⟨unnotifying, unindicating, subscribes⟩)
    exact ⟨_, run.trans (onCharacteristic_recording placed found refused)⟩
  · have allowed : c.denies true d (deposit.next d) = false := by
      rw [← Bool.not_eq_true, denies]
      rintro ⟨unnotifying, unindicating, subscribes⟩
      simp [unnotifying, unindicating, subscribes] at able
    rw [run]
    exact onCharacteristic_outcome found (records permitted allowed).1

end Configuration

/-! ## Calls of the observer -/

section Calls
variable {β : Type}

structure Switches (key position : Nat) (c d : Characteristic) (h h' : Host β) : Prop where
  found : h'.application.characteristic? key position = some d
  identifier : d.identifier = c.identifier
  passive : d.isPassive = true
  observed : d.observer.isSome = true
  calls : h'.channel.calls = h.channel.calls ++ c.rings d.notifying

namespace Switches

variable {key position : Nat} {c d : Characteristic} {h h' : Host β}

theorem silent (found : h'.application.characteristic? key position = some d) (identifier : d.identifier = c.identifier)
    (passive : d.isPassive = true) (observed : d.observer.isSome = true) (notifying : d.notifying = c.notifying)
    (quiet : h'.channel.calls = h.channel.calls) : Switches key position c d h h' := by
  refine ⟨found, identifier, passive, observed, ?_⟩
  rw [quiet, notifying, Characteristic.rings_self, List.append_nil]

theorem of_core (found : h'.application.characteristic? key position = some d) (same : d.core = c.core)
    (passive : c.isPassive = true) (observed : c.observer.isSome = true)
    (quiet : h'.channel.calls = h.channel.calls) : Switches key position c d h h' := by
  injection same with identifier _ _ _ _ _ notifying _ _ _ observer _
  refine silent found identifier ?_ (observer ▸ observed) notifying quiet
  rw [Characteristic.isPassive, observer]
  exact passive

end Switches

section Accesses
variable {α : Type} {key position : Nat} {c : Characteristic} {h : Host β}
  (found : h.application.characteristic? key position = some c)
include found

theorem Switches.edited {f : Characteristic → Characteristic} (identifier : (f c).identifier = c.identifier)
    (passive : (f c).isPassive = true) (observed : (f c).observer.isSome = true)
    (notifying : (f c).notifying = c.notifying) :
    Switches key position c (f c) h { h with application := h.application.modifyCharacteristic key position f } :=
  .silent (Application.characteristic?_modifyCharacteristic found f) identifier passive observed notifying rfl

variable (passive : c.isPassive = true) (observed : c.observer.isSome = true)
include passive observed

theorem Rings.switches {work : Work Characteristic β α} (rings : Rings ⟨c, h.channel⟩ (work ⟨c, h.channel⟩).2) :
    ∃ d, Switches key position c d h (h.onCharacteristic key position work).2 := by
  refine ⟨_, Host.characteristic?_onCharacteristic found work, rings.identifier, ?_, ?_, ?_⟩
  · rw [Characteristic.isPassive, rings.observer]
    exact passive
  · rw [rings.observer]
    exact observed
  · rw [Host.onCharacteristic_found found]
    exact rings.calls

variable [Transport β]

open Characteristic in
theorem Access.switches (access : Access) (within : access.node.within key position = true)
    (calm : access.isPassive = true) : ∃ d, Switches key position c d h (access.apply h) := by
  cases access with
  | read node options =>
      rcases node.within_cases within with rfl | ⟨index, rfl⟩
      · exact Rings.switches found passive observed (read_rings _ options)
      · exact Rings.switches found passive observed (readDescriptor_rings _ index options)
  | write node bytes options =>
      rcases node.within_cases within with rfl | ⟨index, rfl⟩
      · exact Rings.switches found passive observed (write_rings _ bytes options)
      · exact Rings.switches found passive observed
          (writeDescriptor_rings (a := ⟨c, h.channel⟩) passive observed _ index bytes options)
  | set node bytes =>
      rcases node.within_cases within with rfl | ⟨index, rfl⟩
      · exact Rings.switches found passive observed (setValue_rings ⟨c, h.channel⟩ bytes)
      · exact Rings.switches found passive observed
          (storeDescriptor_rings (a := ⟨c, h.channel⟩) passive observed _ index bytes 0)
  | notify node notifying =>
      rcases node.within_cases within with rfl | ⟨index, rfl⟩
      · cases notifying with
        | true => exact Rings.switches found passive observed (startNotify_rings (a := ⟨c, h.channel⟩) passive observed)
        | false => exact Rings.switches found passive observed (stopNotify_rings (a := ⟨c, h.channel⟩) passive observed)
      · exact ⟨c, .of_core found rfl passive observed rfl⟩
  | readProvider node provider =>
      rcases node.within_cases within with rfl | ⟨index, rfl⟩
      · exact ⟨_, .edited found rfl passive observed rfl⟩
      · exact ⟨_, .edited found rfl passive observed rfl⟩
  | writeProvider node provider =>
      rcases node.within_cases within with rfl | ⟨index, rfl⟩
      · exact ⟨_, .edited found rfl passive observed rfl⟩
      · exact ⟨_, .edited found rfl passive observed rfl⟩
  | observe node observer =>
      rcases node.within_cases within with rfl | ⟨index, rfl⟩
      · exact ⟨_, .edited found rfl calm rfl rfl⟩
      · exact ⟨_, .edited found rfl passive observed rfl⟩

end Accesses

theorem Event.isOfAccess_of_call? {e : Event} (some : e.call?.isSome = true) : e.isOfAccess = true := by
  cases e with
  | observer => rfl
  | _ => cases some

variable [Transport β]

theorem Host.transition_calls (h : Host β) {t : Transition} (own : t.isOfApplication = true) :
    (t.routine.run h).2.channel.calls = h.channel.calls :=
  filterMap_eq_of_filter_eq (h.transition_accessEvents own) fun _ => Event.isOfAccess_of_call?

theorem Action.switches {key position : Nat} {c : Characteristic} {h : Host β} (placed : h.application.Placed)
    (found : h.application.characteristic? key position = some c) (passive : c.isPassive = true)
    (observed : c.observer.isSome = true) (action : Action β) (touches : action.touches key position = true) :
    ∃ d, Switches key position c d h (action.perform h) := by
  cases action with
  | edit e =>
      obtain ⟨d, stays, same⟩ := e.carries placed key position c found
      exact ⟨d, .of_core stays same passive observed rfl⟩
  | access a =>
      obtain ⟨within, calm⟩ := Bool.and_eq_true_iff.mp touches
      exact a.switches found passive observed within calm
  | transition t own =>
      obtain ⟨d, stays, same⟩ := h.transition_carries own key position c found
      exact ⟨d, .of_core stays same passive observed (h.transition_calls own)⟩
  | hold node => exact ⟨c, .of_core found rfl passive observed rfl⟩
  | letGo node => exact ⟨c, .of_core found rfl passive observed rfl⟩
  | bus change => exact ⟨c, .of_core found rfl passive observed rfl⟩

/-! ## Histories -/

namespace Host

def flags (key position : Nat) : List (Action β) → Host β → List Bool
  | [], _ => []
  | action :: actions, h =>
      ((action.perform h).application.characteristic? key position).toList.map Characteristic.notifying ++
        flags key position actions (action.perform h)

variable {key position : Nat} {h : Host β} {c : Characteristic}

structure Turns (key position : Nat) (actions : List (Action β)) (h : Host β) (c d : Characteristic)
    (turns : List Bool) : Prop where
  found : (h.through actions).application.characteristic? key position = some d
  identifier : d.identifier = c.identifier
  passive : d.isPassive = true
  calls : (h.through actions).channel.calls = h.channel.calls ++ turns.map fun notifying => (c.identifier, notifying)
  flags : c.notifying :: turns = (c.notifying :: h.flags key position actions).destutter (· ≠ ·)
  last : (c.notifying :: turns).getLast? = some d.notifying

theorem turns_through (placed : h.application.Placed) (found : h.application.characteristic? key position = some c)
    (passive : c.isPassive = true) (observed : c.observer.isSome = true) (actions : List (Action β))
    (touching : ∀ action ∈ actions, action.touches key position = true) :
    ∃ d turns, h.Turns key position actions c d turns := by
  induction actions generalizing h c with
  | nil => exact ⟨c, [], found, rfl, passive, (List.append_nil _).symm, rfl, rfl⟩
  -- The characteristic is observed by a passive observer after each action again.
  | cons action actions ih =>
      rw [List.forall_mem_cons] at touching
      obtain ⟨d, switches⟩ := action.switches placed found passive observed touching.1
      obtain ⟨e, turns, later⟩ := ih (action.placed placed).1 switches.found switches.passive switches.observed touching.2
      have flags : h.flags key position (action :: actions) =
          d.notifying :: (action.perform h).flags key position actions := by
        rw [Host.flags, switches.found]
        rfl
      have calls := later.calls
      rw [switches.calls, switches.identifier, List.append_assoc] at calls
      by_cases same : c.notifying = d.notifying
      · rw [Characteristic.rings, if_pos same] at calls
        refine ⟨e, turns, later.found, later.identifier.trans switches.identifier, later.passive, calls, ?_, ?_⟩
        · rw [flags, List.destutter_cons', List.destutter'_cons_neg _ (not_not.mpr same), same]
          exact later.flags
        · rw [same]
          exact later.last
      · rw [Characteristic.rings, if_neg same] at calls
        refine ⟨e, d.notifying :: turns, later.found, later.identifier.trans switches.identifier, later.passive, calls,
          ?_, ?_⟩
        · rw [flags, List.destutter_cons', List.destutter'_cons_pos _ same, later.flags, List.destutter_cons']
        · rw [List.getLast?_cons_cons]
          exact later.last

/-- During a history that touches an observed characteristic, its observer is called exactly once for each time its
flag is flipped: the calls alternate, and the last one is the flag that it has. At any time a store in its client
configuration, while it is alive, does what it has to. -/
theorem subscriptions_exact (reached : h.Reached) (found : h.application.characteristic? key position = some c)
    (passive : c.isPassive = true) (observed : c.observer.isSome = true) (actions : List (Action β))
    (touching : ∀ action ∈ actions, action.touches key position = true) :
    let g := h.through actions
    ∃ d turns, g.application.characteristic? key position = some d ∧
      g.channel.calls = h.channel.calls ++ turns.map (fun notifying => (c.identifier, notifying)) ∧
      c.notifying :: turns = (c.notifying :: h.flags key position actions).destutter (· ≠ ·) ∧
      (c.notifying :: turns).IsChain (· ≠ ·) ∧ (c.notifying :: turns).getLast? = some d.notifying ∧
      ∀ index x, d.descriptors[index]? = some x → x.isClientConfiguration = true →
        g.isAlive (.characteristic key position) = true → ∀ deposit, g.Obeys key position index d x deposit := by
  intro g
  obtain ⟨d, turns, tells⟩ := turns_through reached.placed found passive observed actions touching
  refine ⟨d, turns, tells.found, tells.calls, tells.flags, ?_, tells.last,
    fun index x row configuration alive deposit => ?_⟩
  · rw [tells.flags]
    exact List.isChain_destutter _ _
  · exact obeys (placed_through reached.placed actions).1 tells.found tells.passive row configuration alive deposit

end Host
end Calls

namespace Host

def observing : List (Action MemoryBus) :=
  [.edit (.service .batteryService true), .edit (.characteristic 0 .batteryLevel (.ofList [.read, .notify]) .empty),
    .edit (.descriptor 0 0 .clientConfiguration .readWrite), .access (.observe (.characteristic 0 0) .record)]

def observedHost : Host MemoryBus := (new .empty .root .root .standard).through observing

def subscribing : List (Action MemoryBus) :=
  [.transition .publish Transition.isOfApplication_publish, .access (.write (.descriptor 0 0 0) [1, 0] (.atOffset 0)),
    .access (.notify (.characteristic 0 0) true), .access (.set (.descriptor 0 0 0) []),
    .access (.write (.descriptor 0 0 0) [3] (.atOffset 1)), .access (.notify (.characteristic 0 0) true)]

theorem subscriptions_exact_switched :
    (observedHost.through subscribing).channel.calls =
        [(.batteryLevel, true), (.batteryLevel, false), (.batteryLevel, true)] ∧
      ∃ d x, (observedHost.through subscribing).application.characteristic? 0 0 = some d ∧
        x.value = [0, 3] ∧ d.notifying = true ∧
        ∀ deposit, (observedHost.through subscribing).Obeys 0 0 0 d x deposit := by
  have reached : observedHost.Reached := ⟨_, _, _, _, observing, rfl⟩
  have touching : ∀ action ∈ subscribing, action.touches 0 0 = true := by decide
  obtain ⟨d, turns, found, calls, flags, -, last, obeys⟩ :=
    subscriptions_exact reached rfl rfl rfl subscribing touching
  have turned : turns = [true, false, true] := List.tail_eq_of_cons_eq (flags.trans rfl)
  obtain rfl := Option.some.inj found
  rw [turned] at calls
  exact ⟨calls.trans rfl, _, _, rfl, rfl, rfl, obeys 0 _ rfl rfl (by decide)⟩

end Host
end GattPeripheral
