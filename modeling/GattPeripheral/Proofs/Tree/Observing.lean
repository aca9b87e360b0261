import GattPeripheral.Proofs.Tree.Recording

/-!
# When observers are called

The observer of a characteristic is called for each flip of its flag and for nothing else: `Rings` says this
of a piece of work. It holds of all work on values, under an observer that does not act on the tree.
-/

namespace GattPeripheral

def Event.call? : Event → Option (Identifier × Bool)
  | .observer identifier notifying => some (identifier, notifying)
  | _ => none

def Channel.calls {β : Type} (c : Channel β) : List (Identifier × Bool) := c.trace.filterMap Event.call?

namespace Characteristic

def rings (c : Characteristic) (notifying : Bool) : List (Identifier × Bool) :=
  if c.notifying = notifying then [] else [(c.identifier, notifying)]

theorem rings_self (c : Characteristic) : c.rings c.notifying = [] := if_pos rfl

theorem calls_sending (c : Characteristic) (name : String) (value : Property) :
    (c.sending name value).filterMap Event.call? = [] := by
  rw [sending]
  cases c.published <;> rfl

theorem calls_telling (c : Characteristic) : c.telling.filterMap Event.call? = [] := by
  rw [telling]
  cases c.notifying with
  | false => rfl
  | true => exact c.calls_sending _ _

theorem calls_turning {c : Characteristic} (observed : c.observer.isSome = true) (notifying : Bool) :
    (c.turning notifying).filterMap Event.call? = c.rings notifying := by
  rw [turning, rings, observed, if_pos rfl]
  split
  · rfl
  · rw [List.filterMap_append, calls_sending]
    rfl

theorem calls_told (d : Descriptor) (next : Bytes) (offset : Nat) :
    (told d next offset).filterMap Event.call? = [] := by
  rw [told]
  split <;> rfl

theorem calls_consulted (provider : Option WriteProvider) (bytes : Bytes) (access : AccessOptions) :
    (consulted provider bytes access).filterMap Event.call? = [] := by
  rw [consulted]
  cases checkOffset access.offset with
  | error e => rfl
  | ok => cases provider <;> rfl

end Characteristic

variable {β : Type}

structure Rings (a b : Active Characteristic β) : Prop where
  identifier : b.node.identifier = a.node.identifier
  observer : b.node.observer = a.node.observer
  calls : b.channel.calls = a.channel.calls ++ a.node.rings b.node.notifying

namespace Rings

variable {a b : Active Characteristic β}

theorem refl (a : Active Characteristic β) : Rings a a :=
  ⟨rfl, rfl, by rw [Characteristic.rings_self, List.append_nil]⟩

theorem of_records {c : Characteristic} {events : List Event} (records : Records a b c events)
    (identifier : c.identifier = a.node.identifier) (observer : c.observer = a.node.observer)
    (calls : events.filterMap Event.call? = a.node.rings c.notifying) : Rings a b := by
  obtain ⟨rfl, trace⟩ := records
  refine ⟨identifier, observer, ?_⟩
  rw [← calls, Channel.calls, trace, List.filterMap_append]
  rfl

theorem of_silent {c : Characteristic} {events : List Event} (records : Records a b c events)
    (identifier : c.identifier = a.node.identifier) (observer : c.observer = a.node.observer)
    (notifying : c.notifying = a.node.notifying) (silent : events.filterMap Event.call? = []) : Rings a b :=
  of_records records identifier observer (by rw [silent, notifying, Characteristic.rings_self])

theorem behind {events : List Event} (silent : events.filterMap Event.call? = [])
    (rings : Rings (a.recording events) b) : Rings a b := by
  have before : (a.recording events).channel.calls = a.channel.calls := by
    rw [Channel.calls, Active.recording, Channel.recording, List.filterMap_append, silent, List.append_nil]
    rfl
  exact ⟨rings.identifier, rings.observer, before ▸ rings.calls⟩

end Rings

namespace Characteristic

variable (a : Active Characteristic β)

theorem read_rings (options : AccessOptions) :
    Rings a ((read options : Work Characteristic β (Except GattError Bytes)) a).2 := by
  refine .of_silent (read_records a options) rfl rfl rfl ?_
  cases a.node.readProvider <;> rfl

theorem readDescriptor_rings (position : Nat) (options : AccessOptions) :
    Rings a ((readDescriptor position options : Work Characteristic β (Except GattError Bytes)) a).2 := by
  refine .of_silent (readDescriptor_records a position options) rfl rfl rfl ?_
  cases a.node.descriptors[position]?.bind (·.readProvider) <;> rfl

theorem consulted_rings (provider : Option WriteProvider) (bytes : Bytes) (access : AccessOptions) :
    Rings a (a.recording (consulted provider bytes access)) :=
  .of_silent (.recording a _) rfl rfl rfl (calls_consulted provider bytes access)

variable [Transport β]

theorem setValue_rings (bytes : Bytes) : Rings a ((setValue bytes : Work Characteristic β Unit) a).2 :=
  .of_silent (setValue_records a bytes) rfl rfl rfl (calls_telling _)

theorem write_rings (bytes : Bytes) (access : AccessOptions) :
    Rings a ((write bytes access : Work Characteristic β (Except GattError Unit)) a).2 := by
  cases permitted : permission a.node.writeProvider "characteristic write" bytes access with
  | error e =>
      rw [write_run, permitted]
      exact consulted_rings a _ bytes access
  | ok =>
      refine .of_silent (write_records a permitted).2 rfl rfl rfl ?_
      rw [List.filterMap_append, calls_consulted, calls_telling, List.append_nil]

section Observed
variable {a} (passive : a.node.isPassive = true) (observed : a.node.observer.isSome = true)
include passive observed

theorem stopNotify_rings : Rings a ((stopNotify : Work Characteristic β Unit) a).2 :=
  .of_records (stopNotify_records passive) rfl rfl (calls_turning observed false)

theorem startNotify_rings : Rings a ((startNotify : Work Characteristic β (Except GattError Unit)) a).2 := by
  cases able : a.node.flags.notifies with
  | false =>
      rw [startNotify_refused a able]
      exact .refl a
  | true => exact .of_records (startNotify_records passive able) rfl rfl (calls_turning observed true)

theorem storeDescriptor_rings (owned : Bool) (position : Nat) (bytes : Bytes) (offset : Nat) :
    Rings a ((storeDescriptor owned position bytes offset : Work Characteristic β (Except GattError Unit)) a).2 := by
  cases found : a.node.descriptors[position]? with
  | none =>
      rw [storeDescriptor, Work.node_bind, found]
      exact .refl a
  | some d =>
      rcases Nat.lt_or_ge maxAttributeLength offset with beyond | within
      · rw [storeDescriptor, Work.node_bind, found, checkOffset, if_pos beyond]
        exact .refl a
      · cases denied : a.node.denies owned d (Bytes.writeAt d.value offset bytes) with
        | true =>
            rw [storeDescriptor_refused a found bytes within denied]
            exact .refl a
        | false =>
            refine .of_records (storeDescriptor_records a found bytes within passive denied).2 rfl rfl ?_
            rw [List.filterMap_append, calls_turning observed, calls_told, List.append_nil]
            rfl

theorem writeDescriptor_rings (owned : Bool) (position : Nat) (bytes : Bytes) (access : AccessOptions) :
    Rings a ((writeDescriptor owned position bytes access : Work Characteristic β (Except GattError Unit)) a).2 := by
  cases found : a.node.descriptors[position]? with
  | none =>
      rw [writeDescriptor, Work.node_bind, found]
      exact .refl a
  | some d =>
      have asked := consulted_rings a d.writeProvider bytes access
      rw [writeDescriptor_run a owned found]
      cases permission d.writeProvider "descriptor write" bytes access with
      | error e => exact asked
      | ok =>
          exact .behind (calls_consulted d.writeProvider bytes access)
            (storeDescriptor_rings (a := a.recording _) passive observed owned position bytes access.offset)

end Observed

end Characteristic
end GattPeripheral
