import GattPeripheral.Bus.Memory
import GattPeripheral.Proofs.Tree.Recording

/-!
# What clients hear of a characteristic

A client hears the property changes sent from the path of a characteristic. `Leaves` says which characteristic a piece
of work leaves behind and which changes it sends; it follows from what `Records` says of the same work. Under an
observer that does not act on the tree: `write_leaves` and `setValue_leaves` for the work that stores a value, `Flips`
for the work that switches notifications, `Settles` with `storeDescriptor_settles` and `writeDescriptor_settles` for a
store in a descriptor, which may do that as well.
-/

namespace GattPeripheral

def Event.change? (path : ObjectPath) : Event → Option Change
  | .emitted p interface changed => if p = path then some ⟨p, interface, changed⟩ else none
  | _ => none

def Channel.changes {β : Type} (path : ObjectPath) (c : Channel β) : List Change :=
  c.trace.filterMap (Event.change? path)

def Change.value? (change : Change) : Option Bytes := (change.changed.get? Names.value).bind Property.asBytes?

namespace Characteristic

def valueChange (c : Characteristic) : Change :=
  ⟨c.path, Names.gattCharacteristic, .single Names.value (.bytes c.value)⟩

def notifyingChange (c : Characteristic) : Change :=
  ⟨c.path, Names.gattCharacteristic, .single Names.notifying (.bool c.notifying)⟩

/-- What is sent when `c` becomes `d`, which may have another flag. -/
def flips (c d : Characteristic) : List Change :=
  if c.published && c.notifying != d.notifying then [d.notifyingChange] else []

def stores (c d : Characteristic) : List Change :=
  if c.published && c.notifying then [d.valueChange] else []

@[simp] theorem value?_valueChange (c : Characteristic) : c.valueChange.value? = some c.value := rfl

@[simp] theorem value?_notifyingChange (c : Characteristic) : c.notifyingChange.value? = none := rfl

theorem values_flips (c d : Characteristic) : (c.flips d).filterMap Change.value? = [] := by
  rw [flips]
  split <;> simp

theorem values_stores (c d : Characteristic) :
    (c.stores d).filterMap Change.value? = if c.published && c.notifying then [d.value] else [] := by
  rw [stores]
  split <;> simp

theorem flips_same {c d : Characteristic} (same : d.notifying = c.notifying) : c.flips d = [] := by
  simp [flips, same]

end Characteristic

variable {β : Type}

/-- Work that leaves the characteristic as `c`, and sends these changes from its path. -/
structure Leaves (a b : Active Characteristic β) (c : Characteristic) (changes : List Change) : Prop where
  node : b.node = c
  sent : b.channel.changes a.node.path = a.channel.changes a.node.path ++ changes

namespace Leaves

variable {a b : Active Characteristic β}

theorem refl (a : Active Characteristic β) : Leaves a a a.node [] := ⟨rfl, (List.append_nil _).symm⟩

theorem modify (a : Active Characteristic β) (c : Characteristic) : Leaves a { a with node := c } c [] :=
  ⟨rfl, (List.append_nil _).symm⟩

theorem trans {c d : Characteristic} {first second : List Change} {e : Active Characteristic β}
    (one : Leaves a b c first) (path : c.path = a.node.path) (two : Leaves b e d second) :
    Leaves a e d (first ++ second) := by
  refine ⟨two.node, ?_⟩
  have later := two.sent
  rw [one.node, path, one.sent, List.append_assoc] at later
  exact later

theorem after {c d : Characteristic} {changes : List Change} {e : Active Characteristic β}
    (one : Leaves a b c []) (path : c.path = a.node.path) (two : Leaves b e d changes) : Leaves a e d changes :=
  one.trans path two

end Leaves

/-- Work that may leave another flag if it is `switching`, of which clients hear that it is flipped. -/
def Flips (switching : Bool) (a b : Active Characteristic β) : Prop :=
  ∃ notifying, (switching = false → notifying = a.node.notifying) ∧
    Leaves a b { a.node with notifying } (a.node.flips { a.node with notifying })

namespace Flips

variable {switching : Bool} {a b : Active Characteristic β}

theorem idle (same : Leaves a b a.node []) : Flips switching a b := by
  refine ⟨a.node.notifying, fun _ => rfl, ?_⟩
  rw [Characteristic.flips_same rfl]
  exact same

end Flips

def Characteristic.configures (c : Characteristic) (position : Nat) : Bool :=
  c.descriptors[position]?.any Descriptor.isClientConfiguration

theorem Characteristic.exists_settle_self (c : Characteristic) (position : Nat) :
    ∃ value, c.settle position value = c := by
  cases found : c.descriptors[position]? with
  | none => exact ⟨[], by rw [settle, List.modify_eq_self (List.getElem?_eq_none_iff.mp found)]⟩
  | some d =>
      have same := map_modify_same (g := id) (f := fun e : Descriptor => { e with value := d.value })
        fun e here => by
          obtain rfl := Option.some.inj (found.symm.trans here)
          rfl
      rw [List.map_id, List.map_id] at same
      exact ⟨d.value, by rw [settle, same]⟩

def Settles (switching : Bool) (position : Nat) (a b : Active Characteristic β) : Prop :=
  ∃ notifying value, (switching = false → notifying = a.node.notifying) ∧
    Leaves a b ({ a.node with notifying }.settle position value) (a.node.flips { a.node with notifying })

namespace Settles

variable {switching : Bool} {position : Nat} {a b e : Active Characteristic β}

theorem of_flips (flips : Flips switching a b) : Settles switching position a b := by
  obtain ⟨notifying, kept, leaves⟩ := flips
  obtain ⟨value, same⟩ := Characteristic.exists_settle_self { a.node with notifying } position
  exact ⟨notifying, value, kept, same.symm ▸ leaves⟩

theorem later {channel : Channel β} (settles : Settles switching position ⟨a.node, channel⟩ e)
    (idle : Leaves a ⟨a.node, channel⟩ a.node []) : Settles switching position a e := by
  obtain ⟨notifying, value, kept, leaves⟩ := settles
  exact ⟨notifying, value, kept, idle.after rfl leaves⟩

end Settles

/-! ## From the record -/

namespace Records

variable {a b : Active Characteristic β} {c : Characteristic} {events : List Event}

theorem leaves (records : Records a b c events) : Leaves a b c (events.filterMap (Event.change? a.node.path)) := by
  refine ⟨records.node, ?_⟩
  rw [Channel.changes, records.trace, List.filterMap_append]
  rfl

theorem leaves_of_changes {changes : List Change} (records : Records a b c events)
    (sent : events.filterMap (Event.change? a.node.path) = changes) : Leaves a b c changes :=
  sent ▸ records.leaves

end Records

namespace Characteristic

theorem changes_sending (c : Characteristic) (name : String) (value : Property) :
    (c.sending name value).filterMap (Event.change? c.path) =
      if c.published then [⟨c.path, Names.gattCharacteristic, .single name value⟩] else [] := by
  rw [sending]
  cases c.published <;> simp [Event.change?]

theorem changes_telling (c : Characteristic) : c.telling.filterMap (Event.change? c.path) = c.stores c := by
  rw [telling, stores, Bool.and_comm]
  cases c.notifying with
  | false => rfl
  | true => exact c.changes_sending Names.value (.bytes c.value)

theorem changes_turning (c : Characteristic) (notifying : Bool) :
    (c.turning notifying).filterMap (Event.change? c.path) = c.flips { c with notifying } := by
  rw [turning, flips]
  by_cases same : c.notifying = notifying
  · rw [if_pos same, bne_eq_false_iff_eq.mpr same, Bool.and_false]
    rfl
  · rw [if_neg same, bne_iff_ne.mpr same, Bool.and_true, List.filterMap_append, changes_sending]
    cases c.observer.isSome <;> exact List.append_nil _

theorem changes_consulted (path : ObjectPath) (provider : Option WriteProvider) (bytes : Bytes)
    (access : AccessOptions) : (consulted provider bytes access).filterMap (Event.change? path) = [] := by
  rw [consulted]
  cases checkOffset access.offset with
  | error e => rfl
  | ok => cases provider <;> rfl

theorem changes_told {path : ObjectPath} {d : Descriptor} (apart : d.path ≠ path) (next : Bytes) (offset : Nat) :
    (told d next offset).filterMap (Event.change? path) = [] := by
  rw [told]
  split <;> simp [Event.change?, apart]

variable (a : Active Characteristic β)

theorem consulted_leaves (provider : Option WriteProvider) (bytes : Bytes) (access : AccessOptions) :
    Leaves a (a.recording (consulted provider bytes access)) a.node [] :=
  (Records.recording a _).leaves_of_changes (changes_consulted _ provider bytes access)

theorem read_leaves (options : AccessOptions) :
    Leaves a ((read options : Work Characteristic β (Except GattError Bytes)) a).2 a.node [] := by
  refine (read_records a options).leaves_of_changes ?_
  cases a.node.readProvider <;> rfl

theorem readDescriptor_leaves (position : Nat) (options : AccessOptions) :
    Leaves a ((readDescriptor position options : Work Characteristic β (Except GattError Bytes)) a).2 a.node [] := by
  refine (readDescriptor_records a position options).leaves_of_changes ?_
  cases a.node.descriptors[position]?.bind (·.readProvider) <;> rfl

variable [Transport β]

theorem setValue_leaves (bytes : Bytes) :
    Leaves a ((setValue bytes : Work Characteristic β Unit) a).2 { a.node with value := bytes }
      (a.node.stores { a.node with value := bytes }) :=
  (setValue_records a bytes).leaves_of_changes (changes_telling { a.node with value := bytes })

section Passive
variable {a} (passive : a.node.isPassive = true)
include passive

theorem stopNotify_flips : Flips true a ((stopNotify : Work Characteristic β Unit) a).2 :=
  ⟨false, nofun, (stopNotify_records passive).leaves_of_changes (a.node.changes_turning false)⟩

theorem startNotify_flips :
    Flips true a ((startNotify : Work Characteristic β (Except GattError Unit)) a).2 := by
  cases able : a.node.flags.notifies with
  | false =>
      rw [startNotify_refused a able]
      exact .idle (.refl a)
  | true => exact ⟨true, nofun, (startNotify_records passive able).leaves_of_changes (a.node.changes_turning true)⟩

end Passive

theorem write_leaves (bytes : Bytes) (options : AccessOptions) :
    let done := (write bytes options : Work Characteristic β (Except GattError Unit)) a
    done.1.isOk = false ∧ Leaves a done.2 a.node [] ∨
      done.1.isOk = true ∧ ∃ value, Leaves a done.2 { a.node with value } (a.node.stores { a.node with value }) := by
  have asked := consulted_leaves a a.node.writeProvider bytes options
  rw [write_run]
  cases permission a.node.writeProvider "characteristic write" bytes options with
  | error e => exact .inl ⟨rfl, asked⟩
  | ok =>
      let d := a.node.written bytes options.offset
      have told := (valueChanged_records { a.recording (consulted a.node.writeProvider bytes options) with
        node := d }).leaves_of_changes d.changes_telling
      exact .inr ⟨rfl, d.value, (asked.after rfl (.modify _ d)).after rfl told⟩

/-! ## Descriptors -/

section Descriptors
variable {a} (passive : a.node.isPassive = true) (apart : ∀ d ∈ a.node.descriptors, d.path ≠ a.node.path)
include passive apart

theorem storeDescriptor_settles (owned : Bool) (position : Nat) (bytes : Bytes) (offset : Nat) :
    Settles (a.node.configures position && owned) position a
      ((storeDescriptor owned position bytes offset : Work Characteristic β (Except GattError Unit)) a).2 := by
  cases found : a.node.descriptors[position]? with
  | none =>
      rw [storeDescriptor, Work.node_bind, found]
      exact .of_flips (.idle (.refl a))
  | some d =>
      rcases Nat.lt_or_ge maxAttributeLength offset with beyond | within
      · rw [storeDescriptor, Work.node_bind, found, checkOffset, if_pos beyond]
        exact .of_flips (.idle (.refl a))
      · cases denied : a.node.denies owned d (Bytes.writeAt d.value offset bytes) with
        | true =>
            rw [storeDescriptor_refused a found bytes within denied]
            exact .of_flips (.idle (.refl a))
        | false =>
            obtain ⟨-, records⟩ := storeDescriptor_records a found bytes within passive denied
            refine ⟨_, _, fun idle => ?_, records.leaves_of_changes ?_⟩
            · rw [configures, found, Option.any_some] at idle
              rw [flagAfter, idle]
              rfl
            · rw [List.filterMap_append, changes_turning, changes_told (apart d (List.mem_of_getElem? found)),
                List.append_nil]

theorem writeDescriptor_settles (owned : Bool) (position : Nat) (bytes : Bytes) (options : AccessOptions) :
    Settles (a.node.configures position && owned) position a ((writeDescriptor owned position bytes options :
      Work Characteristic β (Except GattError Unit)) a).2 := by
  cases found : a.node.descriptors[position]? with
  | none =>
      rw [writeDescriptor, Work.node_bind, found]
      exact .of_flips (.idle (.refl a))
  | some d =>
      have asked := consulted_leaves a d.writeProvider bytes options
      rw [writeDescriptor_run a owned found]
      cases permission d.writeProvider "descriptor write" bytes options with
      | error e => exact .of_flips (.idle asked)
      | ok => exact (storeDescriptor_settles (a := a.recording _) passive apart owned position bytes
          options.offset).later asked

end Descriptors

end Characteristic
end GattPeripheral
