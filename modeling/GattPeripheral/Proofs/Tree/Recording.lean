import GattPeripheral.Proofs.Tree.Publishing
import GattPeripheral.Tree.Values

/-!
# What work on values puts on record

Everything that is sent, and every call of a provider or an observer, leaves an event. `Records` says which
characteristic a piece of work leaves behind and which events it adds. A write is refused before anything
is stored, or else it is let: `write_run` and `writeDescriptor_run` divide the two. What a write that is let
puts on record is known exactly if the observer does not act on the tree.
-/

namespace GattPeripheral

variable {β : Type}

theorem Work.node_bind {α : Type} (later : Characteristic → Work Characteristic β α) (a : Active Characteristic β) :
    (Work.node >>= later) a = later a.node a := rfl

theorem Work.modifyNode_bind {α : Type} (f : Characteristic → Characteristic)
    (later : Unit → Work Characteristic β α) (a : Active Characteristic β) :
    (Work.modifyNode f >>= later) a = later () { a with node := f a.node } := rfl

def Channel.recording (events : List Event) (c : Channel β) : Channel β := { c with trace := c.trace ++ events }

def Active.recording {ν : Type} (events : List Event) (a : Active ν β) : Active ν β :=
  { a with channel := a.channel.recording events }

theorem Channel.recording_nil (c : Channel β) : c.recording [] = c := by rw [recording, List.append_nil]

theorem Active.recording_nil {ν : Type} (a : Active ν β) : a.recording [] = a := by
  rw [recording, Channel.recording_nil]

/-- Work that leaves the characteristic as `c`, and adds these events to the record. -/
structure Records (a b : Active Characteristic β) (c : Characteristic) (events : List Event) : Prop where
  node : b.node = c
  trace : b.channel.trace = a.channel.trace ++ events

namespace Records

variable {a b : Active Characteristic β}

theorem refl (a : Active Characteristic β) : Records a a a.node [] := ⟨rfl, (List.append_nil _).symm⟩

theorem modify (a : Active Characteristic β) (c : Characteristic) : Records a { a with node := c } c [] :=
  ⟨rfl, (List.append_nil _).symm⟩

theorem recording (a : Active Characteristic β) (events : List Event) :
    Records a (a.recording events) a.node events := ⟨rfl, rfl⟩

theorem trans {c d : Characteristic} {first second : List Event} {e : Active Characteristic β}
    (one : Records a b c first) (two : Records b e d second) : Records a e d (first ++ second) :=
  ⟨two.node, by rw [two.trace, one.trace, List.append_assoc]⟩

end Records

/-! ## Providers -/

def verdict (provider : Option WriteProvider) (what : String) (bytes : Bytes) (access : AccessOptions) :
    Except GattError Unit :=
  match provider with
  | none => .ok ()
  | some p => (p.reply bytes access).outcome what

def consultation (provider : Option WriteProvider) (bytes : Bytes) (access : AccessOptions) : List Event :=
  provider.toList.map fun _ => .writeProvider bytes access

theorem verdict_eq_ok_iff (provider : Option WriteProvider) (what : String) (bytes : Bytes) (access : AccessOptions) :
    verdict provider what bytes access = .ok () ↔ ∀ p, provider = some p → p.reply bytes access = .answer () := by
  cases provider with
  | none => simp [verdict]
  | some p => cases reply : p.reply bytes access <;> simp [verdict, reply, Reply.outcome]

theorem GattError.asFailure_failed (e : GattError) : ∃ reason, e.asFailure = .failed reason := by
  cases e <;> exact ⟨_, rfl⟩

theorem verdict_failed {provider : Option WriteProvider} {what : String} {bytes : Bytes} {access : AccessOptions}
    {e : GattError} (refused : verdict provider what bytes access = .error e) : ∃ reason, e = .failed reason := by
  cases provider with
  | none => cases refused
  | some p =>
      rw [verdict] at refused
      cases reply : p.reply bytes access with
      | answer => cases reply ▸ refused
      | refuse error =>
          obtain ⟨reason, failed⟩ := error.asFailure_failed
          exact ⟨reason, Except.error.inj (reply ▸ refused) ▸ failed⟩
      | crash => exact ⟨_, (Except.error.inj (reply ▸ refused)).symm⟩

def permission (provider : Option WriteProvider) (what : String) (bytes : Bytes) (access : AccessOptions) :
    Except GattError Unit :=
  match checkOffset access.offset with
  | .error e => .error e
  | .ok () => verdict provider what bytes access

def consulted (provider : Option WriteProvider) (bytes : Bytes) (access : AccessOptions) : List Event :=
  match checkOffset access.offset with
  | .error _ => []
  | .ok () => consultation provider bytes access

theorem checkOffset_eq_ok_iff {offset : Nat} : checkOffset offset = .ok () ↔ offset ≤ maxAttributeLength := by
  rw [checkOffset]
  split <;> simp <;> omega

theorem permission_eq_ok_iff {provider : Option WriteProvider} {what : String} {bytes : Bytes} {access : AccessOptions} :
    permission provider what bytes access = .ok () ↔ access.offset ≤ maxAttributeLength ∧
      ∀ p, provider = some p → p.reply bytes access = .answer () := by
  rw [permission, ← verdict_eq_ok_iff provider what, ← checkOffset_eq_ok_iff]
  cases checkOffset access.offset <;> simp

theorem consulted_within (provider : Option WriteProvider) (bytes : Bytes) {access : AccessOptions}
    (within : access.offset ≤ maxAttributeLength) :
    consulted provider bytes access = consultation provider bytes access := by
  rw [consulted, checkOffset_eq_ok_iff.mpr within]

theorem consulted_beyond (provider : Option WriteProvider) (bytes : Bytes) {access : AccessOptions}
    (beyond : maxAttributeLength < access.offset) : consulted provider bytes access = [] := by
  rw [consulted, checkOffset, if_pos beyond]

theorem permission_error {provider : Option WriteProvider} {what : String} {bytes : Bytes} {access : AccessOptions}
    {e : GattError} (refused : permission provider what bytes access = .error e) :
    maxAttributeLength < access.offset ∧ e = .invalidOffset access.offset ∨
      access.offset ≤ maxAttributeLength ∧ (∃ p, provider = some p ∧ p.reply bytes access ≠ .answer ()) ∧
        ∃ reason, e = .failed reason := by
  rw [permission] at refused
  rcases Nat.lt_or_ge maxAttributeLength access.offset with beyond | within
  · rw [checkOffset, if_pos beyond] at refused
    exact .inl ⟨beyond, (Except.error.inj refused).symm⟩
  · rw [checkOffset_eq_ok_iff.mpr within] at refused
    have unsaid : verdict provider what bytes access ≠ .ok () := by simp [refused]
    rw [ne_eq, verdict_eq_ok_iff, not_forall] at unsaid
    obtain ⟨p, unsaid⟩ := unsaid
    rw [Classical.not_imp] at unsaid
    exact .inr ⟨within, ⟨p, unsaid⟩, verdict_failed refused⟩

namespace Characteristic

section Vet
variable (a : Active Characteristic β)

theorem vet_run (provider : Option WriteProvider) (what : String) (bytes : Bytes) (access : AccessOptions) :
    (vet provider what bytes access : Work Characteristic β (Except GattError Unit)) a =
      (verdict provider what bytes access, a.recording (consultation provider bytes access)) := by
  cases provider with
  | none => exact congrArg (Prod.mk _) a.recording_nil.symm
  | some provider => rfl

theorem read_records (access : AccessOptions) : Records a
    ((read access : Work Characteristic β (Except GattError Bytes)) a).2 a.node
      (a.node.readProvider.toList.map fun _ => .readProvider access) := by
  rw [read, Work.node_bind]
  cases a.node.readProvider with
  | none => exact .refl a
  | some provider => exact .recording a _

theorem readDescriptor_records (position : Nat) (access : AccessOptions) : Records a
    ((readDescriptor position access : Work Characteristic β (Except GattError Bytes)) a).2 a.node
      ((a.node.descriptors[position]?.bind (·.readProvider)).toList.map fun _ => .readProvider access) := by
  rw [readDescriptor, Work.node_bind]
  cases a.node.descriptors[position]? with
  | none => exact .refl a
  | some d =>
      cases provider : d.readProvider with
      | none =>
          simp only [provider, Option.bind_some]
          exact .refl a
      | some p =>
          simp only [provider, Option.bind_some]
          exact .recording a _

end Vet

end Characteristic

/-! ## What is sent -/

namespace Characteristic

def sending (c : Characteristic) (name : String) (value : Property) : List Event :=
  if c.published then [.emitted c.path Names.gattCharacteristic (.single name value)] else []

/-- The flag is set: if this flips it then clients hear of it, and after them the observer. -/
def turning (c : Characteristic) (notifying : Bool) : List Event :=
  if c.notifying = notifying then []
  else c.sending Names.notifying (.bool notifying) ++
    if c.observer.isSome then [.observer c.identifier notifying] else []

def telling (c : Characteristic) : List Event := if c.notifying then c.sending Names.value (.bytes c.value) else []

theorem turning_self (c : Characteristic) : c.turning c.notifying = [] := if_pos rfl

end Characteristic

def Observer.isPassive : Observer → Bool
  | .record | .crash => true
  | .store _ | .stop => false

namespace Characteristic

def isPassive (c : Characteristic) : Bool := c.observer.all Observer.isPassive

theorem observer_passive (c : Characteristic) (passive : c.isPassive = true) :
    c.observer = none ∨ c.observer = some .record ∨ c.observer = some .crash := by
  revert passive
  rw [isPassive]
  rcases c.observer with _ | _ | _ | _ | _ <;> simp [Observer.isPassive]

variable [Transport β] (a : Active Characteristic β)

theorem emit_records (name : String) (value : Property) :
    Records a ((emit name value : Work Characteristic β Unit) a).2 a.node (a.node.sending name value) := by
  rw [emit, Work.node_bind, sending]
  cases a.node.published with
  | false => exact .refl a
  | true => exact ⟨rfl, rfl⟩

theorem valueChanged_records :
    Records a ((valueChanged : Work Characteristic β Unit) a).2 a.node a.node.telling := by
  rw [valueChanged, Work.node_bind, telling]
  cases a.node.notifying with
  | false => exact .refl a
  | true => exact emit_records a Names.value (.bytes a.node.value)

theorem setValue_records (bytes : Bytes) :
    Records a ((setValue bytes : Work Characteristic β Unit) a).2 { a.node with value := bytes }
      { a.node with value := bytes }.telling := by
  rw [setValue, Work.modifyNode_bind]
  exact (Records.modify a { a.node with value := bytes }).trans (valueChanged_records _)

/-! ## Switching notifications -/

theorem announce_records (notifying : Bool) (flipped : a.node.notifying ≠ notifying) :
    Records a ((announce notifying : Work Characteristic β Unit) a).2 { a.node with notifying }
      (a.node.turning notifying) := by
  let c : Characteristic := { a.node with notifying }
  have sent := emit_records { a with node := c } Names.notifying (.bool notifying)
  rw [announce, Work.modifyNode_bind, stateM_bind, Work.node_bind, turning, if_neg flipped]
  cases told : (emit Names.notifying (.bool notifying) : Work Characteristic β Unit) { a with node := c } with
  | mk done b =>
      rw [told] at sent
      obtain ⟨node, channel⟩ := b
      obtain rfl : node = c := sent.node
      refine (Records.modify a c).trans (sent.trans ?_)
      cases a.node.observer.isSome with
      | false => exact .refl _
      | true => exact .recording _ _

theorem reactToStop_passive (passive : a.node.isPassive = true) :
    ((reactToStop : Work Characteristic β Unit) a).2 = a := by
  rw [reactToStop, Work.node_bind]
  rcases a.node.observer_passive passive with none | records | crashes
  · rw [none]
    rfl
  · rw [records]
    rfl
  · rw [crashes]
    rfl

theorem reactToStart_passive (passive : a.node.isPassive = true) :
    ((reactToStart : Work Characteristic β Unit) a).2 = a := by
  rw [reactToStart, Work.node_bind]
  rcases a.node.observer_passive passive with none | records | crashes
  · rw [none]
    rfl
  · rw [records]
    rfl
  · rw [crashes]
    rfl

def unable (c : Characteristic) : GattError :=
  .notSupported ("characteristic " ++ c.identifier.dashed ++ " does not notify or indicate")

theorem startNotify_refused (mute : a.node.flags.notifies = false) :
    (startNotify : Work Characteristic β (Except GattError Unit)) a = (.error a.node.unable, a) := by
  rw [startNotify, Work.node_bind, mute]
  rfl

theorem startNotify_ok (able : a.node.flags.notifies = true) :
    ((startNotify : Work Characteristic β (Except GattError Unit)) a).1 = .ok () := by
  rw [startNotify, Work.node_bind, able]
  cases a.node.notifying <;> rfl

section Passive
variable {a} (passive : a.node.isPassive = true)
include passive

theorem stopNotify_records :
    Records a ((stopNotify : Work Characteristic β Unit) a).2 { a.node with notifying := false }
      (a.node.turning false) := by
  rw [stopNotify, Work.node_bind]
  cases notifying : a.node.notifying with
  | false =>
      have same : a.node = { a.node with notifying := false } := by rw [← notifying]
      rw [turning, if_pos notifying]
      exact same ▸ .refl a
  | true =>
      have announced := announce_records a false (by simp [notifying])
      have still : ((announce false : Work Characteristic β Unit) a).2.node.isPassive = true := by
        rw [announced.node]
        exact passive
      rw [if_pos rfl, stateM_bind, reactToStop_passive _ still]
      exact announced

theorem startNotify_records (able : a.node.flags.notifies = true) :
    Records a ((startNotify : Work Characteristic β (Except GattError Unit)) a).2 { a.node with notifying := true }
      (a.node.turning true) := by
  rw [startNotify, Work.node_bind, able]
  cases notifying : a.node.notifying with
  | true =>
      have same : a.node = { a.node with notifying := true } := by rw [← notifying]
      rw [turning, if_pos notifying]
      exact same ▸ .refl a
  | false =>
      have announced := announce_records a true (by simp [notifying])
      have still : ((announce true : Work Characteristic β Unit) a).2.node.isPassive = true := by
        rw [announced.node]
        exact passive
      simp only [Bool.not_false, if_true, stateM_bind]
      rw [reactToStart_passive _ still]
      exact announced

end Passive

end Characteristic

/-! ## Client configuration -/

def Bytes.Subscribes (value : Bytes) : Prop :=
  ∃ first, value.head? = some first ∧ (first.toNat.testBit 0 = true ∨ first.toNat.testBit 1 = true)

theorem octet_subscribes (first : UInt8) :
    (first &&& 3 != 0) = true ↔ first.toNat.testBit 0 = true ∨ first.toNat.testBit 1 = true := by
  have low : (first &&& 3).toNat = first.toNat % 4 := by
    rw [UInt8.toNat_and]
    exact Nat.and_two_pow_sub_one_eq_mod first.toNat 2
  rw [bne_iff_ne, ne_eq, ← UInt8.toNat_inj, low, Nat.testBit_succ, Nat.testBit_zero, Nat.testBit_zero,
    decide_eq_true_iff, decide_eq_true_iff, UInt8.toNat_zero]
  omega

namespace Characteristic

theorem wantsNotifications_iff (value : Bytes) : wantsNotifications value = true ↔ value.Subscribes := by
  cases value with
  | nil => simp [wantsNotifications, Bytes.Subscribes]
  | cons first rest =>
      rw [wantsNotifications, List.head?_cons, Option.getD_some, octet_subscribes]
      simp [Bytes.Subscribes]

instance (value : Bytes) : Decidable value.Subscribes := decidable_of_iff _ (wantsNotifications_iff value)

theorem decide_subscribes (value : Bytes) : decide value.Subscribes = wantsNotifications value :=
  Bool.eq_iff_iff.mpr (decide_eq_true_iff.trans (wantsNotifications_iff value).symm)

/-- The flag after a store in a descriptor, which is the client configuration of a characteristic that is
alive or else leaves the flag as it is. -/
def flagAfter (c : Characteristic) (owned : Bool) (d : Descriptor) (next : Bytes) : Bool :=
  if d.isClientConfiguration && owned then wantsNotifications next else c.notifying

def denies (c : Characteristic) (owned : Bool) (d : Descriptor) (next : Bytes) : Bool :=
  d.isClientConfiguration && owned && wantsNotifications next && !c.flags.notifies

def told (d : Descriptor) (next : Bytes) (offset : Nat) : List Event :=
  if offset = 0 ∧ d.published = true then [.emitted d.path Names.gattDescriptor (.single Names.value (.bytes next))]
  else []

def settle (position : Nat) (value : Bytes) (c : Characteristic) : Characteristic :=
  { c with descriptors := c.descriptors.modify position fun d => { d with value } }

theorem settle_here {c : Characteristic} {position : Nat} {d : Descriptor}
    (found : c.descriptors[position]? = some d) (value : Bytes) :
    (c.settle position value).descriptors[position]? = some { d with value } := by
  rw [settle, List.getElem?_modify_eq, found]
  rfl

theorem settle_elsewhere (c : Characteristic) {position i : Nat} (elsewhere : i ≠ position)
    (value : Bytes) : (c.settle position value).descriptors[i]? = c.descriptors[i]? :=
  List.getElem?_modify_ne _ _ elsewhere.symm

section Stores
variable [Transport β] (a : Active Characteristic β)

theorem configure_refused {value : Bytes} (wants : wantsNotifications value = true)
    (mute : a.node.flags.notifies = false) :
    (configure value : Work Characteristic β (Except GattError Unit)) a = (.error a.node.unable, a) := by
  rw [configure, wants]
  exact startNotify_refused a mute

theorem configure_ok {value : Bytes} (able : wantsNotifications value = true → a.node.flags.notifies = true) :
    ((configure value : Work Characteristic β (Except GattError Unit)) a).1 = .ok () := by
  rw [configure]
  cases wants : wantsNotifications value with
  | true => exact startNotify_ok a (able wants)
  | false => rfl

theorem configure_records {a : Active Characteristic β} (passive : a.node.isPassive = true) {value : Bytes}
    (able : wantsNotifications value = true → a.node.flags.notifies = true) :
    Records a ((configure value : Work Characteristic β (Except GattError Unit)) a).2
      { a.node with notifying := wantsNotifications value } (a.node.turning (wantsNotifications value)) := by
  rw [configure]
  cases wants : wantsNotifications value with
  | true => exact startNotify_records passive (able wants)
  | false => exact stopNotify_records passive

variable {owned : Bool} {d : Descriptor} {next : Bytes}

theorem prepareStore_refused (denied : a.node.denies owned d next = true) :
    (prepareStore owned d next : Work Characteristic β (Except GattError Unit)) a = (.error a.node.unable, a) := by
  simp only [denies, Bool.and_eq_true, Bool.not_eq_true'] at denied
  obtain ⟨⟨⟨drives, alive⟩, wants⟩, mute⟩ := denied
  rw [prepareStore, drives, alive]
  exact configure_refused a wants mute

theorem prepareStore_idle (idle : (d.isClientConfiguration && owned) = false) :
    (prepareStore owned d next : Work Characteristic β (Except GattError Unit)) a = (.ok (), a) := by
  rw [prepareStore, idle]
  rfl

theorem able_of_allowed {c : Characteristic} (allowed : c.denies owned d next = false)
    (drives : (d.isClientConfiguration && owned) = true) (wants : wantsNotifications next = true) :
    c.flags.notifies = true := by
  rw [denies, drives, wants] at allowed
  simpa using allowed

theorem prepareStore_ok (allowed : a.node.denies owned d next = false) :
    ((prepareStore owned d next : Work Characteristic β (Except GattError Unit)) a).1 = .ok () := by
  cases drives : d.isClientConfiguration && owned with
  | false => rw [prepareStore_idle a drives]
  | true =>
      rw [prepareStore, drives]
      exact configure_ok a (able_of_allowed allowed drives)

theorem prepareStore_records {a : Active Characteristic β} (passive : a.node.isPassive = true)
    (allowed : a.node.denies owned d next = false) :
    Records a ((prepareStore owned d next : Work Characteristic β (Except GattError Unit)) a).2
      { a.node with notifying := a.node.flagAfter owned d next } (a.node.turning (a.node.flagAfter owned d next)) := by
  rw [flagAfter]
  cases drives : d.isClientConfiguration && owned with
  | false =>
      rw [prepareStore_idle a drives, if_neg Bool.false_ne_true, turning_self]
      exact .refl a
  | true =>
      rw [prepareStore, drives]
      exact configure_records passive (able_of_allowed allowed drives)

theorem commit_records (position : Nat) (d : Descriptor) (next : Bytes) (offset : Nat) :
    Records a ((commit position d next offset : Work Characteristic β Unit) a).2 (a.node.settle position next)
      (told d next offset) := by
  rw [commit, Work.modifyNode_bind, told]
  by_cases tells : offset = 0 ∧ d.published = true
  · rw [if_pos tells, tells.1, tells.2]
    exact ⟨rfl, rfl⟩
  · rw [if_neg tells]
    have silent : (decide (offset = 0) && d.published) = false := by
      rw [Bool.and_eq_false_iff, decide_eq_false_iff_not, ← Bool.not_eq_true, ← not_and_or]
      exact tells
    rw [silent]
    exact .modify a _

/-! ## Stores and writes -/

section Found
variable {position : Nat} (found : a.node.descriptors[position]? = some d) (bytes : Bytes)
include found

section Within
variable {offset : Nat} (within : offset ≤ maxAttributeLength)
include within

theorem storeDescriptor_bind : (storeDescriptor owned position bytes offset :
    Work Characteristic β (Except GattError Unit)) a =
      (do match ← prepareStore owned d (Bytes.writeAt d.value offset bytes) with
          | .error e => return .error e
          | .ok () =>
              commit position d (Bytes.writeAt d.value offset bytes) offset
              return .ok () : Work Characteristic β (Except GattError Unit)) a := by
  have ok := checkOffset_eq_ok_iff.mpr within
  rw [storeDescriptor, Work.node_bind, found]
  dsimp only
  cases checked : checkOffset offset with
  | error e => cases ok.symm.trans checked
  | ok => rfl

theorem storeDescriptor_refused (denied : a.node.denies owned d (Bytes.writeAt d.value offset bytes) = true) :
    (storeDescriptor owned position bytes offset : Work Characteristic β (Except GattError Unit)) a =
      (.error a.node.unable, a) := by
  rw [storeDescriptor_bind a found bytes within, stateM_bind, prepareStore_refused a denied]
  rfl

theorem storeDescriptor_run (allowed : a.node.denies owned d (Bytes.writeAt d.value offset bytes) = false) :
    (storeDescriptor owned position bytes offset : Work Characteristic β (Except GattError Unit)) a =
      (.ok (), ((commit position d (Bytes.writeAt d.value offset bytes) offset : Work Characteristic β Unit)
        ((prepareStore owned d (Bytes.writeAt d.value offset bytes) :
          Work Characteristic β (Except GattError Unit)) a).2).2) := by
  have ready := prepareStore_ok a allowed
  rw [storeDescriptor_bind a found bytes within, stateM_bind]
  cases ran : (prepareStore owned d (Bytes.writeAt d.value offset bytes) :
    Work Characteristic β (Except GattError Unit)) a with
  | mk outcome b =>
      rw [ran] at ready
      cases ready
      rfl

variable (owned) in
theorem storeDescriptor_idle (idle : (d.isClientConfiguration && owned) = false) :
    let next := Bytes.writeAt d.value offset bytes
    let done := (storeDescriptor owned position bytes offset : Work Characteristic β (Except GattError Unit)) a
    done.1 = .ok () ∧ Records a done.2 (a.node.settle position next) (told d next offset) := by
  intro next done
  have allowed : a.node.denies owned d next = false := by rw [denies, idle, Bool.false_and, Bool.false_and]
  have run : done = _ := storeDescriptor_run a found bytes within allowed
  rw [prepareStore_idle a idle] at run
  rw [run]
  exact ⟨rfl, commit_records a position d next offset⟩

theorem storeDescriptor_records (passive : a.node.isPassive = true)
    (allowed : a.node.denies owned d (Bytes.writeAt d.value offset bytes) = false) :
    let next := Bytes.writeAt d.value offset bytes
    let done := (storeDescriptor owned position bytes offset : Work Characteristic β (Except GattError Unit)) a
    done.1 = .ok () ∧ Records a done.2
      (settle position next { a.node with notifying := a.node.flagAfter owned d next })
      (a.node.turning (a.node.flagAfter owned d next) ++ told d next offset) := by
  intro next done
  have prepared := prepareStore_records passive allowed
  have committed := commit_records
    ((prepareStore owned d next : Work Characteristic β (Except GattError Unit)) a).2 position d next offset
  rw [prepared.node] at committed
  have run : done = _ := storeDescriptor_run a found bytes within allowed
  rw [run]
  exact ⟨rfl, prepared.trans committed⟩

end Within

variable (owned) in
theorem writeDescriptor_run (access : AccessOptions) : (writeDescriptor owned position bytes access :
    Work Characteristic β (Except GattError Unit)) a =
      match permission d.writeProvider "descriptor write" bytes access with
      | .error e => (.error e, a.recording (consulted d.writeProvider bytes access))
      | .ok () => storeDescriptor owned position bytes access.offset
          (a.recording (consulted d.writeProvider bytes access)) := by
  rw [writeDescriptor, Work.node_bind, found, permission, consulted]
  cases checkOffset access.offset with
  | error e => exact congrArg (Prod.mk _) a.recording_nil.symm
  | ok =>
      simp only [stateM_bind, vet_run]
      cases verdict d.writeProvider "descriptor write" bytes access with
      | error e => rfl
      | ok => rfl

theorem writeDescriptor_records (passive : a.node.isPassive = true) {access : AccessOptions}
    (permitted : permission d.writeProvider "descriptor write" bytes access = .ok ())
    (allowed : a.node.denies owned d (Bytes.writeAt d.value access.offset bytes) = false) :
    let next := Bytes.writeAt d.value access.offset bytes
    let done := (writeDescriptor owned position bytes access : Work Characteristic β (Except GattError Unit)) a
    done.1 = .ok () ∧ Records a done.2
      (settle position next { a.node with notifying := a.node.flagAfter owned d next })
      (consulted d.writeProvider bytes access ++
        (a.node.turning (a.node.flagAfter owned d next) ++ told d next access.offset)) := by
  intro next done
  have run : done = _ := writeDescriptor_run a owned found bytes access
  rw [permitted] at run
  obtain ⟨ok, records⟩ := storeDescriptor_records (a.recording (consulted d.writeProvider bytes access)) found bytes
    (permission_eq_ok_iff.mp permitted).1 passive allowed
  rw [run]
  exact ⟨ok, (Records.recording a _).trans records⟩

end Found

def written (c : Characteristic) (bytes : Bytes) (offset : Nat) : Characteristic :=
  { c with value := Bytes.writeAt c.value offset bytes }

theorem write_run (bytes : Bytes) (access : AccessOptions) :
    (write bytes access : Work Characteristic β (Except GattError Unit)) a =
      match permission a.node.writeProvider "characteristic write" bytes access with
      | .error e => (.error e, a.recording (consulted a.node.writeProvider bytes access))
      | .ok () => (.ok (), ((valueChanged : Work Characteristic β Unit)
          { a.recording (consulted a.node.writeProvider bytes access) with
            node := a.node.written bytes access.offset }).2) := by
  rw [write, Work.node_bind, permission, consulted]
  cases checkOffset access.offset with
  | error e => exact congrArg (Prod.mk _) a.recording_nil.symm
  | ok =>
      simp only [stateM_bind, vet_run]
      cases verdict a.node.writeProvider "characteristic write" bytes access with
      | error e => rfl
      | ok => rfl

theorem write_records {bytes : Bytes} {access : AccessOptions}
    (permitted : permission a.node.writeProvider "characteristic write" bytes access = .ok ()) :
    let done := (write bytes access : Work Characteristic β (Except GattError Unit)) a
    done.1 = .ok () ∧ Records a done.2 (a.node.written bytes access.offset)
      (consulted a.node.writeProvider bytes access ++ (a.node.written bytes access.offset).telling) := by
  rw [write_run, permitted]
  have stored := (Records.recording a (consulted a.node.writeProvider bytes access)).trans
    (.modify _ (a.node.written bytes access.offset))
  have told := stored.trans (valueChanged_records _)
  rw [List.append_nil] at told
  exact ⟨rfl, told⟩

end Stores

end Characteristic
end GattPeripheral
