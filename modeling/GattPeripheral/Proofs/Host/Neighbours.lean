import GattPeripheral.Proofs.Host.Signals

/-!
# Accesses and their neighbours

Reading, writing and notifying at one node spare all other nodes: they keep their values and flags. Only a
store in the client configuration of a characteristic that is alive may switch that characteristic.
Nodes are told apart by what they are and not by their paths, which later nodes may take over. Main
statement: `Host.neighbours_spared`.
-/

namespace GattPeripheral

variable {β α : Type}

def Host.notifying? (h : Host β) : NodeRef → Option Bool
  | .characteristic key position => (h.application.characteristic? key position).map Characteristic.notifying
  | _ => none

def Host.Configures (h : Host β) (node : NodeRef) (key position : Nat) : Prop :=
  ∃ index d, node = .descriptor key position index ∧ h.application.descriptor? key position index = some d ∧
    d.isClientConfiguration = true ∧ h.isAlive (.characteristic key position) = true

/-- Every node but one keeps its value and flag. That one may have switched the characteristic whose client
configuration it is. -/
structure Host.Spares (node : NodeRef) (h h' : Host β) : Prop where
  values : ∀ other, other ≠ node → h'.attributeValue? other = h.attributeValue? other
  flags : ∀ other, other ≠ node → h'.notifying? other = h.notifying? other ∨
    ∃ key position, other = .characteristic key position ∧ h.Configures node key position

theorem Application.characteristic?_modifyCharacteristic_cases (a : Application) (key position : Nat)
    (f : Characteristic → Characteristic) (k p : Nat) :
    (a.modifyCharacteristic key position f).characteristic? k p = a.characteristic? k p ∨ k = key ∧ p = position ∧
      ∃ c, a.characteristic? k p = some c ∧
        (a.modifyCharacteristic key position f).characteristic? k p = some (f c) := by
  by_cases place : k = key ∧ p = position
  · obtain ⟨rfl, rfl⟩ := place
    rw [a.characteristic?_modifyCharacteristic_self k p f]
    cases found : a.characteristic? k p with
    | none => exact .inl rfl
    | some c => exact .inr ⟨rfl, rfl, c, rfl, rfl⟩
  · exact .inl (a.characteristic?_modifyCharacteristic_of_ne place f)

namespace Host.Spares

variable {node : NodeRef} {h h' : Host β} {key position : Nat} {c d : Characteristic}

theorem of_same (same : h'.application = h.application) : h.Spares node h' := by
  have values : ∀ other, h'.attributeValue? other = h.attributeValue? other := by
    intro other
    cases other <;> simp [attributeValue?, same]
  have flags : ∀ other, h'.notifying? other = h.notifying? other := by
    intro other
    cases other <;> simp [notifying?, same]
  exact ⟨fun other _ => values other, fun other _ => .inl (flags other)⟩

theorem of_modified {f : Characteristic → Characteristic}
    (same : h'.application = h.application.modifyCharacteristic key position f)
    (value : ∀ c, h.application.characteristic? key position = some c → node ≠ .characteristic key position →
      (f c).value = c.value)
    (flag : ∀ c, h.application.characteristic? key position = some c → node ≠ .characteristic key position →
      (f c).notifying = c.notifying ∨ h.Configures node key position)
    (rows : ∀ c, h.application.characteristic? key position = some c → ∀ i, node ≠ .descriptor key position i →
      ((f c).descriptors[i]?).map Descriptor.value = (c.descriptors[i]?).map Descriptor.value) : h.Spares node h' := by
  have cases (k p : Nat) := h.application.characteristic?_modifyCharacteristic_cases key position f k p
  constructor
  · intro other different
    cases other with
    | characteristic k p =>
        rw [attributeValue?, attributeValue?, same]
        rcases cases k p with unchanged | ⟨rfl, rfl, c, found, now⟩
        · rw [unchanged]
        · rw [found, now]
          exact congrArg some (value c found different.symm)
    | descriptor k p i =>
        rw [attributeValue?, attributeValue?, Application.descriptor?, Application.descriptor?, same]
        rcases cases k p with unchanged | ⟨rfl, rfl, c, found, now⟩
        · rw [unchanged]
        · rw [found, now]
          exact rows c found i different.symm
    | _ => rfl
  · intro other different
    cases other with
    | characteristic k p =>
        rw [notifying?, notifying?, same]
        rcases cases k p with unchanged | ⟨rfl, rfl, c, found, now⟩
        · exact .inl (by rw [unchanged])
        · rw [found, now]
          exact (flag c found different.symm).imp (congrArg some) fun configures => ⟨k, p, rfl, configures⟩
    | _ => exact .inl rfl

variable {work : Work Characteristic β α}

theorem application_onCharacteristic (found : h.application.characteristic? key position = some c) :
    (h.onCharacteristic key position work).2.application =
      h.application.modifyCharacteristic key position fun _ => (work ⟨c, h.channel⟩).2.node := by
  rw [h.onCharacteristic_found found]

theorem onCharacteristic (leaves : ∀ c, h.application.characteristic? key position = some c →
      ∃ d changes, Leaves ⟨c, h.channel⟩ (work ⟨c, h.channel⟩).2 d changes ∧ d.descriptors = c.descriptors) :
    h.Spares (.characteristic key position) (h.onCharacteristic key position work).2 := by
  cases found : h.application.characteristic? key position with
  | none =>
      rw [Host.onCharacteristic, found]
      exact of_same rfl
  | some c =>
      refine of_modified (application_onCharacteristic found) (fun _ _ other => absurd rfl other)
        (fun _ _ other => absurd rfl other) fun e same i _ => ?_
      obtain rfl := Option.some.inj (found.symm.trans same)
      obtain ⟨d, changes, left, rows⟩ := leaves c found
      rw [left.node, rows]

theorem onDescriptor {index : Nat} (settles : ∀ c, h.application.characteristic? key position = some c →
      Settles (c.configures index && h.owned key position) index ⟨c, h.channel⟩ (work ⟨c, h.channel⟩).2) :
    h.Spares (.descriptor key position index) (h.onCharacteristic key position work).2 := by
  cases found : h.application.characteristic? key position with
  | none =>
      rw [Host.onCharacteristic, found]
      exact of_same rfl
  | some c =>
      obtain ⟨notifying, value, kept, leaves⟩ := settles c found
      refine of_modified (application_onCharacteristic found) (fun d same _ => ?_) (fun d same _ => ?_)
        fun d same i different => ?_
      all_goals
        obtain rfl := Option.some.inj (found.symm.trans same)
        rw [leaves.node]
      · rfl
      · cases switching : c.configures index && h.owned key position with
        | false => exact .inl (kept switching)
        | true =>
            obtain ⟨configures, alive⟩ := Bool.and_eq_true_iff.mp switching
            obtain ⟨d, row, isConfiguration⟩ := (Option.any_eq_true _ _).mp configures
            refine .inr ⟨index, d, rfl, ?_, isConfiguration, alive⟩
            rw [Application.descriptor?, found]
            exact row
      · have elsewhere : i ≠ index := fun same => different (same ▸ rfl)
        rw [Characteristic.settle_elsewhere _ elsewhere]

theorem editAttribute {onC : Characteristic → Characteristic} {onD : Descriptor → Descriptor}
    (rows : ∀ c, (onC c).descriptors = c.descriptors) : h.Spares node (h.editAttribute node onC onD) := by
  cases node with
  | characteristic key position =>
      refine of_modified rfl (fun _ _ other => absurd rfl other) (fun _ _ other => absurd rfl other) fun c _ i _ => ?_
      rw [rows c]
  | descriptor key position index =>
      refine of_modified rfl (fun _ _ _ => rfl) (fun _ _ _ => .inl rfl) fun c _ i different => ?_
      have elsewhere : index ≠ i := fun same => different (same ▸ rfl)
      rw [List.getElem?_modify_ne _ _ elsewhere]
  | _ => exact of_same rfl

end Host.Spares

variable [Transport β]

def Host.CalmAt (h : Host β) (node : NodeRef) : Prop :=
  ∀ key position c, node.within key position = true → h.application.characteristic? key position = some c →
    c.isPassive = true

open Characteristic in
theorem Access.spares {h : Host β} (placed : h.application.Placed) (access : Access) (calm : h.CalmAt access.node) :
    h.Spares access.node (access.apply h) := by
  have apart {key position c} (found : h.application.characteristic? key position = some c) :=
    (placed.characteristic found).apart
  cases access with
  | read node options =>
      cases node with
      | characteristic key position =>
          exact .onCharacteristic fun c _ => ⟨c, _, read_leaves ⟨c, h.channel⟩ options, rfl⟩
      | descriptor key position index =>
          exact .onDescriptor fun c _ => .of_flips (.idle (readDescriptor_leaves ⟨c, h.channel⟩ index options))
      | _ => exact .of_same rfl
  | write node bytes options =>
      cases node with
      | characteristic key position =>
          refine .onCharacteristic fun c _ => ?_
          rcases write_leaves ⟨c, h.channel⟩ bytes options with ⟨-, leaves⟩ | ⟨-, value, leaves⟩
          · exact ⟨c, _, leaves, rfl⟩
          · exact ⟨_, _, leaves, rfl⟩
      | descriptor key position index =>
          exact .onDescriptor fun c found => writeDescriptor_settles (a := ⟨c, h.channel⟩)
            (calm key position c (by simp [Access.node, NodeRef.within]) found) (apart found) _ index bytes options
      | _ => exact .of_same rfl
  | set node bytes =>
      cases node with
      | characteristic key position =>
          exact .onCharacteristic fun c _ => ⟨_, _, setValue_leaves ⟨c, h.channel⟩ bytes, rfl⟩
      | descriptor key position index =>
          exact .onDescriptor fun c found => storeDescriptor_settles (a := ⟨c, h.channel⟩)
            (calm key position c (by simp [Access.node, NodeRef.within]) found) (apart found) _ index bytes 0
      | _ => exact .of_same rfl
  | notify node notifying =>
      cases node with
      | characteristic key position =>
          refine .onCharacteristic fun c found => ?_
          have passive := calm key position c (by simp [Access.node, NodeRef.within]) found
          cases notifying with
          | true =>
              obtain ⟨_, -, leaves⟩ := startNotify_flips (a := ⟨c, h.channel⟩) passive
              exact ⟨_, _, leaves, rfl⟩
          | false =>
              obtain ⟨_, -, leaves⟩ := stopNotify_flips (a := ⟨c, h.channel⟩) passive
              exact ⟨_, _, leaves, rfl⟩
      | _ => exact .of_same rfl
  | readProvider node provider => exact .editAttribute fun _ => rfl
  | writeProvider node provider => exact .editAttribute fun _ => rfl
  | observe node observer => exact .editAttribute fun _ => rfl

/-! ## Descriptors without their characteristic -/

namespace Characteristic

variable {a : Active Characteristic β} {position : Nat} {d : Descriptor}
  (found : a.node.descriptors[position]? = some d)
include found

theorem storeDescriptor_orphan {offset : Nat} (within : offset ≤ maxAttributeLength) (bytes : Bytes) :
    let done := (storeDescriptor false position bytes offset : Work Characteristic β (Except GattError Unit)) a
    done.1 = .ok () ∧ done.2.node = a.node.settle position (Bytes.writeAt d.value offset bytes) := by
  obtain ⟨ok, records⟩ := storeDescriptor_idle a false found bytes within (Bool.and_false _)
  exact ⟨ok, records.node⟩

theorem writeDescriptor_orphan {bytes : Bytes} {options : AccessOptions}
    (ok : ((writeDescriptor false position bytes options : Work Characteristic β (Except GattError Unit)) a).1 = .ok ()) :
    ((writeDescriptor false position bytes options : Work Characteristic β (Except GattError Unit)) a).2.node =
      a.node.settle position (Bytes.writeAt d.value options.offset bytes) := by
  rw [writeDescriptor_run a false found] at ok ⊢
  cases permitted : permission d.writeProvider "descriptor write" bytes options with
  | error e =>
      rw [permitted] at ok
      cases ok
  | ok => exact (storeDescriptor_orphan (a := a.recording _) found (permission_eq_ok_iff.mp permitted).1 bytes).2

end Characteristic

structure Host.Stores (h : Host β) (node : NodeRef) (d : Descriptor) : Prop where
  set : ∀ bytes, (h.setAttribute node bytes).1 = some (.ok ()) ∧
    (h.setAttribute node bytes).2.attributeValue? node = some bytes
  write : ∀ bytes options, (h.writeAttribute node bytes options).1 = some (.ok ()) →
    (h.writeAttribute node bytes options).2.attributeValue? node = some (Bytes.writeAt d.value options.offset bytes)

namespace Host

variable {h : Host β} {key position index : Nat} {d : Descriptor}

omit [Transport β] in
theorem attributeValue?_settled {c : Characteristic} {work : Work Characteristic β α} {value : Bytes}
    (found : h.application.characteristic? key position = some c) (row : c.descriptors[index]? = some d)
    (settled : (work ⟨c, h.channel⟩).2.node = c.settle index value) :
    (h.onCharacteristic key position work).2.attributeValue? (.descriptor key position index) = some value := by
  rw [attributeValue?, Application.descriptor?, Spares.application_onCharacteristic found,
    Application.characteristic?_modifyCharacteristic found, settled, Option.bind_some, Characteristic.settle_here row]
  rfl

theorem stores_of_orphan (found : h.application.descriptor? key position index = some d)
    (gone : h.isAlive (.characteristic key position) = false) : h.Stores (.descriptor key position index) d := by
  obtain ⟨c, owner, row⟩ := Option.bind_eq_some_iff.mp found
  have unowned : h.owned key position = false := gone
  constructor
  · intro bytes
    obtain ⟨ok, settled⟩ := Characteristic.storeDescriptor_orphan (a := ⟨c, h.channel⟩) row (Nat.zero_le _) bytes
    rw [setAttribute, onAttribute, unowned]
    refine ⟨?_, attributeValue?_settled owner row settled⟩
    rw [onCharacteristic_found owner]
    exact congrArg some ok
  · intro bytes options ok
    rw [writeAttribute, onAttribute, unowned] at ok ⊢
    refine attributeValue?_settled owner row ?_
    rw [onCharacteristic_found owner] at ok
    exact Characteristic.writeDescriptor_orphan (a := ⟨c, h.channel⟩) row (Option.some.inj ok)

/-- Whatever happened to an application before, accesses spare all nodes but their own, except that the client
configuration of a characteristic that is alive may switch it. A descriptor whose characteristic is gone
keeps what is stored in it, and no node is switched. -/
theorem neighbours_spared (reached : h.Reached) (access : Access) (calm : h.CalmAt access.node) :
    h.Spares access.node (access.apply h) ∧
      ∀ key position index d, h.application.descriptor? key position index = some d →
        h.isAlive (.characteristic key position) = false → h.Stores (.descriptor key position index) d :=
  ⟨access.spares reached.placed calm, fun _ _ _ _ found gone => stores_of_orphan found gone⟩

def replacing : List (Action MemoryBus) :=
  [.edit (.service .batteryService true), .edit (.characteristic 0 .batteryLevel (.ofList [.read, .notify]) .empty),
    .edit (.descriptor 0 0 .clientConfiguration .readWrite), .hold (.descriptor 0 0 0), .edit (.remove .batteryService),
    .edit (.service .batteryService true), .edit (.characteristic 1 .batteryLevel (.ofList [.read, .notify]) .empty)]

def replaced : Host MemoryBus := (new .empty .root .root .standard).through replacing

theorem neighbours_spared_replaced : replaced.path? (.characteristic 1 0) = replaced.path? (.characteristic 0 0) ∧
    (replaced.setAttribute (.descriptor 0 0 0) [1]).1 = some (.ok ()) ∧
      (replaced.setAttribute (.descriptor 0 0 0) [1]).2.attributeValue? (.descriptor 0 0 0) = some [1] ∧
      (replaced.setAttribute (.descriptor 0 0 0) [1]).2.notifying? (.characteristic 1 0) = some false := by
  have reached : replaced.Reached := ⟨_, _, _, _, replacing, rfl⟩
  have calm : replaced.CalmAt (.descriptor 0 0 0) := by
    intro key position c within found
    obtain ⟨rfl, rfl⟩ : 0 = key ∧ 0 = position := by simpa [NodeRef.within] using within
    obtain rfl := Option.some.inj found
    rfl
  obtain ⟨spares, stores⟩ := neighbours_spared reached (.set (.descriptor 0 0 0) [1]) calm
  obtain ⟨ok, kept⟩ := (stores 0 0 0 _ rfl rfl).set [1]
  refine ⟨by decide, ok, kept, ?_⟩
  rcases spares.flags (.characteristic 1 0) (by decide) with same | ⟨key, position, here, index, d, there, -⟩
  · exact same
  · cases here
    cases there

end Host
end GattPeripheral
