import GattPeripheral.Proofs.Host.Accesses
import GattPeripheral.Proofs.Offsets

/-!
# Values longer than one access

A client writes a long value chunk after chunk and reads it reply after reply. `Host.Holds` is a plain
attribute with its value, `Holds.write` and `Holds.read` say what one access does to it, `Holds.writeLong` and
`Holds.readsLong` what a whole sequence does. Main statement: `Host.reassembles`.
-/

namespace GattPeripheral

/-- A value that no provider stands in front of, and that configures nothing. -/
def Attribute.plain (value : Bytes) : Attribute := ⟨value, none, none, false⟩

variable {β : Type} [Transport β]

namespace Host

/-- Writes each chunk behind the ones before it, the first one at `start`; `none` if one is refused. -/
def writeLong (node : NodeRef) (access : AccessOptions) : Nat → List Bytes → Host β → Option (Host β)
  | _, [], h => some h
  | start, chunk :: chunks, h =>
      match h.writeAttribute node chunk { access with offset := start } with
      | (some (.ok ()), h') => writeLong node access (start + chunk.length) chunks h'
      | _ => none

/-- Reads on from `start` until there is nothing left, and keeps `m` octets of each reply. -/
inductive ReadsLong (node : NodeRef) (access : AccessOptions) (m : Nat) : Nat → Host β → Bytes → Host β → Prop
  | last {start : Nat} {h h' : Host β}
      (nothing : h.readAttribute node { access with offset := start } = (some (.ok []), h')) :
      ReadsLong node access m start h [] h'
  | more {start : Nat} {h h' h'' : Host β} {reply rest : Bytes}
      (some : h.readAttribute node { access with offset := start } = (some (.ok reply), h')) (nonempty : reply ≠ [])
      (later : ReadsLong node access m (start + m) h' rest h'') :
      ReadsLong node access m start h (reply.take m ++ rest) h''

structure Holds (h : Host β) (node : NodeRef) (value : Bytes) : Prop where
  placed : h.application.Placed
  found : h.attribute? node = some (.plain value)

namespace Holds

omit [Transport β] in
theorem value {h : Host β} {node : NodeRef} {value : Bytes} (holds : h.Holds node value) :
    h.attributeValue? node = some value := by
  rw [attributeValue?_eq, holds.found]
  rfl

variable {h : Host β} {node : NodeRef} {value : Bytes} (holds : h.Holds node value)
include holds

omit [Transport β] in
theorem read (access : AccessOptions) :
    h.readAttribute node access = (some (.ok (value.drop access.offset)), h) := by
  obtain ⟨placed, found⟩ := holds
  cases node with
  | characteristic key position =>
      obtain ⟨c, here, same⟩ := Option.map_eq_some_iff.mp found
      injection same with stored unprovided
      have run : (Characteristic.read access : Work Characteristic β _) ⟨c, h.channel⟩ =
          (.ok (value.drop access.offset), Active.recording [] ⟨c, h.channel⟩) := by
        rw [Active.recording_nil, Characteristic.read, Work.node_bind]
        simp only [unprovided, stored]
        rfl
      have done := onCharacteristic_recording placed here run
      rwa [recording_nil] at done
  | descriptor key position index =>
      obtain ⟨d, there, same⟩ := Option.map_eq_some_iff.mp found
      obtain ⟨c, here, row⟩ := Option.bind_eq_some_iff.mp there
      injection same with stored unprovided
      have run : (Characteristic.readDescriptor index access : Work Characteristic β _) ⟨c, h.channel⟩ =
          (.ok (value.drop access.offset), Active.recording [] ⟨c, h.channel⟩) := by
        rw [Active.recording_nil, Characteristic.readDescriptor, Work.node_bind]
        simp only [row, unprovided, stored]
        rfl
      have done := onCharacteristic_recording placed here run
      rwa [recording_nil] at done
  | _ => cases found

theorem write (bytes : Bytes) (access : AccessOptions) (within : access.offset ≤ maxAttributeLength) :
    ∃ h', h.writeAttribute node bytes access = (some (.ok ()), h') ∧
      h'.Holds node (Bytes.writeAt value access.offset bytes) := by
  obtain ⟨placed, found⟩ := holds
  have stays := (Action.placed placed (.access (.write node bytes access))).1
  cases node with
  | characteristic key position =>
      obtain ⟨c, here, same⟩ := Option.map_eq_some_iff.mp found
      injection same with stored unread unprovided
      have permitted : permission c.writeProvider "characteristic write" bytes access = .ok () :=
        permission_eq_ok_iff.mpr ⟨within, by simp [unprovided]⟩
      obtain ⟨ok, records⟩ := Characteristic.write_records ⟨c, h.channel⟩ permitted
      refine ⟨_, Prod.ext (onCharacteristic_outcome here ok) rfl, stays, ?_⟩
      refine (attribute?_onCharacteristic here _).trans ?_
      rw [records.node, Characteristic.attribute, Characteristic.written, unread, unprovided, stored]
      rfl
  | descriptor key position index =>
      obtain ⟨d, there, same⟩ := Option.map_eq_some_iff.mp found
      obtain ⟨c, here, row⟩ := Option.bind_eq_some_iff.mp there
      injection same with stored unread unprovided other
      have permitted : permission d.writeProvider "descriptor write" bytes access = .ok () :=
        permission_eq_ok_iff.mpr ⟨within, by simp [unprovided]⟩
      have run := Characteristic.writeDescriptor_run ⟨c, h.channel⟩ (h.owned key position) row bytes access
      rw [permitted] at run
      have idle : (d.isClientConfiguration && h.owned key position) = false := by rw [other, Bool.false_and]
      obtain ⟨ok, records⟩ := Characteristic.storeDescriptor_idle
        (.recording (consulted d.writeProvider bytes access) ⟨c, h.channel⟩) (h.owned key position) row bytes within idle
      refine ⟨_, Prod.ext (onCharacteristic_outcome here ((congrArg Prod.fst run).trans ok)) rfl, stays, ?_⟩
      refine (attribute?_onCharacteristic_row here
        (Characteristic.writeDescriptor (h.owned key position) index bytes access) index).trans ?_
      rw [run, records.node]
      refine (congrArg (Option.map Descriptor.attribute) (Characteristic.settle_here row _)).trans ?_
      rw [Option.map_some, Descriptor.attribute, unread, unprovided, stored]
      exact congrArg (fun configures => some (Attribute.mk _ _ _ configures)) other
  | _ => cases found

/-! ## Long accesses -/

theorem writeLong_behind (access : AccessOptions) (chunks : List Bytes)
    (within : ∀ i < chunks.length, value.length + (chunks.take i).flatten.length ≤ maxAttributeLength) :
    ∃ h', h.writeLong node access value.length chunks = some h' ∧ h'.Holds node (value ++ chunks.flatten) := by
  -- What is held grows by each chunk, so that the next one starts at its end again.
  induction chunks generalizing h value with
  | nil => exact ⟨h, rfl, by rwa [List.flatten_nil, List.append_nil]⟩
  | cons chunk chunks ih =>
      have start : value.length ≤ maxAttributeLength := by simpa using within 0 (by simp)
      obtain ⟨h', run, now⟩ := holds.write chunk { access with offset := value.length } start
      rw [Bytes.writeAt_end] at now
      obtain ⟨last, later, ends⟩ := ih now fun i inside => by
        have next := within (i + 1) (by simpa using inside)
        rw [List.take_succ_cons, List.flatten_cons, List.length_append] at next
        rw [List.length_append]
        omega
      refine ⟨last, ?_, ?_⟩
      · rw [writeLong, run, ← List.length_append]
        exact later
      · rwa [List.flatten_cons, ← List.append_assoc]

theorem writeLong (access : AccessOptions) {chunks : List Bytes} (some : chunks ≠ [])
    (within : ∀ i < chunks.length, (chunks.take i).flatten.length ≤ maxAttributeLength) :
    ∃ h', h.writeLong node access 0 chunks = Option.some h' ∧ h'.Holds node chunks.flatten := by
  obtain ⟨chunk, chunks, rfl⟩ := List.exists_cons_of_ne_nil some
  obtain ⟨h', run, now⟩ := holds.write chunk { access with offset := 0 } (Nat.zero_le _)
  rw [Bytes.writeAt_zero] at now
  obtain ⟨last, later, ends⟩ := now.writeLong_behind access chunks fun i inside => by
    simpa using within (i + 1) (by simpa using inside)
  refine ⟨last, ?_, ends⟩
  rw [Host.writeLong, run, Nat.zero_add]
  exact later

omit [Transport β] in
theorem of_readsLong {access : AccessOptions} {m start : Nat} {r : Bytes} {h' : Host β}
    (reads : h.ReadsLong node access m start r h') : r = value.drop start ∧ h' = h := by
  induction reads with
  | last nothing =>
      obtain ⟨reply, rfl⟩ := Prod.mk.inj ((holds.read _).symm.trans nothing)
      exact ⟨(Except.ok.inj (Option.some.inj reply)).symm, rfl⟩
  | more some nonempty later ih =>
      obtain ⟨reply, rfl⟩ := Prod.mk.inj ((holds.read _).symm.trans some)
      obtain rfl := Except.ok.inj (Option.some.inj reply)
      obtain ⟨rfl, rfl⟩ := ih holds
      rw [← List.drop_drop, List.take_append_drop]
      exact ⟨rfl, rfl⟩

omit [Transport β] in
theorem readsLong (access : AccessOptions) {m : Nat} (positive : 1 ≤ m) (start : Nat) :
    h.ReadsLong node access m start (value.drop start) h := by
  have reply := holds.read { access with offset := start }
  rcases Nat.lt_or_ge start value.length with inside | past
  · have nonempty : value.drop start ≠ [] := by simpa using inside
    have rest := readsLong access positive (start + m)
    have all := ReadsLong.more reply nonempty rest
    rwa [← List.drop_drop, List.take_append_drop] at all
  · rw [List.drop_eq_nil_of_le past] at reply ⊢
    exact .last reply
termination_by value.length - start

end Holds

/-- A plain attribute at any place of the tree, and any value in it. A write replaces the value or is laid over
it, and a read gives the value from an offset on. So a long write leaves what its chunks make up together, and
a long read gives what is there. -/
theorem reassembles {h : Host β} {node : NodeRef} {value : Bytes} (reached : h.Reached)
    (found : h.attribute? node = some (.plain value)) (access : AccessOptions) :
    h.readAttribute node access = (some (.ok (value.drop access.offset)), h) ∧
      (∀ bytes, access.offset ≤ maxAttributeLength → ∃ h' result,
        h.writeAttribute node bytes access = (some (.ok ()), h') ∧ h'.attributeValue? node = some result ∧
          (access.offset = 0 → result = bytes) ∧
          (0 < access.offset → Bytes.Overlaid value bytes access.offset result)) ∧
      (∀ chunks : List Bytes, chunks ≠ [] →
        (∀ i < chunks.length, (chunks.take i).flatten.length ≤ maxAttributeLength) →
          ∃ h', h.writeLong node access 0 chunks = some h' ∧ h'.attributeValue? node = some chunks.flatten) ∧
      ∀ m, 1 ≤ m → ∀ r h', h.ReadsLong node access m 0 r h' ↔ r = value ∧ h' = h := by
  have holds : h.Holds node value := ⟨reached.placed, found⟩
  refine ⟨holds.read access, fun bytes within => ?_, fun chunks some within => ?_, fun m positive r h' => ⟨?_, ?_⟩⟩
  · obtain ⟨h', run, now⟩ := holds.write bytes access within
    refine ⟨h', _, run, now.value, fun start => ?_, fun behind => Bytes.overlaid_writeAt behind value bytes⟩
    rw [start, Bytes.writeAt_zero]
  · obtain ⟨h', run, now⟩ := holds.writeLong access some within
    exact ⟨h', run, now.value⟩
  · exact holds.of_readsLong
  · rintro ⟨rfl, rfl⟩
    exact holds.readsLong access positive 0

def chunkwise : List (Action MemoryBus) :=
  [.access (.write (.characteristic 0 0) [1, 2] (.atOffset 0)), .access (.write (.characteristic 0 0) [] (.atOffset 2)),
    .access (.write (.characteristic 0 0) [3] (.atOffset 2))]

theorem reassembles_furnished :
    let written := furnished.through chunkwise
    furnished.writeLong (.characteristic 0 0) (.atOffset 0) 0 [[1, 2], [], [3]] = some written ∧
      written.attributeValue? (.characteristic 0 0) = some [1, 2, 3] ∧
      written.ReadsLong (.characteristic 0 0) (.atOffset 0) 2 0 [1, 2, 3] written := by
  intro written
  have before : furnished.Reached := ⟨_, _, _, _, furnishing, rfl⟩
  have after : written.Reached := ⟨_, _, _, _, furnishing ++ chunkwise, rfl⟩
  have empty : furnished.attribute? (.characteristic 0 0) = some (.plain []) := rfl
  have filled : written.attribute? (.characteristic 0 0) = some (.plain [1, 2, 3]) := rfl
  obtain ⟨-, -, writes, -⟩ := reassembles before empty (.atOffset 0)
  obtain ⟨-, -, -, reads⟩ := reassembles after filled (.atOffset 0)
  obtain ⟨h', run, value⟩ := writes [[1, 2], [], [3]] (by decide) (by decide)
  have same : furnished.writeLong (.characteristic 0 0) (.atOffset 0) 0 [[1, 2], [], [3]] = some written := rfl
  obtain rfl : h' = written := Option.some.inj (run.symm.trans same)
  exact ⟨same, value, (reads 2 (by decide) [1, 2, 3] written).mpr ⟨rfl, rfl⟩⟩

end Host
end GattPeripheral
