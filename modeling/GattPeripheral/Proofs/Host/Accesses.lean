import GattPeripheral.Proofs.Host.Freezing
import GattPeripheral.Proofs.Tree.Recording

/-!
# Writes that are refused

A write is refused beyond the longest value, by its provider, or because it would have a characteristic
notify that cannot. `Host.writeAttribute_cases` divides these from the writes that are done. Main statement:
`Host.writes_all_or_nothing`.
-/

namespace GattPeripheral

structure Attribute where
  value : Bytes
  readProvider : Option ReadProvider
  writeProvider : Option WriteProvider
  isClientConfiguration : Bool

def Characteristic.attribute (c : Characteristic) : Attribute := ⟨c.value, c.readProvider, c.writeProvider, false⟩

def Descriptor.attribute (d : Descriptor) : Attribute :=
  ⟨d.value, d.readProvider, d.writeProvider, d.isClientConfiguration⟩

def Attribute.Refuses (x : Attribute) (bytes : Bytes) (access : AccessOptions) : Prop :=
  ∃ p, x.writeProvider = some p ∧ p.reply bytes access ≠ .answer ()

variable {β : Type}

namespace Host

def attribute? (h : Host β) : NodeRef → Option Attribute
  | .characteristic key position => (h.application.characteristic? key position).map Characteristic.attribute
  | .descriptor key position index => (h.application.descriptor? key position index).map Descriptor.attribute
  | _ => none

theorem attributeValue?_eq (h : Host β) (node : NodeRef) :
    h.attributeValue? node = (h.attribute? node).map Attribute.value := by
  cases node with
  | characteristic key position =>
      rw [attribute?, Option.map_map]
      rfl
  | descriptor key position index =>
      rw [attribute?, Option.map_map]
      rfl
  | _ => rfl

def recording (events : List Event) (h : Host β) : Host β := { h with channel := h.channel.recording events }

theorem recording_nil (h : Host β) : h.recording [] = h := by rw [recording, Channel.recording_nil]

def IsMute (h : Host β) : NodeRef → Prop
  | .descriptor key position _ => h.isAlive (.characteristic key position) = true ∧
      ∃ c, h.application.characteristic? key position = some c ∧ c.flags.contains .notify = false ∧
        c.flags.contains .indicate = false
  | _ => False

def Overtaxes (h : Host β) (node : NodeRef) (x : Attribute) (next : Bytes) : Prop :=
  x.isClientConfiguration = true ∧ h.IsMute node ∧ next.Subscribes

theorem overtaxes_iff {h : Host β} {key position : Nat} {c : Characteristic}
    (found : h.application.characteristic? key position = some c) (index : Nat) (d : Descriptor) (next : Bytes) :
    h.Overtaxes (.descriptor key position index) d.attribute next ↔
      c.denies (h.owned key position) d next = true := by
  simp only [Overtaxes, IsMute, found, Option.some.injEq, exists_eq_left', ← Flags.notifies_eq_false_iff,
    Characteristic.denies, owned, Descriptor.attribute, ← Characteristic.wantsNotifications_iff, Bool.and_eq_true,
    Bool.not_eq_true']
  tauto

/-! ## Work on an attribute -/

section Work
variable {α : Type} {h : Host β} {key position : Nat} {c : Characteristic}

theorem onCharacteristic_found (found : h.application.characteristic? key position = some c)
    (work : Work Characteristic β α) : h.onCharacteristic key position work =
      (some (work ⟨c, h.channel⟩).1, { h with
        application := h.application.modifyCharacteristic key position fun _ => (work ⟨c, h.channel⟩).2.node
        channel := (work ⟨c, h.channel⟩).2.channel }) := by
  rw [onCharacteristic, found]
  rfl

theorem onCharacteristic_recording (placed : h.application.Placed)
    (found : h.application.characteristic? key position = some c) {work : Work Characteristic β α} {outcome : α}
    {events : List Event} (run : work ⟨c, h.channel⟩ = (outcome, Active.recording events ⟨c, h.channel⟩)) :
    h.onCharacteristic key position work = (some outcome, h.recording events) := by
  rw [onCharacteristic_found found, run]
  dsimp only [Active.recording]
  rw [placed.modifyCharacteristic_self found]
  rfl

theorem characteristic?_onCharacteristic (found : h.application.characteristic? key position = some c)
    (work : Work Characteristic β α) :
    (h.onCharacteristic key position work).2.application.characteristic? key position =
      some (work ⟨c, h.channel⟩).2.node := by
  rw [onCharacteristic_found found]
  exact Application.characteristic?_modifyCharacteristic found _

theorem attribute?_onCharacteristic (found : h.application.characteristic? key position = some c)
    (work : Work Characteristic β α) :
    (h.onCharacteristic key position work).2.attribute? (.characteristic key position) =
      some (work ⟨c, h.channel⟩).2.node.attribute := by
  rw [attribute?, characteristic?_onCharacteristic found, Option.map_some]

theorem attribute?_onCharacteristic_row (found : h.application.characteristic? key position = some c)
    (work : Work Characteristic β α) (index : Nat) :
    (h.onCharacteristic key position work).2.attribute? (.descriptor key position index) =
      (work ⟨c, h.channel⟩).2.node.descriptors[index]?.map Descriptor.attribute := by
  rw [attribute?, Application.descriptor?, characteristic?_onCharacteristic found, Option.bind_some]

theorem onCharacteristic_outcome (found : h.application.characteristic? key position = some c)
    {work : Work Characteristic β α} {outcome : α} (run : (work ⟨c, h.channel⟩).1 = outcome) :
    (h.onCharacteristic key position work).1 = some outcome := by
  rw [onCharacteristic_found found, run]

end Work

/-! ## Writes -/

section Writes
variable [Transport β]

/-- How a write ends: at an offset that does not exist, at the provider, at the characteristic that cannot
notify, or well. -/
def Ends (h : Host β) (node : NodeRef) (x : Attribute) (bytes : Bytes) (access : AccessOptions) : Prop :=
  let done := h.writeAttribute node bytes access
  let asked := h.recording (consultation x.writeProvider bytes access)
  let next := Bytes.writeAt x.value access.offset bytes
  maxAttributeLength < access.offset ∧ done = (some (.error (.invalidOffset access.offset)), h) ∨
    access.offset ≤ maxAttributeLength ∧
      (x.Refuses bytes access ∧ (∃ reason, done = (some (.error (.failed reason)), asked)) ∨
        ¬ x.Refuses bytes access ∧
          (h.Overtaxes node x next ∧ (∃ reason, done = (some (.error (.notSupported reason)), asked)) ∨
            ¬ h.Overtaxes node x next ∧ done.1 = some (.ok ())))

theorem not_refuses_iff {x : Attribute} {bytes : Bytes} {access : AccessOptions} :
    ¬ x.Refuses bytes access ↔ ∀ p, x.writeProvider = some p → p.reply bytes access = .answer () := by
  simp [Attribute.Refuses]

variable {h : Host β} {node : NodeRef} {x : Attribute}

section Placed
variable (placed : h.application.Placed)
include placed

theorem ends_of_refused {key position : Nat} {c : Characteristic}
    (found : h.application.characteristic? key position = some c) {work : Work Characteristic β (Except GattError Unit)}
    {bytes : Bytes} {access : AccessOptions}
    (does : h.writeAttribute node bytes access = h.onCharacteristic key position work)
    {what : String} {e : GattError} (refused : permission x.writeProvider what bytes access = .error e)
    (run : work ⟨c, h.channel⟩ = (.error e, Active.recording (consulted x.writeProvider bytes access) ⟨c, h.channel⟩)) :
    h.Ends node x bytes access := by
  have done := does.trans (onCharacteristic_recording placed found run)
  rcases permission_error refused with ⟨beyond, rfl⟩ | ⟨within, refuses, reason, rfl⟩
  · rw [consulted_beyond _ _ beyond, recording_nil] at done
    exact .inl ⟨beyond, done⟩
  · rw [consulted_within _ _ within] at done
    exact .inr ⟨within, .inl ⟨refuses, reason, done⟩⟩

theorem writeAttribute_cases (found : h.attribute? node = some x) (bytes : Bytes) (access : AccessOptions) :
    h.Ends node x bytes access := by
  cases node with
  | characteristic key position =>
      obtain ⟨c, here, rfl⟩ := Option.map_eq_some_iff.mp found
      have run := Characteristic.write_run ⟨c, h.channel⟩ bytes access
      cases permitted : permission c.writeProvider "characteristic write" bytes access with
      | error e =>
          rw [permitted] at run
          exact ends_of_refused placed here rfl permitted run
      | ok =>
          obtain ⟨within, answers⟩ := permission_eq_ok_iff.mp permitted
          have ok := (Characteristic.write_records ⟨c, h.channel⟩ permitted).1
          refine .inr ⟨within, .inr ⟨not_refuses_iff.mpr answers, .inr ⟨fun overtaxed => overtaxed.2.1, ?_⟩⟩⟩
          exact onCharacteristic_outcome here ok
  | descriptor key position index =>
      obtain ⟨d, there, rfl⟩ := Option.map_eq_some_iff.mp found
      obtain ⟨c, here, row⟩ := Option.bind_eq_some_iff.mp there
      have run := Characteristic.writeDescriptor_run ⟨c, h.channel⟩ (h.owned key position) row bytes access
      cases permitted : permission d.writeProvider "descriptor write" bytes access with
      | error e =>
          rw [permitted] at run
          exact ends_of_refused placed here rfl permitted run
      | ok =>
          obtain ⟨within, answers⟩ := permission_eq_ok_iff.mp permitted
          rw [permitted, consulted_within _ _ within] at run
          let next := Bytes.writeAt d.value access.offset bytes
          let asked : Active Characteristic β := .recording (consultation d.writeProvider bytes access) ⟨c, h.channel⟩
          refine .inr ⟨within, .inr ⟨not_refuses_iff.mpr answers, ?_⟩⟩
          rw [overtaxes_iff here]
          cases denied : c.denies (h.owned key position) d next with
          | true =>
              have refused := Characteristic.storeDescriptor_refused asked row bytes within denied
              exact .inl ⟨denied, _, onCharacteristic_recording placed here (run.trans refused)⟩
          | false =>
              have ok := Characteristic.storeDescriptor_run asked row bytes within denied
              refine .inr ⟨fun claimed => Bool.false_ne_true (denied.symm.trans claimed), onCharacteristic_outcome here ?_⟩
              exact congrArg Prod.fst (run.trans ok)
  | _ => cases found

end Placed

/-- Whatever is stored in a node and whatever its provider answers: a write fails if and only if its offset is
beyond the longest value, the provider does not let it pass, or it would have a characteristic notify that
cannot. An offset beyond is refused before anybody is asked, and what a provider refuses surfaces as such.
A write that fails leaves no more behind than that the provider was asked. -/
theorem writes_all_or_nothing (reached : h.Reached) (found : h.attribute? node = some x) (bytes : Bytes)
    (access : AccessOptions) :
    let done := h.writeAttribute node bytes access
    let next := Bytes.writeAt x.value access.offset bytes
    (done.1 = some (.ok ()) ∨ ∃ e, done.1 = some (.error e)) ∧
      ((∃ e, done.1 = some (.error e)) ↔
        maxAttributeLength < access.offset ∨ x.Refuses bytes access ∨ h.Overtaxes node x next) ∧
      (maxAttributeLength < access.offset → done.2 = h) ∧
      (access.offset ≤ maxAttributeLength → x.Refuses bytes access →
        ∃ reason, done.1 = some (.error (.failed reason))) ∧
      ∀ e, done.1 = some (.error e) → done.2 = h.recording (consulted x.writeProvider bytes access) := by
  intro done next
  rcases writeAttribute_cases reached.placed found bytes access with
    ⟨beyond, run⟩ | ⟨within, ⟨refuses, reason, run⟩ | ⟨lets, ⟨overtaxes, reason, run⟩ | ⟨spares, ok⟩⟩⟩
  · have run : done = _ := run
    rw [run, consulted_beyond _ _ beyond, recording_nil]
    exact ⟨.inr ⟨_, rfl⟩, iff_of_true ⟨_, rfl⟩ (.inl beyond), fun _ => rfl, fun within => by omega, fun _ _ => rfl⟩
  · have run : done = _ := run
    rw [run, consulted_within _ _ within]
    exact ⟨.inr ⟨_, rfl⟩, iff_of_true ⟨_, rfl⟩ (.inr (.inl refuses)), fun beyond => by omega,
      fun _ _ => ⟨reason, rfl⟩, fun _ _ => rfl⟩
  · have run : done = _ := run
    rw [run, consulted_within _ _ within]
    exact ⟨.inr ⟨_, rfl⟩, iff_of_true ⟨_, rfl⟩ (.inr (.inr overtaxes)), fun beyond => by omega,
      fun _ refuses => absurd refuses lets, fun _ _ => rfl⟩
  · have ok : done.1 = _ := ok
    rw [ok]
    refine ⟨.inl rfl, iff_of_false nofun ?_, fun beyond => by omega, fun _ refuses => absurd refuses lets, nofun⟩
    rintro (beyond | refuses | overtaxes)
    · omega
    · exact lets refuses
    · exact spares overtaxes

end Writes

def guarding : List (Action MemoryBus) :=
  [.edit (.service .batteryService true), .edit (.characteristic 0 .batteryLevel (.ofList [.read]) .empty),
    .edit (.descriptor 0 0 .clientConfiguration .readWrite),
    .access (.writeProvider (.characteristic 0 0) ⟨fun _ _ => .crash⟩)]

def guarded : Host MemoryBus := (new .empty .root .root .standard).through guarding

theorem writes_all_or_nothing_guarded :
    (guarded.writeAttribute (.descriptor 0 0 0) [1] (.atOffset 0)).2 = guarded ∧
      (∃ reason, (guarded.writeAttribute (.characteristic 0 0) [1] (.atOffset 0)).1 =
        some (.error (.failed reason))) ∧
      (guarded.writeAttribute (.characteristic 0 0) [1] (.atOffset 513)).2 = guarded := by
  have reached : guarded.Reached := ⟨_, _, _, _, guarding, rfl⟩
  have provided : guarded.attribute? (.characteristic 0 0) = some ⟨[], none, some ⟨fun _ _ => .crash⟩, false⟩ := rfl
  have unprovided : guarded.attribute? (.descriptor 0 0 0) = some ⟨[], none, none, true⟩ := rfl
  have configuration := writes_all_or_nothing reached unprovided [1] (.atOffset 0)
  have level := writes_all_or_nothing reached provided [1]
  refine ⟨?_, (level (.atOffset 0)).2.2.2.1 (by decide) ⟨_, rfl, nofun⟩, (level (.atOffset 513)).2.2.1 (by decide)⟩
  have mute : guarded.Overtaxes (.descriptor 0 0 0) ⟨[], none, none, true⟩ [1] :=
    ⟨rfl, ⟨by decide, _, rfl, rfl, rfl⟩, ⟨_, rfl, by decide⟩⟩
  obtain ⟨e, failed⟩ := configuration.2.1.mpr (.inr (.inr mute))
  exact configuration.2.2.2.2 e failed

end Host
end GattPeripheral
