import GattPeripheral.Host.Attribute
import GattPeripheral.Proofs.Host.Requests
import GattPeripheral.Proofs.Tree.Values

/-!
# Accesses to values

Reading, writing and notifying, and changing the callbacks behind an attribute. `Access.valued`: none of
it changes the outline of the tree, exports anything or touches the other parts of the host, on any bus.
-/

namespace GattPeripheral

inductive Access where
  | read (node : NodeRef) (options : AccessOptions)
  | write (node : NodeRef) (bytes : Bytes) (options : AccessOptions)
  | set (node : NodeRef) (bytes : Bytes)
  | notify (node : NodeRef) (notifying : Bool)
  | readProvider (node : NodeRef) (provider : ReadProvider)
  | writeProvider (node : NodeRef) (provider : WriteProvider)
  | observe (node : NodeRef) (observer : Observer)

def Access.apply {β : Type} [Transport β] (access : Access) (h : Host β) : Host β :=
  match access with
  | read node options => (h.readAttribute node options).2
  | write node bytes options => (h.writeAttribute node bytes options).2
  | set node bytes => (h.setAttribute node bytes).2
  | notify node notifying => (h.setNotifying node notifying).2
  | readProvider node provider => h.setReadProvider node provider
  | writeProvider node provider => h.setWriteProvider node provider
  | observe node observer => h.setObserver node observer

variable {β γ : Type}

structure Host.Valued (view : Channel β → γ) (h h' : Host β) : Prop where
  outline : h'.application.outline = h.application.outline
  channel : view h'.channel = view h.channel
  advertisements : h'.advertisements = h.advertisements
  tracker : h'.tracker = h.tracker
  peripheral : h'.peripheral = h.peripheral
  adapter : h'.adapter = h.adapter
  options : h'.options = h.options

namespace Host.Valued

theorem quiet {h h' : Host MemoryBus} (valued : h.Valued Channel.exports h') : h.channel.Quiet h'.channel :=
  .of_exports valued.channel

variable {α : Type} {view : Channel β → γ} {h : Host β}

theorem refl (view : Channel β → γ) (h : Host β) : h.Valued view h := ⟨rfl, rfl, rfl, rfl, rfl, rfl, rfl⟩

theorem onCharacteristic (placed : h.application.Placed) {key position : Nat}
    {work : Work Characteristic β α} (harmless : work.Harmless view) :
    h.Valued view (h.onCharacteristic key position work).2 := by
  unfold Host.onCharacteristic
  cases found : h.application.characteristic? key position with
  | none => exact .refl view h
  | some c =>
      obtain ⟨outline, channel⟩ := harmless ⟨c, h.channel⟩
      exact ⟨placed.outline_replace found outline, channel, rfl, rfl, rfl, rfl, rfl⟩

theorem onAttribute (placed : h.application.Placed) {node : NodeRef} {onC : Work Characteristic β α}
    {onD : Bool → Nat → Work Characteristic β α} (left : onC.Harmless view)
    (right : ∀ owned index, (onD owned index).Harmless view) :
    h.Valued view (h.onAttribute node onC onD).2 := by
  cases node with
  | characteristic key position => exact onCharacteristic placed left
  | descriptor key position index => exact onCharacteristic placed (right _ _)
  | application => exact .refl view h
  | service key => exact .refl view h
  | advertisement key => exact .refl view h

theorem editAttribute {node : NodeRef} {onC : Characteristic → Characteristic} {onD : Descriptor → Descriptor}
    (left : ∀ c, (onC c).outline = c.outline) (right : ∀ d, (onD d).outline = d.outline) :
    h.Valued view (h.editAttribute node onC onD) := by
  cases node with
  | characteristic key position =>
      exact ⟨Application.outline_modifyCharacteristic fun _ _ _ c _ => left c, rfl, rfl, rfl, rfl, rfl, rfl⟩
  | descriptor key position index =>
      exact ⟨Application.outline_modifyCharacteristic fun _ _ _ c _ => c.outline_modify index right,
        rfl, rfl, rfl, rfl, rfl, rfl⟩
  | application => exact .refl view h
  | service key => exact .refl view h
  | advertisement key => exact .refl view h

end Host.Valued

open Characteristic in
theorem Access.valued [Transport β] {view : Channel β → γ} (blind : Channel.Blind view) {h : Host β}
    (placed : h.application.Placed) (access : Access) : h.Valued view (access.apply h) := by
  cases access with
  | read node options =>
      exact .onAttribute placed (read_harmless blind _) fun _ _ => readDescriptor_harmless blind _ _
  | write node bytes options =>
      exact .onAttribute placed (write_harmless blind _ _) fun _ _ => writeDescriptor_harmless blind _ _ _ _
  | set node bytes =>
      exact .onAttribute placed (.bind (setValue_harmless blind _) fun _ => .pure _) fun _ _ =>
        storeDescriptor_harmless blind _ _ _ _
  | notify node notifying =>
      cases node with
      | characteristic key position =>
          cases notifying with
          | true => exact .onCharacteristic placed (startNotify_harmless blind)
          | false => exact .onCharacteristic placed (.bind (stopNotify_harmless blind) fun _ => .pure _)
      | application => exact .refl view h
      | service key => exact .refl view h
      | descriptor key position index => exact .refl view h
      | advertisement key => exact .refl view h
  | readProvider node provider => exact .editAttribute (fun _ => rfl) fun _ => rfl
  | writeProvider node provider => exact .editAttribute (fun _ => rfl) fun _ => rfl
  | observe node observer => exact .editAttribute (fun _ => rfl) fun _ => rfl

end GattPeripheral
