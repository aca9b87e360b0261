import GattPeripheral.Proofs.Tree.Served
import GattPeripheral.Tree.Values

/-!
# Reading, writing and notifying leave the shape alone

`Harmless` work on a characteristic keeps its outline, and every observation of the channel that is blind
to property changes; what a bus in memory holds is such an observation. All work on values is harmless,
whatever providers and observers answer.
-/

namespace GattPeripheral

variable {β γ : Type}

/-- An observation in which neither property changes nor calls to application code show. -/
structure Channel.Blind [Transport β] (view : Channel β → γ) : Prop where
  emit : ∀ path interface changed c, view (Channel.emit path interface changed c).2 = view c
  record : ∀ event c, event.exportedPath? = none → view (Channel.record event c).2 = view c

theorem Channel.blind_unit [Transport β] : Channel.Blind fun _ : Channel β => () :=
  ⟨fun _ _ _ _ => rfl, fun _ _ _ => rfl⟩

def Channel.exports (c : Channel MemoryBus) : ExportTable × List ObjectPath := (c.bus.exported, c.everExported)

theorem Channel.Quiet.of_exports {c d : Channel MemoryBus} (same : d.exports = c.exports) : c.Quiet d :=
  ⟨congrArg Prod.fst same, congrArg Prod.snd same⟩

theorem Channel.blind_exports : Channel.Blind Channel.exports where
  emit path interface changed c := by
    have silent : ∀ e ∈ [Event.emitted path interface changed], e.exportedPath? = none := by
      simp [Event.exportedPath?]
    exact congrArg (Prod.mk c.bus.exported) (everExported_silent c (c.bus.emit path interface changed) silent)
  record event c silent := by
    have silent : ∀ e ∈ [event], e.exportedPath? = none := by simpa using silent
    exact congrArg (Prod.mk c.bus.exported) (everExported_silent c c.bus silent)

def Work.Harmless {α : Type} (view : Channel β → γ) (work : Work Characteristic β α) : Prop :=
  ∀ a : Active Characteristic β,
    (work a).2.node.outline = a.node.outline ∧ view (work a).2.channel = view a.channel

namespace Work.Harmless

variable {α δ : Type} {view : Channel β → γ}

theorem bind {work : Work Characteristic β α} {later : α → Work Characteristic β δ}
    (first : work.Harmless view) (second : ∀ r, (later r).Harmless view) : (work >>= later).Harmless view := by
  intro a
  obtain ⟨node, channel⟩ := first a
  obtain ⟨node', channel'⟩ := second (work a).1 (work a).2
  exact ⟨node'.trans node, channel'.trans channel⟩

theorem pure (r : α) : (Pure.pure r : Work Characteristic β α).Harmless view := fun _ => ⟨rfl, rfl⟩

theorem node : (Work.node : Work Characteristic β Characteristic).Harmless view := fun _ => ⟨rfl, rfl⟩

theorem modifyNode {f : Characteristic → Characteristic} (same : ∀ c, (f c).outline = c.outline) :
    (Work.modifyNode f : Work Characteristic β Unit).Harmless view := fun a => ⟨same a.node, rfl⟩

variable [Transport β] (blind : Channel.Blind view)
include blind

theorem record {event : Event} (silent : event.exportedPath? = none) :
    (Work.onChannel (Channel.record event) : Work Characteristic β Unit).Harmless view :=
  fun a => ⟨rfl, blind.record event a.channel silent⟩

theorem emitOne (path : ObjectPath) (kind : ObjectKind) (name : String) (value : Property) :
    (Work.onChannel (GattPeripheral.emitOne path kind name value) : Work Characteristic β Unit).Harmless view :=
  fun a => ⟨rfl, blind.emit path kind.interface (.single name value) a.channel⟩

end Work.Harmless

namespace Characteristic

open Work (Harmless)

theorem outline_modify (c : Characteristic) (position : Nat) {f : Descriptor → Descriptor}
    (same : ∀ d, (f d).outline = d.outline) :
    ({ c with descriptors := c.descriptors.modify position f } : Characteristic).outline = c.outline := by
  simp only [outline, map_modify_same fun d _ => same d]

variable [Transport β] {view : Channel β → γ} (blind : Channel.Blind view)
include blind

theorem emit_harmless (name : String) (value : Property) :
    Harmless view (emit name value : Work Characteristic β Unit) := by
  refine .bind .node fun c => ?_
  split
  · exact .emitOne blind _ _ _ _
  · exact .pure _

theorem valueChanged_harmless : Harmless view (valueChanged : Work Characteristic β Unit) := by
  refine .bind .node fun c => ?_
  split
  · exact emit_harmless blind _ _
  · exact .pure _

theorem setValue_harmless (bytes : Bytes) : Harmless view (setValue bytes : Work Characteristic β Unit) :=
  .bind (.modifyNode fun _ => rfl) fun _ => valueChanged_harmless blind

theorem announce_harmless (notifying : Bool) :
    Harmless view (announce notifying : Work Characteristic β Unit) := by
  refine .bind (.modifyNode fun _ => rfl) fun _ => .bind (emit_harmless blind _ _) fun _ => .bind .node fun c => ?_
  split
  · exact .record blind rfl
  · exact .pure _

theorem reactToStop_harmless : Harmless view (reactToStop : Work Characteristic β Unit) := by
  refine .bind .node fun c => ?_
  split
  · exact setValue_harmless blind _
  · exact .pure _

theorem stopNotify_harmless : Harmless view (stopNotify : Work Characteristic β Unit) := by
  refine .bind .node fun c => ?_
  split
  · exact .bind (announce_harmless blind false) fun _ => reactToStop_harmless blind
  · exact .pure _

theorem reactToStart_harmless : Harmless view (reactToStart : Work Characteristic β Unit) := by
  refine .bind .node fun c => ?_
  split
  · exact setValue_harmless blind _
  · exact stopNotify_harmless blind
  · exact .pure _

theorem startNotify_harmless :
    Harmless view (startNotify : Work Characteristic β (Except GattError Unit)) := by
  refine .bind .node fun c => ?_
  split
  · split
    · exact .bind (announce_harmless blind true) fun _ => .bind (reactToStart_harmless blind) fun _ => .pure _
    · exact .pure _
  · exact .pure _

theorem read_harmless (options : AccessOptions) :
    Harmless view (read options : Work Characteristic β (Except GattError Bytes)) := by
  refine .bind .node fun c => ?_
  split
  · exact .pure _
  · exact .bind (.record blind rfl) fun _ => .pure _

theorem vet_harmless (provider : Option WriteProvider) (what : String) (bytes : Bytes)
    (options : AccessOptions) :
    Harmless view (vet provider what bytes options : Work Characteristic β (Except GattError Unit)) := by
  unfold vet
  split
  · exact .pure _
  · exact .bind (.record blind rfl) fun _ => .pure _

theorem write_harmless (bytes : Bytes) (options : AccessOptions) :
    Harmless view (write bytes options : Work Characteristic β (Except GattError Unit)) := by
  refine .bind .node fun c => ?_
  split
  · exact .pure _
  · refine .bind (vet_harmless blind _ _ _ _) fun verdict => ?_
    split
    · exact .pure _
    · exact .bind (.modifyNode fun _ => rfl) fun _ => .bind (valueChanged_harmless blind) fun _ => .pure _

theorem configure_harmless (value : Bytes) :
    Harmless view (configure value : Work Characteristic β (Except GattError Unit)) := by
  unfold configure
  split
  · exact startNotify_harmless blind
  · exact .bind (stopNotify_harmless blind) fun _ => .pure _

theorem prepareStore_harmless (owned : Bool) (d : Descriptor) (next : Bytes) :
    Harmless view (prepareStore owned d next : Work Characteristic β (Except GattError Unit)) := by
  unfold prepareStore
  split
  · exact configure_harmless blind next
  · exact .pure _

theorem commit_harmless (position : Nat) (d : Descriptor) (next : Bytes) (offset : Nat) :
    Harmless view (commit position d next offset : Work Characteristic β Unit) := by
  refine .bind (.modifyNode fun c => c.outline_modify position fun _ => rfl) fun _ => ?_
  split
  · exact .emitOne blind _ _ _ _
  · exact .pure _

theorem storeDescriptor_harmless (owned : Bool) (position : Nat) (bytes : Bytes) (offset : Nat) :
    Harmless view (storeDescriptor owned position bytes offset :
      Work Characteristic β (Except GattError Unit)) := by
  refine .bind .node fun c => ?_
  split
  · exact .pure _
  · split
    · exact .pure _
    · refine .bind (prepareStore_harmless blind _ _ _) fun ready => ?_
      split
      · exact .pure _
      · exact .bind (commit_harmless blind _ _ _ _) fun _ => .pure _

theorem readDescriptor_harmless (position : Nat) (options : AccessOptions) :
    Harmless view (readDescriptor position options : Work Characteristic β (Except GattError Bytes)) := by
  refine .bind .node fun c => ?_
  split
  · exact .pure _
  · split
    · exact .pure _
    · exact .bind (.record blind rfl) fun _ => .pure _

theorem writeDescriptor_harmless (owned : Bool) (position : Nat) (bytes : Bytes) (options : AccessOptions) :
    Harmless view (writeDescriptor owned position bytes options :
      Work Characteristic β (Except GattError Unit)) := by
  refine .bind .node fun c => ?_
  split
  · exact .pure _
  · split
    · exact .pure _
    · refine .bind (vet_harmless blind _ _ _ _) fun verdict => ?_
      split
      · exact .pure _
      · exact storeDescriptor_harmless blind _ _ _ _

end Characteristic

/-! ## Within the application -/

namespace Application

variable {a : Application} {key position : Nat}

theorem outline_modifyService {f : Service → Service}
    (same : ∀ s ∈ a.allServices, s.key = key → (f s).outline = s.outline) :
    (a.modifyService key f).outline = a.outline := by
  have each : ∀ s ∈ a.allServices, (if s.key = key then f s else s).outline = s.outline := by
    intro s member
    split
    next hit => exact same s member hit
    next => rfl
  simp only [outline, modifyService, List.map_map]
  congr 1
  · exact List.map_congr_left fun s member => each s (List.mem_append_left _ member)
  · exact List.map_congr_left fun s member => each s (List.mem_append_right _ member)

theorem outline_modifyCharacteristic {f : Characteristic → Characteristic}
    (same : ∀ s ∈ a.allServices, s.key = key → ∀ c, s.characteristics[position]? = some c →
      (f c).outline = c.outline) : (a.modifyCharacteristic key position f).outline = a.outline := by
  refine outline_modifyService fun s member hit => ?_
  simp only [Service.outline, map_modify_same (same s member hit)]

theorem Placed.outline_replace (placed : a.Placed) {c d : Characteristic}
    (found : a.characteristic? key position = some c) (same : d.outline = c.outline) :
    (a.modifyCharacteristic key position fun _ => d).outline = a.outline := by
  obtain ⟨s, service, row⟩ := characteristic?_some found
  obtain ⟨inside, hasKey⟩ := service?_some service
  refine outline_modifyCharacteristic fun t member hit e here => ?_
  obtain rfl := placed.eq_of_key member inside (hit.trans hasKey.symm)
  rw [row] at here
  cases here
  exact same

end Application
end GattPeripheral
