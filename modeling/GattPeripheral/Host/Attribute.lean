import GattPeripheral.Host

/-!
Characteristics and descriptors under one roof: nodes that hold a value to read and to write.
-/

namespace GattPeripheral.Host

variable {β α : Type} [Transport β]

/-- Works on an attribute; `none` if the node is no attribute or is not there. Work on a descriptor is
told whether its characteristic is alive. -/
def onAttribute (node : NodeRef) (onCharacteristic : Work Characteristic β α)
    (onDescriptor : Bool → Nat → Work Characteristic β α) (h : Host β) : Option α × Host β :=
  match node with
  | .characteristic key position => h.onCharacteristic key position onCharacteristic
  | .descriptor key position index =>
      h.onCharacteristic key position (onDescriptor (h.owned key position) index)
  | _ => (none, h)

def readAttribute (node : NodeRef) (options : AccessOptions) :
    Host β → Option (Except GattError Bytes) × Host β :=
  onAttribute node (Characteristic.read options) fun _ index =>
    Characteristic.readDescriptor index options

def writeAttribute (node : NodeRef) (bytes : Bytes) (options : AccessOptions) :
    Host β → Option (Except GattError Unit) × Host β :=
  onAttribute node (Characteristic.write bytes options) fun owned index =>
    Characteristic.writeDescriptor owned index bytes options

/-- Replaces the value without asking a provider. -/
def setAttribute (node : NodeRef) (bytes : Bytes) :
    Host β → Option (Except GattError Unit) × Host β :=
  onAttribute node (do Characteristic.setValue bytes; return .ok ()) fun owned index =>
    Characteristic.setDescriptorValue owned index bytes

def setNotifying (node : NodeRef) (notifying : Bool) (h : Host β) :
    Option (Except GattError Unit) × Host β :=
  match node with
  | .characteristic key position =>
      h.onCharacteristic key position
        (if notifying then Characteristic.startNotify
          else do
            Characteristic.stopNotify
            return .ok ())
  | _ => (none, h)

def attributeValue? (h : Host β) : NodeRef → Option Bytes
  | .characteristic key position =>
      (h.application.characteristic? key position).map Characteristic.value
  | .descriptor key position index =>
      (h.application.descriptor? key position index).map Descriptor.value
  | _ => none

/-- Changes the shape of an attribute, for instance the providers behind it. -/
def editAttribute (node : NodeRef) (onCharacteristic : Characteristic → Characteristic)
    (onDescriptor : Descriptor → Descriptor) (h : Host β) : Host β :=
  match node with
  | .characteristic key position =>
      { h with application := h.application.modifyCharacteristic key position onCharacteristic }
  | .descriptor key position index =>
      { h with application := h.application.modifyDescriptor key position index onDescriptor }
  | _ => h

def setReadProvider (node : NodeRef) (provider : ReadProvider) : Host β → Host β :=
  editAttribute node (fun c => { c with readProvider := some provider })
    fun d => { d with readProvider := some provider }

def setWriteProvider (node : NodeRef) (provider : WriteProvider) : Host β → Host β :=
  editAttribute node (fun c => { c with writeProvider := some provider })
    fun d => { d with writeProvider := some provider }

/-- Only characteristics are observed. -/
def setObserver (node : NodeRef) (observer : Observer) : Host β → Host β :=
  editAttribute node (fun c => { c with observer := some observer }) id

def path? (h : Host β) : NodeRef → Option ObjectPath
  | .application => some h.application.path
  | .service key => (h.application.service? key).map Service.path
  | .characteristic key position =>
      (h.application.characteristic? key position).map Characteristic.path
  | .descriptor key position index =>
      (h.application.descriptor? key position index).map Descriptor.path
  | .advertisement key => h.advertisements[key]?.map Advertisement.path

end GattPeripheral.Host
