import GattPeripheral.Host.Attribute
import GattPeripheral.Tree.Snapshot
import GattPeripheral.Wire.Link

/-!
What a client at the far end of a link can do with exported objects.

A path without an object, an object without the interface and an interface without the member fail
with an error name and no text. A node that is no longer alive answers in its own words.
-/

namespace GattPeripheral.Wire

structure RemoteError where
  name : String
  message : Option String
  deriving DecidableEq, Repr

namespace RemoteError

def unknown (name : String) : RemoteError := ⟨name, none⟩

/-- The reply for an error of the library, without a text that cannot be read. -/
def ofGatt (e : GattError) : RemoteError := ⟨e.remoteName, (some e.message).filter isReadable⟩

/-- A method of a node that no longer exists. -/
def methodGone (path : ObjectPath) : RemoteError := ⟨Names.doesNotExist, some path.text⟩

def propertyGone (path : ObjectPath) : RemoteError :=
  ⟨Names.unknownObject, some (path.text ++ " no longer exists")⟩

def applicationGone : RemoteError := ⟨Names.unknownObject, some "application dropped"⟩

end RemoteError

/-- The node that carries an interface at a path. -/
def resolve (l : Link) (path : ObjectPath) (interface : String) : Except RemoteError NodeRef :=
  match l.objects.get? path with
  | none => .error (.unknown Names.unknownObject)
  | some interfaces =>
      match interfaces.get? interface with
      | none => .error (.unknown Names.unknownInterface)
      | some node => .ok node

/-! Properties -/

def serviceProperties (s : Service) : PropertyMap :=
  .ofList [(Names.uuid, .str s.identifier.dashed), (Names.primary, .bool s.primary),
    (Names.characteristics, .paths (s.characteristics.map Characteristic.path))]

def characteristicProperties (c : Characteristic) : PropertyMap :=
  .ofList [(Names.uuid, .str c.identifier.dashed), (Names.serviceProperty, .path c.servicePath),
    (Names.value, .bytes c.value), (Names.notifying, .bool c.notifying),
    (Names.flags, .strs c.flags.names),
    (Names.descriptors, .paths (c.descriptors.map Descriptor.path))]

def descriptorProperties (d : Descriptor) : PropertyMap :=
  .ofList [(Names.uuid, .str d.identifier.dashed),
    (Names.characteristicProperty, .path d.characteristicPath), (Names.value, .bytes d.value),
    (Names.flags, .strs d.permissions.names)]

/-- Every field is present; one that is not set has the value that stands for it. -/
def advertisementProperties (a : Advertisement) : PropertyMap :=
  let d := a.data
  .ofList [("Type", .str d.kind.name),
    ("ServiceUUIDs", .strs (d.serviceUuids.map Identifier.dashed)),
    ("SolicitUUIDs", .strs (d.solicitUuids.map Identifier.dashed)),
    ("ManufacturerData", .u16Bytes d.manufacturerData),
    ("ServiceData", .strBytes (.ofList (d.serviceData.toList.map fun e => (e.1.dashed, e.2)))),
    ("Includes", .strs d.includes),
    ("LocalName", .str (d.localName.getD "")),
    ("Appearance", .u16 (d.appearance.getD AdvertisementData.appearanceUnset)),
    ("Duration", .u16 (d.duration.getD 0)),
    ("Timeout", .u16 (d.timeout.getD 0)),
    ("TxPower", .i16 (d.txPower.getD AdvertisementData.noPowerPreference)),
    (Names.discoverable, .bool d.discoverable)]

def propertyNames : ObjectKind → List String
  | .application => []
  | .service => [Names.uuid, Names.primary, Names.characteristics]
  | .characteristic =>
      [Names.uuid, Names.serviceProperty, Names.value, Names.notifying, Names.flags,
        Names.descriptors]
  | .descriptor => [Names.uuid, Names.characteristicProperty, Names.value, Names.flags]
  | .advertisement =>
      ["Type", "ServiceUUIDs", "SolicitUUIDs", "ManufacturerData", "ServiceData", "Includes",
        "LocalName", "Appearance", "Duration", "Timeout", "TxPower", Names.discoverable]

/-- The properties of a node, alive or not. -/
def nodeProperties (h : Host Link) : NodeRef → Option PropertyMap
  | .application => none
  | .service key => (h.application.service? key).map serviceProperties
  | .characteristic key position =>
      (h.application.characteristic? key position).map characteristicProperties
  | .descriptor key position index =>
      (h.application.descriptor? key position index).map descriptorProperties
  | .advertisement key => (h.advertisements[key]?).map advertisementProperties

def liveProperties? (h : Host Link) (node : NodeRef) : Option PropertyMap :=
  if h.isAlive node then nodeProperties h node else none

/-- The answer to a client, who has to be able to read it. -/
def reply {α : Type} (texts : List String) (answer : α) : Except RemoteError α :=
  if texts.all isReadable then .ok answer else .error (.unknown Names.unreadable)

def getRemote (path : ObjectPath) (kind : ObjectKind) (name : String) (h : Host Link) :
    Except RemoteError Property := do
  let node ← resolve h.channel.bus path kind.interface
  if (propertyNames kind).contains name then
    match (liveProperties? h node).bind (·.get? name) with
    | some value => reply (Value.ofProperty value).texts value
    | none => .error (.propertyGone path)
  else .error (.unknown Names.unknownProperty)

/-- All properties of an object; those of a node that no longer exists are left out. -/
def getAllRemote (path : ObjectPath) (kind : ObjectKind) (h : Host Link) :
    Except RemoteError PropertyMap := do
  let node ← resolve h.channel.bus path kind.interface
  let properties := (liveProperties? h node).getD .empty
  reply (textsIn (encodeMap properties)) properties

/-- No property can be written. -/
def setRemote (path : ObjectPath) (kind : ObjectKind) (h : Host Link) : Except RemoteError Unit := do
  let _ ← resolve h.channel.bus path kind.interface
  .error (.unknown Names.unknownProperty)

def managedRemote (path : ObjectPath) (h : Host Link) : Except RemoteError ManagedObjects := do
  let node ← resolve h.channel.bus path Names.objectManager
  if h.isAlive node then return h.application.managedObjects else .error .applicationGone

/-! Methods -/

/-- Nodes of these kinds hold a value. -/
def holdsValue (kind : ObjectKind) : Bool := kind = .characteristic || kind = .descriptor

/-- Calls a method on the living node at a path. Nodes that hold no value have no such method, and the
options have to be readable, whether the node is alive or not. -/
def onLive {α : Type} (path : ObjectPath) (kind : ObjectKind) (options : ValueMap)
    (act : NodeRef → Host Link → Option (Except GattError α) × Host Link) (h : Host Link) :
    Except RemoteError α × Host Link :=
  match resolve h.channel.bus path kind.interface with
  | .error e => (.error e, h)
  | .ok node =>
      if !holdsValue kind then (.error (.unknown Names.unknownMethod), h)
      else if !(textsIn options).all isReadable then
        (.error (.unknown Names.unreadable), h)
      else if h.isAlive node then
        match act node h with
        | (some (.ok a), h) => (.ok a, h)
        | (some (.error e), h) => (.error (.ofGatt e), h)
        | (none, h) => (.error (.unknown Names.unknownMethod), h)
      else (.error (.methodGone path), h)

def readRemote (path : ObjectPath) (kind : ObjectKind) (options : ValueMap) :
    Host Link → Except RemoteError Bytes × Host Link :=
  onLive path kind options fun node => Host.readAttribute node (accessOptions options)

def writeRemote (path : ObjectPath) (kind : ObjectKind) (bytes : Bytes) (options : ValueMap) :
    Host Link → Except RemoteError Unit × Host Link :=
  onLive path kind options fun node => Host.writeAttribute node bytes (accessOptions options)

def needsArguments (kind : ObjectKind) (member : String) : Bool :=
  holdsValue kind && (member == "ReadValue" || member == "WriteValue")

/-- Calls a method without arguments. Releasing an advertisement that no longer exists succeeds. -/
def callRemote (path : ObjectPath) (kind : ObjectKind) (member : String) (h : Host Link) :
    Except RemoteError Unit × Host Link :=
  match resolve h.channel.bus path kind.interface with
  | .error e => (.error e, h)
  | .ok node =>
      match kind, member with
      | .characteristic, "StartNotify" => onLive path kind .empty (Host.setNotifying · true) h
      | .characteristic, "StopNotify" => onLive path kind .empty (Host.setNotifying · false) h
      | .advertisement, "Release" =>
          match node with
          | .advertisement key =>
              if h.isAlive node then
                (.ok (),
                  { h with advertisements := h.advertisements.modify key Advertisement.release })
              else (.ok (), h)
          | _ => (.ok (), h)
      | _, _ =>
          if needsArguments kind member then (.error (.unknown Names.unreadable), h)
          else (.error (.unknown Names.unknownMethod), h)

def deliverRemote (signal : Signal) (h : Host Link) : Host Link :=
  match signal.decode? with
  | none => h
  | some signal => (h.deliver signal).2

end GattPeripheral.Wire
