import GattPeripheral.Form.Access
import GattPeripheral.Host
import GattPeripheral.Tree.Snapshot

/-!
Records of the nodes of an attribute tree.
-/

namespace GattPeripheral

def Service.report (s : Service) : List (String × Json) :=
  [("path", toJson s.path), ("uuid", toJson s.identifier), ("primary", toJson s.primary),
   ("published", toJson s.published), ("chars", toJson (s.characteristics.map Characteristic.path))]

variable {β : Type}

def Characteristic.report (h : Host β) (s : Service) (c : Characteristic) : List (String × Json) :=
  [("path", toJson c.path), ("uuid", toJson c.identifier), ("service_path", toJson c.servicePath),
   ("service_alive", toJson (h.isAlive (.service s.key))),
   ("flag_bits", toJson c.flags.bits.toNat), ("flags", toJson c.flags.names),
   ("permission_bits", toJson c.permissions.bits.toNat), ("value", toJson c.value),
   ("notifying", toJson c.notifying), ("published", toJson c.published),
   ("descs", toJson (c.descriptors.map Descriptor.path))]

/-- A descriptor of the characteristic at a position, with whether that one is alive. -/
def Descriptor.report (h : Host β) (s : Service) (position : Nat) (d : Descriptor) :
    List (String × Json) :=
  [("path", toJson d.path), ("uuid", toJson d.identifier), ("char_path", toJson d.characteristicPath),
   ("char_alive", toJson (h.isAlive (.characteristic s.key position))),
   ("flags", toJson d.permissions.names), ("permission_bits", toJson d.permissions.bits.toNat),
   ("value", toJson d.value), ("cccd", toJson d.isClientConfiguration),
   ("published", toJson d.published)]

namespace Host

def descriptorReports (h : Host β) (s : Service) (position : Nat) (c : Characteristic) : List Json :=
  c.descriptors.map fun d => .object (d.report h s position)

def characteristicTrees (h : Host β) (s : Service) : List Json :=
  s.characteristics.zipIdx.map fun (c, position) =>
    .object (c.report h s ++ [("tree", .array (h.descriptorReports s position c))])

def serviceTrees (h : Host β) : List Json :=
  h.application.services.map fun s =>
    .object (s.report ++ [("tree", .array (h.characteristicTrees s))])

/-- The record of one node of the tree; `none` if it is not there. -/
def nodeReport? (h : Host β) : NodeRef → Option Json
  | .service key => (h.application.service? key).map fun s => .object s.report
  | .characteristic key position => do
      let s ← h.application.service? key
      let c ← h.application.characteristic? key position
      return .object (c.report h s)
  | .descriptor key position index => do
      let s ← h.application.service? key
      let d ← h.application.descriptor? key position index
      return .object (d.report h s position)
  | .application | .advertisement _ => none

end Host
end GattPeripheral
