import GattPeripheral.Wire.Link

/-!
Buses with a daemon that is arranged in memory: the bus in memory is its own daemon, and a link has one
at its far end, where the property changes that were sent arrive.
-/

namespace GattPeripheral

class Arranged (β : Type) extends Transport β where
  daemon : β → MemoryBus
  arrange : (MemoryBus → MemoryBus) → β → β
  /-- The property changes that arrived at a far end. -/
  arrived : β → List Change
  clearArrived : β → β

instance : Arranged MemoryBus where
  daemon b := b
  arrange f b := f b
  arrived _ := []
  clearArrived b := b

instance : Arranged Wire.Link where
  daemon l := l.daemon
  arrange f l := { l with daemon := f l.daemon }
  arrived l := l.arrived
  clearArrived l := { l with arrived := [] }

end GattPeripheral
