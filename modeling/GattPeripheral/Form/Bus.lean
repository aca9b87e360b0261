import GattPeripheral.Bus.Memory
import GattPeripheral.Form.Failure
import GattPeripheral.Form.Property

/-!
JSON forms of what a host works with: its options, helper programs, and a daemon arranged in memory.
-/

namespace GattPeripheral

instance : OfJson PropertyKey where
  ofJson j := do return ⟨← j.get "path", ← j.get "iface", ← j.get "name"⟩

instance : ToJson ManagerCall where
  toJson c :=
    .object [("interface", .string c.interface), ("member", .string c.member),
      ("path", toJson c.path)]

def Change.items (c : Change) : List Json :=
  [toJson c.path, .string c.interface, toJson c.changed]

namespace MemoryBus

/-- What the bus holds and has seen; `isAlive` says which of the exported nodes are alive. -/
def report (isAlive : NodeRef → Bool) (b : MemoryBus) : Json :=
  .object
    [("exported", .array (b.exported.toList.map fun e =>
       .array [toJson e.1, .string e.2.kind.label, .string e.2.kind.interface, .bool (isAlive e.2),
         .bool (b.isExported e.1)])),
     ("calls", .array (b.calls.map fun c => .array [.string c.member, toJson c.path])),
     ("emitted", .array (b.emitted.map fun c => .array c.items)),
     ("subscriptions", toJson b.subscriptions.length)]

/-- Arranges the daemon as a document lists it: its properties, its objects, its replies and the
properties that it refuses. -/
def ofForm (j : Json) : Formed MemoryBus := do
  let mut b := empty
  for entry in (← j.getD "remote" [] : List Json) do
    b := b.putProperty (← ofJson entry) (← entry.get "value")
  for entry in (← j.getD "managed" [] : List Json) do
    b := b.addManaged (← entry.get "path") (← entry.get "iface") (← entry.getD "props" .empty)
  for reply in (← j.getD "responses" [] : List (Option BusError)) do
    b := b.pushReply (outcomeOf reply)
  for name in (← j.getD "fail_properties" [] : List String) do
    b := b.refuseProperty name
  return b

end MemoryBus

namespace RegistrationOptions

/-- Options that a document leaves out are the standard ones. -/
def ofForm (j : Json) : Formed RegistrationOptions := do
  return { timeout := .ofMillis (← j.getD "timeout_ms" standard.timeout.millis)
           unregisterTimeout :=
             .ofMillis (← j.getD "unregister_timeout_ms" standard.unregisterTimeout.millis)
           retryDelay := .ofMillis (← j.getD "retry_delay_ms" standard.retryDelay.millis)
           enableFallbacks := ← j.getD "enable_fallbacks" standard.enableFallbacks }

end RegistrationOptions

/-- A program ends with an exit code, or by a signal that is named. -/
instance : OfJson Ending where
  ofJson
    | .string "TERM" => .ok (.signal 15 "SIGTERM")
    | .string "KILL" => .ok (.signal 9 "SIGKILL")
    | j => (ofJson j).map .exit

instance : ToJson Invocation where
  toJson run :=
    .object [("args", .string (String.intercalate " " run.arguments)), ("input", .string run.input)]

end GattPeripheral
