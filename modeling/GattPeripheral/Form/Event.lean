import GattPeripheral.Bus.Event
import GattPeripheral.Form.Access
import GattPeripheral.Form.Failure
import GattPeripheral.Form.Signal

/-!
JSON forms of events: a list of the kind of event and what belongs to it, and behind them the kind of
failure of a request that failed.
-/

namespace GattPeripheral

def failureItem : Option BusError → List Json
  | none => []
  | some e => [.object [("failed", .string e.kind)]]

def Notice.items : Notice → List Json
  | connected address path => [.string "connected", .string address, toJson path]
  | disconnected address path => [.string "disconnected", .string address, toJson path]
  | property path interface name value =>
      [.string "property", toJson path, .string interface, .string name, toJson value]

def Event.items : Event → List Json
  | exported path kind failure =>
      [.string "export", toJson path, .string kind.label] ++ failureItem failure
  | unexported path kind failure =>
      [.string "unexport", toJson path, .string kind.label] ++ failureItem failure
  | called adapter call timeout =>
      [.string "call", toJson adapter, .string call.interface, .string call.member,
       toJson call.path, toJson timeout.millis]
  | received adapter call =>
      [.string "daemon", toJson adapter, .string call.interface, .string call.member,
       toJson call.path] ++ (call.options?.map toJson).toList
  | callFailed failure => [.string "call_failed", .string failure.kind]
  | gotProperty path interface name failure =>
      [.string "get", toJson path, .string interface, .string name] ++ failureItem failure
  | setProperty path interface name value failure =>
      [.string "set", toJson path, .string interface, .string name, toJson value] ++
        failureItem failure
  | listedObjects failure => .string "managed_objects" :: failureItem failure
  | subscribed rule failure => [.string "subscribe", .string rule.text] ++ failureItem failure
  | unsubscribed id failure => [.string "unsubscribe", toJson id] ++ failureItem failure
  | emitted path interface changed =>
      [.string "emit", toJson path, .string interface, toJson changed]
  | noticed notice => notice.items
  | readProvider options => [.string "read_provider", toJson options]
  | writeProvider bytes options => [.string "write_provider", toJson bytes, toJson options]
  | observer identifier notifying => [.string "notify", toJson identifier, toJson notifying]
  | fallback name => [.string "fallback", .string name]

instance : ToJson Event := ⟨fun e => .array e.items⟩

end GattPeripheral
