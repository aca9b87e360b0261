import GattPeripheral.Advertising.Data
import GattPeripheral.Bus.Channel

/-!
An advertisement: its payload, where it stands, and the steps tried when the daemon refuses it.
-/

namespace GattPeripheral

/-- A way to get the radio to advertise without the daemon's manager. -/
inductive FallbackStep where
  | controllerMenu
  | legacyAdvertise (device : String)
  | discoverable (adapter : ObjectPath)
  /-- A step that the application supplies, with its outcome. -/
  | supplied (name : String) (outcome : Except GattError Unit)

def FallbackStep.name : FallbackStep → String
  | controllerMenu => "bluetoothctl"
  | legacyAdvertise _ => "hciconfig"
  | discoverable _ => "adapter-discoverable"
  | supplied name _ => name

def FallbackStep.defaultChain (adapter : ObjectPath) : List FallbackStep :=
  [controllerMenu, legacyAdvertise adapter.name, discoverable adapter]

/-- How advertising came to be enabled. -/
inductive AdvertisingMode where
  | registered
  | fallback (step : String)
  deriving DecidableEq, Repr

def AdvertisingMode.text : AdvertisingMode → String
  | registered => "registered with BlueZ"
  | fallback step => "fallback (" ++ step ++ ")"

def AdvertisingMode.shown : AdvertisingMode → String
  | registered => "Registered"
  | fallback step => Text.shownCall "Fallback" [Text.quoted step]

structure Advertisement where
  path : ObjectPath
  data : AdvertisementData
  registered : Bool
  published : Bool
  fallbacks : List FallbackStep

namespace Advertisement

def new (path : ObjectPath) (data : AdvertisementData) : Advertisement where
  path := path
  data := data
  registered := false
  published := false
  fallbacks := []

/-- Changes the payload, which is fixed while the advertisement is registered. -/
def configure (edit : AdvertisementData → AdvertisementData) (a : Advertisement) :
    Except GattError Unit × Advertisement :=
  if a.registered then
    (.error (.invalidState "advertisement can only be changed while unregistered"), a)
  else (.ok (), { a with data := edit a.data })

/-- The daemon dropped the advertisement on its side. -/
def release (a : Advertisement) : Advertisement := { a with registered := false }

def shown (a : Advertisement) : String :=
  Text.shownRecord "Advertisement"
    [("path", a.path.shown), ("registered", Text.shownBool a.registered), ("data", a.data.shown)]

variable {β : Type} [Transport β]

def publish (key : Nat) (a : Advertisement) :
    StateM (Channel β) (Advertisement × Except GattError Unit) := do
  match ← Channel.exportNode a.path (.advertisement key) with
  | .ok () => pure ({ a with published := true }, .ok ())
  | .error e => pure (a, .error (.bus e))

def unpublish (a : Advertisement) :
    StateM (Channel β) (Advertisement × Except GattError Unit) := do
  let outcome ← Channel.unexportNode a.path .advertisement
  pure ({ a with published := false }, outcome.mapError .bus)

end Advertisement
end GattPeripheral
