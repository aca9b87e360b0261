import GattPeripheral.Host.Adapter
import GattPeripheral.Host.Registration

/-!
Getting an advertisement on the air.

The manager is asked first. When it refuses, the fallback steps are tried in order until one succeeds;
the advertisement then stays unregistered.
-/

namespace GattPeripheral.Host

variable {β : Type} [Transport β]

def menuProgram : String := "bluetoothctl"
def menuScript : String := "menu advertise\non\nback\n"
def legacyProgram : String := "hciconfig"

/-- Runs a helper program to its end. An argument with a NUL cannot be handed to any program, so it is
refused before the program is looked up. Every program here takes all of its input and ends by itself:
one that closes its input, or that runs into the time limit, is left out. -/
def runProgram (program : String) (arguments : List String) (input : String) (h : Host β) :
    Except GattError Unit × Host β :=
  if arguments.any (·.toList.contains (Char.ofNat 0)) then
    (.error (.failed (program ++ ": nul byte found in provided data")), h)
  else
    match h.programs.get? program with
    | none => (.error (.failed (program ++ ": No such file or directory (os error 2)")), h)
    | some ending =>
        (ending.outcome program, { h with runs := h.runs.insert program ⟨arguments, input⟩ })

def enableFallback : FallbackStep → Routine (Host β) (Except GattError Unit)
  | .controllerMenu => Routine.step (runProgram menuProgram [] menuScript)
  | .legacyAdvertise device => Routine.step (runProgram legacyProgram [device, "leadv", "3"] "")
  | .discoverable adapter => do
      match ← Adapter.powerOn adapter with
      | .error e => return .error e
      | .ok () => Adapter.setDiscoverable adapter true
  | .supplied name outcome => do
      record (.fallback name)
      return outcome

def tryFallbacks : List FallbackStep → Routine (Host β) (Except GattError AdvertisingMode)
  | [] => return .error .advertisingUnavailable
  | step :: steps => do
      match ← enableFallback step with
      | .ok () => return .ok (.fallback step.name)
      | .error _ => tryFallbacks steps

def editAdvertisement (key : Nat) (edit : Advertisement → Advertisement) : Routine (Host β) Unit :=
  Routine.step fun h => ((), { h with advertisements := h.advertisements.modify key edit })

def registerAdvertisement (key : Nat) : Routine (Host β) (Except GattError AdvertisingMode) :=
  Routine.holding (.advertisement key) do
    let h ← Routine.read
    match h.advertisements[key]? with
    | none => return .error (.invalidState "no such advertisement")
    | some a =>
        if a.registered then return .ok .registered
        else if !a.published then
          return .error (.invalidState "advertisement must be published before registration")
        else
          match ← makeRegistration (.registerAdvertisement a.path .empty)
              (.unregisterAdvertisement a.path) with
          | .ok () =>
              editAdvertisement key fun a => { a with registered := true }
              return .ok .registered
          | .error e =>
              let fallbacks := ((← Routine.read).advertisements[key]?.map (·.fallbacks)).getD []
              if !h.options.enableFallbacks || fallbacks.isEmpty then return .error (.bus e)
              else tryFallbacks fallbacks

def unregisterAdvertisement (key : Nat) : Routine (Host β) (Except GattError Unit) :=
  Routine.holding (.advertisement key) do
    let h ← Routine.read
    match h.advertisements[key]? with
    | none => return .ok ()
    | some a =>
        if a.registered then
          let outcome ← dropRegistration (.unregisterAdvertisement a.path)
          editAdvertisement key Advertisement.release
          return outcome.mapError .bus
        else return .ok ()

def publishAdvertisement (key : Nat) : Routine (Host β) (Except GattError Unit) := do
  let outcome ← Routine.step (onAdvertisement key (Advertisement.publish key))
  return outcome.getD (.ok ())

def unpublishAdvertisement (key : Nat) : Routine (Host β) (Except GattError Unit) := do
  let outcome ← Routine.step (onAdvertisement key Advertisement.unpublish)
  return outcome.getD (.ok ())

end GattPeripheral.Host
