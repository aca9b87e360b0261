import GattPeripheral.Host.Advertising

/-!
Bringing a peripheral up and down.

Starting powers the adapter, publishes and registers the application and its advertisement and follows
the devices; a failure rolls all of it back. Only a refused name or a failed advertisement does not
count as one. Stopping carries out every step whatever happens and reports the first failure.
-/

namespace GattPeripheral.Host

variable {β : Type} [Transport β]

def startTracker : Routine (Host β) (Except GattError Unit) :=
  Routine.step (onTracker Tracker.start)

def stopTracker : Routine (Host β) Unit :=
  Routine.step (onTracker fun t => do return (← t.stop, ()))

def editPeripheral (edit : Peripheral → Peripheral) : Routine (Host β) Unit :=
  Routine.step fun h => ((), { h with peripheral := h.peripheral.map edit })

def setPeripheralState (state : PeripheralState) : Routine (Host β) Unit :=
  editPeripheral fun p => { p with state := state }

/-- Publishes and registers the advertisement; only a failed publication counts as a failure. -/
def bringUpAdvertisement (key : Nat) : Routine (Host β) (Except GattError Unit) := do
  let h ← Routine.read
  editAdvertisement key fun a => { a with fallbacks := FallbackStep.defaultChain h.adapter }
  match ← publishAdvertisement key with
  | .error e => return .error e
  | .ok () =>
      match ← registerAdvertisement key with
      | .error _ => return .ok ()
      | .ok mode =>
          editPeripheral fun p => { p with mode := some mode }
          return .ok ()

def bringUp (p : Peripheral) : Routine (Host β) (Except GattError Unit) := do
  let h ← Routine.read
  match ← Adapter.powerOn h.adapter with
  | .error e => return .error e
  | .ok () =>
      match p.adapterName with
      | none => pure ()
      | some name =>
          let _ ← Adapter.setFriendlyName h.adapter name
      match ← publishApplication with
      | .error e => return .error e
      | .ok () =>
          match ← registerApplication with
          | .error e => return .error e
          | .ok () =>
              match p.advertisement with
              | none => startTracker
              | some key =>
                  match ← bringUpAdvertisement key with
                  | .error e => return .error e
                  | .ok () => startTracker

def firstFailure : Except GattError Unit → Except GattError Unit → Except GattError Unit
  | .error e, _ => .error e
  | .ok (), later => later

def tearDownAdvertisement (key : Nat) : Routine (Host β) (Except GattError Unit) := do
  let unregistered ← unregisterAdvertisement key
  let h ← Routine.read
  if h.advertisements[key]?.any (·.published) then
    return firstFailure unregistered (← unpublishAdvertisement key)
  else return unregistered

def tearDown (p : Peripheral) : Routine (Host β) (Except GattError Unit) := do
  stopTracker
  let advertisement ←
    match p.advertisement with
    | none => pure (.ok ())
    | some key => tearDownAdvertisement key
  editPeripheral fun p => { p with mode := none }
  let unregistered ← unregisterApplication
  let unpublished ← unpublishApplication
  return firstFailure advertisement (firstFailure unregistered unpublished)

def startPeripheral : Routine (Host β) (Except GattError Unit) :=
  Routine.holding .peripheral do
    match (← Routine.read).peripheral with
    | none => return .error (.invalidState "no peripheral")
    | some p =>
        if p.state = .stopped then
          setPeripheralState .starting
          match ← bringUp p with
          | .ok () =>
              setPeripheralState .running
              return .ok ()
          | .error e =>
              setPeripheralState .stopping
              let _ ← tearDown p
              setPeripheralState .stopped
              return .error e
        else return .error (.invalidState ("peripheral is " ++ p.state.name))

def stopPeripheral : Routine (Host β) (Except GattError Unit) :=
  Routine.holding .peripheral do
    match (← Routine.read).peripheral with
    | none => return .ok ()
    | some p =>
        if p.state = .stopped then return .ok ()
        else
          setPeripheralState .stopping
          let outcome ← tearDown p
          setPeripheralState .stopped
          return outcome

end GattPeripheral.Host
