import GattPeripheral.Host.Request

/-!
Registering an application with the manager of the adapter.

If the manager still holds a registration for the path, that one is dropped and the call is made once
more after a delay. Unregistering clears the local state even when the manager fails to answer.
-/

namespace GattPeripheral.Host

variable {β : Type} [Transport β]

/-- Drops a registration; that there is none counts as success. -/
def dropRegistration (unregister : ManagerCall) : Routine (Host β) (Except BusError Unit) := do
  let options := (← Routine.read).options
  match ← call unregister options.unregisterTimeout with
  | .ok () => return .ok ()
  | .error e => return if e.isDoesNotExist then .ok () else .error e

/-- Makes a registration, replacing a stale one. -/
def makeRegistration (register unregister : ManagerCall) :
    Routine (Host β) (Except BusError Unit) := do
  let options := (← Routine.read).options
  match ← call register options.timeout with
  | .ok () => return .ok ()
  | .error e =>
      if e.isAlreadyExists then
        let _ ← dropRegistration unregister
        Routine.wait options.retryDelay
        call register options.timeout
      else return .error e

def setState (state : ApplicationState) : Routine (Host β) Unit :=
  Routine.step fun h => ((), { h with application := { h.application with state := state } })

def registerApplication : Routine (Host β) (Except GattError Unit) :=
  Routine.holding .application do
    let h ← Routine.read
    match h.application.state with
    | .unpublished =>
        return .error (.invalidState "application must be published before registration")
    | .registered => return .ok ()
    | .published =>
        let path := h.application.path
        match ← makeRegistration (.registerApplication path .empty) (.unregisterApplication path) with
        | .error e => return .error (.bus e)
        | .ok () =>
            setState .registered
            return .ok ()

def unregisterApplication : Routine (Host β) (Except GattError Unit) :=
  Routine.holding .application do
    let h ← Routine.read
    if h.application.isRegistered then
      let outcome ← dropRegistration (.unregisterApplication h.application.path)
      setState .published
      return outcome.mapError .bus
    else return .ok ()

def publishApplication : Routine (Host β) (Except GattError Unit) :=
  Routine.step (onApplication Application.publish)

/-- Takes the tree off the bus, after unregistering it if need be. -/
def unpublishApplication : Routine (Host β) (Except GattError Unit) := do
  let h ← Routine.read
  if h.application.isRegistered then
    let _ ← unregisterApplication
  Routine.step (onApplication Application.withdraw)

/-- Unpublishes as far as possible. -/
def shutdownApplication : Routine (Host β) Unit := do
  let h ← Routine.read
  if h.application.state = .unpublished then return ()
  let _ ← unpublishApplication

end GattPeripheral.Host
