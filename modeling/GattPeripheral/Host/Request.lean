import GattPeripheral.Host

/-!
Requests that travel.

Manager calls and questions about properties and objects go to the daemon. Over a link their answers
take a while, in which other routines go on; on a bus that does not travel they come at once. A call is
recorded when it is made, every other request when its answer is there.
-/

namespace GattPeripheral.Host

variable {β α : Type} [Transport β]

def record (event : Event) : Routine (Host β) Unit :=
  Routine.step (onChannel (Channel.record event))

/-- Work on the bus, which is done at the other end if the bus has one. -/
def travel (act : StateM (Channel β) α) : Routine (Host β) α := do
  let h ← Routine.read
  if Transport.travels h.channel.bus then Routine.exchange (onChannel act)
  else Routine.step (onChannel act)

def request (act : Request β α) (event : Option BusError → Event) :
    Routine (Host β) (Except BusError α) := do
  let outcome ← travel (Channel.work act)
  record (event (Channel.failure? outcome))
  return outcome

def getProperty (path : ObjectPath) (interface name : String) :
    Routine (Host β) (Except BusError Property) :=
  request (Transport.getProperty path interface name) (.gotProperty path interface name)

def setProperty (path : ObjectPath) (interface name : String) (value : Property) :
    Routine (Host β) (Except BusError Unit) :=
  request (Transport.setProperty path interface name value) (.setProperty path interface name value)

def managedObjects : Routine (Host β) (Except BusError ManagedObjects) :=
  request Transport.managedObjects .listedObjects

/-- Lets a manager of the adapter answer a call; a daemon that receives it leaves a record of its own. -/
def answerCall (adapter : ObjectPath) (call : ManagerCall) (timeout : Duration) :
    StateM (Channel β) CallOutcome := do
  let outcome ← Channel.work (Transport.call adapter call timeout)
  if outcome.received then Channel.record (.received adapter call)
  return outcome

/-- Calls a manager of the host's adapter. A call that is never answered takes its whole time. -/
def call (call : ManagerCall) (timeout : Duration) : Routine (Host β) (Except BusError Unit) := do
  let adapter := (← Routine.read).adapter
  record (.called adapter call timeout)
  let outcome ← travel (answerCall adapter call timeout)
  Routine.wait outcome.delay
  match outcome.result with
  | .ok () => return .ok ()
  | .error e =>
      record (.callFailed e)
      return .error e

end GattPeripheral.Host
