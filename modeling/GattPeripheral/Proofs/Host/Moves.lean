import GattPeripheral.Host.Transition
import GattPeripheral.Proofs.Routine

/-!
# The steps of talking to a daemon

A relation between hosts that allows questions about properties holds along everything that is done with
an adapter: `Moves.powerOn`, `Moves.tryFallbacks`. One that allows calls holds along a whole registration:
`Moves.makeRegistration`. One that also allows what is done to the tree holds along all transitions of the
application: `Moves.transition`.
-/

namespace GattPeripheral

def Event.isOfQuestion : Event → Bool
  | .gotProperty .. | .setProperty .. | .fallback .. => true
  | _ => false

def Event.isOfCall : Event → Bool
  | .called .. | .received .. | .callFailed .. => true
  | _ => false

variable {β α : Type} [Transport β]

structure Host.AllowsQuestions (R : Host β → Host β → Prop) : Prop where
  clock : ∀ h span, R h (Clocked.advance span h)
  runs : ∀ h runs, R h { h with runs }
  getProperty : ∀ h path interface name,
    R h (h.onChannel (Channel.work (Transport.getProperty path interface name))).2
  setProperty : ∀ h path interface name value,
    R h (h.onChannel (Channel.work (Transport.setProperty path interface name value))).2
  record : ∀ h e, e.isOfQuestion = true → R h (h.onChannel (Channel.record e)).2

structure Host.AllowsCalls (R : Host β → Host β → Prop) : Prop extends Host.AllowsQuestions R where
  answer : ∀ h adapter call timeout, R h (h.onChannel (answerCall adapter call timeout)).2
  told : ∀ h e, e.isOfCall = true → R h (h.onChannel (Channel.record e)).2

structure Host.AllowsTransitions (R : Host β → Host β → Prop) : Prop extends Host.AllowsCalls R where
  state : ∀ h state, R h { h with application := { h.application with state } }
  publish : ∀ h, R h (h.onApplication Application.publish).2
  withdraw : ∀ h, R h (h.onApplication Application.withdraw).2

namespace Routine.Moves

variable {R : Host β → Host β → Prop}

theorem travel {act : StateM (Channel β) α} (each : ∀ h, R h (h.onChannel act).2) : Moves R (Host.travel act) := by
  refine .bind .read fun h => ?_
  split
  · exact .exchange each
  · exact .step each

theorem request {act : Request β α} {event : Option BusError → Event}
    (each : ∀ h, R h (h.onChannel (Channel.work act)).2)
    (told : ∀ h failure, R h (h.onChannel (Channel.record (event failure))).2) : Moves R (Host.request act event) :=
  .bind (.travel each) fun _ => .bind (.step fun h => told h _) fun _ => .pure _

section Questions
variable (allows : Host.AllowsQuestions R)
include allows

theorem getProperty (path : ObjectPath) (interface name : String) : Moves R (Host.getProperty path interface name) :=
  .request (fun h => allows.getProperty h path interface name) fun h _ => allows.record h _ rfl

theorem setProperty (path : ObjectPath) (interface name : String) (value : Property) :
    Moves R (Host.setProperty path interface name value) :=
  .request (fun h => allows.setProperty h path interface name value) fun h _ => allows.record h _ rfl

theorem powerOn (path : ObjectPath) : Moves R (Adapter.powerOn path) := by
  refine .bind (.bind (.bind (.getProperty allows _ _ _) fun _ => .pure _) fun _ => .pure _) fun powered => ?_
  split
  · exact .pure _
  · exact .pure _
  · refine .bind (.bind (.setProperty allows _ _ _ _) fun _ => .pure _) fun outcome => ?_
    split
    · exact .pure _
    · exact .bind (.wait fun h => allows.clock h _) fun _ => .pure _

theorem setFriendlyName (path : ObjectPath) (value : String) : Moves R (Adapter.setFriendlyName path value) :=
  .bind (.setProperty allows _ _ _ _) fun _ => .pure _

theorem runProgram (program : String) (arguments : List String) (input : String) :
    Moves R (Routine.step (Host.runProgram program arguments input)) := by
  refine .step fun h => ?_
  unfold Host.runProgram
  split
  · exact allows.runs h h.runs
  · split
    · exact allows.runs h h.runs
    · exact allows.runs h _

theorem enableFallback (step : FallbackStep) : Moves R (Host.enableFallback step) := by
  cases step with
  | controllerMenu => exact .runProgram allows _ _ _
  | legacyAdvertise device => exact .runProgram allows _ _ _
  | discoverable adapter =>
      refine .bind (.powerOn allows adapter) fun outcome => ?_
      split
      · exact .pure _
      · exact .bind (.setProperty allows _ _ _ _) fun _ => .pure _
  | supplied name outcome => exact .bind (.step fun h => allows.record h _ rfl) fun _ => .pure _

theorem tryFallbacks (steps : List FallbackStep) : Moves R (Host.tryFallbacks steps) := by
  induction steps with
  | nil => exact .pure _
  | cons step steps ih =>
      refine .bind (.enableFallback allows step) fun outcome => ?_
      split
      · exact .pure _
      · exact ih

end Questions

section Calls
variable (allows : Host.AllowsCalls R)
include allows

theorem call (c : ManagerCall) (timeout : Duration) : Moves R (Host.call c timeout) := by
  refine .bind .read fun h => .bind (.step fun h => allows.told h _ rfl) fun _ =>
    .bind (.travel fun h => allows.answer h _ c timeout) fun outcome => .bind (.wait fun h => allows.clock h _) fun _ => ?_
  split
  · exact .pure _
  · exact .bind (.step fun h => allows.told h _ rfl) fun _ => .pure _

theorem dropRegistration (unregister : ManagerCall) : Moves R (Host.dropRegistration unregister) := by
  refine .bind .read fun h => .bind (.call allows _ _) fun outcome => ?_
  split <;> exact .pure _

theorem makeRegistration (register unregister : ManagerCall) : Moves R (Host.makeRegistration register unregister) := by
  refine .bind .read fun h => .bind (.call allows _ _) fun outcome => ?_
  split
  · exact .pure _
  · split
    · exact .bind (.dropRegistration allows _) fun _ => .bind (.wait fun h => allows.clock h _) fun _ => .call allows _ _
    · exact .pure _

end Calls

section Transitions
variable (allows : Host.AllowsTransitions R)
include allows

theorem registerApplication : Moves R (Host.registerApplication : Routine (Host β) _) := by
  refine .holding (.bind .read fun h => ?_)
  split
  · exact .pure _
  · exact .pure _
  · refine .bind (.makeRegistration allows.toAllowsCalls _ _) fun outcome => ?_
    split
    · exact .pure _
    · exact .bind (.step fun h => allows.state h _) fun _ => .pure _

theorem unregisterApplication : Moves R (Host.unregisterApplication : Routine (Host β) _) := by
  refine .holding (.bind .read fun h => ?_)
  split
  · exact .bind (.dropRegistration allows.toAllowsCalls _) fun _ =>
      .bind (.step fun h => allows.state h _) fun _ => .pure _
  · exact .pure _

theorem unpublishApplication : Moves R (Host.unpublishApplication : Routine (Host β) _) := by
  refine .bind .read fun h => ?_
  split
  · exact .bind (.unregisterApplication allows) fun _ => .step allows.withdraw
  · exact .step allows.withdraw

theorem transition {t : Transition} (own : t.isOfApplication = true) : Moves R (t.routine : Routine (Host β) _) := by
  cases t with
  | publish => exact .bind (.step allows.publish) fun _ => .pure _
  | unpublish => exact .bind (.unpublishApplication allows) fun _ => .pure _
  | register => exact .bind (.registerApplication allows) fun _ => .pure _
  | unregister => exact .bind (.unregisterApplication allows) fun _ => .pure _
  | shutdown =>
      refine .bind (.bind .read fun h => ?_) fun _ => .pure _
      split
      · exact .pure _
      · exact .bind (.unpublishApplication allows) fun _ => .pure _
  | _ => cases own

end Transitions
end Routine.Moves
end GattPeripheral
