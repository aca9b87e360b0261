import GattPeripheral.Proofs.Host.Moves
import GattPeripheral.Proofs.Tree.Served

/-!
# Requests leave the nodes alone

Between two states that are `Beside` each other the host talked to the daemon and did nothing else: its
nodes are the same, nothing was exported, and an observation `view` of the bus tells no difference.
`Minds` routines only do this. `call_run` and `makeRegistration_run` say what such a routine does to the
bus.
-/

namespace GattPeripheral

def Event.isOfNode : Event → Bool
  | .exported .. | .unexported .. | .emitted .. => true
  | _ => false

theorem Event.isOfNode_of_exportedPath {e : Event} (some : e.exportedPath?.isSome = true) : e.isOfNode = true := by
  cases e with
  | exported => rfl
  | _ => cases some

def Channel.nodeEvents {β : Type} (c : Channel β) : List Event := c.trace.filter Event.isOfNode

theorem nodeEvents_silent {β : Type} (c : Channel β) (bus : β) {events : List Event}
    (silent : ∀ e ∈ events, e.isOfNode = false) :
    Channel.nodeEvents ⟨bus, c.trace ++ events⟩ = c.nodeEvents := by
  have none : events.filter Event.isOfNode = [] := List.filter_eq_nil_iff.mpr fun e member => by simp [silent e member]
  simp only [Channel.nodeEvents, List.filter_append, none, List.append_nil]

theorem filterMap_eq_of_filter_eq {ν α : Type} {p : ν → Bool} {f : ν → Option α} {xs ys : List ν}
    (same : ys.filter p = xs.filter p) (only : ∀ e, (f e).isSome = true → p e = true) :
    ys.filterMap f = xs.filterMap f := by
  have filtered (zs : List ν) : (zs.filter p).filterMap f = zs.filterMap f := by
    rw [List.filterMap_filter]
    congr 1
    funext e
    cases chosen : p e with
    | true => rfl
    | false =>
        have none : f e = none := by
          rw [← Option.not_isSome_iff_eq_none]
          exact fun some => by simp [only e some] at chosen
        simp [none]
  rw [← filtered ys, same, filtered xs]

structure Host.Beside {β γ : Type} (view : β → γ) (h h' : Host β) : Prop where
  application : h'.application = h.application
  advertisements : h'.advertisements = h.advertisements
  tracker : h'.tracker = h.tracker
  peripheral : h'.peripheral = h.peripheral
  adapter : h'.adapter = h.adapter
  options : h'.options = h.options
  bus : view h'.channel.bus = view h.channel.bus
  record : h'.channel.nodeEvents = h.channel.nodeEvents

namespace Host.Beside

variable {β γ : Type} {view : β → γ} {h h' h'' : Host β}

theorem refl (view : β → γ) (h : Host β) : h.Beside view h := ⟨rfl, rfl, rfl, rfl, rfl, rfl, rfl, rfl⟩

theorem trans (first : h.Beside view h') (second : h'.Beside view h'') : h.Beside view h'' where
  application := second.application.trans first.application
  advertisements := second.advertisements.trans first.advertisements
  tracker := second.tracker.trans first.tracker
  peripheral := second.peripheral.trans first.peripheral
  adapter := second.adapter.trans first.adapter
  options := second.options.trans first.options
  bus := second.bus.trans first.bus
  record := second.record.trans first.record

theorem everExported (beside : h.Beside view h') : h'.channel.everExported = h.channel.everExported :=
  filterMap_eq_of_filter_eq beside.record fun _ => Event.isOfNode_of_exportedPath

theorem path (beside : h.Beside view h') : h'.application.path = h.application.path :=
  congrArg Application.path beside.application

end Host.Beside

structure Transport.BlindToProperties {β γ : Type} [Transport β] (view : β → γ) : Prop where
  getProperty : ∀ path interface name b, view (Transport.getProperty path interface name b).2 = view b
  setProperty : ∀ path interface name value b,
    view (Transport.setProperty path interface name value b).2 = view b

structure Transport.Blind {β γ : Type} [Transport β] (view : β → γ) : Prop extends
    Transport.BlindToProperties view where
  call : ∀ adapter call timeout b, view (Transport.call adapter call timeout b).2 = view b

theorem Transport.blind_unit {β : Type} [Transport β] : Transport.Blind fun _ : β => () :=
  ⟨⟨fun _ _ _ _ => rfl, fun _ _ _ _ _ => rfl⟩, fun _ _ _ _ => rfl⟩

theorem MemoryBus.blindToProperties {γ : Type} {view : MemoryBus → γ}
    (put : ∀ key value b, view (b.putProperty key value) = view b) : Transport.BlindToProperties view := by
  constructor
  · intro path interface name b
    simp only [Transport.getProperty, MemoryBus.getProperty]
    split
    · rfl
    · split <;> rfl
  · intro path interface name value b
    simp only [Transport.setProperty, MemoryBus.setProperty]
    split
    · rfl
    · exact put _ _ b

theorem MemoryBus.blind_exported : Transport.Blind MemoryBus.exported := by
  refine ⟨blindToProperties fun _ _ _ => rfl, ?_⟩
  intro adapter call timeout b
  simp only [Transport.call, MemoryBus.call]
  split <;> rfl

def CallOutcome.receipt (outcome : CallOutcome) (adapter : ObjectPath) (call : ManagerCall) : List Event :=
  if outcome.received then [.received adapter call] else []

theorem CallOutcome.eq_of_mem_receipt {outcome : CallOutcome} {adapter : ObjectPath} {call : ManagerCall} {e : Event}
    (member : e ∈ outcome.receipt adapter call) : e = .received adapter call := by
  rw [receipt] at member
  split at member
  · exact List.mem_singleton.mp member
  · cases member

theorem Host.answerCall_eq {β : Type} [Transport β] (adapter : ObjectPath) (call : ManagerCall)
    (timeout : Duration) (c : Channel β) : answerCall adapter call timeout c =
      let answer := Transport.call adapter call timeout c.bus
      (answer.1, ⟨answer.2, c.trace ++ answer.1.receipt adapter call⟩) := by
  have work : Channel.work (Transport.call adapter call timeout) c =
      ((Transport.call adapter call timeout c.bus).1, ⟨(Transport.call adapter call timeout c.bus).2, c.trace⟩) := rfl
  rw [answerCall, stateM_bind, work]
  dsimp only
  rw [CallOutcome.receipt]
  cases (Transport.call adapter call timeout c.bus).1.received with
  | true => rfl
  | false =>
      simp only [Bool.false_eq_true, if_false, List.append_nil]
      rfl

def Routine.Minds {β γ α : Type} (view : β → γ) (r : Routine (Host β) α) : Prop :=
  ∀ h : Host β, h.Beside view (r.run h).2

theorem Host.Beside.recorded {β γ : Type} {view : β → γ} {e : Event} (silent : e.isOfNode = false) (h : Host β) :
    h.Beside view (h.onChannel (Channel.record e)).2 :=
  ⟨rfl, rfl, rfl, rfl, rfl, rfl, rfl, nodeEvents_silent h.channel h.channel.bus (by simpa using silent)⟩

theorem Host.Beside.allowsQuestions {β γ : Type} [Transport β] {view : β → γ}
    (blind : Transport.BlindToProperties view) : Host.AllowsQuestions (Host.Beside view) where
  clock _ _ := ⟨rfl, rfl, rfl, rfl, rfl, rfl, rfl, rfl⟩
  runs _ _ := ⟨rfl, rfl, rfl, rfl, rfl, rfl, rfl, rfl⟩
  getProperty h path interface name :=
    ⟨rfl, rfl, rfl, rfl, rfl, rfl, blind.getProperty path interface name h.channel.bus, rfl⟩
  setProperty h path interface name value :=
    ⟨rfl, rfl, rfl, rfl, rfl, rfl, blind.setProperty path interface name value h.channel.bus, rfl⟩
  record h e question := .recorded (by cases e <;> first | rfl | cases question) h

theorem Host.Beside.allowsCalls {β γ : Type} [Transport β] {view : β → γ} (blind : Transport.Blind view) :
    Host.AllowsCalls (Host.Beside view) where
  toAllowsQuestions := allowsQuestions blind.toBlindToProperties
  answer h adapter call timeout := by
    rw [onChannel, answerCall_eq]
    refine ⟨rfl, rfl, rfl, rfl, rfl, rfl, blind.call _ _ _ _, nodeEvents_silent h.channel _ fun e member => ?_⟩
    rw [CallOutcome.eq_of_mem_receipt member]
    rfl
  told h e call := .recorded (by cases e <;> first | rfl | cases call) h

namespace Routine.Minds

variable {β γ α : Type} {view : β → γ}

theorem of_moves {r : Routine (Host β) α} (moves : Moves (Host.Beside view) r) : Minds view r :=
  moves.run (.refl view) .trans

variable [Transport β]

theorem travel_run (act : StateM (Channel β) α) (h : Host β) : (Host.travel act).run h = h.onChannel act := by
  rw [Host.travel, run_bind']
  split <;> rfl

section Properties
variable (blind : Transport.BlindToProperties view)
include blind

theorem powerOn (path : ObjectPath) : Minds view (Adapter.powerOn path : Routine (Host β) _) :=
  .of_moves (.powerOn (Host.Beside.allowsQuestions blind) path)

theorem setFriendlyName (path : ObjectPath) (value : String) :
    Minds view (Adapter.setFriendlyName path value : Routine (Host β) _) :=
  .of_moves (.setFriendlyName (Host.Beside.allowsQuestions blind) path value)

theorem tryFallbacks (steps : List FallbackStep) : Minds view (Host.tryFallbacks steps : Routine (Host β) _) :=
  .of_moves (.tryFallbacks (Host.Beside.allowsQuestions blind) steps)

end Properties

section Calls
variable (blind : Transport.Blind view)
include blind

theorem call (c : ManagerCall) (timeout : Duration) : Minds view (Host.call c timeout : Routine (Host β) _) :=
  .of_moves (.call (Host.Beside.allowsCalls blind) c timeout)

theorem dropRegistration (unregister : ManagerCall) :
    Minds view (Host.dropRegistration unregister : Routine (Host β) _) :=
  .of_moves (.dropRegistration (Host.Beside.allowsCalls blind) unregister)

theorem makeRegistration (register unregister : ManagerCall) :
    Minds view (Host.makeRegistration register unregister : Routine (Host β) _) :=
  .of_moves (.makeRegistration (Host.Beside.allowsCalls blind) register unregister)

end Calls
end Routine.Minds

/-! ## What the bus sees of a registration -/

namespace Transport

variable {β : Type} [Transport β]

def ask (adapter : ObjectPath) (c : ManagerCall) (timeout : Duration) : Request β Unit := fun b =>
  ((Transport.call adapter c timeout b).1.result, (Transport.call adapter c timeout b).2)

def drop (adapter : ObjectPath) (options : RegistrationOptions) (unregister : ManagerCall) : Request β Unit :=
  fun b =>
    match ask adapter unregister options.unregisterTimeout b with
    | (.ok (), b) => (.ok (), b)
    | (.error e, b) => (if e.isDoesNotExist then .ok () else .error e, b)

def make (adapter : ObjectPath) (options : RegistrationOptions) (register unregister : ManagerCall) :
    Request β Unit := fun b =>
  match ask adapter register options.timeout b with
  | (.ok (), b) => (.ok (), b)
  | (.error e, b) =>
      if e.isAlreadyExists then ask adapter register options.timeout (drop adapter options unregister b).2
      else (.error e, b)

end Transport

namespace Host

variable {β : Type} [Transport β]

theorem travel_answerCall (c : ManagerCall) (timeout : Duration) (h : Host β) :
    (travel (answerCall h.adapter c timeout)).run ((record (.called h.adapter c timeout)).run h).2 =
      let answer := Transport.call h.adapter c timeout h.channel.bus
      (answer.1, { h with channel :=
        ⟨answer.2, h.channel.trace ++ [.called h.adapter c timeout] ++ answer.1.receipt h.adapter c⟩ }) := by
  rw [Routine.Minds.travel_run, onChannel, answerCall_eq]
  rfl

theorem call_outcome (c : ManagerCall) (timeout : Duration) (h : Host β) : (call c timeout).run h =
    let answer := Transport.call h.adapter c timeout h.channel.bus
    (answer.1.result, { h with
      clock := h.clock + answer.1.delay.slept
      channel := ⟨answer.2, h.channel.trace ++ [.called h.adapter c timeout] ++ answer.1.receipt h.adapter c ++
        (Channel.failure? answer.1.result).toList.map .callFailed⟩ }) := by
  rw [call, Routine.run_bind', Routine.run_read, Routine.run_bind', Routine.run_bind', travel_answerCall,
    Routine.run_bind']
  dsimp only
  cases (Transport.call h.adapter c timeout h.channel.bus).1.result with
  | ok =>
      simp only [Channel.failure?, Option.toList, List.map_nil, List.append_nil]
      rfl
  | error e => rfl

theorem call_run (c : ManagerCall) (timeout : Duration) (h : Host β) :
    (((call c timeout).run h).1, ((call c timeout).run h).2.channel.bus) =
      Transport.ask h.adapter c timeout h.channel.bus := by
  rw [call_outcome]
  rfl

theorem dropRegistration_run (unregister : ManagerCall) (h : Host β) :
    (((dropRegistration unregister).run h).1, ((dropRegistration unregister).run h).2.channel.bus) =
      Transport.drop h.adapter h.options unregister h.channel.bus := by
  have asked := call_run unregister h.options.unregisterTimeout h
  rw [dropRegistration, Routine.run_bind', Routine.run_read, Routine.run_bind', Transport.drop, ← asked]
  cases ((call unregister h.options.unregisterTimeout).run h).1 <;> rfl

theorem makeRegistration_run (register unregister : ManagerCall) (h : Host β) :
    (((makeRegistration register unregister).run h).1,
        ((makeRegistration register unregister).run h).2.channel.bus) =
      Transport.make h.adapter h.options register unregister h.channel.bus := by
  have asked := call_run register h.options.timeout h
  have beside := Routine.Minds.call Transport.blind_unit register h.options.timeout h
  rw [makeRegistration, Routine.run_bind', Routine.run_read, Routine.run_bind', Transport.make, ← asked]
  cases answer : (call register h.options.timeout).run h with
  | mk result told =>
      rw [answer] at beside
      cases result with
      | ok => rfl
      | error e =>
          cases known : e.isAlreadyExists with
          | false =>
              simp only [known]
              rfl
          | true =>
              have dropped := dropRegistration_run unregister told
              have minded := Routine.Minds.dropRegistration Transport.blind_unit unregister told
              rw [beside.adapter, beside.options] at dropped
              let rested := ((Routine.wait h.options.retryDelay).run ((dropRegistration unregister).run told).2).2
              have adapter : rested.adapter = h.adapter := minded.adapter.trans beside.adapter
              have again := call_run register h.options.timeout rested
              rw [adapter, show rested.channel.bus = _ from congrArg Prod.snd dropped] at again
              simp only [known, if_true, Routine.run_bind']
              exact again

end Host

end GattPeripheral
