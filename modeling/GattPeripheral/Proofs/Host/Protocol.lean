import GattPeripheral.Proofs.Host.Registration
import GattPeripheral.Proofs.Host.Timeline

/-!
# The registration protocol

A registration is one call, or three if the manager says that it holds one already: the stale registration is
dropped, and after a wait the call is made once more. Which answer settles it is the `verdict` of the bus, and
`Host.negotiated` is the host that the protocol leaves. Applications and advertisements register alike:
`Host.registration_protocol`.
-/

namespace GattPeripheral

/-! ## Replies -/

namespace MemoryBus

/-- The reply to the call that comes after `n` others. -/
def reply (n : Nat) (b : MemoryBus) : Except BusError Unit := b.replies.getD n (.ok ())

def isStale (b : MemoryBus) : Bool :=
  match b.reply 0 with
  | .ok () => false
  | .error e => e.isAlreadyExists

def verdict (b : MemoryBus) : Except BusError Unit := if b.isStale then b.reply 2 else b.reply 0

def answered (calls : List ManagerCall) (b : MemoryBus) : MemoryBus :=
  { b with calls := b.calls ++ calls, replies := b.replies.drop calls.length }

theorem call_eq (c : ManagerCall) (b : MemoryBus) : MemoryBus.call c b = (b.reply 0, b.answered [c]) := by
  rw [MemoryBus.call, reply, answered]
  cases b.replies <;> rfl

theorem transport_call_eq (adapter : ObjectPath) (c : ManagerCall) (timeout : Duration) (b : MemoryBus) :
    Transport.call adapter c timeout b = (.atOnce (b.reply 0), b.answered [c]) :=
  congrArg (fun answer => (CallOutcome.atOnce answer.1, answer.2)) (call_eq c b)

theorem answered_answered (front back : List ManagerCall) (b : MemoryBus) :
    (b.answered front).answered back = b.answered (front ++ back) := by
  simp [answered]

theorem reply_answered (calls : List ManagerCall) (n : Nat) (b : MemoryBus) :
    (b.answered calls).reply n = b.reply (calls.length + n) := by
  simp [reply, answered]

end MemoryBus

namespace Host

variable (register unregister : ManagerCall) (h : Host MemoryBus)

/-! ## The protocol on a bus in memory -/

def told (c : ManagerCall) (timeout : Duration) (reply : Except BusError Unit) : List Event :=
  .called h.adapter c timeout :: (Channel.failure? reply).toList.map .callFailed

theorem call_memory (c : ManagerCall) (timeout : Duration) : (call c timeout).run h =
    (h.channel.bus.reply 0, { h with
      channel := ⟨h.channel.bus.answered [c], h.channel.trace ++ h.told c timeout (h.channel.bus.reply 0)⟩ }) := by
  rw [call_outcome, MemoryBus.transport_call_eq]
  have record : h.channel.trace ++ [.called h.adapter c timeout] ++ [] ++
      (Channel.failure? (h.channel.bus.reply 0)).toList.map .callFailed =
      h.channel.trace ++ h.told c timeout (h.channel.bus.reply 0) := by
    rw [List.append_nil, List.append_assoc]
    rfl
  -- An answer that comes at once takes no time.
  exact congrArg (fun trace => (h.channel.bus.reply 0,
    { h with channel := ⟨h.channel.bus.answered [c], trace⟩ })) record

theorem call_timeline_memory (c : ManagerCall) (timeout : Duration) :
    (call c timeout).timeline h = [.called h.adapter c timeout] := by
  rw [call_timeline, MemoryBus.transport_call_eq]
  rfl

theorem dropRegistration_memory : (dropRegistration unregister).timeline h =
      [.called h.adapter unregister h.options.unregisterTimeout] ∧
    ((dropRegistration unregister).run h).2 = ((call unregister h.options.unregisterTimeout).run h).2 := by
  rw [dropRegistration, Routine.timeline_bind_read, Routine.timeline_bind, call_timeline_memory, Routine.run_bind',
    Routine.run_read, Routine.run_bind']
  cases ((call unregister h.options.unregisterTimeout).run h).1 <;> exact ⟨rfl, rfl⟩

def protocol : List Deed :=
  let first : Deed := .called h.adapter register h.options.timeout
  if h.channel.bus.isStale then
    first :: .called h.adapter unregister h.options.unregisterTimeout ::
      (Deed.sleep h.options.retryDelay ++ [first])
  else [first]

def negotiated : Host MemoryBus :=
  let bus := h.channel.bus
  let first := h.told register h.options.timeout (bus.reply 0)
  if bus.isStale then
    { h with
      clock := h.clock + h.options.retryDelay.slept
      channel := ⟨bus.answered [register, unregister, register],
        h.channel.trace ++ first ++ h.told unregister h.options.unregisterTimeout (bus.reply 1) ++
          h.told register h.options.timeout (bus.reply 2)⟩ }
  else { h with channel := ⟨bus.answered [register], h.channel.trace ++ first⟩ }

theorem makeRegistration_memory : (makeRegistration register unregister).timeline h = h.protocol register unregister ∧
    (makeRegistration register unregister).run h = (h.channel.bus.verdict, h.negotiated register unregister) := by
  rw [makeRegistration, Routine.timeline_bind_read, Routine.timeline_bind, call_timeline_memory, Routine.run_bind',
    Routine.run_read, Routine.run_bind', call_memory, protocol, negotiated, MemoryBus.verdict, MemoryBus.isStale]
  cases h.channel.bus.reply 0 with
  | ok => exact ⟨rfl, rfl⟩
  | error e =>
      cases stale : e.isAlreadyExists with
      | false =>
          simp only [stale]
          exact ⟨rfl, rfl⟩
      | true =>
          let b := h.channel.bus
          let first := h.channel.trace ++ h.told register h.options.timeout (.error e)
          let second := first ++ h.told unregister h.options.unregisterTimeout (b.reply 1)
          let asked : Host MemoryBus := { h with channel := ⟨b.answered [register], first⟩ }
          let dropped : Host MemoryBus := { h with channel := ⟨b.answered [register, unregister], second⟩ }
          let rested : Host MemoryBus := { dropped with clock := h.clock + h.options.retryDelay.slept }
          have drops : ((dropRegistration unregister).run asked).2 = dropped := by
            rw [(dropRegistration_memory unregister asked).2, call_memory]
            simp only [asked, MemoryBus.reply_answered, MemoryBus.answered_answered]
            rfl
          have settles : (call register h.options.timeout).run rested = (b.reply 2, { rested with
              channel := ⟨b.answered [register, unregister, register],
                second ++ h.told register h.options.timeout (b.reply 2)⟩ }) := by
            rw [call_memory]
            simp only [rested, dropped, MemoryBus.reply_answered, MemoryBus.answered_answered]
            rfl
          simp only [stale, if_true]
          constructor
          · rw [Routine.timeline_bind, (dropRegistration_memory unregister asked).1, drops, Routine.timeline_bind,
              Routine.timeline_wait, call_timeline_memory]
            rfl
          · rw [Routine.run_bind', drops, Routine.run_bind']
            exact settles

/-! ## What comes of it -/

section Settling

variable {α : Type} {register unregister : ManagerCall} {r : Routine (Host MemoryBus) α}
  {settle : Except BusError Unit → Routine (Host MemoryBus) α} {h : Host MemoryBus}

structure GoesByProtocol (register unregister : ManagerCall) (r : Routine (Host MemoryBus) α)
    (settle : Except BusError Unit → Routine (Host MemoryBus) α) (h : Host MemoryBus) : Prop where
  run : r.run h = (settle h.channel.bus.verdict).run (h.negotiated register unregister)
  timeline : r.timeline h = h.protocol register unregister ++
    (settle h.channel.bus.verdict).timeline (h.negotiated register unregister)

def settleApplication : Except BusError Unit → Routine (Host MemoryBus) (Except GattError Unit)
  | .ok () => do
      setState .registered
      return .ok ()
  | .error e => return .error (.bus e)

def settleAdvertisement (options : RegistrationOptions) (key : Nat) (a : Advertisement) :
    Except BusError Unit → Routine (Host MemoryBus) (Except GattError AdvertisingMode)
  | .ok () => do
      editAdvertisement key fun a => { a with registered := true }
      return .ok .registered
  | .error e => afterRefusal options a e

theorem negotiated_beside (register unregister : ManagerCall) (h : Host MemoryBus) :
    (h.negotiated register unregister).application = h.application ∧
      (h.negotiated register unregister).advertisements = h.advertisements := by
  simp only [negotiated]
  split <;> exact ⟨rfl, rfl⟩

theorem negotiated_calls (register unregister : ManagerCall) (h : Host MemoryBus) :
    (h.negotiated register unregister).channel.bus.calls = h.channel.bus.calls ++
      if h.channel.bus.isStale then [register, unregister, register] else [register] := by
  simp only [negotiated]
  split <;> rfl

theorem registerApplication_protocol (published : h.application.state = .published) :
    GoesByProtocol (.registerApplication h.application.path .empty) (.unregisterApplication h.application.path)
      registerApplication settleApplication h := by
  obtain ⟨timeline, made⟩ := makeRegistration_memory (.registerApplication h.application.path .empty)
    (.unregisterApplication h.application.path) h
  constructor
  · rcases h.registerApplication_run with ⟨other, -⟩ | ⟨-, ⟨e, refused, run⟩ | ⟨accepted, run⟩⟩
    · exact absurd published other
    · rw [makeOwnRegistration, made] at refused run
      have verdict : h.channel.bus.verdict = .error e := refused
      rw [run, verdict]
      rfl
    · rw [makeOwnRegistration, made] at accepted run
      have verdict : h.channel.bus.verdict = .ok () := accepted
      rw [run, verdict]
      rfl
  · rw [registerApplication, Routine.timeline_holding, Routine.timeline_bind_read]
    simp only [published]
    rw [Routine.timeline_bind, timeline, made]
    cases h.channel.bus.verdict <;> rfl

theorem registerAdvertisement_protocol {key : Nat} {a : Advertisement} (found : h.advertisements[key]? = some a)
    (free : a.registered = false) (published : a.published = true) :
    GoesByProtocol (.registerAdvertisement a.path .empty) (.unregisterAdvertisement a.path)
      (registerAdvertisement key) (settleAdvertisement h.options key a) h := by
  obtain ⟨timeline, made⟩ := makeRegistration_memory (.registerAdvertisement a.path .empty)
    (.unregisterAdvertisement a.path) h
  constructor
  · rcases h.registerAdvertisement_asks found free published with ⟨accepted, run⟩ | ⟨e, refused, run⟩
    · rw [makeAdvertised, made] at accepted run
      have verdict : h.channel.bus.verdict = .ok () := accepted
      rw [run, verdict]
      rfl
    · rw [makeAdvertised, made] at refused run
      have verdict : h.channel.bus.verdict = .error e := refused
      rw [run, verdict]
      rfl
  · rw [registerAdvertisement, Routine.timeline_holding, Routine.timeline_bind_read]
    simp only [found, free, published, Bool.false_eq_true, if_false, Bool.not_true]
    rw [Routine.timeline_bind, timeline, made]
    cases h.channel.bus.verdict with
    | ok => rfl
    | error e =>
        let met := h.negotiated (.registerAdvertisement a.path .empty) (.unregisterAdvertisement a.path)
        have same : (met.advertisements[key]?.map (·.fallbacks)).getD [] = a.fallbacks := by
          rw [(negotiated_beside _ _ h).2, found]
          rfl
        simp only [Routine.timeline_bind_read, same, met]
        rfl

/-! ## What does not depend on the reply in between -/

def expecting (replies : List (Except BusError Unit)) (h : Host MemoryBus) : Host MemoryBus :=
  { h with channel := { h.channel with bus := { h.channel.bus with replies } } }

def renegotiated (register unregister : ManagerCall) (rest : List (Except BusError Unit)) (h : Host MemoryBus) :
    Host MemoryBus :=
  let calls := h.channel.bus.calls ++ [register, unregister, register]
  { h with
    clock := h.clock + h.options.retryDelay.slept
    channel := ⟨{ h.channel.bus with calls, replies := rest.tail },
      h.told register h.options.timeout (rest.headD (.ok ()))⟩ }

theorem negotiated_expecting {first : BusError} (stale : first.isAlreadyExists = true) (reply : Except BusError Unit)
    (rest : List (Except BusError Unit)) :
    (h.expecting (.error first :: reply :: rest)).negotiated register unregister =
      (h.renegotiated register unregister rest).recalling (h.channel.trace ++
        h.told register h.options.timeout (.error first) ++ h.told unregister h.options.unregisterTimeout reply) := by
  have known : (h.expecting (.error first :: reply :: rest)).channel.bus.isStale = true := stale
  rw [negotiated]
  simp only [known, if_true]
  cases rest <;> rfl

theorem protocol_expecting {first : BusError} (stale : first.isAlreadyExists = true)
    (replies : List (Except BusError Unit)) :
    (h.expecting (.error first :: replies)).protocol register unregister =
      (h.expecting [.error first]).protocol register unregister :=
  (if_pos stale).trans (if_pos stale).symm

theorem verdict_expecting {first : BusError} (stale : first.isAlreadyExists = true) (reply : Except BusError Unit)
    (rest : List (Except BusError Unit)) :
    (h.expecting (.error first :: reply :: rest)).channel.bus.verdict = rest.headD (.ok ()) := by
  have known : (h.expecting (.error first :: reply :: rest)).channel.bus.isStale = true := stale
  rw [MemoryBus.verdict, if_pos known]
  cases rest <;> rfl

/-- A registration by the protocol: `accepted` and `refused` say what becomes of it, and `naps` what time is spent
afterwards. -/
structure Negotiates (register unregister : ManagerCall) (r : Routine (Host MemoryBus) α) (naps : List Deed)
    (accepted : Host MemoryBus → α × Host MemoryBus) (refused : BusError → Host MemoryBus → α × Host MemoryBus)
    (h : Host MemoryBus) : Prop where
  timeline : r.timeline h = h.protocol register unregister ++ naps
  calls : (r.run h).2.channel.bus.calls = h.channel.bus.calls ++
    if h.channel.bus.isStale then [register, unregister, register] else [register]
  accepted : h.channel.bus.verdict = .ok () → r.run h = accepted (h.negotiated register unregister)
  refused : ∀ e, h.channel.bus.verdict = .error e → r.run h = refused e (h.negotiated register unregister)
  unchanged : ∀ e, h.channel.bus.verdict = .error e →
    (r.run h).2.application = h.application ∧ (r.run h).2.advertisements = h.advertisements
  /-- The reply to the call in between shows in the record of that call and nowhere else. -/
  indifferent : ∀ first rest, first.isAlreadyExists = true →
    ∃ (answer : α) (last : Host MemoryBus) (deeds : List Deed), ∀ reply,
    let met := h.expecting (.error first :: reply :: rest)
    r.timeline met = deeds ∧ r.run met = (answer, last.recalling (h.channel.trace ++
      h.told register h.options.timeout (.error first) ++ h.told unregister h.options.unregisterTimeout reply))

theorem negotiates_of_protocol
    (goes : ∀ replies, GoesByProtocol register unregister r settle (h.expecting replies))
    (forgetful : ∀ answer, Routine.Forgetful (settle answer))
    (accepted : ∀ h, ((settle (.ok ())).run h).2.channel.bus.calls = h.channel.bus.calls)
    (refused : ∀ e, Routine.Minds MemoryBus.calls (settle (.error e))) :
    Negotiates register unregister r ((settle h.channel.bus.verdict).timeline (h.negotiated register unregister))
      (settle (.ok ())).run (fun e => (settle (.error e)).run) h := by
  have here : GoesByProtocol register unregister r settle h := goes h.channel.bus.replies
  refine ⟨here.timeline, ?_, fun ok => ?_, fun e error => ?_, fun e error => ?_, fun first rest stale => ?_⟩
  · rw [here.run, ← negotiated_calls]
    cases h.channel.bus.verdict with
    | ok => exact accepted _
    | error e => exact (refused e _).bus
  · rw [here.run, ok]
  · rw [here.run, error]
  · rw [here.run, error, (refused e _).application, (refused e _).advertisements]
    exact negotiated_beside register unregister h
  · let last := h.renegotiated register unregister rest
    let answer := rest.headD (.ok ())
    let deeds := (h.expecting [.error first]).protocol register unregister
    refine ⟨((settle answer).run last).1, ((settle answer).run last).2, deeds ++ (settle answer).timeline last,
      fun reply => ⟨?_, ?_⟩⟩
    · rw [(goes _).timeline, verdict_expecting stale, negotiated_expecting stale, (forgetful _).timeline,
        protocol_expecting stale]
    · rw [(goes _).run, verdict_expecting stale, negotiated_expecting stale, (forgetful _).run]

end Settling

/-! ## Applications and advertisements -/

theorem settleApplication_forgetful (answer : Except BusError Unit) : Routine.Forgetful (settleApplication answer) := by
  cases answer with
  | ok => exact .bind (.step fun _ _ => rfl) fun _ => .pure _
  | error e => exact .pure _

theorem settleApplication_timeline (answer : Except BusError Unit) (h : Host MemoryBus) :
    (settleApplication answer).timeline h = [] := by
  cases answer with
  | ok =>
      rw [settleApplication, Routine.timeline_bind, setState, Routine.timeline_step_silent fun _ => rfl]
      rfl
  | error e => rfl

section Refusals

variable (options : RegistrationOptions) (key : Nat) (a : Advertisement) (e : BusError)

theorem afterRefusal_minds : Routine.Minds MemoryBus.calls (afterRefusal options a e : Routine (Host MemoryBus) _) := by
  rw [afterRefusal]
  split
  · exact .of_moves (.pure _)
  · exact .tryFallbacks (MemoryBus.blindToProperties fun _ _ _ => rfl) _

theorem settleAdvertisement_forgetful (answer : Except BusError Unit) :
    Routine.Forgetful (settleAdvertisement options key a answer) := by
  cases answer with
  | ok => exact .bind (.step fun _ _ => rfl) fun _ => .pure _
  | error e =>
      rw [settleAdvertisement, afterRefusal]
      split
      · exact .pure _
      · exact .tryFallbacks _

theorem settleAdvertisement_timeline (answer : Except BusError Unit) (h : Host MemoryBus) :
    (∀ deed ∈ (settleAdvertisement options key a answer).timeline h, ∃ span, deed = .slept span) ∧
      (answer = .ok () → (settleAdvertisement options key a answer).timeline h = []) := by
  cases answer with
  | ok =>
      have none : (settleAdvertisement options key a (.ok ())).timeline h = [] := by
        rw [settleAdvertisement, Routine.timeline_bind, editAdvertisement,
          Routine.timeline_step_silent fun _ => rfl]
        rfl
      rw [none]
      exact ⟨fun deed member => (by cases member), fun _ => rfl⟩
  | error e =>
      refine ⟨?_, fun ok => by cases ok⟩
      rw [settleAdvertisement, afterRefusal]
      split
      · exact fun deed member => by cases member
      · exact tryFallbacks_timeline _ h

end Refusals

def Idle {α : Type} (r : Routine (Host MemoryBus) α) (h : Host MemoryBus) : Prop :=
  r.timeline h = [] ∧ (r.run h).2 = h

theorem registerApplication_idle {h : Host MemoryBus} (state : h.application.state ≠ .published) :
    h.Idle registerApplication := by
  rw [Idle, registerApplication, Routine.timeline_holding, Routine.timeline_bind_read, Routine.run_holding,
    Routine.run_bind', Routine.run_read]
  cases known : h.application.state with
  | published => exact absurd known state
  | unpublished => exact ⟨rfl, rfl⟩
  | registered => exact ⟨rfl, rfl⟩

theorem registerAdvertisement_idle {h : Host MemoryBus} {key : Nat}
    (other : ∀ a, h.advertisements[key]? = some a → a.registered = true ∨ a.published = false) :
    h.Idle (registerAdvertisement key) := by
  rw [Idle, registerAdvertisement, Routine.timeline_holding, Routine.timeline_bind_read, Routine.run_holding,
    Routine.run_bind', Routine.run_read]
  cases found : h.advertisements[key]? with
  | none => exact ⟨rfl, rfl⟩
  | some a =>
      cases registered : a.registered with
      | true =>
          simp only [registered]
          exact ⟨rfl, rfl⟩
      | false =>
          have published : a.published = false := (other a found).resolve_left (by simp [registered])
          simp only [registered, published]
          exact ⟨rfl, rfl⟩

/-- Whatever the manager replies: a published application, and an advertisement that is published and not
registered, go by the protocol when they register, and are registered exactly if the last call was answered
well. In every other state nothing is done. -/
theorem registration_protocol (h : Host MemoryBus) :
    (h.application.state = .published → h.Negotiates (.registerApplication h.application.path .empty)
      (.unregisterApplication h.application.path) registerApplication []
      (fun h => (.ok (), h.withState .registered)) fun e h => (.error (.bus e), h)) ∧
    (h.application.state ≠ .published → h.Idle registerApplication) ∧
    ∀ key,
      (∀ a, h.advertisements[key]? = some a → a.registered = false → a.published = true → ∃ naps,
        (∀ deed ∈ naps, ∃ span, deed = .slept span) ∧ (h.channel.bus.verdict = .ok () → naps = []) ∧
        h.Negotiates (.registerAdvertisement a.path .empty) (.unregisterAdvertisement a.path)
          (registerAdvertisement key) naps
          (fun h => (.ok .registered, h.withAdvertisement key fun a => { a with registered := true }))
          fun e => (afterRefusal h.options a e).run) ∧
      ((∀ a, h.advertisements[key]? = some a → a.registered = true ∨ a.published = false) →
        h.Idle (registerAdvertisement key)) := by
  refine ⟨fun published => ?_, registerApplication_idle, fun key => ⟨fun a found free published => ?_,
    registerAdvertisement_idle⟩⟩
  · have goes (replies : List (Except BusError Unit)) :
        GoesByProtocol (.registerApplication h.application.path .empty) (.unregisterApplication h.application.path)
          registerApplication settleApplication (h.expecting replies) :=
      registerApplication_protocol (h := h.expecting replies) published
    have negotiates := negotiates_of_protocol goes settleApplication_forgetful (fun _ => rfl)
      fun e => .of_moves (.pure _)
    rw [settleApplication_timeline] at negotiates
    exact negotiates
  · have goes (replies : List (Except BusError Unit)) :
        GoesByProtocol (.registerAdvertisement a.path .empty) (.unregisterAdvertisement a.path)
          (registerAdvertisement key) (settleAdvertisement h.options key a) (h.expecting replies) :=
      registerAdvertisement_protocol (h := h.expecting replies) found free published
    obtain ⟨naps, none⟩ := settleAdvertisement_timeline h.options key a h.channel.bus.verdict
      (h.negotiated (.registerAdvertisement a.path .empty) (.unregisterAdvertisement a.path))
    exact ⟨_, naps, none, negotiates_of_protocol goes (settleAdvertisement_forgetful h.options key a)
      (fun _ => rfl) (afterRefusal_minds h.options a)⟩

def conflict : BusError := .remote "org.bluez.Error.AlreadyExists" "Already Exists"

def contested : Host MemoryBus :=
  let bus := { MemoryBus.empty with replies := [.error conflict, .error .notConnected, .error conflict] }
  (publishApplication.run (new bus .root .root .standard)).2

theorem registration_protocol_contested :
    contested.application.state = .published ∧
      (registerApplication.run contested).1 = .error (.bus conflict) ∧
      (registerApplication.run contested).2.application = contested.application ∧
      registerApplication.timeline contested =
        [.called .root (.registerApplication .root .empty) (.ofSeconds 10),
          .called .root (.unregisterApplication .root) (.ofSeconds 5), .slept (.ofMillis 500),
          .called .root (.registerApplication .root .empty) (.ofSeconds 10)] := by
  have negotiates := (registration_protocol contested).1 rfl
  refine ⟨rfl, congrArg Prod.fst (negotiates.refused conflict rfl), (negotiates.unchanged conflict rfl).1, ?_⟩
  rw [negotiates.timeline]
  rfl

end Host
end GattPeripheral
