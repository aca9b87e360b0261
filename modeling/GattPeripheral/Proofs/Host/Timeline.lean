import GattPeripheral.Proofs.Host.Advertising

/-!
# Calls and sleeps, in order

`Routine.timeline` lists the calls that a routine makes and the sleeps that it asks for, in the order in which
they come; `timeline_bind` puts it together from the parts of a routine. A routine is `Forgetful` if what was
recorded before makes no difference to it. Main statements: `Host.call_timeline` and `Forgetful.tryFallbacks`.
-/

namespace GattPeripheral

inductive Deed where
  | called (adapter : ObjectPath) (call : ManagerCall) (timeout : Duration)
  | slept (span : Duration)

def Event.called? : Event → Option Deed
  | .called adapter call timeout => some (.called adapter call timeout)
  | _ => none

/-- Who asks for no time at all does not sleep. -/
def Deed.sleep (span : Duration) : List Deed := if span = .zero then [] else [.slept span]

variable {β α γ : Type}

def Host.calledUntil (h h' : Host β) : List Deed :=
  (h'.channel.trace.drop h.channel.trace.length).filterMap Event.called?

theorem Host.calledUntil_of_trace {h h' : Host β} {events : List Event}
    (trace : h'.channel.trace = h.channel.trace ++ events) : h.calledUntil h' = events.filterMap Event.called? := by
  rw [calledUntil, trace, List.drop_left]

theorem Host.calledUntil_same {h h' : Host β} (trace : h'.channel.trace = h.channel.trace) : h.calledUntil h' = [] :=
  calledUntil_of_trace (trace.trans (List.append_nil _).symm)

theorem Host.calledUntil_record (e : Event) (h : Host β) :
    h.calledUntil (h.onChannel (Channel.record e)).2 = e.called?.toList := by
  have one : h.calledUntil (h.onChannel (Channel.record e)).2 = [e].filterMap Event.called? := calledUntil_of_trace rfl
  rw [one]
  cases found : e.called? <;> simp [found]

namespace Routine

def timeline : Routine (Host β) α → Host β → List Deed
  | .done _, _ => []
  | .look next, h => timeline (next h) h
  | .put s next, h => h.calledUntil s ++ timeline next s
  | .sleep span next, h => Deed.sleep span ++ timeline next (Clocked.advance span.slept h)
  | .acquire _ next, h => timeline next h
  | .release _ next, h => timeline next h
  | .defer change next, h => h.calledUntil (change h) ++ timeline (next h) (change h)

theorem timeline_bind (r : Routine (Host β) α) (f : α → Routine (Host β) γ) (h : Host β) :
    (r >>= f).timeline h = r.timeline h ++ (f (r.run h).1).timeline (r.run h).2 := by
  change (r.bind f).timeline h = _
  induction r generalizing h with
  | done a => rfl
  | look next ih => exact ih h h
  | put s next ih => rw [bind, timeline, timeline, ih, List.append_assoc]; rfl
  | sleep span next ih => rw [bind, timeline, timeline, ih, List.append_assoc]; rfl
  | acquire lock next ih => exact ih h
  | release lock next ih => exact ih h
  | defer change next ih => rw [bind, timeline, timeline, ih, List.append_assoc]; rfl

theorem timeline_bind_read (f : Host β → Routine (Host β) α) (h : Host β) :
    (read >>= f).timeline h = (f h).timeline h := timeline_bind read f h

@[simp] theorem timeline_step (f : Host β → α × Host β) (h : Host β) :
    (step f).timeline h = h.calledUntil (f h).2 := List.append_nil _

theorem timeline_step_silent {f : Host β → α × Host β} (silent : ∀ h, (f h).2.channel.trace = h.channel.trace)
    (h : Host β) : (step f).timeline h = [] := (timeline_step f h).trans (Host.calledUntil_same (silent h))

@[simp] theorem timeline_exchange (f : Host β → α × Host β) (h : Host β) :
    (exchange f).timeline h = h.calledUntil (f h).2 := List.append_nil _

@[simp] theorem timeline_wait (span : Duration) (h : Host β) :
    (wait span).timeline h = Deed.sleep span := List.append_nil _

@[simp] theorem timeline_holding (lock : Lock) (body : Routine (Host β) α) (h : Host β) :
    (holding lock body).timeline h = body.timeline h := by
  change (body >>= fun a => release lock (done a)).timeline h = _
  rw [timeline_bind]
  exact List.append_nil _

end Routine

/-! ## Requests -/

namespace Host

variable [Transport β] (h : Host β)

theorem travel_timeline (act : StateM (Channel β) α) : (travel act).timeline h = h.calledUntil (h.onChannel act).2 := by
  rw [travel, Routine.timeline_bind_read]
  split
  · exact Routine.timeline_exchange _ h
  · exact Routine.timeline_step _ h

omit [Transport β] in
theorem record_timeline (e : Event) : (record e : Routine (Host β) _).timeline h = e.called?.toList := by
  rw [record, Routine.timeline_step, calledUntil_record]

theorem call_timeline (c : ManagerCall) (timeout : Duration) : (call c timeout).timeline h =
    .called h.adapter c timeout :: Deed.sleep (Transport.call h.adapter c timeout h.channel.bus).1.delay := by
  let told : Host β := ((record (.called h.adapter c timeout)).run h).2
  have meanwhile : (travel (answerCall h.adapter c timeout)).timeline told = [] := by
    rw [travel_timeline, ← Routine.Minds.travel_run, travel_answerCall, calledUntil_of_trace rfl,
      List.filterMap_eq_nil_iff]
    intro e member
    rw [CallOutcome.eq_of_mem_receipt member]
    rfl
  rw [call, Routine.timeline_bind_read, Routine.timeline_bind, record_timeline, Routine.timeline_bind, meanwhile,
    travel_answerCall, Routine.timeline_bind, Routine.timeline_wait]
  cases (Transport.call h.adapter c timeout h.channel.bus).1.result with
  | ok => exact congrArg (List.cons _) (List.append_nil _)
  | error e =>
      dsimp only
      rw [Routine.timeline_bind, record_timeline]
      exact congrArg (List.cons _) (List.append_nil _)

end Host

/-! ## Routines that call nobody -/

namespace Routine

theorem Moves.only_sleeps {R : Host β → Host β → Prop} (quiet : ∀ h h', R h h' → h.calledUntil h' = [])
    {r : Routine (Host β) α} (moves : Moves R r) (h : Host β) : ∀ m ∈ r.timeline h, ∃ span, m = .slept span := by
  induction moves generalizing h with
  | done a => exact fun m member => by cases member
  | look _ ih => exact ih h h
  | change each _ ih =>
      rw [timeline, timeline, quiet _ _ (each h)]
      exact ih h _
  | @sleep span next each _ ih =>
      intro m member
      rcases List.mem_append.mp member with here | later
      · rw [Deed.sleep] at here
        split at here
        · cases here
        · exact ⟨span, List.mem_singleton.mp here⟩
      · exact ih _ m later
  | acquire _ ih => exact ih h
  | release _ ih => exact ih h
  | defer each _ ih =>
      rw [timeline, quiet _ _ (each h)]
      exact ih h _

end Routine

theorem Host.allowsQuestions_quiet [Transport β] :
    AllowsQuestions fun h h' : Host β => h.calledUntil h' = [] where
  clock h span := calledUntil_same rfl
  runs h runs := calledUntil_same rfl
  getProperty h path interface name := calledUntil_same rfl
  setProperty h path interface name value := calledUntil_same rfl
  record h e question := by
    rw [calledUntil_record]
    cases e <;> first | rfl | cases question

theorem Host.tryFallbacks_timeline [Transport β] (steps : List FallbackStep) (h : Host β) :
    ∀ m ∈ (tryFallbacks steps).timeline h, ∃ span, m = .slept span :=
  Routine.Moves.only_sleeps (fun _ _ => id) (.tryFallbacks allowsQuestions_quiet steps) h

/-! ## What was recorded before -/

def Host.recalling (past : List Event) (h : Host β) : Host β :=
  { h with channel := ⟨h.channel.bus, past ++ h.channel.trace⟩ }

theorem Host.calledUntil_recalling (past : List Event) (h h' : Host β) :
    (h.recalling past).calledUntil (h'.recalling past) = h.calledUntil h' := by
  have longer : (h.recalling past).channel.trace.length = past.length + h.channel.trace.length := List.length_append
  rw [calledUntil, longer, ← List.drop_drop, show (h'.recalling past).channel.trace = past ++ h'.channel.trace from rfl,
    List.drop_left]
  rfl

namespace Routine

structure Forgetful (r : Routine (Host β) α) : Prop where
  run : ∀ past h, r.run (h.recalling past) = ((r.run h).1, (r.run h).2.recalling past)
  timeline : ∀ past h, r.timeline (h.recalling past) = r.timeline h

namespace Forgetful

theorem pure (a : α) : Forgetful (Pure.pure a : Routine (Host β) α) := ⟨fun _ _ => rfl, fun _ _ => rfl⟩

theorem bind {r : Routine (Host β) α} {f : α → Routine (Host β) γ} (first : Forgetful r)
    (later : ∀ a, Forgetful (f a)) : Forgetful (r >>= f) where
  run past h := by rw [run_bind', first.run, (later _).run, run_bind']
  timeline past h := by rw [timeline_bind, first.run, first.timeline, (later _).timeline, timeline_bind]

theorem step {f : Host β → α × Host β}
    (each : ∀ past h, f (h.recalling past) = ((f h).1, (f h).2.recalling past)) : Forgetful (Routine.step f) where
  run past h := each past h
  timeline past h := by rw [timeline_step, each, Host.calledUntil_recalling, timeline_step]

theorem wait (span : Duration) : Forgetful (Routine.wait span : Routine (Host β) _) :=
  ⟨fun _ _ => rfl, fun _ _ => rfl⟩

theorem record (e : Event) : Forgetful (Host.record e : Routine (Host β) _) := by
  refine .step fun past h => ?_
  rw [Host.onChannel, Host.onChannel, Host.recalling, Host.recalling]
  exact congrArg (fun trace => ((), { h with channel := ⟨h.channel.bus, trace⟩ })) (List.append_assoc _ _ _)

variable [Transport β]

theorem travel {act : StateM (Channel β) α} (each : ∀ past (h : Host β), (h.recalling past).onChannel act =
    ((h.onChannel act).1, (h.onChannel act).2.recalling past)) : Forgetful (Host.travel act) where
  run past h := by rw [Minds.travel_run, each, Minds.travel_run]
  timeline past h := by rw [Host.travel_timeline, each, Host.calledUntil_recalling, Host.travel_timeline]

theorem request (act : Request β α) (event : Option BusError → Event) : Forgetful (Host.request act event) :=
  .bind (.travel fun _ _ => rfl) fun _ => .bind (.record _) fun _ => .pure _

theorem powerOn (path : ObjectPath) : Forgetful (Adapter.powerOn path : Routine (Host β) _) := by
  refine .bind (.bind (.bind (.request _ _) fun _ => .pure _) fun _ => .pure _) fun powered => ?_
  split
  · exact .pure _
  · exact .pure _
  · refine .bind (.bind (.request _ _) fun _ => .pure _) fun outcome => ?_
    split
    · exact .pure _
    · exact .bind (.wait _) fun _ => .pure _

omit [Transport β] in
theorem runProgram (program : String) (arguments : List String) (input : String) :
    Forgetful (Routine.step (Host.runProgram program arguments input) : Routine (Host β) _) := by
  refine .step fun past h => ?_
  rw [Host.runProgram, Host.runProgram, show (h.recalling past).programs = h.programs from rfl]
  split
  · rfl
  · split <;> rfl

theorem enableFallback (step : FallbackStep) : Forgetful (Host.enableFallback step : Routine (Host β) _) := by
  cases step with
  | controllerMenu => exact .runProgram _ _ _
  | legacyAdvertise device => exact .runProgram _ _ _
  | discoverable adapter =>
      refine .bind (.powerOn adapter) fun outcome => ?_
      split
      · exact .pure _
      · exact .bind (.request _ _) fun _ => .pure _
  | supplied name outcome => exact .bind (.record _) fun _ => .pure _

theorem tryFallbacks (steps : List FallbackStep) : Forgetful (Host.tryFallbacks steps : Routine (Host β) _) := by
  induction steps with
  | nil => exact .pure _
  | cons step steps ih =>
      refine .bind (.enableFallback step) fun outcome => ?_
      split
      · exact .pure _
      · exact ih

end Forgetful
end Routine
end GattPeripheral
