import GattPeripheral.Proofs.Connection.Following
import GattPeripheral.Proofs.Host.Advertising
import GattPeripheral.Proofs.Host.Manager
import GattPeripheral.Proofs.Host.Registration
import GattPeripheral.Proofs.Host.Sequences
import GattPeripheral.Proofs.Tree.Walks

/-!
# Dealings with the managers

A `Ledger` holds the calls that a host made to the managers of the adapter, and what the host takes to be
registered. `Host.ascent_rises`: bringing up makes at most one attempt at each registration.
`Host.descent_falls`: taking down makes one call for each registration that stands.
-/

namespace GattPeripheral

variable {β α : Type}

structure Deal where
  call : ManagerCall
  failure : Option BusError
  deriving DecidableEq

def Deal.note (deals : List Deal) : Event → List Deal
  | .called _ call _ => deals ++ [⟨call, none⟩]
  | .callFailed e => deals.dropLast ++ deals.getLast?.toList.map fun d => { d with failure := some e }
  | _ => deals

theorem Deal.foldl_note_received {adapter : ObjectPath} {c : ManagerCall} {events : List Event}
    (only : ∀ e ∈ events, e = .received adapter c) (deals : List Deal) :
    events.foldl note deals = deals := by
  induction events with
  | nil => rfl
  | cons e events ih =>
      rw [List.foldl_cons, only e List.mem_cons_self]
      exact ih fun e member => only e (List.mem_cons_of_mem _ member)

def Channel.deals (c : Channel β) : List Deal := c.trace.foldl Deal.note []

theorem Channel.deals_record (bus : β) (trace : List Event) (e : Event) :
    Channel.deals ⟨bus, trace ++ [e]⟩ = Deal.note (Channel.deals ⟨bus, trace⟩) e := List.foldl_concat ..

/-- The deals of one registration, and whether it was made. A stale entry is dropped before a second try. -/
inductive Attempt (register unregister : ManagerCall) : Bool → List Deal → Prop
  | none : Attempt register unregister false []
  | once {failure : Option BusError} (fresh : failure.any (·.isAlreadyExists) = false) :
      Attempt register unregister failure.isNone [⟨register, failure⟩]
  | again {stale : BusError} (known : stale.isAlreadyExists = true) (dropped failure : Option BusError) :
      Attempt register unregister failure.isNone [⟨register, some stale⟩, ⟨unregister, dropped⟩, ⟨register, failure⟩]

/-- What a host dealt with the managers so far, and what it takes to be registered. -/
@[ext] structure Ledger where
  key : Option (Option Nat)
  path : ObjectPath
  registered : Bool
  advertisements : List (ObjectPath × Bool)
  deals : List Deal

namespace Ledger

def add (deals : List Deal) (l : Ledger) : Ledger := { l with deals := l.deals ++ deals }

def Suits (key : Option Nat) (l : Ledger) : Prop :=
  key = none ∧ l.advertisements = [] ∨ key = some 0 ∧ ∃ path flag, l.advertisements = [(path, flag)]

structure Idle (l : Ledger) : Prop where
  registered : l.registered = false
  advertisements : ∀ a ∈ l.advertisements, a.2 = false

def farewells (l : Ledger) : List ManagerCall :=
  (l.advertisements.filter (·.2)).map (fun a => .unregisterAdvertisement a.1) ++
    if l.registered then [.unregisterApplication l.path] else []

def Registers (l l' : Ledger) : Prop := ∃ made deals, l' = { l.add deals with registered := made } ∧
  Attempt (.registerApplication l.path .empty) (.unregisterApplication l.path) made deals

def Airs (path : ObjectPath) (l l' : Ledger) : Prop := ∃ made deals,
  l' = { l.add deals with advertisements := [(path, made)] } ∧
    Attempt (.registerAdvertisement path .empty) (.unregisterAdvertisement path) made deals

def Unregisters (l l' : Ledger) : Prop := ∃ deals, l' = { l.add deals with registered := false } ∧
  deals.map Deal.call = if l.registered then [.unregisterApplication l.path] else []

def Hides (l l' : Ledger) : Prop := ∃ deals,
  l' = { l.add deals with advertisements := l.advertisements.map fun a => (a.1, false) } ∧
    deals.map Deal.call = (l.advertisements.filter (·.2)).map fun a => .unregisterAdvertisement a.1

/-- The ledger after a peripheral was brought up as far as it went. -/
structure Rises (l l' : Ledger) : Prop where
  key : l'.key = l.key
  path : l'.path = l.path
  dealt : ∃ application advertisement, l'.deals = l.deals ++ application ++ advertisement ∧
    Attempt (.registerApplication l.path .empty) (.unregisterApplication l.path) l'.registered application ∧
    (l'.advertisements = l.advertisements ∧ advertisement = [] ∨
      ∃ path made, l.advertisements = [(path, false)] ∧ l'.advertisements = [(path, made)] ∧
        Attempt (.registerAdvertisement path .empty) (.unregisterAdvertisement path) made advertisement)

structure Falls (l l' : Ledger) : Prop where
  key : l'.key = l.key
  path : l'.path = l.path
  registered : l'.registered = false
  advertisements : l'.advertisements = l.advertisements.map fun a => (a.1, false)
  dealt : ∃ deals, l'.deals = l.deals ++ deals ∧ deals.map Deal.call = l.farewells

variable {l l' l'' : Ledger} {path : ObjectPath}

theorem add_nil (l : Ledger) : l.add [] = l := Ledger.ext rfl rfl rfl rfl (List.append_nil _)

theorem Registers.of_free (free : l.registered = false) : l.Registers l :=
  ⟨false, [], by rw [add_nil, ← free], .none⟩

theorem Airs.of_free (only : l.advertisements = [(path, false)]) : l.Airs path l :=
  ⟨false, [], by rw [add_nil, ← only], .none⟩

theorem Unregisters.of_free (free : l.registered = false) : l.Unregisters l :=
  ⟨[], by rw [add_nil, ← free], by rw [free]; rfl⟩

theorem filter_of_off {advertisements : List (ObjectPath × Bool)} (off : ∀ a ∈ advertisements, a.2 = false) :
    advertisements.filter (·.2) = [] :=
  List.filter_eq_nil_iff.mpr fun a member => by simp [off a member]

theorem Hides.of_off (off : ∀ a ∈ l.advertisements, a.2 = false) : l.Hides l := by
  have each (a : ObjectPath × Bool) (member : a ∈ l.advertisements) : (a.1, false) = a :=
    Prod.ext rfl (off a member).symm
  have same : l.advertisements.map (fun a => (a.1, false)) = l.advertisements :=
    (List.map_congr_left each).trans (List.map_id' _)
  exact ⟨[], by rw [add_nil, same], by rw [filter_of_off off]; rfl⟩

theorem Registers.rises (registers : l.Registers l') : l.Rises l' := by
  obtain ⟨made, deals, rfl, attempt⟩ := registers
  exact ⟨rfl, rfl, deals, [], (List.append_nil _).symm, attempt, .inl ⟨rfl, rfl⟩⟩

theorem Registers.airs (registers : l.Registers l') (only : l.advertisements = [(path, false)])
    (airs : l'.Airs path l'') : l.Rises l'' := by
  obtain ⟨made, deals, rfl, attempt⟩ := registers
  obtain ⟨aired, later, rfl, attempt'⟩ := airs
  exact ⟨rfl, rfl, deals, later, rfl, attempt, .inr ⟨path, aired, only, rfl, attempt'⟩⟩

theorem Hides.falls (hides : l.Hides l') (unregisters : l'.Unregisters l'') : l.Falls l'' := by
  obtain ⟨deals, rfl, calls⟩ := hides
  obtain ⟨later, rfl, calls'⟩ := unregisters
  refine ⟨rfl, rfl, rfl, rfl, deals ++ later, List.append_assoc _ _ _, ?_⟩
  rw [List.map_append, calls, calls']
  rfl

end Ledger

namespace Host

open Routine

def ledger (h : Host β) : Ledger where
  key := h.peripheral.map Peripheral.advertisement
  path := h.application.path
  registered := h.application.isRegistered
  advertisements := h.advertisements.map fun a => (a.path, a.registered)
  deals := h.channel.deals

abbrev KeepsLedger (h h' : Host β) : Prop := h'.ledger = h.ledger

theorem KeepsLedger.run {r : Routine (Host β) α} (moves : Moves KeepsLedger r) (h : Host β) :
    (r.run h).2.ledger = h.ledger :=
  Moves.run (R := KeepsLedger) (fun _ => rfl) (fun first second => Eq.trans second first) moves h

theorem editPeripheral_ledger (edit : Peripheral → Peripheral) (same : ∀ p, (edit p).advertisement = p.advertisement)
    (h : Host β) : ((editPeripheral edit).run h).2.ledger = h.ledger := by
  have key : (h.peripheral.map edit).map Peripheral.advertisement = h.peripheral.map Peripheral.advertisement := by
    rw [Option.map_map]
    exact congrArg (Option.map · h.peripheral) (funext same)
  exact congrArg (Ledger.mk · _ _ _ _) key

theorem onApplication_ledger {act : Application → StateM (Channel β) (Application × α)} {h : Host β}
    (free : h.application.isRegistered = false) {state : ApplicationState} (other : state ≠ .registered)
    (kept : (act h.application h.channel).1.1.path = h.application.path ∧
      ((act h.application h.channel).1.1.state = h.application.state ∨ (act h.application h.channel).1.1.state = state))
    (unseen : (act h.application h.channel).2.deals = h.channel.deals) : (h.onApplication act).2.ledger = h.ledger := by
  obtain ⟨path, same | changed⟩ := kept
  · exact Ledger.ext rfl path (congrArg (fun s => decide (s = ApplicationState.registered)) same) rfl unseen
  · refine Ledger.ext rfl path (Eq.trans ?_ free.symm) rfl unseen
    exact decide_eq_false (changed ▸ other)

theorem onAdvertisement_ledger {act : Advertisement → StateM (Channel β) (Advertisement × α)}
    (keeps : ∀ a c, (act a c).1.1.path = a.path ∧ (act a c).1.1.registered = a.registered)
    (unseen : ∀ a c, (act a c).2.deals = c.deals) (key : Nat) (h : Host β) :
    (h.onAdvertisement key act).2.ledger = h.ledger := by
  have advertisements := onAdvertisement_map (f := fun a => (a.path, a.registered))
    (fun a c => Prod.ext (keeps a c).1 (keeps a c).2) key h
  have others : (h.onAdvertisement key act).2.peripheral = h.peripheral ∧
      (h.onAdvertisement key act).2.application = h.application ∧
      (h.onAdvertisement key act).2.channel.deals = h.channel.deals := by
    rw [onAdvertisement]
    cases h.advertisements[key]? with
    | none => exact ⟨rfl, rfl, rfl⟩
    | some a => exact ⟨rfl, rfl, unseen a h.channel⟩
  rw [ledger, others.1, others.2.1, others.2.2, advertisements]
  rfl

variable {path : ObjectPath} {flag : Bool}

theorem only_of_ledger {h : Host β} (only : h.ledger.advertisements = [(path, flag)]) :
    ∃ a, h.advertisements = [a] ∧ a.path = path ∧ a.registered = flag := by
  obtain ⟨a, only, same⟩ := List.map_eq_singleton_iff.mp only
  exact ⟨a, only, congrArg Prod.fst same, congrArg Prod.snd same⟩

theorem withAdvertisement_ledger {h : Host β} (only : h.ledger.advertisements = [(path, flag)])
    (edit : Advertisement → Advertisement) {now : Bool}
    (becomes : ∀ a, a.registered = flag → (edit a).path = a.path ∧ (edit a).registered = now) :
    (h.withAdvertisement 0 edit).ledger = { h.ledger with advertisements := [(path, now)] } := by
  obtain ⟨a, found, rfl, same⟩ := only_of_ledger only
  obtain ⟨kept, now⟩ := becomes a same
  refine Ledger.ext rfl rfl rfl ?_ rfl
  change (h.advertisements.modify 0 edit).map _ = _
  rw [found]
  exact congrArg (fun x => [x]) (Prod.ext kept now)

variable [Transport β]

/-! ## Calls -/

theorem call_ledger (c : ManagerCall) (timeout : Duration) (h : Host β) :
    ((call c timeout).run h).2.ledger = h.ledger.add [⟨c, Channel.failure? ((call c timeout).run h).1⟩] := by
  have run := call_outcome c timeout h
  have dealt : ((call c timeout).run h).2.channel.deals =
      h.channel.deals ++ [⟨c, Channel.failure? ((call c timeout).run h).1⟩] := by
    rw [run]
    simp only [Channel.deals, List.foldl_append, Deal.foldl_note_received fun _ => CallOutcome.eq_of_mem_receipt]
    cases (Transport.call h.adapter c timeout h.channel.bus).1.result with
    | ok => rfl
    | error e => simp [Channel.failure?, Deal.note]
  simp only [ledger, Ledger.add, dealt]
  rw [run]

theorem KeepsLedger.allowsQuestions : AllowsQuestions (β := β) KeepsLedger where
  clock _ _ := rfl
  runs _ _ := rfl
  getProperty _ _ _ _ := rfl
  setProperty _ _ _ _ _ := rfl
  record h e question := by
    have same : (h.onChannel (Channel.record e)).2.channel.deals = h.channel.deals := by
      refine (Channel.deals_record _ _ _).trans ?_
      cases e <;> first | rfl | cases question
    exact congrArg (Ledger.mk _ _ _ _) same

theorem dropRegistration_ledger (unregister : ManagerCall) (h : Host β) :
    ∃ failure, ((dropRegistration unregister).run h).2.ledger = h.ledger.add [⟨unregister, failure⟩] := by
  have dealt := call_ledger unregister h.options.unregisterTimeout h
  refine ⟨_, Eq.trans ?_ dealt⟩
  rw [dropRegistration, run_bind', run_read, run_bind']
  cases ((call unregister h.options.unregisterTimeout).run h).1 <;> rfl

theorem makeRegistration_ledger (register unregister : ManagerCall) (h : Host β) : ∃ deals,
    ((makeRegistration register unregister).run h).2.ledger = h.ledger.add deals ∧
      Attempt register unregister (Channel.failure? ((makeRegistration register unregister).run h).1).isNone deals := by
  have first := call_ledger register h.options.timeout h
  rw [makeRegistration, run_bind', run_read, run_bind']
  cases answer : (call register h.options.timeout).run h with
  | mk result told =>
      rw [answer] at first
      cases result with
      | ok => exact ⟨_, first, .once rfl⟩
      | error e =>
          cases known : e.isAlreadyExists with
          | false =>
              simp only [known]
              exact ⟨_, first, .once known⟩
          | true =>
              obtain ⟨dropped, second⟩ := dropRegistration_ledger unregister told
              simp only [known, if_true, run_bind']
              let rested := ((Routine.wait h.options.retryDelay).run ((dropRegistration unregister).run told).2).2
              have third := call_ledger register h.options.timeout rested
              refine ⟨_, ?_, .again known dropped (Channel.failure? ((call register h.options.timeout).run rested).1)⟩
              refine third.trans ?_
              rw [show rested.ledger = _ from second, first]
              simp [Ledger.add, Channel.failure?]

/-! ## Publications -/

theorem deals_blindToExports : Channel.BlindToExports (Channel.deals (β := β)) :=
  ⟨fun _ _ _ => Channel.deals_record _ _ _, fun _ _ _ => Channel.deals_record _ _ _⟩

theorem deals_blindToSubscriptions : Channel.BlindToSubscriptions (Channel.deals (β := β)) :=
  ⟨fun _ _ => Channel.deals_record _ _ _, fun _ _ => Channel.deals_record _ _ _⟩

theorem startTracker_ledger (h : Host β) : (startTracker.run h).2.ledger = h.ledger :=
  congrArg (Ledger.mk _ _ _ _) (Tracker.start_unseen deals_blindToSubscriptions h.tracker h.channel)

theorem stopTracker_ledger (h : Host β) : (stopTracker.run h).2.ledger = h.ledger :=
  congrArg (Ledger.mk _ _ _ _) (Tracker.stop_unseen deals_blindToSubscriptions h.tracker h.channel)

theorem publishApplication_ledger {h : Host β} (free : h.ledger.registered = false) :
    (publishApplication.run h).2.ledger = h.ledger :=
  onApplication_ledger free (by decide) (h.application.publish_state h.channel)
    (h.application.publish_unseen deals_blindToExports h.channel)

theorem unpublishApplication_ledger {h : Host β} (free : h.ledger.registered = false) :
    (unpublishApplication.run h).2.ledger = h.ledger := by
  rw [unpublishApplication_eq, show h.application.isRegistered = false from free]
  exact onApplication_ledger free (by decide) (h.application.withdraw_state h.channel)
    (h.application.withdraw_unseen deals_blindToExports h.channel)

theorem publishAdvertisement_ledger (key : Nat) (h : Host β) :
    ((publishAdvertisement key).run h).2.ledger = h.ledger := by
  refine onAdvertisement_ledger (fun a c => publish_keeps key a c) (fun a c => ?_) key h
  rw [Advertisement.publish, stateM_bind]
  have unseen := deals_blindToExports.exportNode a.path (.advertisement key) c
  cases (Channel.exportNode a.path (.advertisement key) c).1 <;> exact unseen

theorem unpublishAdvertisement_ledger (key : Nat) (h : Host β) :
    ((unpublishAdvertisement key).run h).2.ledger = h.ledger :=
  onAdvertisement_ledger (fun _ _ => ⟨rfl, rfl⟩) (fun a c => deals_blindToExports.unexportNode a.path .advertisement c)
    key h

/-! ## Registrations -/

theorem registerApplication_ledger {h : Host β} (free : h.ledger.registered = false) :
    h.ledger.Registers (registerApplication.run h).2.ledger := by
  have made : ∃ deals, (h.makeOwnRegistration.run h).2.ledger = h.ledger.add deals ∧
      Attempt (.registerApplication h.ledger.path .empty) (.unregisterApplication h.ledger.path)
        (Channel.failure? (h.makeOwnRegistration.run h).1).isNone deals := makeRegistration_ledger _ _ h
  have runs := h.registerApplication_run
  generalize h.makeOwnRegistration.run h = done at made runs
  obtain ⟨deals, ledger, attempt⟩ := made
  rcases runs with ⟨-, same, -⟩ | ⟨-, ⟨e, failed, run⟩ | ⟨ok, run⟩⟩
  · rw [same]
    exact .of_free free
  · rw [failed] at attempt
    rw [run]
    exact ⟨false, deals, ledger.trans (Ledger.ext rfl rfl free rfl rfl), attempt⟩
  · rw [ok] at attempt
    rw [run]
    exact ⟨true, deals, congrArg (fun l => { l with registered := true }) ledger, attempt⟩

theorem unregisterApplication_ledger (h : Host β) : h.ledger.Unregisters (unregisterApplication.run h).2.ledger := by
  rcases h.unregisterApplication_run with ⟨free, run⟩ | ⟨registered, run⟩
  · rw [run]
    exact .of_free free
  · obtain ⟨failure, dropped⟩ := dropRegistration_ledger (.unregisterApplication h.application.path) h
    rw [run]
    refine ⟨_, congrArg (fun l => { l with registered := false }) dropped, ?_⟩
    rw [show h.ledger.registered = true from registered]
    rfl

theorem registerAdvertisement_ledger {h : Host β} (only : h.ledger.advertisements = [(path, false)]) :
    h.ledger.Airs path ((registerAdvertisement 0).run h).2.ledger := by
  obtain ⟨a, found, rfl, free⟩ := only_of_ledger only
  have made : ∃ deals, ((makeAdvertised a).run h).2.ledger = h.ledger.add deals ∧
      Attempt (.registerAdvertisement a.path .empty) (.unregisterAdvertisement a.path)
        (Channel.failure? ((makeAdvertised a).run h).1).isNone deals := makeRegistration_ledger _ _ h
  have runs := registerAdvertisement_run h (get?_of_only found)
  generalize (makeAdvertised a).run h = done at made runs
  obtain ⟨deals, ledger, attempt⟩ := made
  have kept : done.2.ledger = { h.ledger.add deals with advertisements := [(a.path, false)] } :=
    ledger.trans (Ledger.ext rfl rfl rfl only rfl)
  rcases runs with ⟨registered, -⟩ | ⟨-, -, e, run⟩ | ⟨-, -, ⟨ok, run⟩ | ⟨e, failed, run | ⟨steps, run⟩⟩⟩
  · cases free.symm.trans registered
  · rw [run]
    exact .of_free only
  · rw [ok] at attempt
    rw [run]
    have only : done.2.ledger.advertisements = [(a.path, false)] := by rw [kept]
    refine ⟨true, deals, ?_, attempt⟩
    refine (withAdvertisement_ledger only (fun a => { a with registered := true }) fun _ _ => ⟨rfl, rfl⟩).trans ?_
    rw [ledger]
  · rw [failed] at attempt
    rw [run]
    exact ⟨false, deals, kept, attempt⟩
  · rw [failed] at attempt
    rw [run, KeepsLedger.run (.tryFallbacks KeepsLedger.allowsQuestions steps)]
    exact ⟨false, deals, kept, attempt⟩

theorem unregisterAdvertisement_ledger {h : Host β} (only : h.ledger.advertisements = [(path, flag)]) :
    h.ledger.Hides ((unregisterAdvertisement 0).run h).2.ledger := by
  obtain ⟨a, found, rfl, rfl⟩ := only_of_ledger only
  rcases unregisterAdvertisement_run h (get?_of_only found) with ⟨free, run⟩ | ⟨registered, run⟩
  · rw [run]
    refine .of_off fun b member => ?_
    rw [only, List.mem_singleton] at member
    exact member ▸ free
  · obtain ⟨failure, dropped⟩ := dropRegistration_ledger (.unregisterAdvertisement a.path) h
    have only' : ((dropAdvertised a).run h).2.ledger.advertisements = [(a.path, a.registered)] := by
      rw [show ((dropAdvertised a).run h).2.ledger = _ from dropped]
      exact only
    rw [run]
    refine ⟨[⟨.unregisterAdvertisement a.path, failure⟩], ?_, by rw [only, registered]; rfl⟩
    refine (withAdvertisement_ledger only' Advertisement.release fun _ _ => ⟨rfl, rfl⟩).trans ?_
    rw [show ((dropAdvertised a).run h).2.ledger = _ from dropped, only]
    rfl

theorem bringUpAdvertisement_ledger {h : Host β} (only : h.ledger.advertisements = [(path, false)]) :
    h.ledger.Airs path ((bringUpAdvertisement 0).run h).2.ledger := by
  let equip (a : Advertisement) : Advertisement := { a with fallbacks := FallbackStep.defaultChain h.adapter }
  let ready := h.withAdvertisement 0 equip
  have equipped : ready.ledger = h.ledger := by
    refine (withAdvertisement_ledger only equip fun _ free => ⟨rfl, free⟩).trans ?_
    exact Ledger.ext rfl rfl rfl only.symm rfl
  have shown := publishAdvertisement_ledger 0 ready
  rw [bringUpAdvertisement, run_bind', run_read, run_bind', run_bind']
  rw [show ((editAdvertisement 0 equip).run h).2 = ready from rfl]
  cases published : (publishAdvertisement 0).run ready with
  | mk result h' =>
      rw [published, equipped] at shown
      rw [← show h'.ledger = _ from shown] at only ⊢
      cases result with
      | error e => exact .of_free only
      | ok =>
          have airs := registerAdvertisement_ledger only
          simp only [run_bind']
          cases answered : (registerAdvertisement 0).run h' with
          | mk answer last =>
              rw [answered] at airs
              cases answer with
              | error e => exact airs
              | ok mode =>
                  have kept := editPeripheral_ledger (fun p => { p with mode := some mode }) (fun _ => rfl) last
                  rw [← show _ = last.ledger from kept] at airs
                  exact airs

/-! ## Up and down -/

theorem ascent_rises (p : Peripheral) (adapter : ObjectPath) {h : Host β} (suits : h.ledger.Suits p.advertisement)
    (idle : h.ledger.Idle) : h.ledger.Rises ((untilFailure (ascent p adapter)).run h).2.ledger := by
  have keeps {r : Routine (Host β) (Except GattError Unit)} (moves : Moves KeepsLedger r) (s : Host β)
      (same : h.ledger = s.ledger) : h.ledger = (r.run s).2.ledger := same.trans (KeepsLedger.run moves s).symm
  have publish (s : Host β) (same : h.ledger = s.ledger) : h.ledger = (publishApplication.run s).2.ledger :=
    same.trans (publishApplication_ledger (same ▸ idle.registered)).symm
  have register (s : Host β) (same : h.ledger = s.ledger) :
      h.ledger.Registers (registerApplication.run s).2.ledger := by
    rw [same]
    exact registerApplication_ledger (same ▸ idle.registered)
  have ended (l : Ledger) (same : h.ledger = l) : h.ledger.Rises l :=
    same ▸ (Ledger.Registers.of_free idle.registered).rises
  have follow (s : Host β) (rises : h.ledger.Rises s.ledger) : h.ledger.Rises (startTracker.run s).2.ledger := by
    rwa [startTracker_ledger]
  have climb {rest : List (Routine (Host β) (Except GattError Unit))}
      (last : ∀ s, h.ledger.Registers s.ledger → h.ledger.Rises ((untilFailure rest).run s).2.ledger) :
      h.ledger.Rises ((untilFailure ([Adapter.powerOn adapter, giveName adapter p.adapterName, publishApplication,
        registerApplication] ++ rest)).run h).2.ledger :=
    untilFailure_leads ledger (keeps (.powerOn KeepsLedger.allowsQuestions adapter)) ended
      (untilFailure_leads ledger (keeps (giveName_moves KeepsLedger.allowsQuestions adapter p.adapterName)) ended
        (untilFailure_leads ledger publish ended
          (untilFailure_leads ledger register (fun _ registers => registers.rises) last))) h rfl
  rw [ascent, List.append_assoc]
  rcases suits with ⟨key, none⟩ | ⟨key, path, flag, only⟩
  · rw [key]
    exact climb (untilFailure_leads ledger (fun s registers => follow s registers.rises) (fun _ => id) fun _ => id)
  · rw [key]
    have free : flag = false := idle.advertisements _ (only ▸ List.mem_singleton_self _)
    subst free
    refine climb (untilFailure_leads ledger (fun s registers => registers.airs only ?_) (fun _ => id)
      (untilFailure_leads ledger follow (fun _ => id) fun _ => id))
    obtain ⟨made, deals, same, -⟩ := registers
    exact bringUpAdvertisement_ledger (same ▸ only : s.ledger.advertisements = [(path, false)])

theorem descent_falls (p : Peripheral) {h : Host β} (suits : h.ledger.Suits p.advertisement) :
    h.ledger.Falls ((inTurn (descent p)).run h).2.ledger := by
  have stop (s : Host β) (same : h.ledger = s.ledger) : h.ledger = ((surely stopTracker).run s).2.ledger :=
    same.trans (stopTracker_ledger s).symm
  have hide (key : Nat) (s : Host β) (hides : h.ledger.Hides s.ledger) :
      h.ledger.Hides ((hideAdvertisementAt key).run s).2.ledger := by
    rw [hideAdvertisementAt, run_bind', run_read]
    split
    · rwa [unpublishAdvertisement_ledger]
    · exact hides
  have quiet (s : Host β) (hides : h.ledger.Hides s.ledger) :
      h.ledger.Hides ((surely (editPeripheral fun p => { p with mode := none })).run s).2.ledger := by
    have kept := editPeripheral_ledger (fun p => { p with mode := none }) (fun _ => rfl) s
    rw [← kept] at hides
    exact hides
  have unregister (s : Host β) (hides : h.ledger.Hides s.ledger) :
      h.ledger.Falls (unregisterApplication.run s).2.ledger := hides.falls (unregisterApplication_ledger s)
  -- Nothing is registered any more, so that unpublishing has nothing to unregister.
  have unpublish (s : Host β) (falls : h.ledger.Falls s.ledger) :
      h.ledger.Falls (unpublishApplication.run s).2.ledger := by
    rwa [unpublishApplication_ledger falls.registered]
  have last : ∀ s, h.ledger.Hides s.ledger → h.ledger.Falls ((inTurn [surely (editPeripheral fun p =>
      { p with mode := none }), unregisterApplication, unpublishApplication]).run s).2.ledger :=
    inTurn_leads ledger quiet (inTurn_leads ledger unregister (inTurn_leads ledger unpublish fun _ => id))
  rw [descent]
  rcases suits with ⟨key, none⟩ | ⟨key, path, flag, only⟩
  · rw [key]
    refine inTurn_leads ledger stop (fun s same => last s ?_) h rfl
    rw [← same]
    exact .of_off fun a member => by simp [none] at member
  · rw [key]
    refine inTurn_leads ledger stop (inTurn_leads ledger (fun s same => ?_) (inTurn_leads ledger (hide 0) last)) h rfl
    rw [same]
    exact unregisterAdvertisement_ledger (same ▸ only : s.ledger.advertisements = [(path, flag)])

end Host
end GattPeripheral
