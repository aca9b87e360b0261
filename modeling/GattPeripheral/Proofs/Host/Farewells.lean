import GattPeripheral.Proofs.Host.Dealings
import GattPeripheral.Proofs.Tree.Editing

/-!
# Farewells

What a peripheral registers, it unregisters: when it is stopped, and when it fails to start. Main statement:
`Host.registrations_end`.
-/

namespace GattPeripheral

variable {β : Type}

def ManagerCall.farewell? : ManagerCall → Option ManagerCall
  | .registerApplication path _ => some (.unregisterApplication path)
  | .registerAdvertisement path _ => some (.unregisterAdvertisement path)
  | .unregisterApplication _ | .unregisterAdvertisement _ => none

/-- Each registration that was made is ended later on, or its farewell is pending. -/
def EndedBut (pending : List ManagerCall) : List Deal → Prop
  | [] => True
  | d :: later =>
      (d.failure = none → ∀ farewell, d.call.farewell? = some farewell →
        farewell ∈ later.map Deal.call ∨ farewell ∈ pending) ∧ EndedBut pending later

namespace EndedBut

variable {pending left : List ManagerCall} {deals more : List Deal}

theorem weaken (ended : EndedBut pending deals) (among : pending ⊆ left) : EndedBut left deals := by
  induction deals with
  | nil => trivial
  | cons d later ih =>
      refine ⟨fun made farewell ends => ?_, ih ended.2⟩
      exact (ended.1 made farewell ends).imp_right (among ·)

theorem append (front : EndedBut pending deals) (back : EndedBut left more)
    (comes : ∀ farewell ∈ pending, farewell ∈ more.map Deal.call ∨ farewell ∈ left) : EndedBut left (deals ++ more) := by
  induction deals with
  | nil => exact back
  | cons d later ih =>
      refine ⟨fun made farewell ends => ?_, ih front.2⟩
      rw [List.append_eq, List.map_append, List.mem_append, or_assoc]
      exact (front.1 made farewell ends).imp_right (comes farewell)

theorem of_attempt {register unregister : ManagerCall} {made : Bool} (attempt : Attempt register unregister made deals)
    (ends : register.farewell? = some unregister) (last : unregister.farewell? = none) :
    EndedBut (if made then [unregister] else []) deals := by
  cases attempt with
  | none => trivial
  | @once failure => cases failure <;> simp [EndedBut, ends]
  | again known dropped failure => cases failure <;> simp [EndedBut, ends, last]

theorem of_farewells (silent : ∀ d ∈ deals, d.call.farewell? = none) : EndedBut [] deals := by
  induction deals with
  | nil => trivial
  | cons d later ih =>
      refine ⟨fun _ farewell ends => ?_, ih fun d member => silent d (List.mem_cons_of_mem _ member)⟩
      cases (silent d List.mem_cons_self).symm.trans ends

theorem mem_after {before after : List Deal} {d : Deal} (ended : EndedBut [] (before ++ d :: after))
    (made : d.failure = none) {farewell : ManagerCall} (ends : d.call.farewell? = some farewell) :
    farewell ∈ after.map Deal.call := by
  induction before with
  | nil => exact (ended.1 made farewell ends).resolve_right List.not_mem_nil
  | cons first before ih => exact ih ended.2

end EndedBut

namespace Ledger

variable {l l' : Ledger} {key : Option Nat}

def Balanced (l : Ledger) : Prop := EndedBut l.farewells l.deals

theorem Idle.farewells (idle : l.Idle) : l.farewells = [] := by
  rw [Ledger.farewells, filter_of_off idle.advertisements, idle.registered]
  rfl

theorem farewell?_of_mem {c : ManagerCall} (member : c ∈ l.farewells) : c.farewell? = none := by
  rcases List.mem_append.mp member with advertised | applied
  · obtain ⟨a, -, rfl⟩ := List.mem_map.mp advertised
    rfl
  · split at applied
    · rw [List.mem_singleton.mp applied]
      rfl
    · cases applied

namespace Rises

theorem suits (rises : l.Rises l') (suits : l.Suits key) : l'.Suits key := by
  obtain ⟨_, _, _, _, _, _, advertised⟩ := rises
  rcases suits with ⟨nothing, none⟩ | ⟨first, path, flag, only⟩
  · rcases advertised with ⟨same, -⟩ | ⟨path, made, before, -⟩
    · exact .inl ⟨nothing, same.trans none⟩
    · cases none.symm.trans before
  · rcases advertised with ⟨same, -⟩ | ⟨path, made, -, after, -⟩
    · exact .inr ⟨first, path, flag, same.trans only⟩
    · exact .inr ⟨first, path, made, after⟩

theorem balanced (rises : l.Rises l') (idle : l.Idle) (balanced : l.Balanced) : l'.Balanced := by
  obtain ⟨-, path, application, advertisement, deals, attempt, advertised⟩ := rises
  have applied : EndedBut l'.farewells application := by
    have ended := EndedBut.of_attempt attempt rfl rfl
    rw [← path] at ended
    exact ended.weaken (List.subset_append_right _ _)
  have advertised : EndedBut l'.farewells advertisement := by
    rcases advertised with ⟨-, rfl⟩ | ⟨path, made, -, after, attempt⟩
    · trivial
    · refine (EndedBut.of_attempt attempt rfl rfl).weaken fun c member => List.mem_append_left _ ?_
      rw [after]
      cases made <;> exact member
  rw [Balanced, idle.farewells] at balanced
  rw [Balanced, deals]
  exact (balanced.append applied nofun).append advertised fun _ => .inr

end Rises

namespace Falls

theorem suits (falls : l.Falls l') (suits : l.Suits key) : l'.Suits key := by
  rcases suits with ⟨nothing, none⟩ | ⟨first, path, flag, only⟩
  · exact .inl ⟨nothing, by rw [falls.advertisements, none]; rfl⟩
  · exact .inr ⟨first, path, false, by rw [falls.advertisements, only]; rfl⟩

theorem idle (falls : l.Falls l') : l'.Idle where
  registered := falls.registered
  advertisements a member := by
    rw [falls.advertisements] at member
    obtain ⟨b, -, rfl⟩ := List.mem_map.mp member
    rfl

theorem balanced (falls : l.Falls l') (balanced : l.Balanced) : l'.Balanced := by
  obtain ⟨deals, dealt, calls⟩ := falls.dealt
  have silent : EndedBut [] deals := EndedBut.of_farewells fun d member =>
    farewell?_of_mem (calls ▸ List.mem_map_of_mem member)
  rw [Balanced, falls.idle.farewells, dealt]
  exact balanced.append silent fun farewell waits => .inl (calls ▸ waits)

end Falls

end Ledger

/-! ## Turns -/

inductive Turn (β : Type) where
  | start
  | stop
  | edit (edit : Edit)
  /-- The bus and the helper programs change on their own. -/
  | surround (change : β → β) (programs : Dict String Ending)

namespace Host

open Routine

structure Orderly (p : Peripheral) (h : Host β) : Prop where
  peripheral : h.peripheral = some p
  suits : h.ledger.Suits p.advertisement
  settled : p.state = .stopped ∧ h.ledger.Idle ∨ p.state = .running
  balanced : h.ledger.Balanced

variable {h : Host β} {p : Peripheral}

theorem inState_ledger (state : PeripheralState) (h : Host β) : (h.inState state).ledger = h.ledger := by
  have key : (h.peripheral.map fun p => { p with state }).map Peripheral.advertisement =
      h.peripheral.map Peripheral.advertisement := Option.map_map _ _ _
  exact congrArg (Ledger.mk · _ _ _ _) key

theorem Orderly.key (orderly : h.Orderly p) : h.ledger.key = some p.advertisement :=
  congrArg (Option.map Peripheral.advertisement) orderly.peripheral

theorem orderly_inState {key : Option Nat} (known : h.ledger.key = some key) (suits : h.ledger.Suits key)
    {state : PeripheralState} (settled : state = .stopped ∧ h.ledger.Idle ∨ state = .running)
    (balanced : h.ledger.Balanced) :
    ∃ q, (h.inState state).Orderly q := by
  obtain ⟨q, peripheral, rfl⟩ := Option.map_eq_some_iff.mp known
  have known : (h.inState state).peripheral = some { q with state } := congrArg (Option.map _) peripheral
  rw [← inState_ledger state] at suits settled balanced
  exact ⟨_, known, suits, settled, balanced⟩

theorem orderly_overseen (bus : β) (root adapter : ObjectPath) (options : RegistrationOptions)
    (advertisement : Option (ObjectPath × AdvertisementData)) (adapterName : Option String) :
    (overseen bus root adapter options advertisement adapterName).Orderly
      (.new (advertisement.map fun _ => 0) adapterName) := by
  refine ⟨rfl, ?_, .inl ⟨rfl, rfl, fun a member => ?_⟩, trivial⟩
  · cases advertisement with
    | none => exact .inl ⟨rfl, rfl⟩
    | some given => exact .inr ⟨rfl, _, _, rfl⟩
  · cases advertisement with
    | none => cases member
    | some given =>
        rw [List.mem_singleton.mp member]
        rfl

variable [Transport β]

def turn (h : Host β) : Turn β → Host β
  | .start => (startPeripheral.run h).2
  | .stop => (stopPeripheral.run h).2
  | .edit edit => { h with application := edit.apply h.application }
  | .surround change programs => { h with channel := { h.channel with bus := change h.channel.bus }, programs }

def turned (turns : List (Turn β)) (h : Host β) : Host β := turns.foldl turn h

/-- Taking down goes through all its steps, answers with the first failure, and ends what is registered. -/
structure GivesUp (p : Peripheral) (h : Host β) : Prop where
  through : (h.falling p).2 = (descent p).foldl (fun h step => (step.run h).2) (h.inState .stopping)
  answer : ∀ e, (h.falling p).1 = .error e ↔ ∃ before step after, descent p = before ++ step :: after ∧
    ((inTurn before).run (h.inState .stopping)).1 = .ok () ∧
      (step.run ((inTurn before).run (h.inState .stopping)).2).1 = .error e
  falls : h.ledger.Falls (h.falling p).2.ledger

structure Starts (p : Peripheral) (h : Host β) : Prop where
  rises : h.ledger.Rises (h.rising p).2.ledger
  succeeds : (h.rising p).1 = .ok () → startPeripheral.run h = (.ok (), (h.rising p).2.inState .running)
  fails : ∀ e, (h.rising p).1 = .error e →
    startPeripheral.run h = (.error e, ((h.rising p).2.falling p).2.inState .stopped) ∧ (h.rising p).2.GivesUp p ∧
      ∃ before step after, ascent p h.adapter = before ++ step :: after ∧
        ((untilFailure before).run (h.inState .starting)).1 = .ok () ∧
          step.run ((untilFailure before).run (h.inState .starting)).2 = (.error e, (h.rising p).2)

theorem givesUp (suits : h.ledger.Suits p.advertisement) : h.GivesUp p where
  through := inTurn_state _ _
  answer e := inTurn_error_iff _
  falls := by
    have falls := descent_falls p (h := h.inState .stopping)
    rw [inState_ledger] at falls
    exact falls suits

namespace Orderly

theorem starts (orderly : h.Orderly p) (stopped : p.state = .stopped) (idle : h.ledger.Idle) : h.Starts p := by
  have run := startPeripheral_run orderly.peripheral stopped
  have rises : h.ledger.Rises (h.rising p).2.ledger := by
    have rises := ascent_rises p h.adapter (h := h.inState .starting)
    rw [inState_ledger] at rises
    exact rises orderly.suits idle
  refine ⟨rises, fun ok => ?_, fun e failed => ⟨?_, givesUp (rises.suits orderly.suits), untilFailure_error _ failed⟩⟩
  · rw [run, ok]
  · rw [run, failed]

theorem start (orderly : h.Orderly p) : ∃ q, (startPeripheral.run h).2.Orderly q := by
  rcases orderly.settled with ⟨stopped, idle⟩ | running
  · obtain ⟨rises, succeeds, fails⟩ := orderly.starts stopped idle
    have suits := rises.suits orderly.suits
    have balanced := rises.balanced idle orderly.balanced
    have known := rises.key.trans orderly.key
    cases outcome : (h.rising p).1 with
    | ok =>
        rw [succeeds outcome]
        exact orderly_inState known suits (.inr rfl) balanced
    | error e =>
        obtain ⟨run, ⟨-, -, falls⟩, -⟩ := fails e outcome
        rw [run]
        exact orderly_inState (falls.key.trans known) (falls.suits suits) (.inl ⟨rfl, falls.idle⟩)
          (falls.balanced balanced)
  · rw [startPeripheral_busy orderly.peripheral (by simp [running])]
    exact ⟨p, orderly⟩

theorem stop (orderly : h.Orderly p) : ∃ q, (stopPeripheral.run h).2.Orderly q := by
  rcases orderly.settled with ⟨stopped, -⟩ | running
  · rw [stopPeripheral_stopped orderly.peripheral stopped]
    exact ⟨p, orderly⟩
  · obtain ⟨-, -, falls⟩ := givesUp orderly.suits
    rw [stopPeripheral_run orderly.peripheral (by simp [running])]
    exact orderly_inState (falls.key.trans orderly.key) (falls.suits orderly.suits) (.inl ⟨rfl, falls.idle⟩)
      (falls.balanced orderly.balanced)

theorem turn (orderly : h.Orderly p) (turn : Turn β) : ∃ q, (h.turn turn).Orderly q := by
  cases turn with
  | start => exact orderly.start
  | stop => exact orderly.stop
  | edit edit =>
      obtain ⟨path, state⟩ := edit.apply_beside h.application
      have same : (h.turn (.edit edit)).ledger = h.ledger :=
        Ledger.ext rfl path (by simp only [ledger, Application.isRegistered, Host.turn, state]) rfl rfl
      refine ⟨p, orderly.peripheral, ?_, ?_, ?_⟩
      all_goals rw [same]
      · exact orderly.suits
      · exact orderly.settled
      · exact orderly.balanced
  | surround change programs => exact ⟨p, orderly.peripheral, orderly.suits, orderly.settled, orderly.balanced⟩

theorem turned (orderly : h.Orderly p) (turns : List (Turn β)) : ∃ q, (h.turned turns).Orderly q := by
  induction turns generalizing h p with
  | nil => exact ⟨p, orderly⟩
  | cons turn turns ih =>
      obtain ⟨q, orderly⟩ := orderly.turn turn
      exact ih orderly

end Orderly

/-- Whatever the managers reply and the bus refuses, a peripheral that is stopped has ended every registration
that was made. Starting it ends them only if it fails; stopping it ends each of them once. -/
theorem registrations_end (bus : β) (root adapter : ObjectPath) (options : RegistrationOptions)
    (advertisement : Option (ObjectPath × AdvertisementData)) (adapterName : Option String) (turns : List (Turn β)) :
    let h := (overseen bus root adapter options advertisement adapterName).turned turns
    ∃ p, h.peripheral = some p ∧ h.ledger.Suits p.advertisement ∧
      (p.state = .stopped ∧ h.ledger.Idle ∧
          (∀ before d after, h.channel.deals = before ++ d :: after → d.failure = none →
            ∀ farewell, d.call.farewell? = some farewell → farewell ∈ after.map Deal.call) ∧
          stopPeripheral.run h = (.ok (), h) ∧ h.Starts p ∨
        p.state = .running ∧ startPeripheral.run h = (.error (.invalidState "peripheral is Running"), h) ∧
          stopPeripheral.run h = ((h.falling p).1, (h.falling p).2.inState .stopped) ∧ h.GivesUp p) := by
  intro h
  obtain ⟨p, orderly⟩ := (orderly_overseen bus root adapter options advertisement adapterName).turned turns
  refine ⟨p, orderly.peripheral, orderly.suits, orderly.settled.imp ?_ ?_⟩
  · rintro ⟨stopped, idle⟩
    refine ⟨stopped, idle, fun before d after split made farewell ends => ?_,
      stopPeripheral_stopped orderly.peripheral stopped, orderly.starts stopped idle⟩
    have ended : EndedBut _ _ := orderly.balanced
    rw [idle.farewells, show Ledger.deals _ = _ from split] at ended
    exact ended.mem_after made ends
  · intro running
    have busy : p.state ≠ .stopped := by simp [running]
    have started := startPeripheral_busy orderly.peripheral busy
    rw [running] at started
    exact ⟨running, started, stopPeripheral_run orderly.peripheral busy, givesUp orderly.suits⟩

end Host
end GattPeripheral
