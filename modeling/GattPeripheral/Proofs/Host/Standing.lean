import GattPeripheral.Proofs.Host.Advertising
import GattPeripheral.Proofs.Host.Sequences

/-!
# What is known of a registration

The peripheral and its advertisement both know whether the advertisement is registered. The daemon may drop
it at any moment, which only the advertisement learns. `startPeripheral_stopped_ensures` and
`stopPeripheral_busy_ensures` say what is left of it when a peripheral was brought up or taken down.
-/

namespace GattPeripheral.Host

open Routine

variable {β α : Type}

/-! ## What is known of the registration -/

def standing (h : Host β) : Option Peripheral × List Bool :=
  (h.peripheral, h.advertisements.map Advertisement.registered)

def airs (h : Host β) : Bool := h.advertisements[0]?.any (·.registered)

def released (h : Host β) : Host β := h.withAdvertisement 0 Advertisement.release

abbrev Stays (h h' : Host β) : Prop := h'.standing = h.standing

variable {h h' : Host β} {p q : Peripheral} {flag : Bool} {state : PeripheralState}

theorem only_of_standing (stands : h.standing = (some p, [flag])) :
    h.peripheral = some p ∧ ∃ a, h.advertisements = [a] ∧ a.registered = flag := by
  obtain ⟨peripheral, flags⟩ := Prod.mk.inj stands
  obtain ⟨a, only, same⟩ := List.map_eq_singleton_iff.mp flags
  exact ⟨peripheral, a, only, same⟩

theorem airs_of_standing (stands : h.standing = (some p, [flag])) : h.airs = flag := by
  obtain ⟨-, a, only, same⟩ := only_of_standing stands
  rw [airs, only]
  exact same

theorem withAdvertisement_standing (stands : h.standing = (some p, [flag])) {edit : Advertisement → Advertisement}
    {now : Bool} (becomes : ∀ a, a.registered = flag → (edit a).registered = now) :
    (h.withAdvertisement 0 edit).standing = (some p, [now]) := by
  obtain ⟨peripheral, a, only, same⟩ := only_of_standing stands
  rw [standing, withAdvertisement, only]
  exact congrArg₂ Prod.mk peripheral (congrArg (fun now => [now]) (becomes a same))

theorem editPeripheral_standing (stands : h.standing = (some p, [flag])) (edit : Peripheral → Peripheral) :
    ({ h with peripheral := h.peripheral.map edit } : Host β).standing = (some (edit p), [flag]) := by
  obtain ⟨peripheral, flags⟩ := Prod.mk.inj stands
  exact congrArg₂ Prod.mk (congrArg (Option.map edit) peripheral) flags

/-! ## Assertions that no visit and no request makes false -/

structure Endures (P : Assertion (Host β)) : Prop where
  stable : Stable released P
  kept : ∀ h h' met, h.Stays h' → P h met → P h' met

def unnoticed (met : List (Host β)) : Bool := met.all fun s => !s.airs

/-- The advertisement is registered if `flag` says so and no visit met it registered. Only then can a visit
have done so. -/
def Rides (flag : Bool) (q : Peripheral) : Assertion (Host β) := fun h met =>
  h.standing = (some q, [flag && unnoticed met]) ∧ (flag || unnoticed met) = true

def Lies (q : Peripheral) : Assertion (Host β) := fun h _ => h.standing = (some q, [false])

def Carries (q : Peripheral) : Assertion (Host β) := fun h _ => ∃ flag, h.standing = (some q, [flag])

namespace Endures

theorem along {P : Assertion (Host β)} (endures : Endures P) {r : Routine (Host β) α} (moves : Moves Stays r) :
    Ensures released P r fun _ => P := moves.ensures endures.stable endures.kept

theorem rides (flag : Bool) (q : Peripheral) : Endures (β := β) (Rides flag q) where
  stable h met := by
    rintro ⟨stands, noticed⟩
    have later : unnoticed (met ++ [h]) = (unnoticed met && !(flag && unnoticed met)) := by
      rw [unnoticed, List.all_append, List.all_cons, airs_of_standing stands]
      simp [unnoticed]
    refine ⟨withAdvertisement_standing stands fun a _ => ?_, ?_⟩
    · rw [later]
      cases flag <;> cases unnoticed met <;> rfl
    · rw [later]
      cases flag <;> cases known : unnoticed met <;> simp_all
  kept _ _ _ stays := fun ⟨stands, noticed⟩ => ⟨stays.trans stands, noticed⟩

theorem lies (q : Peripheral) : Endures (β := β) (Lies q) where
  stable _ _ stands := withAdvertisement_standing stands fun _ _ => rfl
  kept _ _ _ stays stands := stays.trans stands

theorem carries (q : Peripheral) : Endures (β := β) (Carries q) where
  stable _ _ := fun ⟨_, stands⟩ => ⟨false, withAdvertisement_standing stands fun _ _ => rfl⟩
  kept _ _ _ stays := fun ⟨flag, stands⟩ => ⟨flag, stays.trans stands⟩

theorem among {ι : Type} {P : ι → Assertion (Host β)} (each : ∀ i, Endures (P i)) :
    Endures fun h met => ∃ i, P i h met where
  stable h met := fun ⟨i, holds⟩ => ⟨i, (each i).stable h met holds⟩
  kept h h' met stays := fun ⟨i, holds⟩ => ⟨i, (each i).kept h h' met stays holds⟩

theorem and {φ : Prop} {P : Assertion (Host β)} (endures : Endures P) : Endures fun h met => φ ∧ P h met where
  stable h met := fun ⟨fact, holds⟩ => ⟨fact, endures.stable h met holds⟩
  kept h h' met stays := fun ⟨fact, holds⟩ => ⟨fact, endures.kept h h' met stays holds⟩

theorem or {P Q : Assertion (Host β)} (left : Endures P) (right : Endures Q) :
    Endures fun h met => P h met ∨ Q h met where
  stable h met := Or.imp (left.stable h met) (right.stable h met)
  kept h h' met stays := Or.imp (left.kept h h' met stays) (right.kept h h' met stays)

end Endures

structure Attends (P : Peripheral → Assertion (Host β)) : Prop where
  endures : ∀ q, Endures (P q)
  edited : ∀ q (edit : Peripheral → Peripheral) h met, P q h met →
    P (edit q) { h with peripheral := h.peripheral.map edit } met

theorem Attends.rides (flag : Bool) : Attends (β := β) (Rides flag) where
  endures := .rides flag
  edited _ edit _ _ := fun ⟨stands, noticed⟩ => ⟨editPeripheral_standing stands edit, noticed⟩

theorem Attends.lies : Attends (β := β) Lies where
  endures := .lies
  edited _ edit _ _ stands := editPeripheral_standing stands edit

theorem Attends.carries : Attends (β := β) Carries where
  endures := .carries
  edited _ edit _ _ := fun ⟨flag, stands⟩ => ⟨flag, editPeripheral_standing stands edit⟩

def Phase (state : PeripheralState) (fits : Peripheral → Prop) (P : Peripheral → Assertion (Host β)) :
    Assertion (Host β) := fun h met =>
  ∃ q : Peripheral, (q.advertisement = some 0 ∧ q.state = state ∧ fits q) ∧ P q h met

theorem Endures.phase {state : PeripheralState} {fits : Peripheral → Prop} {P : Peripheral → Assertion (Host β)}
    (attends : Attends P) : Endures (Phase state fits P) := .among fun q => .and (attends.endures q)

theorem editPeripheral_ensures {state' : PeripheralState} {fits fits' : Peripheral → Prop}
    {P : Peripheral → Assertion (Host β)} (attends : Attends P) (edit : Peripheral → Peripheral)
    (becomes : ∀ q, fits q → q.state = state →
      (edit q).advertisement = q.advertisement ∧ (edit q).state = state' ∧ fits' (edit q)) :
    Ensures released (Phase state fits P) (editPeripheral edit) fun _ => Phase state' fits' P := by
  refine .step (Endures.phase attends).stable ?_
  rintro h met ⟨q, ⟨key, same, fit⟩, holds⟩
  obtain ⟨kept, next, fit⟩ := becomes q fit same
  exact ⟨edit q, ⟨kept.trans key, next, fit⟩, attends.edited q edit h met holds⟩

theorem setPeripheralState_ensures {next : PeripheralState} {fits : Peripheral → Prop}
    {P : Peripheral → Assertion (Host β)} (attends : Attends P) (alike : ∀ q, fits q → fits { q with state := next }) :
    Ensures released (Phase state fits P) (setPeripheralState next) fun _ => Phase next fits P :=
  editPeripheral_ensures attends _ fun q fit _ => ⟨rfl, rfl, alike q fit⟩

abbrev Dark (state : PeripheralState) : Assertion (Host β) := Phase state (·.mode ≠ some .registered) (Rides false)

abbrev Fresh (state : PeripheralState) : Assertion (Host β) :=
  Phase state (fun _ => True) (Rides true)

abbrev Told (state : PeripheralState) (answer : Except GattError AdvertisingMode) : Assertion (Host β) := fun h met =>
  answer = .ok .registered ∧ Fresh state h met ∨ answer ≠ .ok .registered ∧ Dark state h met

abbrev Lit (state : PeripheralState) : Assertion (Host β) := fun h met =>
  Phase state (·.mode = some .registered) (Rides true) h met ∨ Dark state h met

abbrev Quiet (state : PeripheralState) : Assertion (Host β) :=
  Phase state (fun _ => True) Lies

abbrev Laden (state : PeripheralState) : Assertion (Host β) := Phase state (fun _ => True) Carries

abbrev Silent (state : PeripheralState) : Assertion (Host β) :=
  Phase state (·.mode = none) Lies

theorem Endures.dark : Endures (β := β) (Dark state) := .phase (.rides false)

theorem Endures.lit : Endures (β := β) (Lit state) := .or (.phase (.rides true)) .dark

theorem Endures.laden : Endures (β := β) (Laden state) := .phase .carries

theorem Endures.quiet : Endures (β := β) (Quiet state) := .phase .lies

theorem Endures.silent : Endures (β := β) (Silent state) := .phase .lies

theorem Endures.told {answer : Except GattError AdvertisingMode} : Endures (β := β) (Told state answer) :=
  .or (.and (.phase (.rides true))) (.and .dark)

theorem Dark.only {met : List (Host β)} (dark : Dark state h met) :
    ∃ a, h.advertisements = [a] ∧ a.registered = false := by
  obtain ⟨q, -, stands, -⟩ := dark
  exact (only_of_standing stands).2

theorem Lit.laden {met : List (Host β)} (lit : Lit state h met) : Laden state h met := by
  rcases lit with ⟨q, ⟨key, same, -⟩, stands, -⟩ | ⟨q, ⟨key, same, -⟩, stands, -⟩
  · exact ⟨q, ⟨key, same, trivial⟩, _, stands⟩
  · exact ⟨q, ⟨key, same, trivial⟩, _, stands⟩

theorem setPeripheralState_lit (next : PeripheralState) :
    Ensures released (Lit (β := β) state) (setPeripheralState next) fun _ => Lit next :=
  (setPeripheralState_ensures (.rides true) fun _ mode => mode).or
    (setPeripheralState_ensures (.rides false) fun _ mode => mode)

theorem attended_ensures {P : Assertion (Host β)} {Q : Except GattError Unit → Assertion (Host β)}
    {body : Host β → Routine (Host β) (Except GattError Unit)} (before : Endures P) (after : ∀ answer, Endures (Q answer))
    (known : ∀ h met, P h met → h.peripheral = some p)
    (main : ∀ seen, seen.peripheral = some p → Ensures released P (body seen) Q) :
    Ensures released P (holding .peripheral (Routine.read >>= body)) Q := by
  refine .holding before.stable (fun answer => (after answer).stable) (.bind (.read before.stable) fun seen => ?_)
  refine .given fun h met holds => ?_
  obtain ⟨rfl, holds⟩ := holds
  exact (main _ (known _ _ holds)).weaken fun _ _ => And.right

theorem refused_ensures (flag : Bool) {body : Host β → Routine (Host β) (Except GattError Unit)}
    (answer : Except GattError Unit) (refused : ∀ seen, seen.peripheral = some p → body seen = pure answer) :
    Ensures released (Rides flag p) (holding .peripheral (Routine.read >>= body)) fun _ => Rides flag p := by
  refine attended_ensures (.rides flag p) (fun _ => .rides flag p) (fun h met rides => (Prod.mk.inj rides.1).1)
    fun seen known => ?_
  rw [refused seen known]
  exact .pure fun _ _ => id

/-! ## Requests and publications -/

theorem Stays.onApplication (act : Application → StateM (Channel β) (Application × α)) :
    Moves Stays (Routine.step (Host.onApplication act)) := .step fun _ => rfl

theorem Stays.onTracker (act : Tracker → StateM (Channel β) (Tracker × α)) :
    Moves Stays (Routine.step (Host.onTracker act)) := .step fun _ => rfl

theorem Stays.onAdvertisement {act : Advertisement → StateM (Channel β) (Advertisement × α)}
    (keeps : ∀ a c, (act a c).1.1.registered = a.registered) (key : Nat) :
    Moves Stays (Routine.step (Host.onAdvertisement key act)) := by
  refine .step fun h => ?_
  have peripheral : (h.onAdvertisement key act).2.peripheral = h.peripheral := by
    rw [Host.onAdvertisement]
    cases h.advertisements[key]? <;> rfl
  exact congrArg₂ Prod.mk peripheral (onAdvertisement_map keeps key h)

variable [Transport β]

theorem Stays.allowsCalls : AllowsCalls (β := β) Stays where
  clock _ _ := rfl
  runs _ _ := rfl
  getProperty _ _ _ _ := rfl
  setProperty _ _ _ _ _ := rfl
  record _ _ _ := rfl
  answer _ _ _ _ := rfl
  told _ _ _ := rfl

theorem Stays.allowsTransitions : AllowsTransitions (β := β) Stays where
  toAllowsCalls := Stays.allowsCalls
  state _ _ := rfl
  publish _ := rfl
  withdraw _ := rfl

theorem Stays.publishAdvertisement (key : Nat) : Moves Stays (publishAdvertisement key : Routine (Host β) _) :=
  .bind (Stays.onAdvertisement (fun a c => (publish_keeps key a c).2) key) fun _ => .pure _

theorem Stays.unpublishAdvertisement (key : Nat) : Moves Stays (unpublishAdvertisement key : Routine (Host β) _) :=
  .bind (Stays.onAdvertisement (fun _ _ => rfl) key) fun _ => .pure _

/-! ## The advertisement -/

theorem tryFallbacks_dark (steps : List FallbackStep) :
    Ensures released (Dark (β := β) state) (tryFallbacks steps) fun answer h met =>
      answer ≠ .ok .registered ∧ Dark state h met := by
  induction steps with
  | nil => exact .pure fun _ _ dark => ⟨nofun, dark⟩
  | cons step steps ih =>
      refine .bind (Endures.dark.along (.enableFallback Stays.allowsCalls.toAllowsQuestions step)) fun outcome => ?_
      cases outcome with
      | ok => exact .pure fun _ _ dark => ⟨nofun, dark⟩
      | error e => exact ih

theorem registerAdvertisement_ensures :
    Ensures released (Dark (β := β) state) (registerAdvertisement 0) (Told state) := by
  refine .holding Endures.dark.stable (fun _ => Endures.told.stable)
    (.bind (.read Endures.dark.stable) fun seen => .given fun h met known => ?_)
  obtain ⟨rfl, dark⟩ := known
  obtain ⟨a, only, free⟩ := dark.only
  refine .weaken (fun _ _ => And.right) ?_
  simp only [only, List.getElem?_cons_zero, free, Bool.false_eq_true, if_false]
  split
  · exact .pure fun _ _ dark => .inr ⟨nofun, dark⟩
  · refine .bind (Endures.dark.along (.makeRegistration Stays.allowsCalls _ _)) fun made => ?_
    cases made with
    | ok =>
        refine .bind (.step (Q := fun _ => Fresh state) Endures.dark.stable ?_) fun _ =>
          .pure fun _ _ fresh => .inl ⟨rfl, fresh⟩
        rintro h met ⟨q, ⟨key, same, -⟩, stands, clean⟩
        refine ⟨q, ⟨key, same, trivial⟩, withAdvertisement_standing stands fun a _ => ?_, rfl⟩
        exact clean.symm
    | error e =>
        refine .bind (.read Endures.dark.stable) fun seen => .weaken (fun _ _ => And.right) ?_
        split
        · exact .pure fun _ _ dark => .inr ⟨nofun, dark⟩
        · exact (tryFallbacks_dark _).conclude fun _ _ _ => .inr

theorem bringUpAdvertisement_ensures :
    Ensures released (Dark (β := β) state) (bringUpAdvertisement 0) fun _ => Lit state := by
  refine .bind (.read Endures.dark.stable) fun seen => .weaken (fun _ _ => And.right) ?_
  refine .bind (.step (Q := fun _ => Dark state) Endures.dark.stable ?_) fun _ => ?_
  · exact fun h met ⟨q, fits, stands, clean⟩ => ⟨q, fits, withAdvertisement_standing stands fun a free => free, clean⟩
  refine .bind (Endures.dark.along (Stays.publishAdvertisement 0)) fun published => ?_
  cases published with
  | error e => exact .pure fun _ _ => .inr
  | ok =>
      refine .bind registerAdvertisement_ensures fun answer => ?_
      cases answer with
      | error e => exact .pure fun _ _ told => told.elim nofun fun ⟨_, dark⟩ => .inr dark
      | ok mode =>
          refine .bind (Q := fun _ => Lit state) ?_ fun _ => .pure fun _ _ => id
          by_cases registered : mode = .registered
          · subst registered
            have claimed : Ensures released (Fresh (β := β) state) (editPeripheral fun p =>
                { p with mode := some .registered }) fun _ => Phase state (·.mode = some .registered) (Rides true) :=
              editPeripheral_ensures (.rides true) _ fun q _ same => ⟨rfl, same, rfl⟩
            exact (claimed.weaken fun h met told => told.elim And.right nofun).conclude fun _ _ _ => .inl
          · have denied : Ensures released (Dark (β := β) state) (editPeripheral fun p =>
                { p with mode := some mode }) fun _ => Dark state :=
              editPeripheral_ensures (.rides false) _ fun q _ same => ⟨rfl, same, by simpa using registered⟩
            refine (denied.weaken fun h met told => ?_).conclude fun _ _ _ => .inr
            exact told.elim (fun ⟨ok, _⟩ => absurd (by simpa using ok) registered) And.right

/-! ## Starting and stopping -/

theorem bringUp_ensures (key : p.advertisement = some 0) :
    Ensures released (Dark (β := β) state) (bringUp p) fun _ => Lit state := by
  have questions := Stays.allowsCalls (β := β).toAllowsQuestions
  have ended (h : Host β) (met : List (Host β)) : Dark state h met → Lit state h met := .inr
  rw [bringUp_eq]
  refine .bind (.read Endures.dark.stable) fun seen => .weaken (fun _ _ => And.right) ?_
  rw [ascent, key]
  exact .untilFailure (Endures.dark.along (.powerOn questions _)) ended <|
    .untilFailure (Endures.dark.along (giveName_moves questions _ _)) ended <|
    .untilFailure (Endures.dark.along (Stays.onApplication _)) ended <|
    .untilFailure (Endures.dark.along (.registerApplication Stays.allowsTransitions)) ended <|
    .untilFailure bringUpAdvertisement_ensures (fun _ _ lit => lit) <|
    .untilFailure (Endures.lit.along (Stays.onTracker _)) (fun _ _ lit => lit) (.pure fun _ _ => id)

theorem unregisterAdvertisement_ensures :
    Ensures released (Laden (β := β) state) (unregisterAdvertisement 0) fun _ => Quiet state := by
  refine .holding Endures.laden.stable (fun _ => Endures.quiet.stable)
    (.bind (.read Endures.laden.stable) fun seen => .given fun h met known => ?_)
  obtain ⟨rfl, q, fits, flag, stands⟩ := known
  obtain ⟨-, a, only, same⟩ := only_of_standing stands
  simp only [only, List.getElem?_cons_zero]
  cases registered : a.registered with
  | false =>
      refine .pure ?_
      rintro h met ⟨rfl, -⟩
      rw [← same, registered] at stands
      exact ⟨q, fits, stands⟩
  | true =>
      refine .weaken (fun _ _ => And.right) ?_
      refine .bind (Endures.laden.along (.dropRegistration Stays.allowsCalls _)) fun outcome => ?_
      refine .bind (.step (Q := fun _ => Quiet state) Endures.laden.stable ?_) fun _ => .pure fun _ _ => id
      rintro h met ⟨q, fits, flag, stands⟩
      exact ⟨q, fits, withAdvertisement_standing stands fun _ _ => rfl⟩

theorem tearDown_ensures (key : p.advertisement = some 0) :
    Ensures released (Laden (β := β) state) (tearDown p) fun _ => Silent state := by
  have hides (seen : Host β) : Ensures released (Quiet state) (if seen.advertisements[0]?.any (·.published) then
      unpublishAdvertisement 0 else pure (.ok ()) : Routine (Host β) _) fun _ => Quiet state := by
    split
    · exact Endures.quiet.along (Stays.unpublishAdvertisement 0)
    · exact .pure fun _ _ => id
  rw [tearDown_inTurn, descent, key]
  exact .inTurn (.bind (Endures.laden.along (Stays.onTracker _)) fun _ => .pure fun _ _ => id) <|
    .inTurn unregisterAdvertisement_ensures <|
    .inTurn (.bind (.read Endures.quiet.stable) fun seen => .weaken (fun _ _ => And.right) (hides seen)) <|
    .inTurn (.bind (editPeripheral_ensures .lies _ fun q _ same => ⟨rfl, same, rfl⟩) fun _ => .pure fun _ _ => id) <|
    .inTurn (Endures.silent.along (.unregisterApplication Stays.allowsTransitions)) <|
    .inTurn (Endures.silent.along (.unpublishApplication Stays.allowsTransitions)) (.pure fun _ _ => id)

theorem descend_ensures {answer : Except GattError Unit → Except GattError Unit} (key : p.advertisement = some 0) :
    Ensures released (Laden (β := β) state) (do
      setPeripheralState .stopping
      let outcome ← tearDown p
      setPeripheralState .stopped
      return answer outcome) fun _ => Silent .stopped :=
  .bind (setPeripheralState_ensures .carries fun _ _ => trivial) fun _ =>
    .bind (tearDown_ensures key) fun _ =>
    .bind (setPeripheralState_ensures .lies fun _ mode => mode) fun _ => .pure fun _ _ => id

theorem startPeripheral_busy_ensures (flag : Bool) (busy : p.state ≠ .stopped) :
    Ensures released (Rides (β := β) flag p) startPeripheral fun _ => Rides flag p :=
  refused_ensures flag (.error _) fun seen known => by simp only [known, if_neg busy]; rfl

theorem stopPeripheral_stopped_ensures (flag : Bool) (stopped : p.state = .stopped) :
    Ensures released (Rides (β := β) flag p) stopPeripheral fun _ => Rides flag p :=
  refused_ensures flag (.ok ()) fun seen known => by simp only [known, if_pos stopped]

theorem stopPeripheral_busy_ensures (key : p.advertisement = some 0) (busy : p.state ≠ .stopped) :
    Ensures released (Carries (β := β) p) stopPeripheral fun _ => Silent .stopped := by
  have peripheral (h : Host β) (met : List (Host β)) : Carries p h met → h.peripheral = some p :=
    fun ⟨_, stands⟩ => (Prod.mk.inj stands).1
  refine attended_ensures (.carries p) (fun _ => .silent) peripheral fun seen known => ?_
  simp only [known, if_neg busy]
  exact (descend_ensures key).weaken fun h met carries => ⟨p, ⟨key, rfl, trivial⟩, carries⟩

theorem startPeripheral_stopped_ensures (key : p.advertisement = some 0) (stopped : p.state = .stopped)
    (mode : p.mode = none) : Ensures released (Rides (β := β) false p) startPeripheral fun _ h met =>
      Lit .running h met ∨ Silent .stopped h met := by
  have dark (h : Host β) (met : List (Host β)) (rides : Rides false p h met) : Dark .stopped h met :=
    ⟨p, ⟨key, stopped, by simp [mode]⟩, rides⟩
  have starting : Ensures released (Rides (β := β) false p) (setPeripheralState .starting) fun _ => Dark .starting :=
    (setPeripheralState_ensures (.rides false) fun _ mode => mode).weaken dark
  refine attended_ensures (.rides false p) (fun _ => .or .lit .silent) (fun h met rides => (Prod.mk.inj rides.1).1)
    fun seen known => ?_
  simp only [known, if_pos stopped]
  refine starting.bind fun _ => .bind (bringUp_ensures key) fun outcome => ?_
  cases outcome with
  | ok => exact .bind (setPeripheralState_lit .running) fun _ => .pure fun _ _ => .inl
  | error e => exact ((descend_ensures key).weaken fun _ _ => Lit.laden).conclude fun _ _ _ => .inr

end GattPeripheral.Host
