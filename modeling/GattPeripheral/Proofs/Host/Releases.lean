import GattPeripheral.Proofs.Host.Standing
import GattPeripheral.Proofs.Tree.Editing
import Mathlib.Data.List.Induction

/-!
# Releases at any moment

A peripheral is started and stopped, and the daemon drops its advertisement whenever it likes. The
peripheral then goes on claiming a registration that the advertisement knows to be gone. Main statement:
`Host.mode_follows_iff`.
-/

namespace GattPeripheral

open Routine

/-- What comes between two states in which no call is in progress. A call names who is to come next, with
`true` for the daemon. -/
inductive Moment (β : Type) where
  | start (coming : List Bool)
  | stop (coming : List Bool)
  | release
  | edit (edit : Edit)
  /-- The bus and the helper programs change on their own. -/
  | surround (change : β → β) (programs : Dict String Ending)

variable {β : Type}

def Moment.pass [Transport β] (moment : Moment β) (h : Host β) : Visited (Host β) :=
  match moment with
  | start coming => (Host.startPeripheral.amid Host.released ⟨h, coming, []⟩).2
  | stop coming => (Host.stopPeripheral.amid Host.released ⟨h, coming, []⟩).2
  | release => ⟨h.released, [], [h]⟩
  | edit e => ⟨{ h with application := e.apply h.application }, [], []⟩
  | surround change programs =>
      ⟨{ h with channel := { h.channel with bus := change h.channel.bus }, programs }, [], []⟩

namespace Host

def passed [Transport β] (moments : List (Moment β)) (h : Host β) : Host β :=
  moments.foldl (fun h moment => (moment.pass h).state) h

def Lawful (h : Host β) : Prop :=
  ∃ p, h.peripheral = some p ∧ (p.mode = some .registered ↔ h.airs = true) ∧ (p.state = .stopped → p.mode = none)

def Runs (h : Host β) : Prop := ∃ p, h.peripheral = some p ∧ p.state = .running

structure Steady (p : Peripheral) (flag : Bool) (h : Host β) : Prop where
  key : p.advertisement = some 0
  standing : h.standing = (some p, [flag])
  settled : p.state = .stopped ∧ p.mode = none ∧ flag = false ∨
    p.state = .running ∧ (flag = true → p.mode = some .registered)

variable {h : Host β} {p : Peripheral} {flag : Bool}

namespace Steady

theorem peripheral (steady : h.Steady p flag) : h.peripheral = some p := (only_of_standing steady.standing).1

theorem lawful_iff (steady : h.Steady p flag) : h.Lawful ↔ (p.mode = some .registered → flag = true) := by
  have airs := airs_of_standing steady.standing
  constructor
  · rintro ⟨q, known, follows, -⟩ claimed
    cases steady.peripheral.symm.trans known
    exact airs ▸ follows.mp claimed
  · intro follows
    refine ⟨p, steady.peripheral, ⟨fun claimed => airs.trans (follows claimed), fun on => ?_⟩, fun stopped => ?_⟩
    · rcases steady.settled with ⟨-, -, off⟩ | ⟨-, claims⟩
      · cases (airs.trans off).symm.trans on
      · exact claims (airs.symm.trans on)
    · rcases steady.settled with ⟨-, mode, -⟩ | ⟨running, -⟩
      · exact mode
      · cases stopped.symm.trans running

theorem runs_iff (steady : h.Steady p flag) : h.Runs ↔ p.state = .running := by
  constructor
  · rintro ⟨q, known, running⟩
    cases steady.peripheral.symm.trans known
    exact running
  · exact fun running => ⟨p, steady.peripheral, running⟩

theorem rides (steady : h.Steady p flag) : Rides flag p h [] :=
  ⟨by rw [steady.standing]; cases flag <;> rfl, by cases flag <;> rfl⟩

end Steady

theorem steady_overseen (bus : β) (root adapter : ObjectPath) (options : RegistrationOptions) (path : ObjectPath)
    (data : AdvertisementData) (adapterName : Option String) :
    (overseen bus root adapter options (some (path, data)) adapterName).Steady (.new (some 0) adapterName) false :=
  ⟨rfl, rfl, .inl ⟨rfl, rfl, rfl⟩⟩

variable [Transport β]

theorem pass_cases (steady : h.Steady p flag) (moment : Moment β) :
    let v := moment.pass h
    Rides flag p v.state v.met ∨ p.state = .stopped ∧ Lit .running v.state v.met ∨ Silent .stopped v.state v.met := by
  intro v
  cases moment with
  | start coming =>
      rcases steady.settled with ⟨stopped, mode, rfl⟩ | ⟨running, -⟩
      · have started := startPeripheral_stopped_ensures steady.key stopped mode ⟨h, coming, []⟩ steady.rides
        exact .inr (started.imp_left fun lit => ⟨stopped, lit⟩)
      · exact .inl (startPeripheral_busy_ensures flag (by simp [running]) ⟨h, coming, []⟩ steady.rides)
  | stop coming =>
      rcases steady.settled with ⟨stopped, -⟩ | ⟨running, -⟩
      · exact .inl (stopPeripheral_stopped_ensures flag stopped ⟨h, coming, []⟩ steady.rides)
      · exact .inr (.inr (stopPeripheral_busy_ensures steady.key (by simp [running]) ⟨h, coming, []⟩
          ⟨flag, steady.standing⟩))
  | release => exact .inl ((Endures.rides flag p).stable h [] steady.rides)
  | edit e => exact .inl steady.rides
  | surround change programs => exact .inl steady.rides

theorem Steady.pass (steady : h.Steady p flag) (moment : Moment β) :
    let v := moment.pass h
    ∃ q now, v.state.Steady q now ∧ (h.Lawful → (v.state.Lawful ↔ (v.state.Runs → unnoticed v.met = true))) := by
  intro v
  rcases pass_cases steady moment with ⟨stands, noticed⟩ |
    ⟨-, ⟨q, ⟨key, running, claimed⟩, stands, -⟩ | ⟨q, ⟨key, running, denied⟩, stands, noticed⟩⟩ |
    ⟨q, ⟨key, stopped, mode⟩, stands⟩
  · have after : v.state.Steady p (flag && unnoticed v.met) := by
      refine ⟨steady.key, stands, steady.settled.imp (fun ⟨stopped, mode, off⟩ => ⟨stopped, mode, by simp [off]⟩) ?_⟩
      exact fun ⟨running, claims⟩ => ⟨running, fun on => claims (Bool.and_eq_true_iff.mp on).1⟩
    refine ⟨p, _, after, fun lawful => ?_⟩
    rw [after.lawful_iff, after.runs_iff]
    rw [steady.lawful_iff] at lawful
    rcases steady.settled with ⟨stopped, mode, -⟩ | ⟨running, claims⟩
    · simp [stopped, mode]
    · cases flag with
      | false => exact ⟨fun _ _ => noticed, fun _ claimed => lawful claimed⟩
      | true => exact ⟨fun follows _ => follows (claims rfl), fun quiet _ => quiet running⟩
  · have after : v.state.Steady q (true && unnoticed v.met) := ⟨key, stands, .inr ⟨running, fun _ => claimed⟩⟩
    refine ⟨q, _, after, fun _ => ?_⟩
    rw [after.lawful_iff, after.runs_iff]
    simp [claimed, running]
  · have after : v.state.Steady q (false && unnoticed v.met) := ⟨key, stands, .inr ⟨running, nofun⟩⟩
    refine ⟨q, _, after, fun _ => ?_⟩
    rw [after.lawful_iff, after.runs_iff]
    exact ⟨fun _ _ => noticed, fun _ claimed => absurd claimed denied⟩
  · have after : v.state.Steady q false := ⟨key, stands, .inl ⟨stopped, mode, rfl⟩⟩
    refine ⟨q, _, after, fun _ => ?_⟩
    rw [after.lawful_iff, after.runs_iff]
    simp [mode, stopped]

theorem passed_concat (front : List (Moment β)) (moment : Moment β) (h : Host β) :
    h.passed (front ++ [moment]) = (moment.pass (h.passed front)).state := by
  rw [passed, List.foldl_append]
  rfl

theorem Steady.passed (steady : h.Steady p flag) (moments : List (Moment β)) :
    ∃ q now, (h.passed moments).Steady q now := by
  induction moments generalizing h p flag with
  | nil => exact ⟨p, flag, steady⟩
  | cons moment moments ih =>
      obtain ⟨q, now, steady, -⟩ := steady.pass moment
      exact ih steady

/-- Whatever the daemon and the bus do, the peripheral claims the registration whenever the advertisement is
registered, and claims nothing when it is stopped. It claims the registration only then, after each part of
the run, exactly if the daemon never meets the advertisement registered and leaves the peripheral running. -/
theorem mode_follows_iff (bus : β) (root adapter : ObjectPath) (options : RegistrationOptions) (path : ObjectPath)
    (data : AdvertisementData) (adapterName : Option String) (moments : List (Moment β)) :
    let after (front : List (Moment β)) :=
      (overseen bus root adapter options (some (path, data)) adapterName).passed front
    (∀ front, front <+: moments → ∃ p, (after front).peripheral = some p ∧ (p.state = .stopped ∨ p.state = .running) ∧
        ((after front).airs = true → p.mode = some .registered) ∧
        (p.state = .stopped → p.mode = none ∧ (after front).airs = false)) ∧
      ((∀ front, front <+: moments → (after front).Lawful) ↔
        ∀ front moment, front ++ [moment] <+: moments → (after (front ++ [moment])).Runs →
          ∀ met ∈ (moment.pass (after front)).met, met.airs = false) := by
  intro after
  have start := steady_overseen bus root adapter options path data adapterName
  have unnoticed_iff (met : List (Host β)) : unnoticed met = true ↔ ∀ s ∈ met, s.airs = false := by
    simp [unnoticed]
  refine ⟨fun front _ => ?_, fun lawful front moment before => ?_, fun kept front before => ?_⟩
  · obtain ⟨p, flag, steady⟩ := start.passed front
    have airs := airs_of_standing steady.standing
    rcases steady.settled with ⟨stopped, mode, off⟩ | ⟨running, claims⟩
    · refine ⟨p, steady.peripheral, .inl stopped, fun on => ?_, fun _ => ⟨mode, airs.trans off⟩⟩
      cases (airs.trans off).symm.trans on
    · refine ⟨p, steady.peripheral, .inr running, fun on => claims (airs.symm.trans on), fun stopped => ?_⟩
      cases stopped.symm.trans running
  · obtain ⟨p, flag, steady⟩ := start.passed front
    obtain ⟨-, -, -, exact⟩ := steady.pass moment
    have last := lawful _ before
    rw [show after (front ++ [moment]) = _ from passed_concat front moment _] at last ⊢
    rw [← unnoticed_iff]
    exact (exact (lawful front ((List.prefix_append front [moment]).trans before))).mp last
  · induction front using List.reverseRecOn with
    | nil => exact start.lawful_iff.mpr fun claimed => by cases claimed
    | append_singleton front moment ih =>
        obtain ⟨p, flag, steady⟩ := start.passed front
        obtain ⟨-, -, -, exact⟩ := steady.pass moment
        have running := kept front moment before
        rw [show after (front ++ [moment]) = _ from passed_concat front moment _] at running ⊢
        rw [← unnoticed_iff] at running
        exact (exact (ih ((List.prefix_append front [moment]).trans before))).mpr running

def dropped : Host MemoryBus :=
  (overseen (MemoryBus.empty.putProperty ⟨.root, Names.adapter, Names.powered⟩ (.bool true)) .root .root .standard
    (some (.root, .new .peripheral)) none).passed [.start [], .release]

theorem dropped_claims_registration : ¬ dropped.Lawful ∧ dropped.airs = false ∧
    dropped.peripheral.map (fun p => (p.state, p.mode)) = some (.running, some .registered) := by
  have off : dropped.airs = false := by decide +kernel
  have claimed : dropped.peripheral.map (fun p => (p.state, p.mode)) = some (.running, some .registered) := by
    decide +kernel
  refine ⟨?_, off, claimed⟩
  rintro ⟨p, known, follows, -⟩
  rw [known, Option.map_some, Option.some.injEq, Prod.mk.injEq] at claimed
  cases off.symm.trans (follows.mp claimed.2)

end Host
end GattPeripheral
