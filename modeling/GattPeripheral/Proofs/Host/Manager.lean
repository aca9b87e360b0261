import GattPeripheral.Bus.Memory
import GattPeripheral.Proofs.Host.Requests
import GattPeripheral.Proofs.Tree.Unseen

/-!
# A manager that remembers

The manager of an adapter keeps the entries it was told to register and answers by them, but calls and
answers may get lost on the way. `make_answered` and `drop_answered`: a call that succeeds tells the
truth about the manager. `make_faithful`: as long as nothing gets lost a registration succeeds, whatever stale
entry the manager still holds.
-/

namespace GattPeripheral

/-- A failure that tells nothing about the manager. -/
structure Loss where
  error : BusError
  noExistence : error.isAlreadyExists = false
  noAbsence : error.isDoesNotExist = false

/-- What becomes of a call: its answer arrives, with the text of an error reply, or the call gets lost
before or after it took effect. -/
inductive Delivery where
  | faithful (text : String)
  | lostBefore (loss : Loss)
  | lostAfter (loss : Loss)

abbrev Entry := String × ObjectPath

def ManagerCall.entry (c : ManagerCall) : Entry := (c.interface, c.path)

def ManagerCall.isRegistration : ManagerCall → Bool
  | registerApplication _ _ | registerAdvertisement _ _ => true
  | unregisterApplication _ | unregisterAdvertisement _ => false

structure ManagedBus where
  memory : MemoryBus
  held : List Entry
  /-- What becomes of the next calls; once it is empty, all are answered. -/
  deliveries : List Delivery

namespace ManagedBus

def alreadyExists : String := "org.bluez.Error.AlreadyExists"

def settle (text : String) (c : ManagerCall) (held : List Entry) : Except BusError Unit × List Entry :=
  match c.isRegistration, held.contains c.entry with
  | true, true => (.error (.remote alreadyExists text), held)
  | true, false => (.ok (), c.entry :: held)
  | false, true => (.ok (), held.filter (· != c.entry))
  | false, false => (.error (.remote Names.doesNotExist text), held)

def carry (c : ManagerCall) (delivery : Delivery) (b : ManagedBus) : Except BusError Unit × ManagedBus :=
  match delivery with
  | .faithful text => ((settle text c b.held).1, { b with held := (settle text c b.held).2 })
  | .lostBefore loss => (.error loss.error, b)
  | .lostAfter loss => (.error loss.error, { b with held := (settle "" c b.held).2 })

def answer (c : ManagerCall) : Request ManagedBus Unit := fun b =>
  match b.deliveries with
  | [] => carry c (.faithful "") b
  | delivery :: rest => carry c delivery { b with deliveries := rest }

def onMemory {α : Type} (act : Request MemoryBus α) : Request ManagedBus α := fun b =>
  ((act b.memory).1, { b with memory := (act b.memory).2 })

instance : Transport ManagedBus where
  exportNode path node := onMemory (MemoryBus.exportNode path node)
  unexportNode path _ := onMemory (MemoryBus.unexportNode path)
  travels _ := false
  call _ c _ b := (.atOnce (b.answer c).1, (b.answer c).2)
  getProperty path interface name := onMemory (MemoryBus.getProperty path interface name)
  setProperty path interface name value := onMemory (MemoryBus.setProperty path interface name value)
  managedObjects b := (.ok b.memory.managed, b)
  emit path interface changed b := { b with memory := b.memory.emit path interface changed }
  subscribe rule := onMemory (MemoryBus.subscribe rule)
  unsubscribe subscription := onMemory (MemoryBus.unsubscribe subscription)
  receivers signal b := b.memory.receivers signal
  isBroken _ := false

theorem held_blind_exports : Channel.BlindToExports fun c : Channel ManagedBus => c.bus.held :=
  ⟨fun _ _ _ => rfl, fun _ _ _ => rfl⟩

theorem held_blind_properties : Transport.BlindToProperties held := ⟨fun _ _ _ _ => rfl, fun _ _ _ _ _ => rfl⟩

theorem isAlreadyExists_reply (text : String) :
    (BusError.remote alreadyExists text).isAlreadyExists = true := by
  have named : BusError.endsIn alreadyExists ".AlreadyExists" = true := by decide +kernel
  simp only [BusError.isAlreadyExists, named, Bool.true_or]

/-! ## One call -/

theorem settle_spec (text : String) (c : ManagerCall) (held : List Entry) :
    (∀ entry, entry ≠ c.entry → (entry ∈ (settle text c held).2 ↔ entry ∈ held)) ∧
      (c.entry ∈ (settle text c held).2 ↔ c.isRegistration = true) := by
  unfold settle
  cases kind : c.isRegistration <;> cases known : held.contains c.entry <;> simp_all

structure Answered (c : ManagerCall) (b : ManagedBus) (answer : Except BusError Unit) (b' : ManagedBus) : Prop where
  others : ∀ entry, entry ≠ c.entry → (entry ∈ b'.held ↔ entry ∈ b.held)
  told : (∃ loss : Loss, answer = .error loss.error) ∨ (c.entry ∈ b'.held ↔ c.isRegistration = true)

theorem carried (c : ManagerCall) (delivery : Delivery) (b : ManagedBus) :
    Answered c b (b.carry c delivery).1 (b.carry c delivery).2 := by
  cases delivery with
  | faithful text => exact ⟨(settle_spec text c b.held).1, .inr (settle_spec text c b.held).2⟩
  | lostBefore loss => exact ⟨fun _ _ => Iff.rfl, .inl ⟨loss, rfl⟩⟩
  | lostAfter loss => exact ⟨(settle_spec "" c b.held).1, .inl ⟨loss, rfl⟩⟩

theorem answered (c : ManagerCall) (b : ManagedBus) : Answered c b (b.answer c).1 (b.answer c).2 := by
  unfold answer
  split
  · exact carried c _ b
  · have moved := carried c ‹_› { b with deliveries := ‹_› }
    exact ⟨moved.others, moved.told⟩

theorem Answered.of_ok {c : ManagerCall} {b b' : ManagedBus} (answered : Answered c b (.ok ()) b') :
    c.entry ∈ b'.held ↔ c.isRegistration = true := by
  rcases answered.told with ⟨loss, lost⟩ | told
  · cases lost
  · exact told

theorem Answered.of_absent {c : ManagerCall} {b b' : ManagedBus} {e : BusError}
    (answered : Answered c b (.error e) b') (absent : e.isDoesNotExist = true) :
    c.entry ∈ b'.held ↔ c.isRegistration = true := by
  rcases answered.told with ⟨loss, lost⟩ | told
  · cases lost
    rw [loss.noAbsence] at absent
    cases absent
  · exact told

def Faithful (count : Nat) (b : ManagedBus) : Prop := ∀ d ∈ b.deliveries.take count, ∃ text, d = .faithful text

theorem answer_faithful {count : Nat} {b : ManagedBus} (faithful : b.Faithful (count + 1)) (c : ManagerCall) :
    ∃ text, (b.answer c).1 = (settle text c b.held).1 ∧ (b.answer c).2.held = (settle text c b.held).2 ∧
      (b.answer c).2.Faithful count := by
  unfold answer
  cases next : b.deliveries with
  | nil => exact ⟨"", rfl, rfl, by simp [carry, Faithful, next]⟩
  | cons delivery rest =>
      rw [Faithful, next, List.take_succ_cons, List.forall_mem_cons] at faithful
      obtain ⟨⟨text, rfl⟩, later⟩ := faithful
      exact ⟨text, rfl, rfl, later⟩

/-! ## The calls of a registration -/

variable (adapter : ObjectPath) (options : RegistrationOptions)

theorem drop_bus (unregister : ManagerCall) (b : ManagedBus) :
    (Transport.drop adapter options unregister b).2 = (b.answer unregister).2 := by
  rw [Transport.drop, show Transport.ask adapter unregister options.unregisterTimeout b = b.answer unregister from rfl]
  cases b.answer unregister with
  | mk answer b' => cases answer <;> rfl

theorem drop_answered {unregister : ManagerCall} (kind : unregister.isRegistration = false) (b : ManagedBus) :
    (∀ entry, entry ≠ unregister.entry →
        (entry ∈ (Transport.drop adapter options unregister b).2.held ↔ entry ∈ b.held)) ∧
      ((Transport.drop adapter options unregister b).1 = .ok () →
        unregister.entry ∉ (Transport.drop adapter options unregister b).2.held) := by
  have answered := answered unregister b
  rw [Transport.drop, show Transport.ask adapter unregister options.unregisterTimeout b = b.answer unregister from rfl]
  cases h : b.answer unregister with
  | mk answer b' =>
      rw [h] at answered
      refine ⟨?_, ?_⟩
      · cases answer <;> exact answered.others
      · cases answer with
        | ok =>
            intro _ held
            rw [answered.of_ok, kind] at held
            cases held
        | error e =>
            intro ok held
            cases absent : e.isDoesNotExist with
            | false =>
                simp only [absent] at ok
                cases ok
            | true =>
                rw [answered.of_absent absent, kind] at held
                cases held

structure Pair (register unregister : ManagerCall) : Prop where
  entry : unregister.entry = register.entry
  makes : register.isRegistration = true
  drops : unregister.isRegistration = false

theorem Pair.application (path : ObjectPath) :
    Pair (.registerApplication path .empty) (.unregisterApplication path) := ⟨rfl, rfl, rfl⟩

theorem Pair.advertisement (path : ObjectPath) :
    Pair (.registerAdvertisement path .empty) (.unregisterAdvertisement path) := ⟨rfl, rfl, rfl⟩

variable {register unregister : ManagerCall} (pair : Pair register unregister)
include pair

theorem make_answered (b : ManagedBus) :
    (∀ entry, entry ≠ register.entry →
        (entry ∈ (Transport.make adapter options register unregister b).2.held ↔ entry ∈ b.held)) ∧
      ((Transport.make adapter options register unregister b).1 = .ok () →
        register.entry ∈ (Transport.make adapter options register unregister b).2.held) := by
  have first := answered register b
  rw [Transport.make, show Transport.ask adapter register options.timeout b = b.answer register from rfl]
  cases asked : b.answer register with
  | mk answer b' =>
      rw [asked] at first
      cases answer with
      | ok => exact ⟨first.others, fun _ => first.of_ok.mpr pair.makes⟩
      | error e =>
          cases known : e.isAlreadyExists with
          | false =>
              simp only [known]
              exact ⟨first.others, fun ok => by cases ok⟩
          | true =>
              have dropped := drop_answered adapter options pair.drops b'
              let cleared := (Transport.drop adapter options unregister b').2
              have again := answered register cleared
              simp only [known, if_true]
              refine ⟨fun entry other => ?_, fun ok => ?_⟩
              · exact (again.others entry other).trans
                  ((dropped.1 entry (pair.entry ▸ other)).trans (first.others entry other))
              · have ok : (cleared.answer register).1 = .ok () := ok
                rw [ok] at again
                exact again.of_ok.mpr pair.makes

theorem make_faithful {b : ManagedBus} (faithful : b.Faithful 3) :
    (Transport.make adapter options register unregister b).1 = .ok () := by
  obtain ⟨text, answer, held, faithful⟩ := answer_faithful faithful register
  rw [Transport.make, show Transport.ask adapter register options.timeout b = b.answer register from rfl]
  cases asked : b.answer register with
  | mk result b' =>
      rw [asked] at answer held faithful
      cases known : b.held.contains register.entry with
      | false =>
          simp only [settle, pair.makes, known] at answer
          subst answer
          rfl
      | true =>
          simp only [settle, pair.makes, known] at answer
          subst answer
          -- The entry is stale: it is dropped by the second call, so the third one finds it free.
          obtain ⟨text', -, held', faithful'⟩ := answer_faithful faithful unregister
          let cleared := (Transport.drop adapter options unregister b').2
          have same : cleared = (b'.answer unregister).2 := drop_bus adapter options unregister b'
          obtain ⟨text'', answer, -, -⟩ := answer_faithful (same ▸ faithful' : cleared.Faithful 1) register
          have free : cleared.held.contains register.entry = false := by
            have gone := (settle_spec text' unregister b'.held).2
            rw [← held', ← same, pair.drops, pair.entry] at gone
            simpa using gone
          simp only [isAlreadyExists_reply, if_true]
          refine Eq.trans (b := (cleared.answer register).1) rfl ?_
          simp only [answer, settle, pair.makes, free]

end ManagedBus
end GattPeripheral
