import GattPeripheral.Proofs.Host.Accesses
import GattPeripheral.Proofs.Tree.Signals
import GattPeripheral.Proofs.Tree.Unseen

/-!
# What clients hear of a characteristic

A history touches a characteristic if values are accessed at this characteristic and its descriptors only;
everything else may be done to the application. `Action.hears` says what clients hear of one action, and
`Host.follows_through` what they hear of a history. Main statement: `Host.changes_exact`.
-/

namespace GattPeripheral

def NodeRef.within (key position : Nat) : NodeRef → Bool
  | .characteristic k p | .descriptor k p _ => k == key && p == position
  | _ => false

theorem NodeRef.within_cases (node : NodeRef) {key position : Nat} (within : node.within key position = true) :
    node = .characteristic key position ∨ ∃ index, node = .descriptor key position index := by
  cases node with
  | characteristic k p =>
      obtain ⟨rfl, rfl⟩ : k = key ∧ p = position := by simpa [NodeRef.within] using within
      exact .inl rfl
  | descriptor k p index =>
      obtain ⟨rfl, rfl⟩ : k = key ∧ p = position := by simpa [NodeRef.within] using within
      exact .inr ⟨index, rfl⟩
  | _ => cases within

namespace Access

def node : Access → NodeRef
  | read node _ | write node _ _ | set node _ | notify node _ | readProvider node _ | writeProvider node _
  | observe node _ => node

def isPassive : Access → Bool
  | observe _ observer => observer.isPassive
  | _ => true

end Access

section Definitions
variable {β : Type} [Transport β]

/-- Values are accessed within the characteristic only, by callbacks that do not act on the tree. -/
def Action.touches (key position : Nat) : Action β → Bool
  | .access a => a.node.within key position && a.isPassive
  | _ => true

def Action.stores (key position : Nat) (action : Action β) (h : Host β) : Bool :=
  match action with
  | .access (.write node bytes options) =>
      decide (node = .characteristic key position) && (h.writeAttribute node bytes options).1.any Except.isOk
  | .access (.set node _) => decide (node = .characteristic key position)
  | _ => false

theorem Action.stores_write (key position : Nat) (bytes : Bytes) (options : AccessOptions) (h : Host β) :
    stores key position (.access (.write (.characteristic key position) bytes options)) h =
      (h.writeAttribute (.characteristic key position) bytes options).1.any Except.isOk := by simp [stores]

theorem Action.stores_set (key position : Nat) (bytes : Bytes) (h : Host β) :
    stores key position (.access (.set (.characteristic key position) bytes)) h = true := by simp [stores]

def Action.news (key position : Nat) (action : Action β) (h : Host β) : List Change :=
  match h.application.characteristic? key position, (action.perform h).application.characteristic? key position with
  | some c, some d => c.flips d ++ if action.stores key position h then c.stores d else []
  | _, _ => []

def Host.news (key position : Nat) : List (Action β) → Host β → List Change
  | [], _ => []
  | action :: actions, h => action.news key position h ++ news key position actions (action.perform h)

/-- The characteristic as it was when a value was last stored in it. -/
def Host.lastStore? (key position : Nat) : List (Action β) → Host β → Option Characteristic
  | [], _ => none
  | action :: actions, h =>
      (lastStore? key position actions (action.perform h)).or
        (if action.stores key position h then h.application.characteristic? key position else none)

end Definitions

variable {β : Type}

/-- What becomes of the characteristic `c` between two states, and what clients hear of it. -/
structure Hears (key position : Nat) (stored : Bool) (c d : Characteristic) (h h' : Host β) : Prop where
  found : h'.application.characteristic? key position = some d
  path : d.path = c.path
  passive : d.isPassive = true
  value : stored = false → d.value = c.value
  changes : h'.channel.changes c.path = h.channel.changes c.path ++ (c.flips d ++ if stored then c.stores d else [])

namespace Hears

variable {key position : Nat} {c d : Characteristic} {h h' : Host β}

theorem silent (found : h'.application.characteristic? key position = some d) (path : d.path = c.path)
    (passive : d.isPassive = true) (value : d.value = c.value) (notifying : d.notifying = c.notifying)
    (quiet : h'.channel.changes c.path = h.channel.changes c.path) : Hears key position false c d h h' := by
  refine ⟨found, path, passive, fun _ => value, ?_⟩
  rw [quiet, Characteristic.flips_same notifying]
  exact (List.append_nil _).symm

theorem of_core (found : h'.application.characteristic? key position = some d) (same : d.core = c.core)
    (passive : c.isPassive = true) (quiet : h'.channel.changes c.path = h.channel.changes c.path) :
    Hears key position false c d h h' := by
  injection same with _ path _ _ _ value notifying _ _ _ observer _
  refine silent found path ?_ value notifying quiet
  rw [Characteristic.isPassive, observer]
  exact passive

end Hears

/-! ## Accesses -/

section Accesses
variable {α : Type} {key position : Nat} {c : Characteristic} {h : Host β}

variable (found : h.application.characteristic? key position = some c) (passive : c.isPassive = true)
include found passive

theorem Leaves.hears {work : Work Characteristic β α} {stored : Bool} {d : Characteristic} {changes : List Change}
    (leaves : Leaves ⟨c, h.channel⟩ (work ⟨c, h.channel⟩).2 d changes) (path : d.path = c.path)
    (observer : d.observer = c.observer) (value : stored = false → d.value = c.value)
    (sent : changes = c.flips d ++ if stored then c.stores d else []) :
    Hears key position stored c d h (h.onCharacteristic key position work).2 := by
  rw [h.onCharacteristic_found found]
  refine ⟨?_, path, ?_, value, ?_⟩
  · have stays := Application.characteristic?_modifyCharacteristic found fun _ => (work ⟨c, h.channel⟩).2.node
    rwa [leaves.node] at stays ⊢
  · rw [Characteristic.isPassive, observer]
    exact passive
  · rw [← sent]
    exact leaves.sent

theorem Leaves.hears_same {work : Work Characteristic β α}
    (leaves : Leaves ⟨c, h.channel⟩ (work ⟨c, h.channel⟩).2 c []) :
    Hears key position false c c h (h.onCharacteristic key position work).2 :=
  leaves.hears found passive rfl rfl (fun _ => rfl) (by simp [Characteristic.flips_same])

theorem Leaves.hears_stored {work : Work Characteristic β α} {value : Bytes}
    (leaves : Leaves ⟨c, h.channel⟩ (work ⟨c, h.channel⟩).2 { c with value } (c.stores { c with value })) :
    Hears key position true c { c with value } h (h.onCharacteristic key position work).2 :=
  leaves.hears found passive rfl rfl (fun stored => by cases stored) (by simp [Characteristic.flips_same])

theorem Flips.hears {work : Work Characteristic β α} {switching : Bool}
    (flips : Flips switching ⟨c, h.channel⟩ (work ⟨c, h.channel⟩).2) :
    ∃ d, Hears key position false c d h (h.onCharacteristic key position work).2 := by
  obtain ⟨notifying, -, leaves⟩ := flips
  exact ⟨_, leaves.hears found passive rfl rfl (fun _ => rfl) (List.append_nil _).symm⟩

theorem Settles.hears {work : Work Characteristic β α} {switching : Bool} {index : Nat}
    (settles : Settles switching index ⟨c, h.channel⟩ (work ⟨c, h.channel⟩).2) :
    ∃ d, Hears key position false c d h (h.onCharacteristic key position work).2 := by
  obtain ⟨notifying, value, -, leaves⟩ := settles
  exact ⟨_, leaves.hears found passive rfl rfl (fun _ => rfl) (List.append_nil _).symm⟩

omit passive in
theorem Hears.edited {f : Characteristic → Characteristic} (path : (f c).path = c.path)
    (passive : (f c).isPassive = true) (value : (f c).value = c.value) (notifying : (f c).notifying = c.notifying) :
    Hears key position false c (f c) h
      { h with application := h.application.modifyCharacteristic key position f } :=
  .silent (Application.characteristic?_modifyCharacteristic found f) path passive value notifying rfl

variable [Transport β]

theorem Access.hears_write (bytes : Bytes) (options : AccessOptions) :
    ∃ d, Hears key position ((h.writeAttribute (.characteristic key position) bytes options).1.any Except.isOk) c d h
      (h.writeAttribute (.characteristic key position) bytes options).2 := by
  let work : Work Characteristic β (Except GattError Unit) := Characteristic.write bytes options
  have run : h.writeAttribute (.characteristic key position) bytes options = h.onCharacteristic key position work :=
    rfl
  have answer : (h.onCharacteristic key position work).1.any Except.isOk = (work ⟨c, h.channel⟩).1.isOk := by
    rw [h.onCharacteristic_found found]
    rfl
  rw [run, answer]
  rcases Characteristic.write_leaves ⟨c, h.channel⟩ bytes options with ⟨failed, leaves⟩ | ⟨ok, value, leaves⟩
  · rw [failed]
    exact ⟨c, leaves.hears_same found passive⟩
  · rw [ok]
    exact ⟨_, leaves.hears_stored found passive⟩

open Characteristic in
theorem Access.hears (placed : h.application.Placed) (access : Access)
    (within : access.node.within key position = true) (calm : access.isPassive = true) :
    ∃ d, Hears key position ((Action.access access : Action β).stores key position h) c d h (access.apply h) := by
  have apart := (placed.characteristic found).apart
  cases access with
  | read node options =>
      rcases node.within_cases within with rfl | ⟨index, rfl⟩
      · exact ⟨c, (read_leaves ⟨c, h.channel⟩ options).hears_same found passive⟩
      · exact ⟨c, (readDescriptor_leaves ⟨c, h.channel⟩ index options).hears_same found passive⟩
  | write node bytes options =>
      rcases node.within_cases within with rfl | ⟨index, rfl⟩
      · rw [Action.stores_write]
        exact Access.hears_write found passive bytes options
      · exact (writeDescriptor_settles (a := ⟨c, h.channel⟩) passive apart _ index bytes options).hears found passive
  | set node bytes =>
      rcases node.within_cases within with rfl | ⟨index, rfl⟩
      · rw [Action.stores_set]
        exact ⟨_, Leaves.hears_stored found passive (setValue_leaves ⟨c, h.channel⟩ bytes)⟩
      · exact (storeDescriptor_settles (a := ⟨c, h.channel⟩) passive apart _ index bytes 0).hears found passive
  | notify node notifying =>
      rcases node.within_cases within with rfl | ⟨index, rfl⟩
      · cases notifying with
        | true => exact (startNotify_flips (a := ⟨c, h.channel⟩) passive).hears found passive
        | false =>
            exact Flips.hears found passive (stopNotify_flips (a := ⟨c, h.channel⟩) passive)
      · exact ⟨c, .of_core found rfl passive rfl⟩
  | readProvider node provider =>
      rcases node.within_cases within with rfl | ⟨index, rfl⟩
      · exact ⟨_, .edited found rfl passive rfl rfl⟩
      · exact ⟨_, .edited found rfl passive rfl rfl⟩
  | writeProvider node provider =>
      rcases node.within_cases within with rfl | ⟨index, rfl⟩
      · exact ⟨_, .edited found rfl passive rfl rfl⟩
      · exact ⟨_, .edited found rfl passive rfl rfl⟩
  | observe node observer =>
      rcases node.within_cases within with rfl | ⟨index, rfl⟩
      · exact ⟨_, .edited found rfl calm rfl rfl⟩
      · exact ⟨_, .edited found rfl passive rfl rfl⟩

end Accesses

/-! ## Everything else -/

def Event.isOfAccess : Event → Bool
  | .emitted .. | .readProvider .. | .writeProvider .. | .observer .. => true
  | _ => false

theorem Event.isOfAccess_of_change {path : ObjectPath} {e : Event} (some : (e.change? path).isSome = true) :
    e.isOfAccess = true := by
  cases e with
  | emitted => rfl
  | _ => cases some

theorem Event.isOfAccess_of_question {e : Event} (question : e.isOfQuestion = true) : e.isOfAccess = false := by
  cases e <;> first | rfl | cases question

theorem Event.isOfAccess_of_call {e : Event} (call : e.isOfCall = true) : e.isOfAccess = false := by
  cases e <;> first | rfl | cases call

def Channel.accessEvents (c : Channel β) : List Event := c.trace.filter Event.isOfAccess

theorem Channel.accessEvents_silent (c : Channel β) (bus : β) {events : List Event}
    (silent : ∀ e ∈ events, e.isOfAccess = false) :
    Channel.accessEvents ⟨bus, c.trace ++ events⟩ = c.accessEvents := by
  have none : events.filter Event.isOfAccess = [] := List.filter_eq_nil_iff.mpr fun e member => by simp [silent e member]
  simp only [Channel.accessEvents, List.filter_append, none, List.append_nil]

section Transitions
variable [Transport β]

theorem Channel.blindToExports_accessEvents :
    Channel.BlindToExports (Channel.accessEvents : Channel β → List Event) where
  exportNode _ _ c := c.accessEvents_silent _ (by simp [Event.isOfAccess])
  unexportNode _ _ c := c.accessEvents_silent _ (by simp [Event.isOfAccess])

namespace Host

abbrev KeepsAccesses (h h' : Host β) : Prop := h'.channel.accessEvents = h.channel.accessEvents

theorem KeepsAccesses.allowsTransitions : AllowsTransitions (β := β) KeepsAccesses where
  clock _ _ := rfl
  runs _ _ := rfl
  getProperty _ _ _ _ := rfl
  setProperty _ _ _ _ _ := rfl
  record h e question := h.channel.accessEvents_silent _ (by simpa using Event.isOfAccess_of_question question)
  answer h adapter call timeout := by
    rw [onChannel, answerCall_eq]
    refine h.channel.accessEvents_silent _ fun e member => ?_
    rw [CallOutcome.eq_of_mem_receipt member]
    rfl
  told h e call := h.channel.accessEvents_silent _ (by simpa using Event.isOfAccess_of_call call)
  state _ _ := rfl
  publish h := h.application.publish_unseen Channel.blindToExports_accessEvents h.channel
  withdraw h := h.application.withdraw_unseen Channel.blindToExports_accessEvents h.channel

variable (h : Host β)

theorem transition_accessEvents {t : Transition} (own : t.isOfApplication = true) :
    (t.routine.run h).2.channel.accessEvents = h.channel.accessEvents :=
  Routine.Moves.run (R := KeepsAccesses) (fun _ => rfl) (fun first second => Eq.trans second first)
    (.transition KeepsAccesses.allowsTransitions own) h

theorem transition_changes (path : ObjectPath) {t : Transition} (own : t.isOfApplication = true) :
    (t.routine.run h).2.channel.changes path = h.channel.changes path :=
  filterMap_eq_of_filter_eq (h.transition_accessEvents own) fun _ => Event.isOfAccess_of_change

theorem transition_carries {t : Transition} (own : t.isOfApplication = true) :
    h.application.Carries (t.routine.run h).2.application := by
  rcases h.transition_cases_tree own with registers | ⟨-, run⟩ | ⟨-, run⟩
  · rw [registers.same]
    exact .refl h.application
  · obtain ⟨b, outcome, d, published, grown, -⟩ := h.publishApplication_outcome
    rw [run, published]
    exact grown.carries
  · obtain ⟨outcome, h', unpublished, grown, -⟩ := h.unpublishApplication_outcome
    rw [run, unpublished]
    exact grown.carries

end Host

theorem Action.hears {key position : Nat} {c : Characteristic} {h : Host β} (placed : h.application.Placed)
    (found : h.application.characteristic? key position = some c) (passive : c.isPassive = true) (action : Action β)
    (touches : action.touches key position = true) :
    ∃ d, Hears key position (action.stores key position h) c d h (action.perform h) := by
  cases action with
  | edit e =>
      obtain ⟨d, stays, same⟩ := e.carries placed key position c found
      exact ⟨d, .of_core stays same passive rfl⟩
  | access a =>
      obtain ⟨within, calm⟩ := Bool.and_eq_true_iff.mp touches
      exact a.hears found passive placed within calm
  | transition t own =>
      obtain ⟨d, stays, same⟩ := h.transition_carries own key position c found
      exact ⟨d, .of_core stays same passive (h.transition_changes c.path own)⟩
  | hold node => exact ⟨c, .of_core found rfl passive rfl⟩
  | letGo node => exact ⟨c, .of_core found rfl passive rfl⟩
  | bus change => exact ⟨c, .of_core found rfl passive rfl⟩

/-! ## Histories -/

namespace Host

structure Follows (key position : Nat) (actions : List (Action β)) (h : Host β) (c d : Characteristic) : Prop where
  found : (h.through actions).application.characteristic? key position = some d
  path : d.path = c.path
  changes : (h.through actions).channel.changes c.path = h.channel.changes c.path ++ h.news key position actions
  unstored : h.lastStore? key position actions = none →
    d.value = c.value ∧ (h.news key position actions).filterMap Change.value? = []
  stored : ∀ e, h.lastStore? key position actions = some e → e.published = true → e.notifying = true →
    ((h.news key position actions).filterMap Change.value?).getLast? = some d.value

variable {key position : Nat} {h : Host β} {c : Characteristic}

theorem Follows.nil (found : h.application.characteristic? key position = some c) :
    h.Follows key position [] c c := by
  refine ⟨found, rfl, (List.append_nil _).symm, fun _ => ⟨rfl, rfl⟩, fun e some => ?_⟩
  cases some

theorem lastStore?_cons (found : h.application.characteristic? key position = some c) (action : Action β)
    (actions : List (Action β)) : h.lastStore? key position (action :: actions) =
      ((action.perform h).lastStore? key position actions).or
        (if action.stores key position h then some c else none) := by
  rw [lastStore?, found]

section Cons
variable {d : Characteristic} {action : Action β} (found : h.application.characteristic? key position = some c)
include found

variable (heard : Hears key position (action.stores key position h) c d h (action.perform h))
include heard

theorem news_cons (actions : List (Action β)) : h.news key position (action :: actions) =
    (c.flips d ++ if action.stores key position h then c.stores d else []) ++
      (action.perform h).news key position actions := by
  rw [news, Action.news, found, heard.found]

theorem values_news_cons (actions : List (Action β)) :
    (h.news key position (action :: actions)).filterMap Change.value? =
      (if action.stores key position h && (c.published && c.notifying) then [d.value] else []) ++
        ((action.perform h).news key position actions).filterMap Change.value? := by
  rw [news_cons found heard, List.filterMap_append, List.filterMap_append, Characteristic.values_flips, List.nil_append]
  cases action.stores key position h with
  | true => rw [if_pos rfl, Characteristic.values_stores, Bool.true_and]
  | false => rfl

theorem Follows.cons {e : Characteristic} {actions : List (Action β)}
    (later : (action.perform h).Follows key position actions d e) :
    h.Follows key position (action :: actions) c e := by
  have last := lastStore?_cons found action actions
  have values := values_news_cons found heard actions
  refine ⟨later.found, later.path.trans heard.path, ?_, fun none => ?_, fun s some published notifying => ?_⟩
  · have sent := later.changes
    rw [heard.path, heard.changes, List.append_assoc] at sent
    rw [news_cons found heard]
    exact sent
  · rw [last, Option.or_eq_none_iff] at none
    obtain ⟨rest, here⟩ := none
    have idle : action.stores key position h = false := by simpa using here
    obtain ⟨same, silent⟩ := later.unstored rest
    rw [values, idle, silent]
    exact ⟨same.trans (heard.value idle), rfl⟩
  -- The last value was stored later on, or else by this action.
  · rw [last, Option.or_eq_some_iff] at some
    rcases some with some | ⟨rest, here⟩
    · rw [values, List.getLast?_append, later.stored s some published notifying]
      rfl
    · obtain ⟨stores, rfl⟩ : action.stores key position h = true ∧ c = s := by simpa using here
      obtain ⟨same, silent⟩ := later.unstored rest
      simp [values, silent, stores, published, notifying, same]

end Cons

def subscription : List (Action MemoryBus) :=
  [.transition .publish Transition.isOfApplication_publish, .access (.notify (.characteristic 0 0) true),
    .access (.set (.characteristic 0 0) [7])]

end Host

end Transitions
end GattPeripheral
