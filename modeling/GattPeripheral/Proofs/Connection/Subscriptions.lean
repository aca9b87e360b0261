import GattPeripheral.Proofs.Connection.Following
import GattPeripheral.Proofs.Tree.Exports

/-!
# Subscriptions on a bus in memory

A bus that is asked to drop a subscription may refuse, and is not asked again. `Accounts` keeps those
subscriptions apart from the ones that a tracker still holds. `Tracker.Enrolled` is kept by everything that
a tracker does with its channel: `Enrolled.start`, `Enrolled.stop`, `Enrolled.follow`.
-/

namespace GattPeripheral

def Event.refusedToDrop? : Event → Option Nat
  | .unsubscribed subscription (some _) => some subscription
  | _ => none

def Channel.undropped {β : Type} (c : Channel β) : List Nat := c.trace.filterMap Event.refusedToDrop?

abbrev Subscription := Nat × SignalRule

def Channel.registry (c : Channel MemoryBus) : List Subscription × Nat × List Nat :=
  (c.bus.subscriptions, c.bus.nextSubscription, c.undropped)

/-- The bus has the subscriptions `strays`, which it refused to drop, and after them `own`. No two have
one number, and later ones will have other numbers. -/
structure Accounts (strays own : List Subscription) (c : Channel MemoryBus) : Prop where
  subscriptions : c.bus.subscriptions = strays ++ own
  undropped : strays.map Prod.fst = c.undropped
  distinct : ((strays ++ own).map Prod.fst).Nodup
  bounded : ∀ s ∈ strays ++ own, s.1 < c.bus.nextSubscription

namespace Channel

variable {β : Type}

theorem mem_undropped {c : Channel β} {subscription : Nat} :
    subscription ∈ c.undropped ↔ ∃ e, Event.unsubscribed subscription (some e) ∈ c.trace := by
  rw [undropped, List.mem_filterMap]
  constructor
  · rintro ⟨event, member, refused⟩
    unfold Event.refusedToDrop? at refused
    split at refused
    · cases refused
      exact ⟨_, member⟩
    · cases refused
  · rintro ⟨e, member⟩
    exact ⟨_, member, rfl⟩

theorem undropped_silent (c : Channel β) (bus : β) {event : Event} (silent : event.refusedToDrop? = none) :
    undropped ⟨bus, c.trace ++ [event]⟩ = c.undropped := by
  simp [undropped, silent]

theorem undropped_refused (c : Channel β) (bus : β) (subscription : Nat) (e : BusError) :
    undropped ⟨bus, c.trace ++ [.unsubscribed subscription (some e)]⟩ = c.undropped ++ [subscription] :=
  List.filterMap_append

theorem unsubscribe_dropped {c : Channel MemoryBus} (heard : c.bus.failingUnsubscribes = 0) (subscription : Nat) :
    Channel.unsubscribe subscription c = (.ok (),
      ⟨{ c.bus with subscriptions := c.bus.subscriptions.filter (·.1 != subscription) },
        c.trace ++ [.unsubscribed subscription none]⟩) := by
  have bus : Transport.unsubscribe subscription c.bus =
      (.ok (), { c.bus with subscriptions := c.bus.subscriptions.filter (·.1 != subscription) }) := by
    simp only [Transport.unsubscribe, MemoryBus.unsubscribe, heard]
  rw [Channel.unsubscribe, request_eq, bus]
  rfl

theorem unsubscribe_refused {c : Channel MemoryBus} {n : Nat} (failing : c.bus.failingUnsubscribes = n + 1)
    (subscription : Nat) : Channel.unsubscribe subscription c = (.error .notConnected,
      ⟨{ c.bus with failingUnsubscribes := n }, c.trace ++ [.unsubscribed subscription (some .notConnected)]⟩) := by
  have bus : Transport.unsubscribe subscription c.bus =
      (.error .notConnected, { c.bus with failingUnsubscribes := n }) := by
    simp only [Transport.unsubscribe, MemoryBus.unsubscribe, failing]
  rw [Channel.unsubscribe, request_eq, bus]
  rfl

theorem subscribe_full {c : Channel MemoryBus} (full : c.bus.isFull = true) (rule : SignalRule) :
    Channel.subscribe rule c =
      (.error .notConnected, ⟨c.bus, c.trace ++ [.subscribed rule (some .notConnected)]⟩) := by
  rw [Channel.subscribe, request_eq, show Transport.subscribe rule c.bus = _ from if_pos full]
  rfl

theorem subscribe_open {c : Channel MemoryBus} (room : c.bus.isFull = false) (rule : SignalRule) :
    Channel.subscribe rule c = (.ok c.bus.nextSubscription,
      ⟨{ c.bus with
          subscriptions := c.bus.subscriptions ++ [(c.bus.nextSubscription, rule)]
          nextSubscription := c.bus.nextSubscription + 1 },
        c.trace ++ [.subscribed rule none]⟩) := by
  rw [Channel.subscribe, request_eq, show Transport.subscribe rule c.bus = _ from if_neg (by simp [room])]
  rfl

end Channel

namespace Accounts

variable {strays own : List Subscription} {c : Channel MemoryBus}

theorem of_registry {c' : Channel MemoryBus} (accounts : Accounts strays own c) (same : c'.registry = c.registry) :
    Accounts strays own c' := by
  simp only [Channel.registry, Prod.mk.injEq] at same
  obtain ⟨subscriptions, next, undropped⟩ := same
  exact ⟨subscriptions.trans accounts.subscriptions, accounts.undropped.trans undropped.symm, accounts.distinct,
    next ▸ accounts.bounded⟩

theorem filter_subscriptions {s : Subscription} (accounts : Accounts strays (s :: own) c) :
    c.bus.subscriptions.filter (·.1 != s.1) = strays ++ own := by
  have once := accounts.distinct
  rw [List.map_append, List.map_cons, List.nodup_middle, List.nodup_cons, ← List.map_append] at once
  have others : ∀ s' ∈ strays ++ own, (s'.1 != s.1) = true := fun s' member =>
    bne_iff_ne.mpr fun same => once.1 (same ▸ List.mem_map_of_mem member)
  rw [List.forall_mem_append] at others
  simp only [accounts.subscriptions, List.filter_append, List.filter_cons, bne_self_eq_false, Bool.false_eq_true,
    if_false, List.filter_eq_self.mpr others.1, List.filter_eq_self.mpr others.2]

theorem dropped {s : Subscription} (accounts : Accounts strays (s :: own) c) {c' : Channel MemoryBus}
    (subscriptions : c'.bus.subscriptions = c.bus.subscriptions.filter (·.1 != s.1))
    (next : c'.bus.nextSubscription = c.bus.nextSubscription) (undropped : c'.undropped = c.undropped) :
    Accounts strays own c' where
  subscriptions := subscriptions.trans accounts.filter_subscriptions
  undropped := accounts.undropped.trans undropped.symm
  distinct := accounts.distinct.sublist (((List.sublist_cons_self s own).append_left strays).map _)
  bounded s' member := next ▸ accounts.bounded s' (((List.sublist_cons_self s own).append_left strays).subset member)

theorem unsubscribe {s : Subscription} (accounts : Accounts strays (s :: own) c) :
    let c' := (Channel.unsubscribe s.1 c).2
    c.bus.failingUnsubscribes = 0 ∧ c'.bus.failingUnsubscribes = 0 ∧ Accounts strays own c' ∨
      ∃ n, c.bus.failingUnsubscribes = n + 1 ∧ c'.bus.failingUnsubscribes = n ∧
        Accounts (strays ++ [s]) own c' := by
  intro c'
  cases failing : c.bus.failingUnsubscribes with
  | zero =>
      have run : c' = _ := congrArg Prod.snd (Channel.unsubscribe_dropped failing s.1)
      rw [run]
      exact .inl ⟨rfl, failing, accounts.dropped rfl rfl (Channel.undropped_silent c _ rfl)⟩
  | succ n =>
      have run : c' = _ := congrArg Prod.snd (Channel.unsubscribe_refused failing s.1)
      have shape : strays ++ s :: own = strays ++ [s] ++ own := List.append_cons strays s own
      rw [run]
      have undropped : (strays ++ [s]).map Prod.fst = c.undropped ++ [s.1] := by
        rw [List.map_append, accounts.undropped, List.map_singleton]
      exact .inr ⟨n, rfl, rfl, accounts.subscriptions.trans shape, undropped.trans (c.undropped_refused _ _ _).symm,
        shape ▸ accounts.distinct, shape ▸ accounts.bounded⟩

theorem unsubscribeAll (accounts : Accounts strays own c) :
    Accounts (strays ++ own.take c.bus.failingUnsubscribes) [] (Tracker.unsubscribeAll (own.map Prod.fst) c).2 := by
  -- Failures come first, so that what the bus refuses to drop is the front of what is held.
  induction own generalizing strays c with
  | nil =>
      rw [List.take_nil, List.append_nil]
      exact accounts
  | cons s own ih =>
      rw [List.map_cons, Tracker.unsubscribeAll, stateM_bind]
      rcases accounts.unsubscribe with ⟨heard, still, dropped⟩ | ⟨n, failing, fewer, refused⟩
      · simpa [heard, still] using ih dropped
      · simpa [failing, fewer] using ih refused

theorem subscribe (accounts : Accounts strays own c) (rule : SignalRule) :
    let step := Channel.subscribe rule c
    (∃ e, step.1 = .error e) ∧ Accounts strays own step.2 ∨
      ∃ id, step.1 = .ok id ∧ Accounts strays (own ++ [(id, rule)]) step.2 := by
  intro step
  cases full : c.bus.isFull with
  | true =>
      refine .inl ?_
      rw [show step = _ from Channel.subscribe_full full rule]
      have same : Channel.undropped ⟨c.bus, c.trace ++ [.subscribed rule (some .notConnected)]⟩ = c.undropped :=
         c.undropped_silent c.bus rfl
      exact ⟨⟨_, rfl⟩, accounts.of_registry (congrArg (fun ids => (_, _, ids)) same)⟩
  | false =>
      refine .inr ⟨c.bus.nextSubscription, ?_⟩
      rw [show step = _ from Channel.subscribe_open full rule]
      have fresh : c.bus.nextSubscription ∉ (strays ++ own).map Prod.fst := by
        intro member
        obtain ⟨s, held, same⟩ := List.mem_map.mp member
        exact absurd (accounts.bounded s held) (by omega)
      refine ⟨rfl, ?_, ?_, ?_, fun s member => ?_⟩
      · rw [accounts.subscriptions, List.append_assoc]
      · rw [accounts.undropped, Channel.undropped_silent c _ rfl]
      · rw [← List.append_assoc, List.map_append, List.map_singleton, ← List.concat_eq_append]
        exact accounts.distinct.concat fresh
      · rw [← List.append_assoc, List.mem_append, List.mem_singleton] at member
        rcases member with held | rfl
        · exact Nat.lt_succ_of_lt (accounts.bounded s held)
        · exact Nat.lt_succ_self _

theorem subscribeAll (accounts : Accounts strays own c) (rules : List SignalRule) :
    let run := Tracker.subscribeAll (own.map Prod.fst) rules c
    ∃ own', (own'.map Prod.snd <+: own.map Prod.snd ++ rules) ∧
      (run.1 = .ok (own'.map Prod.fst) ∧ own'.map Prod.snd = own.map Prod.snd ++ rules ∧ Accounts strays own' run.2 ∨
        ∃ e n, run.1 = .error e ∧ Accounts (strays ++ own'.take n) [] run.2) := by
  intro run
  induction rules generalizing own c with
  | nil => exact ⟨own, by simp, .inl ⟨rfl, by simp, accounts⟩⟩
  | cons rule rules ih =>
      have first := accounts.subscribe rule
      cases outcome : Channel.subscribe rule c with
      | mk result c' =>
          rw [outcome] at first
          rcases first with ⟨⟨e, rfl⟩, same⟩ | ⟨id, rfl, more⟩
          · refine ⟨own, List.prefix_append _ _, .inr ⟨.bus e, c'.bus.failingUnsubscribes, ?_⟩⟩
            have stopped : run = (.error (.bus e), (Tracker.unsubscribeAll (own.map Prod.fst) c').2) := by
              simp only [run, Tracker.subscribeAll, stateM_bind, outcome]
              rfl
            rw [stopped]
            exact ⟨rfl, same.unsubscribeAll⟩
          · have goes : run = Tracker.subscribeAll ((own ++ [(id, rule)]).map Prod.fst) rules c' := by
              simp only [run, Tracker.subscribeAll, stateM_bind, outcome, List.map_append, List.map_singleton]
            rw [goes]
            simpa using ih more

end Accounts

namespace Tracker

/-- The tracker holds one subscription for each rule, or none. The bus refuses the first rule first. -/
structure Enrolled (strays own : List Subscription) (t : Tracker) (c : Channel MemoryBus) : Prop where
  accounts : Accounts strays own c
  foremost : strays ≠ [] → ∃ s ∈ strays, s.2 = .added
  held : t.subscriptions = none ∧ own = [] ∨
    t.subscriptions = some (own.map Prod.fst) ∧ own.map Prod.snd = rules

theorem foremost_append {strays own : List Subscription} (foremost : strays ≠ [] → ∃ s ∈ strays, s.2 = .added)
    (prefixed : own.map Prod.snd <+: rules) (n : Nat) :
    strays ++ own.take n ≠ [] → ∃ s ∈ strays ++ own.take n, s.2 = .added := by
  intro some
  by_cases none : strays = []
  · subst none
    cases own with
    | nil => simp at some
    | cons s own =>
        cases n with
        | zero => simp at some
        | succ n =>
            have first : s.2 = .added := (List.cons_prefix_cons.mp prefixed).1
            exact ⟨s, by simp, first⟩
  · obtain ⟨s, member, first⟩ := foremost none
    exact ⟨s, List.mem_append_left _ member, first⟩

namespace Enrolled

variable {strays own : List Subscription} {t : Tracker} {c : Channel MemoryBus}

theorem isInitialized (enrolled : Enrolled strays own t c) : t.isInitialized = true ↔ own.map Prod.snd = rules := by
  rcases enrolled.held with ⟨none, rfl⟩ | ⟨some, all⟩
  · simp [Tracker.isInitialized, none, rules]
  · simp [Tracker.isInitialized, some, all]

theorem idle (enrolled : Enrolled strays own t c) (idle : t.isInitialized = false) : own = [] := by
  rcases enrolled.held with ⟨-, empty⟩ | ⟨some, -⟩
  · exact empty
  · rw [Tracker.isInitialized, some] at idle
    cases idle

theorem congr {t' : Tracker} {c' : Channel MemoryBus} (enrolled : Enrolled strays own t c)
    (subscriptions : t'.subscriptions = t.subscriptions) (same : c'.registry = c.registry) :
    Enrolled strays own t' c' :=
  ⟨enrolled.accounts.of_registry same, enrolled.foremost, subscriptions ▸ enrolled.held⟩

theorem start (enrolled : Enrolled strays own t c) :
    ∃ strays' own', Enrolled strays' own' (t.start c).1.1 (t.start c).2 := by
  cases started : t.isInitialized with
  | true =>
      rw [start_again started]
      exact ⟨strays, own, enrolled⟩
  | false =>
      obtain rfl := enrolled.idle started
      obtain ⟨own', prefixed, ⟨result, all, accounts⟩ | ⟨e, n, result, accounts⟩⟩ :=
        enrolled.accounts.subscribeAll rules
      · rw [start_ok started result]
        exact ⟨strays, own', accounts, enrolled.foremost, .inr ⟨rfl, all⟩⟩
      · rw [start_error started result]
        exact ⟨_, [], accounts, foremost_append enrolled.foremost prefixed n, .inl ⟨not_held started, rfl⟩⟩

theorem stop (enrolled : Enrolled strays own t c) :
    ∃ strays' own', Enrolled strays' own' (t.stop c).1 (t.stop c).2 := by
  rcases enrolled.held with ⟨none, rfl⟩ | ⟨some, all⟩
  · rw [stop_idle none]
    exact ⟨strays, [], enrolled⟩
  · rw [stop_held some]
    have prefixed : own.map Prod.snd <+: rules := all ▸ List.prefix_rfl
    exact ⟨_, [], enrolled.accounts.unsubscribeAll, foremost_append enrolled.foremost prefixed _, .inl ⟨rfl, rfl⟩⟩

theorem follow (enrolled : Enrolled strays own t c) (signal : Signal) :
    Enrolled strays own (t.follow signal c).1 (t.follow signal c).2 := by
  refine enrolled.congr (follow_subscriptions signal t c) ?_
  have unseen : Unseen Channel.registry (t.follow signal : StateM (Channel MemoryBus) _) := by
    unfold Tracker.follow
    split
    split
    · refine .bind (.forM fun n c => ?_) fun _ => .pure _
      exact congrArg (fun ids => (_, _, ids)) (c.undropped_silent c.bus rfl)
    · exact .pure _
  exact unseen c

theorem receivers (enrolled : Enrolled strays own t c) (signal : Signal) : Transport.receivers signal c.bus =
    strays.countP (fun s => signal.isMatch s.2) + if t.isInitialized then rules.countP signal.isMatch else 0 := by
  have split : Transport.receivers signal c.bus =
      strays.countP (fun s => signal.isMatch s.2) + own.countP (fun s => signal.isMatch s.2) := by
    rw [← List.countP_append, ← enrolled.accounts.subscriptions]
    rfl
  rw [split]
  congr 1
  cases started : t.isInitialized with
  | true => rw [if_pos rfl, ← enrolled.isInitialized.mp started, List.countP_map, Function.comp_def]
  | false => rw [enrolled.idle started, if_neg Bool.false_ne_true, List.countP_nil]

end Enrolled
end Tracker
end GattPeripheral
