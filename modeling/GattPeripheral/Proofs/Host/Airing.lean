import GattPeripheral.Proofs.Host.Operation
import GattPeripheral.Proofs.Host.Starting

/-!
# Histories of an advertisement

An advertisement on a bus in memory is published, registered, configured and taken back. It says that it
is registered only while it is on the bus, exactly if it is never unpublished while it is registered:
`Host.truthful_iff`.
-/

namespace GattPeripheral

inductive Airing where
  | publish
  | unpublish
  | register
  | unregister
  /-- The daemon drops the advertisement on its side. -/
  | release
  | configure (edit : AdvertisementData → AdvertisementData)
  | equip (fallbacks : List FallbackStep)
  | arrange (around : Surroundings)

def Airing.perform (act : Airing) (h : Host MemoryBus) : Host MemoryBus :=
  match act with
  | publish => ((Host.publishAdvertisement 0).run h).2
  | unpublish => ((Host.unpublishAdvertisement 0).run h).2
  | register => ((Host.registerAdvertisement 0).run h).2
  | unregister => ((Host.unregisterAdvertisement 0).run h).2
  | release => h.withAdvertisement 0 Advertisement.release
  | configure edit => h.withAdvertisement 0 fun a => (a.configure edit).2
  | equip fallbacks => h.withAdvertisement 0 fun a => { a with fallbacks }
  | arrange around => h.arrange around

theorem Advertisement.configure_standing (a : Advertisement) (edit : AdvertisementData → AdvertisementData) :
    (a.configure edit).2.path = a.path ∧ (a.configure edit).2.published = a.published ∧
      (a.configure edit).2.registered = a.registered := by
  unfold Advertisement.configure
  split <;> exact ⟨rfl, rfl, rfl⟩

namespace Host

def aired (acts : List Airing) (h : Host MemoryBus) : Host MemoryBus := acts.foldl (fun h act => act.perform h) h

def offAir (bus : MemoryBus) (root adapter : ObjectPath) (options : RegistrationOptions) (path : ObjectPath)
    (data : AdvertisementData) : Host MemoryBus :=
  ((new bus root adapter options).addAdvertisement (.new path data)).2

def HasRegistered (h : Host MemoryBus) : Prop := ∃ a ∈ h.advertisements, a.registered = true

/-- Neither the advertisement nor the answer to its registration says that it is registered while it is
not on the bus. -/
structure Truthful (h : Host MemoryBus) : Prop where
  state : h.HasRegistered → h.ShowsAdvertisements
  answer : ((registerAdvertisement 0).run h).1 = .ok .registered →
    ((registerAdvertisement 0).run h).2.ShowsAdvertisements

theorem tryFallbacks_ne_registered {β : Type} [Transport β] (steps : List FallbackStep) (h : Host β) :
    ((tryFallbacks steps).run h).1 ≠ .ok .registered := by
  induction steps generalizing h with
  | nil => exact fun ok => by cases ok
  | cons step steps ih =>
      rw [tryFallbacks, Routine.run_bind']
      cases ((enableFallback step).run h).1 with
      | ok => exact fun ok => by cases ok
      | error e => exact ih _

structure Airs (a : Advertisement) (h : Host MemoryBus) : Prop where
  only : h.advertisements = [a]
  entry : a.published = true → h.channel.bus.exported.get? a.path = some (.advertisement 0)

variable {h h' : Host MemoryBus} {a : Advertisement}

theorem airs_offAir (bus : MemoryBus) (root adapter : ObjectPath) (options : RegistrationOptions) (path : ObjectPath)
    (data : AdvertisementData) : (offAir bus root adapter options path data).Airs (.new path data) :=
  ⟨rfl, fun published => by cases published⟩

namespace Airs

theorem hasRegistered (airs : h.Airs a) : h.HasRegistered ↔ a.registered = true := by
  rw [HasRegistered, airs.only]
  simp

theorem shows (airs : h.Airs a) : h.ShowsAdvertisements ↔ a.published = true := by
  rw [ShowsAdvertisements, airs.only, List.forall_mem_singleton]
  exact ⟨And.left, fun published => ⟨published, airs.entry published⟩⟩

theorem beside (airs : h.Airs a) (beside : h.Beside MemoryBus.exported h') : h'.Airs a :=
  ⟨beside.advertisements.trans airs.only, beside.bus ▸ airs.entry⟩

theorem edit (airs : h.Airs a) (edit : Advertisement → Advertisement) (path : (edit a).path = a.path)
    (published : (edit a).published = a.published) : (h.withAdvertisement 0 edit).Airs (edit a) where
  only := by
    rw [withAdvertisement, airs.only]
    rfl
  entry := by
    rw [path, published]
    exact airs.entry

theorem published (airs : h.Airs a) : ∃ a', ((publishAdvertisement 0).run h).2.Airs a' ∧
    (a' = a ∨ a' = { a with published := true }) := by
  obtain ⟨-, ⟨-, alike, same⟩ | ⟨-, advertises⟩⟩ := publishAdvertisement_cases airs.only
  · exact ⟨a, ⟨same.trans airs.only, alike.table ▸ airs.entry⟩, .inl rfl⟩
  · have shown := advertises.shows
    rw [ShowsAdvertisements, advertises.after, List.forall_mem_singleton] at shown
    exact ⟨_, ⟨advertises.after, fun _ => shown.2⟩, .inr rfl⟩

theorem unpublished (airs : h.Airs a) :
    ((unpublishAdvertisement 0).run h).2.Airs { a with published := false } := by
  obtain ⟨outcome, c, -, run⟩ := unpublishAdvertisement_run h (get?_of_only airs.only)
  rw [run]
  refine ⟨?_, fun published => by cases published⟩
  rw [withAdvertisement, airs.only]
  rfl

theorem made (airs : h.Airs a) : ((makeAdvertised a).run h).2.Airs a :=
  airs.beside (Routine.Minds.makeRegistration MemoryBus.blind_exported _ _ h)

theorem registered (airs : h.Airs a) :
    let done := (registerAdvertisement 0).run h
    done.2.Airs a ∧ (done.1 = .ok .registered → a.registered = true) ∨
      a.published = true ∧ done.1 = .ok .registered ∧ done.2.Airs { a with registered := true } := by
  rcases registerAdvertisement_run h (get?_of_only airs.only) with
    ⟨registered, run⟩ | ⟨-, -, e, run⟩ | ⟨-, published, ⟨-, run⟩ | ⟨e, -, run | ⟨steps, run⟩⟩⟩
  · rw [run]
    exact .inl ⟨airs, fun _ => registered⟩
  · rw [run]
    exact .inl ⟨airs, fun ok => by cases ok⟩
  · rw [run]
    exact .inr ⟨published, rfl, airs.made.edit (fun a => { a with registered := true }) rfl rfl⟩
  · rw [run]
    exact .inl ⟨airs.made, fun ok => by cases ok⟩
  · rw [run]
    have tried := Routine.Minds.tryFallbacks MemoryBus.blind_exported.toBlindToProperties steps
    exact .inl ⟨airs.made.beside (tried _), fun ok => absurd ok (tryFallbacks_ne_registered steps _)⟩

theorem unregistered (airs : h.Airs a) : ∃ a', ((unregisterAdvertisement 0).run h).2.Airs a' ∧
    (a' = a ∨ a' = a.release) := by
  rcases unregisterAdvertisement_run h (get?_of_only airs.only) with ⟨-, run⟩ | ⟨-, run⟩
  · rw [run]
    exact ⟨a, airs, .inl rfl⟩
  · rw [run]
    have dropped : ((dropAdvertised a).run h).2.Airs a :=
      airs.beside (Routine.Minds.dropRegistration MemoryBus.blind_exported _ h)
    exact ⟨_, dropped.edit Advertisement.release rfl rfl, .inr rfl⟩

theorem perform (airs : h.Airs a) (act : Airing) : ∃ a', (act.perform h).Airs a' ∧
    (act = .unpublish ∧ a' = { a with published := false } ∨
      act ≠ .unpublish ∧ (a.published = true → a'.published = true) ∧
        (a'.registered = true → a.registered = true ∨ a.published = true)) := by
  cases act with
  | publish =>
      obtain ⟨_, airs', rfl | rfl⟩ := airs.published
      · exact ⟨_, airs', .inr ⟨nofun, id, .inl⟩⟩
      · exact ⟨_, airs', .inr ⟨nofun, fun _ => rfl, .inl⟩⟩
  | unpublish => exact ⟨_, airs.unpublished, .inl ⟨rfl, rfl⟩⟩
  | register =>
      rcases airs.registered with ⟨airs', -⟩ | ⟨published, -, airs'⟩
      · exact ⟨_, airs', .inr ⟨nofun, id, .inl⟩⟩
      · exact ⟨_, airs', .inr ⟨nofun, id, fun _ => .inr published⟩⟩
  | unregister =>
      obtain ⟨_, airs', rfl | rfl⟩ := airs.unregistered
      · exact ⟨_, airs', .inr ⟨nofun, id, .inl⟩⟩
      · exact ⟨_, airs', .inr ⟨nofun, id, nofun⟩⟩
  | release => exact ⟨_, airs.edit Advertisement.release rfl rfl, .inr ⟨nofun, id, nofun⟩⟩
  | configure edit =>
      obtain ⟨path, published, registered⟩ := a.configure_standing edit
      have kept := airs.edit (fun a => (a.configure edit).2) path published
      exact ⟨_, kept, .inr ⟨nofun, published.trans, fun later => .inl (registered.symm.trans later)⟩⟩
  | equip fallbacks => exact ⟨_, airs.edit (fun a => { a with fallbacks }) rfl rfl, .inr ⟨nofun, id, .inl⟩⟩
  | arrange around => exact ⟨a, ⟨airs.only, airs.entry⟩, .inr ⟨nofun, id, .inl⟩⟩

theorem aired (airs : h.Airs a) (acts : List Airing) : ∃ a', (h.aired acts).Airs a' := by
  induction acts generalizing a h with
  | nil => exact ⟨a, airs⟩
  | cons act acts ih =>
      obtain ⟨a', next, -⟩ := airs.perform act
      exact ih next

theorem aired_published (airs : h.Airs a) (published : a.registered = true → a.published = true) {acts : List Airing}
    (clean : ∀ front, front ++ [.unpublish] <+: acts → ¬ (h.aired front).HasRegistered) :
    ∃ a', (h.aired acts).Airs a' ∧ (a'.registered = true → a'.published = true) := by
  induction acts generalizing a h with
  | nil => exact ⟨a, airs, published⟩
  | cons act acts ih =>
      obtain ⟨a', next, cases⟩ := airs.perform act
      refine ih next ?_ fun front before => clean (act :: front) (List.cons_prefix_cons.mpr ⟨rfl, before⟩)
      rcases cases with ⟨rfl, rfl⟩ | ⟨-, stays, source⟩
      · have free := clean [] (List.cons_prefix_cons.mpr ⟨rfl, List.nil_prefix⟩)
        exact fun registered => absurd (airs.hasRegistered.mpr registered) free
      · intro registered
        rcases source registered with before | shown
        · exact stays (published before)
        · exact stays shown

theorem truthful (airs : h.Airs a) (published : a.registered = true → a.published = true) : h.Truthful where
  state registered := airs.shows.mpr (published (airs.hasRegistered.mp registered))
  answer ok := by
    rcases airs.registered with ⟨same, only⟩ | ⟨shown, -, registered⟩
    · exact same.shows.mpr (published (only ok))
    · exact registered.shows.mpr shown

theorem not_truthful (airs : h.Airs a) (registered : h.HasRegistered) : ¬ (Airing.perform .unpublish h).Truthful := by
  intro truthful
  have gone := airs.unpublished
  cases gone.shows.mp (truthful.state (gone.hasRegistered.mpr (airs.hasRegistered.mp registered)))

end Airs

theorem aired_concat (front : List Airing) (act : Airing) (h : Host MemoryBus) :
    h.aired (front ++ [act]) = act.perform (h.aired front) := by
  rw [aired, List.foldl_append]
  rfl

/-- Whatever was done to an advertisement: it was registered only while it was published and exported, after
each part of the history, exactly if it was not registered any more whenever it was unpublished. -/
theorem truthful_iff (bus : MemoryBus) (root adapter : ObjectPath) (options : RegistrationOptions) (path : ObjectPath)
    (data : AdvertisementData) (acts : List Airing) :
    let after (front : List Airing) := (offAir bus root adapter options path data).aired front
    (∀ front, front <+: acts → (after front).Truthful) ↔
      ∀ front, front ++ [.unpublish] <+: acts → ¬ (after front).HasRegistered := by
  intro after
  have start := airs_offAir bus root adapter options path data
  constructor
  · intro truthful front before registered
    obtain ⟨a, airs⟩ := start.aired front
    have last := truthful _ before
    rw [show after (front ++ [.unpublish]) = _ from aired_concat front .unpublish _] at last
    exact airs.not_truthful registered last
  · intro clean front before
    obtain ⟨a, airs, published⟩ := start.aired_published nofun fun front' before' => clean front' (before'.trans before)
    exact airs.truthful published

def takenAway : Host MemoryBus :=
  (offAir MemoryBus.empty .root .root .standard .root (.new .peripheral)).aired [.publish, .register, .unpublish]

theorem registered_without_object : takenAway.HasRegistered ∧
    takenAway.advertisements.map Advertisement.published = [false] ∧
    takenAway.channel.bus.isExported .root = false ∧
    ((registerAdvertisement 0).run takenAway).1 = .ok .registered :=
  ⟨⟨_, List.mem_singleton_self _, rfl⟩, rfl, by decide +kernel, rfl⟩

end Host
end GattPeripheral
