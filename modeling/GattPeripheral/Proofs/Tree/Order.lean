import GattPeripheral.Proofs.Tree.Walks

/-!
# The order of publication

A publication goes through the tree from its leaves to its root. `Application.exportTree_exports` and
`Application.publish_exports`: on any bus it does what exporting the sites of the `settled` tree does, in which
no client configuration is missing. Unlike for `exportTree_flat` these are the sites of a tree that is known before.
`bottomUp` lists what is requested, as `topDown` does for a withdrawal.
-/

namespace GattPeripheral

def Application.settled (a : Application) : Application := { a with services := a.services.map Service.settle }

/-! ## The walk -/

section Walk
variable {β : Type} [Transport β]

def Exports (sites : List Site) (c : Channel β) (result : Except BusError Unit × Channel β) : Prop :=
  ((exportSites sites c).1.2, (exportSites sites c).2) = result

namespace Exports

variable {front back : List Site} {c d : Channel β}

theorem nil (c : Channel β) : Exports [] c (.ok (), c) := rfl

theorem singleton (site : Site) (c : Channel β) : Exports [site] c (Channel.exportNode site.path site.node c) := by
  rw [Exports, exportSites_singleton]
  cases Channel.exportNode site.path site.node c with
  | mk outcome d => cases outcome <;> rfl

theorem stop {e : BusError} (first : Exports front c (.error e, d)) (back : List Site) :
    Exports (front ++ back) c (.error e, d) := by
  obtain ⟨outcome, channel⟩ := Prod.mk.inj first
  have failed : exportSites front c = (((exportSites front c).1.1, .error e), d) :=
    Prod.ext (Prod.ext rfl outcome) channel
  rw [Exports, exportSites_append_error failed]

theorem append {result : Except BusError Unit × Channel β} (first : Exports front c (.ok (), d))
    (second : Exports back d result) : Exports (front ++ back) c result := by
  obtain ⟨outcome, channel⟩ := Prod.mk.inj first
  have done : exportSites front c = (((exportSites front c).1.1, .ok ()), d) := Prod.ext (Prod.ext rfl outcome) channel
  rw [Exports, exportSites_append_ok done]
  exact second

end Exports

theorem Level.row_exports {ν : Type} (L : Level ν) {step : Nat → ν → StateM (Channel β) (Stepped ν)}
    (each : ∀ i x c, Exports (L.sites i (L.settle x)) c ((step i x c).1.2, (step i x c).2)) (position : Nat)
    (xs : List ν) (c : Channel β) : Exports (sitesFrom L.sites position (xs.map L.settle)) c
      ((publishEach step position xs c).1.2, (publishEach step position xs c).2) := by
  induction xs generalizing position c with
  | nil => exact .nil c
  | cons x xs ih =>
      have here := each position x c
      cases run : step position x c with
      | mk stepped d =>
          obtain ⟨x', outcome⟩ := stepped
          rw [run] at here
          cases outcome with
          | error e =>
              rw [publishEach_cons_error run]
              exact here.stop _
          | ok =>
              rw [publishEach_cons_ok run]
              exact here.append (ih (position + 1) d)

theorem Descriptor.publish_exports (service characteristic position : Nat) (d : Descriptor) (c : Channel β) :
    Exports (d.sites service characteristic position) c
      ((d.publish (.descriptor service characteristic position) c).1.2,
        (d.publish (.descriptor service characteristic position) c).2) := by
  have own := Exports.singleton ⟨.descriptor service characteristic position, d.path, d.published⟩ c
  rw [publish, stateM_bind]
  cases asked : Channel.exportNode d.path (.descriptor service characteristic position) c with
  | mk outcome c' =>
      simp only [asked] at own
      cases outcome <;> exact own

theorem Characteristic.publish_exports (service position : Nat) (x : Characteristic) (c : Channel β) :
    Exports (x.withClientConfiguration.sites service position) c
      ((x.publish service position c).1.2, (x.publish service position c).2) := by
  have children := (Descriptor.level service position).row_exports
    (Descriptor.publish_exports (β := β) service position) 0 x.withClientConfiguration.descriptors c
  rw [show (Descriptor.level service position).settle = id from rfl, List.map_id] at children
  rw [publish, stateM_bind]
  cases walked : publishEach (fun i d => d.publish (.descriptor service position i)) 0
    x.withClientConfiguration.descriptors c with
  | mk stepped d =>
      obtain ⟨ds, outcome⟩ := stepped
      rw [walked] at children
      cases outcome with
      | error e => exact children.stop _
      | ok =>
          have all := children.append (.singleton ⟨.characteristic service position,
            x.withClientConfiguration.path, x.withClientConfiguration.published⟩ d)
          simp only [stateM_bind]
          cases own : Channel.exportNode x.withClientConfiguration.path (.characteristic service position) d with
          | mk outcome d' =>
              simp only [own] at all
              cases outcome <;> exact all

theorem Service.publish_exports (x : Service) (c : Channel β) :
    Exports x.settle.sites c ((x.publish c).1.2, (x.publish c).2) := by
  have children := (Characteristic.level x.key).row_exports
    (Characteristic.publish_exports (β := β) x.key) 0 x.characteristics c
  rw [publish, stateM_bind]
  cases walked : publishEach (fun i c => c.publish x.key i) 0 x.characteristics c with
  | mk stepped d =>
      obtain ⟨cs, outcome⟩ := stepped
      rw [walked] at children
      cases outcome with
      | error e => exact children.stop _
      | ok =>
          have all := children.append (.singleton ⟨.service x.key, x.path, x.published⟩ d)
          simp only [stateM_bind]
          cases own : Channel.exportNode x.path (.service x.key) d with
          | mk outcome d' =>
              simp only [own] at all
              cases outcome <;> exact all

namespace Application

def walk (a : Application) : List Site := a.withRoot a.settled.sites

theorem exportTree_exports (a : Application) (c : Channel β) :
    Exports a.walk c ((a.exportTree c).1.2, (a.exportTree c).2) := by
  have children := Service.level.row_exports (fun _ => Service.publish_exports (β := β)) 0 a.services c
  rw [exportTree, stateM_bind]
  cases walked : publishEach (fun _ s => s.publish) 0 a.services c with
  | mk stepped d =>
      obtain ⟨ss, outcome⟩ := stepped
      rw [walked] at children
      cases outcome with
      | error e => exact children.stop _
      | ok => exact children.append (.singleton (a.rootSite false) d)

theorem publish_exports {a : Application} (free : a.isRegistered = false) (c : Channel β) :
    ∃ outcome, Exports a.walk c (outcome, (a.publish c).2) ∧ (a.publish c).1.2 = outcome.mapError .bus := by
  have exported : Exports a.walk c _ := exportTree_exports { a with frozen := true } c
  cases run : exportTree { a with frozen := true } c with
  | mk stepped d =>
      obtain ⟨b, outcome⟩ := stepped
      rw [run] at exported
      cases outcome with
      | ok =>
          rw [publish_of_exported free run]
          exact ⟨_, exported, rfl⟩
      | error e =>
          rw [publish_of_refused free run]
          exact ⟨_, exported, rfl⟩

end Application
end Walk

/-! ## The order -/

def Site.entry (site : Site) : ObjectPath × ObjectKind := (site.path, site.node.kind)

def Characteristic.bottomUp (c : Characteristic) : List (ObjectPath × ObjectKind) :=
  (c.descriptors.flatMap fun d => [(d.path, .descriptor)]) ++ [(c.path, .characteristic)]

def Service.bottomUp (s : Service) : List (ObjectPath × ObjectKind) :=
  s.characteristics.flatMap Characteristic.bottomUp ++ [(s.path, .service)]

def Application.bottomUp (a : Application) : List (ObjectPath × ObjectKind) :=
  a.services.flatMap Service.bottomUp ++ [(a.path, .application)]

theorem Characteristic.map_entry_sites (service position : Nat) (c : Characteristic) :
    (c.sites service position).map Site.entry = c.bottomUp := by
  rw [sites, List.map_append, map_sitesFrom fun i d => show (Descriptor.sites service position i d).map Site.entry =
    [(d.path, .descriptor)] from rfl]
  rfl

theorem Service.map_entry_sites (s : Service) : s.sites.map Site.entry = s.bottomUp := by
  rw [sites, List.map_append, map_sitesFrom fun i c => c.map_entry_sites s.key i]
  rfl

theorem Application.map_entry_walk (a : Application) : a.walk.map Site.entry = a.settled.bottomUp := by
  rw [walk, withRoot, sites, List.map_append, map_sitesFrom fun _ s => s.map_entry_sites]
  rfl

theorem Application.map_path_walk (a : Application) : a.walk.map Site.path = a.settled.bottomUp.map Prod.fst := by
  rw [← a.map_entry_walk, List.map_map]
  rfl

theorem Application.map_fst_bottomUp (a : Application) : a.bottomUp.map Prod.fst = a.paths ++ [a.path] := by
  have sites : a.bottomUp = a.sites.map Site.entry ++ [(a.path, .application)] := by
    rw [bottomUp, Application.sites, map_sitesFrom fun _ s => s.map_entry_sites]
  rw [sites, List.map_append, List.map_map, ← a.map_path_sites]
  rfl

/-! ## On a bus in memory -/

namespace Application

variable {a : Application} {c : Channel MemoryBus}

theorem publish_memory (free : a.isRegistered = false) :
    (a.publish c).1.2 = (refusal (c.bus.left a.walk)).mapError .bus ∧
      (a.publish c).2 = { c.exporting (c.bus.taken a.walk) with
        trace := (c.exporting (c.bus.taken a.walk)).trace ++ refusalEvents (c.bus.left a.walk) } := by
  obtain ⟨outcome, exported, answer⟩ := publish_exports free c
  rw [Exports, exportSites_memory] at exported
  obtain ⟨rfl, channel⟩ := Prod.mk.inj exported
  exact ⟨answer, channel.symm⟩

theorem Kept.publish_marks (kept : a.Kept c) (free : a.isRegistered = false)
    (bare : ∀ site ∈ a.sites, site.published = false) : ∀ site ∈ (a.publish c).1.1.sites,
      site.published = true ↔ site.path ∈ (c.bus.taken a.walk).map Site.path := by
  obtain ⟨sites, b, outcome, d, result, publication, -⟩ := kept.publish_cases free
  have taken : (c.bus.taken (a.withRoot sites)).map Site.path = (c.bus.taken a.walk).map Site.path := by
    have record := publication.everExported
    rw [show d = _ from congrArg Prod.snd result.symm, (publish_memory free).2, everExported_exporting] at record
    exact (List.append_cancel_left record).symm
  rw [result, ← taken]
  intro site member
  rcases publication.mem_sites member with ⟨old, inside, rfl⟩ | left
  · exact iff_of_true rfl (List.mem_map.mpr ⟨old, inside, rfl⟩)
  · refine iff_of_false (fun published => ?_) fun inside => ?_
    · exact Bool.false_ne_true ((bare site (publication.mem_of_left left published)).symm.trans published)
    · exact (List.nodup_append.mp publication.nodup).2.2 _ inside _ (List.mem_map_of_mem left) rfl

end Application
end GattPeripheral
