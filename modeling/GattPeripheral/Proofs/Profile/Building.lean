import GattPeripheral.Proofs.Offsets
import GattPeripheral.Proofs.Profile.Described

/-!
# Building the tree of a configuration

One more entry takes what is described by the entries so far to what is described by all of them, or is refused.
`Profile.addDescriptor_furnished`, `Profile.addCharacteristic_furnished` and `Profile.addService_described` are the
steps of the three levels. Main statement: `Profile.application_described`.
-/

namespace GattPeripheral

open Profile

/-! ## Descriptors -/

def Characteristic.furnished (c : Characteristic) (ds : List DescriptorEntry) : Characteristic :=
  { c with
    notifying := decide (DescriptorEntry.configuration ds).Subscribes
    descriptors := merged DescriptorEntry.identifier (DescriptorEntry.node c.path) ds }

theorem Characteristic.path_furnished (c : Characteristic) (ds : List DescriptorEntry) :
    (c.furnished ds).path = c.path := rfl

namespace Profile

theorem createDescriptor_furnished (c : Characteristic) (ds : List DescriptorEntry) (d : DescriptorEntry) :
    ∃ k f, Lands DescriptorEntry.identifier ds d k f ∧
      (c.furnished ds).createDescriptor false d.identifier d.permissions =
        (.ok k, { c.furnished ds with
          descriptors := opened DescriptorEntry.identifier (DescriptorEntry.node c.path) ds d }) := by
  rcases merged_cases (DescriptorEntry.node c.path) Descriptor.identifier (fun _ _ _ => rfl)
    ds d with ⟨k, f, found, lands, same⟩ | ⟨new, lands, added⟩
  · have found : (c.furnished ds).findDescriptor? d.identifier = some k := found
    refine ⟨k, f, lands, ?_⟩
    rw [Characteristic.createDescriptor, found, same]
    rfl
  · have new : (c.furnished ds).findDescriptor? d.identifier = none := new
    have path : c.path.freeChild .desc ((c.furnished ds).descriptors.map Descriptor.path) = _ :=
      freeChild_merged (DescriptorEntry.node c.path) (fun _ _ _ => rfl) ds
    refine ⟨_, d, lands, ?_⟩
    rw [Characteristic.createDescriptor, new, added]
    simp only [Characteristic.addDescriptor, Characteristic.path_furnished, path]
    rfl

theorem modify_opened {ds : List DescriptorEntry} {d f : DescriptorEntry} {k : Nat}
    (lands : Lands DescriptorEntry.identifier ds d k f) (parent : ObjectPath) :
    (opened DescriptorEntry.identifier (DescriptorEntry.node parent) ds d).modify k
        (fun x => { x with value := d.value }) =
      merged DescriptorEntry.identifier (DescriptorEntry.node parent) (ds ++ [d]) := by
  have value : { DescriptorEntry.node parent k f (sharing DescriptorEntry.identifier d ds) with value := d.value } =
      DescriptorEntry.node parent k f (sharing DescriptorEntry.identifier d ds ++ [d]) := by
    simp only [DescriptorEntry.node, List.map_append, List.map_cons, List.map_nil, List.getLastD_concat]
  rw [merged_concat lands, List.modify_eq_set_getElem?, lands.getElem?_opened]
  exact congrArg _ value

theorem offBus_setValue (value : Bytes) (c : Characteristic) :
    (offBus (Characteristic.setValue value) c).2 = { c with value := value } :=
  (Characteristic.setValue_records (⟨c, .ofBus .empty⟩ : Active Characteristic MemoryBus) value).node

theorem storeInitial_ok_iff {c : Characteristic} (passive : c.isPassive = true) {position : Nat} {d : Descriptor}
    (found : c.descriptors[position]? = some d) (value : Bytes) (c' : Characteristic) :
    storeInitial position value c = .ok c' ↔ c.denies true d value = false ∧
      c' = Characteristic.settle position value { c with notifying := c.flagAfter true d value } := by
  let a : Active Characteristic MemoryBus := ⟨c, .ofBus .empty⟩
  have next : Bytes.writeAt d.value 0 value = value := Bytes.writeAt_zero d.value value
  have run : storeInitial position value c =
      ((Characteristic.storeDescriptor true position value 0 : Work Characteristic MemoryBus _) a).1.map fun _ =>
        ((Characteristic.storeDescriptor true position value 0 : Work Characteristic MemoryBus _) a).2.node := rfl
  rw [run]
  cases denied : c.denies true d value with
  | true =>
      rw [Characteristic.storeDescriptor_refused a found value (Nat.zero_le _) (next.symm ▸ denied)]
      simp [Except.map]
  | false =>
      have allowed : a.node.denies true d (Bytes.writeAt d.value 0 value) = false := next.symm ▸ denied
      obtain ⟨done, left⟩ := Characteristic.storeDescriptor_records a found value (Nat.zero_le _) passive allowed
      rw [done, left.node, next]
      simp [Except.map, eq_comm (a := c'), a]

theorem denies_eq_false_iff {x : Descriptor} {d : DescriptorEntry} (kind : x.isClientConfiguration = d.isConfiguration)
    (c : Characteristic) : c.denies true x d.value = false ↔ d.Granted c.flags := by
  rw [Characteristic.denies, kind, Bool.and_true, DescriptorEntry.Granted, DescriptorEntry.Asks,
    ← Characteristic.wantsNotifications_iff, ← Flags.notifies_iff]
  cases d.isConfiguration <;> cases Characteristic.wantsNotifications d.value <;> cases c.flags.notifies <;> simp

theorem storeInitial_opened {ds : List DescriptorEntry} {d f : DescriptorEntry} {k : Nat}
    (lands : Lands DescriptorEntry.identifier ds d k f) (c c' : Characteristic) (passive : c.isPassive = true) :
    storeInitial k d.value { c.furnished ds with
        descriptors := opened DescriptorEntry.identifier (DescriptorEntry.node c.path) ds d } = .ok c' ↔
      d.Granted c.flags ∧ c' = c.furnished (ds ++ [d]) := by
  let fresh : Characteristic := { c.furnished ds with
    descriptors := opened DescriptorEntry.identifier (DescriptorEntry.node c.path) ds d }
  let x := DescriptorEntry.node c.path k f (sharing DescriptorEntry.identifier d ds)
  have row : fresh.descriptors[k]? = some x := lands.getElem?_opened (DescriptorEntry.node c.path)
  have kind : x.isClientConfiguration = d.isConfiguration := by
    rw [DescriptorEntry.isConfiguration, ← Identifier.clientConfiguration_bits]
    exact BEq.congr_left lands.same
  have filled : Characteristic.settle k d.value { fresh with notifying := fresh.flagAfter true x d.value } =
      c.furnished (ds ++ [d]) := by
    rw [Characteristic.furnished, DescriptorEntry.configuration_concat, Characteristic.settle, modify_opened lands,
      Characteristic.flagAfter, kind, Bool.and_true, ← Characteristic.decide_subscribes]
    cases d.isConfiguration <;> rfl
  rw [← filled, ← denies_eq_false_iff kind]
  exact storeInitial_ok_iff (c := fresh) passive row d.value c'

theorem addDescriptor_furnished (c c' : Characteristic) (passive : c.isPassive = true) (ds : List DescriptorEntry)
    (config : DescriptorConfig) : addDescriptor (c.furnished ds) config = .ok c' ↔
      config.Legible ∧ config.entry.Granted c.flags ∧ c' = c.furnished (ds ++ [config.entry]) := by
  obtain ⟨k, f, lands, created⟩ := createDescriptor_furnished c ds config.entry
  have stored := storeInitial_opened lands c c' passive
  simp only [DescriptorConfig.entry] at created stored ⊢
  simp only [addDescriptor, bind_eq_ok_iff, attempt, mapError_eq_ok_iff, Permissions.parse_eq_ok_iff,
    Permissions.named_iff, Identifier.parse_eq_ok_iff, Identifier.spelled_iff, decodeValue_eq_ok_iff, isValueOf_iff,
    and_assoc, exists_and_left, exists_eq_left, created, Except.ok.injEq, exists_eq_left', stored,
    DescriptorConfig.legible_iff]
  exact and_left_comm

theorem addDescriptors_furnished (c c' : Characteristic) (passive : c.isPassive = true) (ds : List DescriptorEntry)
    (configs : List DescriptorConfig) (granted : DescriptorEntry.AllGranted c.flags ds) :
    configs.foldlM addDescriptor (c.furnished ds) = .ok c' ↔
      (∀ x ∈ configs, x.Legible) ∧
        DescriptorEntry.AllGranted c.flags (ds ++ configs.map DescriptorConfig.entry) ∧
        c' = c.furnished (ds ++ configs.map DescriptorConfig.entry) := by
  refine foldlM_built (DescriptorEntry.AllGranted.shrinks c.flags) (fun ds x c' before => ?_) configs ds c' granted
  rw [addDescriptor_furnished c c' passive, DescriptorEntry.allGranted_concat, and_iff_right before]

end Profile

/-! ## Characteristics -/

def Service.furnished (s : Service) (es : List CharacteristicEntry) : Service :=
  { s with characteristics := merged CharacteristicEntry.identifier (CharacteristicEntry.node s.path) es }

theorem Service.path_furnished (s : Service) (es : List CharacteristicEntry) : (s.furnished es).path = s.path := rfl

namespace Profile

theorem createCharacteristic_furnished (s : Service) (es : List CharacteristicEntry) (e : CharacteristicEntry) :
    ∃ k f, Lands CharacteristicEntry.identifier es e k f ∧
      (s.furnished es).createCharacteristic false e.identifier e.flags e.permissions =
        (.ok k, { s.furnished es with
          characteristics := opened CharacteristicEntry.identifier (CharacteristicEntry.node s.path) es e }) := by
  rcases merged_cases (CharacteristicEntry.node s.path) Characteristic.identifier (fun _ _ _ => rfl)
    es e with ⟨k, f, found, lands, same⟩ | ⟨new, lands, added⟩
  · have found : (s.furnished es).findCharacteristic? e.identifier = some k := found
    refine ⟨k, f, lands, ?_⟩
    rw [Service.createCharacteristic, found, same]
    rfl
  · have new : (s.furnished es).findCharacteristic? e.identifier = none := new
    have path : s.path.freeChild .char ((s.furnished es).characteristics.map Characteristic.path) = _ :=
      freeChild_merged (CharacteristicEntry.node s.path) (fun _ _ _ => rfl) es
    refine ⟨_, e, lands, ?_⟩
    rw [Service.createCharacteristic, new, added]
    simp only [Service.addCharacteristic, Service.path_furnished, path]
    rfl

theorem addDescriptors_node {es : List CharacteristicEntry} {e f : CharacteristicEntry} {k : Nat}
    (lands : Lands CharacteristicEntry.identifier es e k f) (granted : CharacteristicEntry.AllGranted es)
    (parent : ObjectPath) (configs : List DescriptorConfig)
    (below : e.descriptors = configs.map DescriptorConfig.entry) (c : Characteristic) :
    configs.foldlM addDescriptor
        { CharacteristicEntry.node parent k f (sharing CharacteristicEntry.identifier e es) with value := e.value } =
          .ok c ↔
      (∀ x ∈ configs, x.Legible) ∧ f.Granted (sharing CharacteristicEntry.identifier e es ++ [e]) ∧
        c = CharacteristicEntry.node parent k f (sharing CharacteristicEntry.identifier e es ++ [e]) := by
  generalize shared : sharing CharacteristicEntry.identifier e es = group
  have all : (group ++ [e]).flatMap CharacteristicEntry.descriptors =
      group.flatMap CharacteristicEntry.descriptors ++ configs.map DescriptorConfig.entry := by
    rw [List.flatMap_append, List.flatMap_singleton, below]
  have value : ((group ++ [e]).map CharacteristicEntry.value).getLastD [] = e.value := by
    rw [List.map_append, List.map_cons, List.map_nil, List.getLastD_concat]
  have before : f.Granted group := shared ▸ EachNode.before granted lands fun _ member => nomatch member
  let first : Characteristic := { CharacteristicEntry.node parent k f group with value := e.value }
  have last : CharacteristicEntry.node parent k f (group ++ [e]) =
      first.furnished (group.flatMap CharacteristicEntry.descriptors ++ configs.map DescriptorConfig.entry) := by
    rw [CharacteristicEntry.node, all, value]
    rfl
  rw [CharacteristicEntry.Granted, all, last]
  exact addDescriptors_furnished first c rfl _ configs before

theorem addCharacteristic_furnished (s s' : Service) (es : List CharacteristicEntry) (config : CharacteristicConfig)
    (granted : CharacteristicEntry.AllGranted es) :
    addCharacteristic (s.furnished es) config = .ok s' ↔
      config.Legible ∧ CharacteristicEntry.AllGranted (es ++ [config.entry]) ∧
        s' = s.furnished (es ++ [config.entry]) := by
  obtain ⟨k, f, lands, created⟩ := createCharacteristic_furnished s es config.entry
  have row := lands.getElem?_opened (CharacteristicEntry.node s.path)
  have filled := addDescriptors_node lands granted s.path config.descriptors rfl
  have done : s.furnished (es ++ [config.entry]) = _ :=
    congrArg (fun cs => { s with characteristics := cs }) (merged_concat lands (CharacteristicEntry.node s.path))
  have all : CharacteristicEntry.AllGranted (es ++ [config.entry]) ↔
      f.Granted (sharing CharacteristicEntry.identifier config.entry es ++ [config.entry]) :=
    (eachNode_concat CharacteristicEntry.Granted.shrinks lands).trans (and_iff_right granted)
  rw [all, done]
  simp only [CharacteristicConfig.entry] at created row filled ⊢
  simp only [addCharacteristic, bind_eq_ok_iff, attempt, mapError_eq_ok_iff, Flags.parse_eq_ok_iff, Flags.named_iff,
    Identifier.parse_eq_ok_iff, Identifier.spelled_iff, decodeValue_eq_ok_iff, isValueOf_iff, and_assoc,
    exists_and_left, exists_eq_left, created, Except.ok.injEq, exists_eq_left', row, offBus_setValue, filled,
    pure_eq_ok_iff, CharacteristicConfig.legible_iff]
  exact and_left_comm

theorem addCharacteristics_furnished (s s' : Service) (es : List CharacteristicEntry)
    (configs : List CharacteristicConfig) (granted : CharacteristicEntry.AllGranted es) :
    configs.foldlM (fun s c => (addCharacteristic s c).mapError (ProfileError.characteristic c.uuid))
        (s.furnished es) = .ok s' ↔
      (∀ x ∈ configs, x.Legible) ∧
        CharacteristicEntry.AllGranted (es ++ configs.map CharacteristicConfig.entry) ∧
        s' = s.furnished (es ++ configs.map CharacteristicConfig.entry) := by
  refine foldlM_built (EachNode.shrinks CharacteristicEntry.Granted.shrinks) (fun es x s' before => ?_) configs es s'
    granted
  exact mapError_eq_ok_iff.trans (addCharacteristic_furnished s s' es x before)

end Profile

/-! ## Services -/

namespace Application

section Holding
variable (root : ObjectPath) {services : List Service}
  (keys : ∀ (i : Nat) (s : Service), services[i]? = some s → s.key = i)
include keys

theorem service?_holding {k : Nat} {s : Service} (row : services[k]? = some s) :
    (holding root services).service? k = some s := by
  have all : (holding root services).allServices = services := List.append_nil _
  obtain ⟨bound, found⟩ := List.getElem?_eq_some_iff.mp row
  rw [service?, all, List.find?_eq_some_iff_getElem]
  refine ⟨by simpa using keys k s row, k, bound, found, fun i before => ?_⟩
  have key := keys i _ (List.getElem?_eq_getElem (Nat.lt_trans before bound))
  simpa [key] using Nat.ne_of_lt before

theorem modifyService_holding (k : Nat) (s : Service) :
    (holding root services).modifyService k (fun _ => s) = holding root (services.set k s) := by
  have changed : services.map (fun t => if t.key = k then s else t) = services.set k s := by
    apply List.ext_getElem
    · rw [List.length_map, List.length_set]
    · intro i inside _
      have key := keys i _ (List.getElem?_eq_getElem (by simpa using inside))
      rw [List.getElem_map, List.getElem_set, key]
      exact if_congr eq_comm rfl rfl
  simp only [modifyService, holding, changed, List.length_set]
  rfl

end Holding
end Application

namespace Profile

theorem keys_opened (root : ObjectPath) (es : List ServiceEntry) (e : ServiceEntry) (i : Nat) (s : Service)
    (row : (opened ServiceEntry.identifier (ServiceEntry.node root) es e)[i]? = some s) : s.key = i := by
  rw [opened, List.getElem?_mapIdx, Option.map_eq_some_iff] at row
  obtain ⟨first, -, rfl⟩ := row
  rfl

theorem path_described (root : ObjectPath) (es : List ServiceEntry) : (described root es).path = root := rfl

theorem createService_described (root : ObjectPath) (es : List ServiceEntry) (e : ServiceEntry) :
    ∃ k f, Lands ServiceEntry.identifier es e k f ∧
      (described root es).createService e.identifier e.primary =
        (.ok k, .holding root (opened ServiceEntry.identifier (ServiceEntry.node root) es e)) := by
  have find : (described root es).findService? e.identifier = _ := List.find?_eq_bind_findIdx?_getElem?
  rcases merged_cases (ServiceEntry.node root) Service.identifier (fun _ _ _ => rfl)
    es e with ⟨k, f, found, lands, same⟩ | ⟨new, lands, added⟩
  · have row := lands.getElem?_opened (ServiceEntry.node root)
    rw [same] at row
    have found : (described root es).services.findIdx? (·.identifier == e.identifier) = some k := found
    have find : (described root es).findService? e.identifier =
        some (ServiceEntry.node root k f (sharing ServiceEntry.identifier e es)) := by
      rw [find, found]
      exact row
    refine ⟨k, f, lands, ?_⟩
    rw [Application.createService, find, same]
    rfl
  · have new : (described root es).services.findIdx? (·.identifier == e.identifier) = none := new
    have find : (described root es).findService? e.identifier = none := by
      rw [find, new]
      rfl
    have path : root.freeChild .service ((described root es).services.map Service.path) = _ :=
      freeChild_merged (ServiceEntry.node root) (fun _ _ _ => rfl) es
    refine ⟨_, e, lands, ?_⟩
    rw [Application.createService, find, added]
    simp only [Application.addService, path_described, path]
    rw [Application.holding, List.length_append]
    rfl

theorem addCharacteristics_node {es : List ServiceEntry} {e f : ServiceEntry} {k : Nat}
    (lands : Lands ServiceEntry.identifier es e k f) (granted : ServiceEntry.AllGranted es) (root : ObjectPath)
    (configs : List CharacteristicConfig) (below : e.characteristics = configs.map CharacteristicConfig.entry)
    (s : Service) :
    configs.foldlM (fun s c => (addCharacteristic s c).mapError (ProfileError.characteristic c.uuid))
        (ServiceEntry.node root k f (sharing ServiceEntry.identifier e es)) = .ok s ↔
      (∀ x ∈ configs, x.Legible) ∧ f.Granted (sharing ServiceEntry.identifier e es ++ [e]) ∧
        s = ServiceEntry.node root k f (sharing ServiceEntry.identifier e es ++ [e]) := by
  generalize shared : sharing ServiceEntry.identifier e es = group
  have all : (group ++ [e]).flatMap ServiceEntry.characteristics =
      group.flatMap ServiceEntry.characteristics ++ configs.map CharacteristicConfig.entry := by
    rw [List.flatMap_append, List.flatMap_singleton, below]
  have before : f.Granted group := shared ▸ EachNode.before granted lands fun _ member => nomatch member
  let first : Service := ServiceEntry.node root k f group
  have last : ServiceEntry.node root k f (group ++ [e]) =
      first.furnished (group.flatMap ServiceEntry.characteristics ++ configs.map CharacteristicConfig.entry) := by
    rw [ServiceEntry.node, all]
    rfl
  rw [ServiceEntry.Granted, all, last]
  exact addCharacteristics_furnished first s _ configs before

theorem addService_described (root : ObjectPath) (a : Application) (es : List ServiceEntry) (config : ServiceConfig)
    (granted : ServiceEntry.AllGranted es) : addService (described root es) config = .ok a ↔
      config.Legible ∧ ServiceEntry.AllGranted (es ++ [config.entry]) ∧ a = described root (es ++ [config.entry]) := by
  obtain ⟨k, f, lands, created⟩ := createService_described root es config.entry
  have row := lands.getElem?_opened (ServiceEntry.node root)
  have found := Application.service?_holding root (keys_opened root es config.entry) row
  have changed := Application.modifyService_holding root (keys_opened root es config.entry) k
  have filled := addCharacteristics_node lands granted root config.characteristics rfl
  have done : described root (es ++ [config.entry]) = _ :=
    congrArg (Application.holding root) (merged_concat lands (ServiceEntry.node root))
  have all : ServiceEntry.AllGranted (es ++ [config.entry]) ↔
      f.Granted (sharing ServiceEntry.identifier config.entry es ++ [config.entry]) :=
    (eachNode_concat ServiceEntry.Granted.shrinks lands).trans (and_iff_right granted)
  rw [all, done]
  simp only [ServiceConfig.entry] at created found filled changed ⊢
  simp only [addService, bind_eq_ok_iff, attempt, mapError_eq_ok_iff, Identifier.parse_eq_ok_iff,
    Identifier.spelled_iff, and_assoc, exists_and_left, exists_eq_left, created, Except.ok.injEq, exists_eq_left',
    found, filled, changed, pure_eq_ok_iff, ServiceConfig.legible_iff]

/-! ## The whole tree -/

theorem application_ok_iff (c : Config) (a : Application) : application c = .ok a ↔
    ∃ root, root.text = c.applicationPath ∧ (∀ s ∈ c.services, s.Legible) ∧
      ServiceEntry.AllGranted (c.services.map ServiceConfig.entry) ∧
        a = described root (c.services.map ServiceConfig.entry) := by
  have services (root : ObjectPath) :
      c.services.foldlM (fun a s => (addService a s).mapError (ProfileError.service s.uuid)) (described root []) =
          .ok a ↔
        (∀ s ∈ c.services, s.Legible) ∧ ServiceEntry.AllGranted ([] ++ c.services.map ServiceConfig.entry) ∧
          a = described root ([] ++ c.services.map ServiceConfig.entry) := by
    refine foldlM_built (EachNode.shrinks ServiceEntry.Granted.shrinks) (fun es x a before => ?_) c.services [] a
      fun s member => nomatch member
    exact mapError_eq_ok_iff.trans (addService_described root a es x before)
  simp only [application, bind_eq_ok_iff, mapError_eq_ok_iff, ObjectPath.parse_eq_ok_iff]
  exact exists_congr fun root => and_congr_right' (services root)

/-- An application is built of a configuration if and only if all texts in it can be read and no client configuration
asks for what the first entry of its characteristic does not grant. What is built is the tree of the entries that the
configuration means. -/
theorem application_described (c : Config) :
    ((∃ a, application c = .ok a) ↔ Acceptable c) ∧ ∀ a, application c = .ok a ↔
      a.path.text = c.applicationPath ∧ ∃ es, List.Forall₂ ServiceConfig.Means c.services es ∧
        ServiceEntry.AllGranted es ∧ a = described a.path es := by
  have means (es : List ServiceEntry) : List.Forall₂ ServiceConfig.Means c.services es ↔
      (∀ s ∈ c.services, s.Legible) ∧ es = c.services.map ServiceConfig.entry :=
    forall₂_means_iff ServiceConfig.means_iff_entry c.services es
  constructor
  · rw [acceptable_iff, ← ObjectPath.readable_iff]
    simp only [application_ok_iff, ObjectPath.parse_eq_ok_iff, means]
    constructor
    · rintro ⟨a, root, path, legible, granted, -⟩
      exact ⟨⟨root, path⟩, legible, fun es ⟨_, same⟩ => same ▸ granted⟩
    · rintro ⟨⟨root, path⟩, legible, granted⟩
      exact ⟨_, root, path, legible, granted _ ⟨legible, rfl⟩, rfl⟩
  · intro a
    simp only [application_ok_iff, means]
    constructor
    · rintro ⟨root, path, legible, granted, rfl⟩
      exact ⟨path, _, ⟨legible, rfl⟩, granted, rfl⟩
    · rintro ⟨path, es, ⟨legible, rfl⟩, granted, same⟩
      exact ⟨a.path, path, legible, granted, same⟩

def repeated : Config :=
  { Config.standard with
    services :=
      [{ uuid := "180F", primary := true,
         characteristics := [{ uuid := "2A19", flags := ["notify"], value := "64", descriptors := [] }] },
       { uuid := "0000180f-0000-1000-8000-00805f9b34fb", primary := false,
         characteristics :=
          [{ uuid := "00002a19", flags := ["write"], value := " 0x32",
             descriptors := [{ uuid := "2902", permissions := ["read"], value := "0100" }] }] }] }

example : (application repeated).toOption.map (fun a =>
      a.services.flatMap fun s => s.characteristics.map fun c => (s.primary, c.flags.names, c.value, c.notifying)) =
    some [(true, ["notify"], [0x32], true)] := by decide +kernel

end Profile
end GattPeripheral
