import GattPeripheral.Config.Document
import GattPeripheral.Proofs.Dict
import GattPeripheral.Proofs.Json.Editing

/-!
# Editing a configuration file

For each part of a configuration, `Edits` says what may become of its object in a file: members change places, unknown
members come in, and members are deleted. The outcome is the part with its defaults in the place of what is deleted,
and nothing where a deleted member has no default. Main statement: `Config.load_edited`, that this is what is loaded,
however the file is laid out.
-/

namespace GattPeripheral

open Json (Intact Itemwise Leaves Left Lists Names Slot Treats Reader)

/-! ## What may become of an object -/

def Dict.Shuffled {κ ν : Type} [Ord κ] (name : κ → String) (write : ν → Json) (d : Dict κ ν) (j : Json)
    (o : Option (Dict κ ν)) : Prop :=
  ∃ es : List (κ × ν), es.Perm d.toList ∧ j = .object (es.map fun e => (name e.1, write e.2)) ∧ o = some d

inductive DescriptorConfig.Edits (d : DescriptorConfig) : Json → Option DescriptorConfig → Prop where
  | intro {uuid permissions value ms}
      (uuid_left : Leaves "uuid" none (Intact .string) d.uuid uuid)
      (permissions_left : Leaves "permissions" none (Intact .ofStrings) d.permissions permissions)
      (value_left : Leaves "value" (some "") (Intact .string) d.value value)
      (listed : Lists Config.descriptorShape.names [uuid.members, permissions.members, value.members].flatten ms) :
      Edits d (.object ms) do
        return { uuid := ← uuid.outcome, permissions := ← permissions.outcome, value := ← value.outcome }

inductive CharacteristicConfig.Edits (c : CharacteristicConfig) : Json → Option CharacteristicConfig → Prop where
  | intro {uuid flags value descriptors ms}
      (uuid_left : Leaves "uuid" none (Intact .string) c.uuid uuid)
      (flags_left : Leaves "flags" none (Intact .ofStrings) c.flags flags)
      (value_left : Leaves "value" (some "") (Intact .string) c.value value)
      (descriptors_left : Leaves "descriptors" (some []) (Itemwise DescriptorConfig.Edits) c.descriptors descriptors)
      (listed : Lists Config.characteristicShape.names
        [uuid.members, flags.members, value.members, descriptors.members].flatten ms) :
      Edits c (.object ms) do
        return { uuid := ← uuid.outcome, flags := ← flags.outcome, value := ← value.outcome,
                 descriptors := ← descriptors.outcome }

inductive ServiceConfig.Edits (s : ServiceConfig) : Json → Option ServiceConfig → Prop where
  | intro {uuid primary characteristics ms}
      (uuid_left : Leaves "uuid" none (Intact .string) s.uuid uuid)
      (primary_left : Leaves "primary" (some true) (Intact .bool) s.primary primary)
      (characteristics_left : Leaves "characteristics" (some []) (Itemwise CharacteristicConfig.Edits) s.characteristics
        characteristics)
      (listed : Lists Config.serviceShape.names [uuid.members, primary.members, characteristics.members].flatten ms) :
      Edits s (.object ms) do
        return { uuid := ← uuid.outcome, primary := ← primary.outcome, characteristics := ← characteristics.outcome }

def AdvertisementConfig.writeNumber : Option UInt16 → Json := .ofOption fun n => .ofNat n.toNat

open AdvertisementConfig (standard writeNumber) in
inductive AdvertisementConfig.Edits (a : AdvertisementConfig) : Json → Option AdvertisementConfig → Prop where
  | intro {localName discoverable includeTxPower appearance duration timeout manufacturerData ms}
      (localName_left : Leaves "local_name" (some standard.localName) (Intact (.ofOption .string)) a.localName localName)
      (discoverable_left : Leaves "discoverable" (some standard.discoverable) (Intact .bool) a.discoverable discoverable)
      (includeTxPower_left : Leaves "include_tx_power" (some standard.includeTxPower) (Intact .bool) a.includeTxPower
        includeTxPower)
      (appearance_left : Leaves "appearance" (some standard.appearance) (Intact writeNumber) a.appearance appearance)
      (duration_left : Leaves "duration" (some standard.duration) (Intact writeNumber) a.duration duration)
      (timeout_left : Leaves "timeout" (some standard.timeout) (Intact writeNumber) a.timeout timeout)
      (manufacturerData_left : Leaves "manufacturer_data" (some standard.manufacturerData)
        (Dict.Shuffled (fun n => toString n.toNat) .string) a.manufacturerData manufacturerData)
      (listed : Lists Config.advertisementShape.names
        [localName.members, discoverable.members, includeTxPower.members, appearance.members, duration.members,
          timeout.members, manufacturerData.members].flatten ms) :
      Edits a (.object ms) do
        return { localName := ← localName.outcome, discoverable := ← discoverable.outcome,
                 includeTxPower := ← includeTxPower.outcome, appearance := ← appearance.outcome,
                 duration := ← duration.outcome, timeout := ← timeout.outcome,
                 manufacturerData := ← manufacturerData.outcome }

inductive Config.Edits (c : Config) : Json → Option Config → Prop where
  | intro {adapter deviceName applicationPath logLevel logDir advertise registrationTimeoutSecs retryDelayMs
        enableFallbacks advertisement services ms}
      (adapter_left : Leaves "adapter" (some standard.adapter) (Intact .string) c.adapter adapter)
      (deviceName_left : Leaves "device_name" (some standard.deviceName) (Intact .string) c.deviceName deviceName)
      (applicationPath_left : Leaves "application_path" (some standard.applicationPath) (Intact .string) c.applicationPath
        applicationPath)
      (logLevel_left : Leaves "log_level" (some standard.logLevel) (Intact .string) c.logLevel logLevel)
      (logDir_left : Leaves "log_dir" (some standard.logDir) (Intact (.ofOption .string)) c.logDir logDir)
      (advertise_left : Leaves "advertise" (some standard.advertise) (Intact .bool) c.advertise advertise)
      (registrationTimeoutSecs_left : Leaves "registration_timeout_secs" (some standard.registrationTimeoutSecs)
        (Intact fun n => .ofNat n.toNat) c.registrationTimeoutSecs registrationTimeoutSecs)
      (retryDelayMs_left : Leaves "retry_delay_ms" (some standard.retryDelayMs) (Intact fun n => .ofNat n.toNat)
        c.retryDelayMs retryDelayMs)
      (enableFallbacks_left : Leaves "enable_fallbacks" (some standard.enableFallbacks) (Intact .bool) c.enableFallbacks
        enableFallbacks)
      (advertisement_left : Leaves "advertisement" (some standard.advertisement) AdvertisementConfig.Edits c.advertisement
        advertisement)
      (services_left : Leaves "services" (some standard.services) (Itemwise ServiceConfig.Edits) c.services services)
      (listed : Lists shape.names
        [adapter.members, deviceName.members, applicationPath.members, logLevel.members, logDir.members,
          advertise.members, registrationTimeoutSecs.members, retryDelayMs.members, enableFallbacks.members,
          advertisement.members, services.members].flatten ms) :
      Edits c (.object ms) do
        return { adapter := ← adapter.outcome, deviceName := ← deviceName.outcome,
                 applicationPath := ← applicationPath.outcome, logLevel := ← logLevel.outcome, logDir := ← logDir.outcome,
                 advertise := ← advertise.outcome, registrationTimeoutSecs := ← registrationTimeoutSecs.outcome,
                 retryDelayMs := ← retryDelayMs.outcome, enableFallbacks := ← enableFallbacks.outcome,
                 advertisement := ← advertisement.outcome, services := ← services.outcome }

/-! ## A file that nobody has edited -/

theorem DescriptorConfig.edits_self (d : DescriptorConfig) : d.Edits d.toJson (some d) :=
  .intro (.kept (.self _ _)) (.kept (.self _ _)) (.kept (.self _ _)) (.self _ _)

theorem CharacteristicConfig.edits_self (c : CharacteristicConfig) : c.Edits c.toJson (some c) :=
  .intro (.kept (.self _ _)) (.kept (.self _ _)) (.kept (.self _ _))
    (.kept (.self DescriptorConfig.edits_self _)) (.self _ _)

theorem ServiceConfig.edits_self (s : ServiceConfig) : s.Edits s.toJson (some s) :=
  .intro (.kept (.self _ _)) (.kept (.self _ _)) (.kept (.self CharacteristicConfig.edits_self _)) (.self _ _)

theorem Dict.Shuffled.self {κ ν : Type} [Ord κ] (name : κ → String) (write : ν → Json) (d : Dict κ ν) :
    d.Shuffled name write (.object (d.toList.map fun e => (name e.1, write e.2))) (some d) :=
  ⟨d.toList, .refl _, rfl, rfl⟩

theorem AdvertisementConfig.edits_self (a : AdvertisementConfig) : a.Edits a.toJson (some a) :=
  .intro (.kept (.self _ _)) (.kept (.self _ _)) (.kept (.self _ _)) (.kept (.self _ _)) (.kept (.self _ _))
    (.kept (.self _ _)) (.kept (.self _ _ _)) (.self _ _)

theorem Config.edits_self (c : Config) : c.Edits c.toJson (some c) :=
  .intro (.kept (.self _ _)) (.kept (.self _ _)) (.kept (.self _ _)) (.kept (.self _ _)) (.kept (.self _ _))
    (.kept (.self _ _)) (.kept (.self _ _)) (.kept (.self _ _)) (.kept (.self _ _))
    (.kept c.advertisement.edits_self) (.kept (.self ServiceConfig.edits_self _)) (.self _ _)

/-! ## Reading it back -/

theorem Json.treats_ofStrings (ss : List String) : Treats (Reader.list Reader.string) (.ofStrings ss) (some ss) :=
  Itemwise.treats (Intact.treats treats_string) (.self (Intact.self .string) ss)

theorem Json.treats_ofOption {α : Type} {r : Reader α} {write : α → Json} (treats : ∀ a, Treats r (write a) (some a))
    (other : ∀ a, write a ≠ .null) (a : Option α) : Treats (Reader.optional r) (.ofOption write a) (some a) := by
  cases a with
  | none => exact treats_null r
  | some a => exact (treats a).optional (other a)

namespace Config

open Json

theorem treats_uint16 (n : UInt16) : Treats uint16 (.ofNat n.toNat) (some n) := by
  have read : Treats uint16 _ _ := (treats_natural n.toNat_lt_size (by decide) "u16").map UInt16.ofNat
  rwa [Option.map_some, UInt16.ofNat_toNat] at read

theorem treats_uint64 (n : UInt64) : Treats uint64 (.ofNat n.toNat) (some n) := by
  have read : Treats uint64 _ _ := (treats_natural n.toNat_lt_size (by decide) "u64").map UInt64.ofNat
  rwa [Option.map_some, UInt64.ofNat_toNat] at read

theorem names_company (n : UInt16) : Names company (toString n.toNat) n := by
  intro text spelled plain rest
  have read : Reads company _ _ rest :=
    (names_numericKey n.toNat_lt_size (by decide) "u16" spelled plain rest).map
  rwa [UInt16.ofNat_toNat] at read

theorem treats_manufacturerData {d : Dict UInt16 String} {j : Json} {o : Option (Dict UInt16 String)}
    (a : AdvertisementConfig) (shuffled : d.Shuffled (fun n => toString n.toNat) .string j o) :
    Treats (do return { a with manufacturerData := Dict.ofList (← Reader.dict company Reader.string) }) j
      (o.map fun d => { a with manufacturerData := d }) := by
  obtain ⟨es, perm, rfl, rfl⟩ := shuffled
  have each : List.Forall₂ (fun m e => Names company m.1 e.1 ∧ Treats Reader.string m.2 (some e.2))
      (es.map fun e => (toString e.1.toNat, Json.string e.2)) es := by
    rw [List.forall₂_map_left_iff, List.forall₂_same]
    exact fun e _ => ⟨names_company e.1, treats_string e.2⟩
  rw [← Dict.ofList_eq_of_perm perm]
  exact (Treats.dict each).map fun es => { a with manufacturerData := Dict.ofList es }

end Config

section Records
open Json Config

theorem DescriptorConfig.Edits.treats {d : DescriptorConfig} {j : Json} {o : Option DescriptorConfig}
    (edited : d.Edits j o) : Treats (Reader.record descriptorShape) j o := by
  cases edited with
  | intro uuid permissions value listed =>
      have read := Treats.record descriptorShape
        [.of uuid (Intact.treats treats_string) (fun d v => { d with uuid := v }) nofun,
         .of permissions (Intact.treats treats_ofStrings) (fun d v => { d with permissions := v }) nofun,
         .of value (Intact.treats treats_string) (fun d v => { d with value := v }) fun | _, rfl => rfl]
        rfl (by decide) (by simp [Slot.Commute, Slot.of, Slot.reading]) listed
      exact read

theorem CharacteristicConfig.Edits.treats {c : CharacteristicConfig} {j : Json} {o : Option CharacteristicConfig}
    (edited : c.Edits j o) : Treats (Reader.record characteristicShape) j o := by
  cases edited with
  | intro uuid flags value descriptors listed =>
      have read := Treats.record characteristicShape
        [.of uuid (Intact.treats treats_string) (fun c v => { c with uuid := v }) nofun,
         .of flags (Intact.treats treats_ofStrings) (fun c v => { c with flags := v }) nofun,
         .of value (Intact.treats treats_string) (fun c v => { c with value := v }) fun | _, rfl => rfl,
         .of descriptors (Itemwise.treats DescriptorConfig.Edits.treats) (fun c v => { c with descriptors := v })
          fun | _, rfl => rfl]
        rfl (by decide) (by simp [Slot.Commute, Slot.of, Slot.reading]) listed
      exact read

theorem ServiceConfig.Edits.treats {s : ServiceConfig} {j : Json} {o : Option ServiceConfig}
    (edited : s.Edits j o) : Treats (Reader.record serviceShape) j o := by
  cases edited with
  | intro uuid primary characteristics listed =>
      have read := Treats.record serviceShape
        [.of uuid (Intact.treats treats_string) (fun s v => { s with uuid := v }) nofun,
         .of primary (Intact.treats treats_bool) (fun s v => { s with primary := v }) fun | _, rfl => rfl,
         .of characteristics (Itemwise.treats CharacteristicConfig.Edits.treats)
          (fun s v => { s with characteristics := v }) fun | _, rfl => rfl]
        rfl (by decide) (by simp [Slot.Commute, Slot.of, Slot.reading]) listed
      exact read

theorem AdvertisementConfig.Edits.treats {a : AdvertisementConfig} {j : Json} {o : Option AdvertisementConfig}
    (edited : a.Edits j o) : Treats (Reader.record advertisementShape) j o := by
  have text := treats_ofOption treats_string nofun
  have number := treats_ofOption treats_uint16 nofun
  cases edited with
  | intro localName discoverable includeTxPower appearance duration timeout manufacturerData listed =>
      have read := Treats.record advertisementShape
        [.of localName (Intact.treats text) (fun a v => { a with localName := v }) fun | _, rfl => rfl,
         .of discoverable (Intact.treats treats_bool) (fun a v => { a with discoverable := v }) fun | _, rfl => rfl,
         .of includeTxPower (Intact.treats treats_bool) (fun a v => { a with includeTxPower := v }) fun | _, rfl => rfl,
         .of appearance (Intact.treats number) (fun a v => { a with appearance := v }) fun | _, rfl => rfl,
         .of duration (Intact.treats number) (fun a v => { a with duration := v }) fun | _, rfl => rfl,
         .of timeout (Intact.treats number) (fun a v => { a with timeout := v }) fun | _, rfl => rfl,
         .reading manufacturerData treats_manufacturerData fun | _, rfl => rfl]
        rfl (by decide) (by simp [Slot.Commute, Slot.of, Slot.reading]) listed
      exact read

theorem Config.Edits.treats {c : Config} {j : Json} {o : Option Config} (edited : c.Edits j o) :
    Treats (Reader.record shape) j o := by
  have directory := treats_ofOption treats_string nofun
  cases edited with
  | intro adapter deviceName applicationPath logLevel logDir advertise registrationTimeoutSecs retryDelayMs
      enableFallbacks advertisement services listed =>
      have read := Treats.record shape
        [.of adapter (Intact.treats treats_string) (fun c v => { c with adapter := v }) fun | _, rfl => rfl,
         .of deviceName (Intact.treats treats_string) (fun c v => { c with deviceName := v }) fun | _, rfl => rfl,
         .of applicationPath (Intact.treats treats_string) (fun c v => { c with applicationPath := v })
          fun | _, rfl => rfl,
         .of logLevel (Intact.treats treats_string) (fun c v => { c with logLevel := v }) fun | _, rfl => rfl,
         .of logDir (Intact.treats directory) (fun c v => { c with logDir := v }) fun | _, rfl => rfl,
         .of advertise (Intact.treats treats_bool) (fun c v => { c with advertise := v }) fun | _, rfl => rfl,
         .of registrationTimeoutSecs (Intact.treats treats_uint64) (fun c v => { c with registrationTimeoutSecs := v })
          fun | _, rfl => rfl,
         .of retryDelayMs (Intact.treats treats_uint64) (fun c v => { c with retryDelayMs := v }) fun | _, rfl => rfl,
         .of enableFallbacks (Intact.treats treats_bool) (fun c v => { c with enableFallbacks := v })
          fun | _, rfl => rfl,
         .of advertisement AdvertisementConfig.Edits.treats (fun c v => { c with advertisement := v })
          fun | _, rfl => rfl,
         .of services (Itemwise.treats ServiceConfig.Edits.treats) (fun c v => { c with services := v })
          fun | _, rfl => rfl]
        rfl (by decide) (by simp [Slot.Commute, Slot.of, Slot.reading]) listed
      exact read

end Records

/-- However a configuration file has been edited and laid out, the configuration is loaded with the defaults in the
place of what has been deleted; the file is refused if something is missing that has no default. -/
theorem Config.load_edited {c : Config} {j : Json} {o : Option Config} {text : String} (edited : c.Edits j o)
    (document : Json.IsDocument j text) : (load text).toOption = o := by
  obtain ⟨before, cs, after, before_blank, spelled, after_blank, whole⟩ := document
  have apart : Json.Apart (after ++ []) := after_blank.apart Json.apart_nil
  rw [List.append_nil] at apart
  have answers := edited.treats spelled before_blank apart
  rw [← whole] at answers
  exact answers.document after_blank

theorem Config.load_edited_reversed :
    let payloads : Dict UInt16 String := .ofList [(76, "0215"), (1177, "aa")]
    let c : Config := { standard with
      deviceName := "Bench", advertise := false
      advertisement := { AdvertisementConfig.standard with timeout := some 30, manufacturerData := payloads }
      services := [⟨"180F", false, [⟨"2A19", ["read"], "64", []⟩]⟩] }
    let characteristic : Json := .object [("flags", .ofStrings ["read"]), ("uuid", .string "2A19")]
    let service : Json := .object [("characteristics", .array [characteristic]), ("uuid", .string "180F")]
    let advertisement : Json := .object [("manufacturer_data", .object [("1177", .string "aa"), ("76", .string "0215")])]
    let comment : String × Json := ("comment", .object [("uuid", .number 15 1)])
    let j : Json := .object
      [comment, ("services", .array [service]), ("advertisement", advertisement), ("device_name", .string "Bench")]
    let loaded : Config := { standard with
      deviceName := "Bench"
      advertisement := { AdvertisementConfig.standard with manufacturerData := payloads }
      services := [⟨"180F", true, [⟨"2A19", ["read"], "", []⟩]⟩] }
    let bare : Json := .object [("services", .array [.object []])]
    (c.Edits j (some loaded) ∧ (load j.spreadText).toOption = some loaded) ∧
      c.Edits bare none ∧ (load bare.spreadText).toOption = none := by
  intro payloads c characteristic service advertisement comment j loaded bare
  have reversed {names : List String} (given : List (String × Json)) : Lists names given given.reverse :=
    ⟨[], nofun, (List.append_nil given).symm ▸ List.reverse_perm given⟩
  have entries : payloads.Shuffled (fun n => toString n.toNat) .string
      (.object [("1177", .string "aa"), ("76", .string "0215")]) (some payloads) :=
    ⟨payloads.toList.reverse, List.reverse_perm _, rfl, rfl⟩
  have data := AdvertisementConfig.Edits.intro (a := c.advertisement)
    .deleted .deleted .deleted .deleted .deleted .deleted (.kept entries) (reversed _)
  have characteristics : Itemwise CharacteristicConfig.Edits [⟨"2A19", ["read"], "64", []⟩] (.array [characteristic])
      (some [⟨"2A19", ["read"], "", []⟩]) := by
    have edited := CharacteristicConfig.Edits.intro (c := ⟨"2A19", ["read"], "64", []⟩)
      (.kept (.self _ _)) (.kept (.self _ _)) .deleted .deleted (reversed _)
    exact ⟨_, _, .cons edited .nil, rfl, rfl⟩
  have services : Itemwise ServiceConfig.Edits c.services (.array [service]) (some loaded.services) := by
    have edited := ServiceConfig.Edits.intro (s := ⟨"180F", false, [⟨"2A19", ["read"], "64", []⟩]⟩)
      (.kept (.self _ _)) .deleted (.kept characteristics) (reversed _)
    exact ⟨_, _, .cons edited .nil, rfl, rfl⟩
  have empty : Itemwise ServiceConfig.Edits c.services (.array [.object []]) none :=
    ⟨_, _, .cons (.intro .deleted .deleted .deleted (reversed _)) .nil, rfl, rfl⟩
  have edited : c.Edits j (some loaded) :=
    .intro .deleted (.kept (.self _ _)) .deleted .deleted .deleted .deleted .deleted .deleted .deleted
      (.kept data) (.kept services)
      ⟨[comment], by decide, List.reverse_perm [("device_name", _), ("advertisement", _), ("services", _), comment]⟩
  have refused : c.Edits bare none :=
    .intro .deleted .deleted .deleted .deleted .deleted .deleted .deleted .deleted .deleted .deleted
      (.kept empty) (reversed _)
  exact ⟨⟨edited, load_edited edited (Json.isDocument_spreadText j)⟩, refused,
    load_edited refused (Json.isDocument_spreadText bare)⟩

end GattPeripheral
