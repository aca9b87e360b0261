import GattPeripheral.Proofs.Advertising.Payload
import GattPeripheral.Proofs.Host.Freezing
import GattPeripheral.Proofs.Profile.Building

/-!
# The advertisement of a configuration

The payload that a configuration describes is the result of edits (`Profile.advertisement_ok_iff`), so what edits keep
holds of it. The services of a tree have different identifiers, and none of its paths goes through the element that the
advertisement stands at. Main statement: `Profile.advertisement_complete`.
-/

namespace GattPeripheral

inductive Application.Built (a : Application) : Prop where
  | described (c : Config) (built : Profile.application c = .ok a)
  | hosted {β : Type} [Transport β] (h : Host β) (reached : h.Reached) (held : h.application = a)

theorem Application.Built.placed {a : Application} (built : a.Built) : a.Placed := by
  cases built with
  | described c built =>
      obtain ⟨root, -, -, -, rfl⟩ := (Profile.application_ok_iff c a).mp built
      exact Profile.placed_described root _
  | hosted h reached held => exact held ▸ reached.placed

def Element.advertisement : Element := ⟨"advertisement0", by decide +kernel⟩

theorem Element.advertisement_text_ne (n : Nat) : advertisement.text ≠ (service.numbered n).text := by
  intro same
  have characters := congrArg String.toList same
  simp [advertisement, service, numbered] at characters

theorem Application.Placed.advertisement_apart {a : Application} (placed : a.Placed) :
    a.path.push .advertisement ≠ a.path ∧ a.path.push .advertisement ∉ a.paths := by
  refine ⟨(ObjectPath.ne_of_prefix_push List.prefix_rfl).symm, fun member => ?_⟩
  obtain ⟨s, inside, member⟩ := List.mem_flatMap.mp member
  obtain ⟨n, child⟩ := placed.siblings.children s.path (List.mem_map_of_mem inside)
  have below := (placed.inner s (List.mem_append_left _ inside)).nodup.2 _ member
  rw [child] at below
  refine ObjectPath.apart_of_push_ne (fun same => ?_) List.prefix_rfl below rfl
  have names := congrArg ObjectPath.name same
  rw [ObjectPath.name_push, ObjectPath.name_push] at names
  exact Element.advertisement_text_ne n names

namespace Profile

open AdvertisementData (edited Different)

/-! ## The payload as the result of edits -/

def manufacturerEdit (e : UInt16 × String) : AdvertisementData.Edit := .manufacturerData e.1 (writtenValue e.2)

def settingEdits (settings : AdvertisementConfig) : List AdvertisementData.Edit :=
  .discoverable settings.discoverable :: (if settings.includeTxPower then [.includeField Include.txPower] else []) ++
    settings.appearance.toList.map .appearance ++ settings.duration.toList.map .duration ++
    settings.timeout.toList.map .timeout

def payloadEdits (c : Config) (a : Application) : List AdvertisementData.Edit :=
  .localName c.advertisedName :: a.services.map (fun s => .serviceUuid s.identifier) ++ settingEdits c.advertisement ++
    c.advertisement.manufacturerData.toList.map manufacturerEdit

theorem setManufacturerData_ok_iff {entries : List (UInt16 × String)} {d d' : AdvertisementData} :
    entries.foldlM (fun d e => return d.setManufacturerData e.1 (← decodeValue e.2)) d = .ok d' ↔
      (∀ e ∈ entries, IsValueText e.2) ∧ d' = (entries.map manufacturerEdit).foldl AdvertisementData.edit d := by
  induction entries generalizing d with
  | nil => simp [pure_eq_ok_iff]
  | cons e entries ih =>
      simp only [List.foldlM_cons, bind_eq_ok_iff, decodeValue_eq_ok_iff, isValueOf_iff, pure_eq_ok_iff, ih,
        List.forall_mem_cons, and_assoc, exists_and_left, exists_eq_left, List.map_cons, List.foldl_cons]
      rfl

theorem foldl_settingEdits (settings : AdvertisementConfig) (d : AdvertisementData) :
    (settingEdits settings).foldl AdvertisementData.edit d =
      let d := { d with discoverable := settings.discoverable }
      let d := if settings.includeTxPower then d.addInclude Include.txPower else d
      let d := settings.appearance.elim d d.setAppearance
      let d := settings.duration.elim d d.setDuration
      settings.timeout.elim d d.setTimeout := by
  obtain ⟨_, _, includeTxPower, appearance, duration, timeout, _⟩ := settings
  cases includeTxPower <;> cases appearance <;> cases duration <;> cases timeout <;> rfl

theorem advertisementData_ok_iff {c : Config} {a : Application} {d : AdvertisementData} :
    advertisementData c a = .ok d ↔
      (∀ e ∈ c.advertisement.manufacturerData.toList, IsValueText e.2) ∧ d = edited .peripheral (payloadEdits c a) := by
  have listed (d : AdvertisementData) :
      (a.services.map fun s => AdvertisementData.Edit.serviceUuid s.identifier).foldl AdvertisementData.edit d =
        a.services.foldl (fun d s => d.addServiceUuid s.identifier) d := List.foldl_map
  rw [edited, payloadEdits, List.foldl_append, List.cons_append, List.foldl_cons, List.foldl_append, listed,
    foldl_settingEdits, advertisementData, setManufacturerData_ok_iff]
  exact Iff.rfl

theorem advertisement_ok_iff {c : Config} {a : Application} {ad : Advertisement} :
    advertisement c a = .ok ad ↔ (∀ e ∈ c.advertisement.manufacturerData.toList, IsValueText e.2) ∧
      ad = .new (a.path.push .advertisement) (edited .peripheral (payloadEdits c a)) := by
  have child : a.path.child "advertisement0" = .ok (a.path.push .advertisement) :=
    ObjectPath.child_text a.path .advertisement
  simp only [advertisement, bind_eq_ok_iff, advertisementData_ok_iff, child, Except.mapError, Except.ok.injEq,
    exists_eq_left', pure_eq_ok_iff, and_assoc, exists_and_left, exists_eq_left]

theorem serviceUuids_settingEdits (settings : AdvertisementConfig) :
    (settingEdits settings).filterMap AdvertisementData.Edit.serviceUuid? = [] := by
  obtain ⟨_, _, includeTxPower, appearance, duration, timeout, _⟩ := settings
  cases includeTxPower <;> cases appearance <;> cases duration <;> cases timeout <;> rfl

theorem serviceUuids_payloadEdits (c : Config) (a : Application) :
    (payloadEdits c a).filterMap AdvertisementData.Edit.serviceUuid? = a.services.map Service.identifier := by
  have services : (a.services.map fun s => AdvertisementData.Edit.serviceUuid s.identifier).filterMap
      AdvertisementData.Edit.serviceUuid? = a.services.map Service.identifier := by
    rw [List.filterMap_map]
    exact congrFun List.filterMap_eq_map _
  have manufacturers : (c.advertisement.manufacturerData.toList.map manufacturerEdit).filterMap
      AdvertisementData.Edit.serviceUuid? = [] := by
    rw [List.filterMap_map]
    exact List.filterMap_eq_nil_iff.mpr fun _ _ => rfl
  rw [payloadEdits, List.filterMap_append, List.cons_append, List.filterMap_cons_none rfl, List.filterMap_append,
    services, serviceUuids_settingEdits, manufacturers, List.append_nil, List.append_nil]

/-- Whatever edits are made of a new payload, the result is `Kept`. The advertisement for an application that was built
fails only on manufacturer data that cannot be read; it lists every service once, in order, and stands apart from the
tree. -/
theorem advertisement_complete :
    (∀ kind es, (edited kind es).Kept es) ∧ ∀ (c : Config) (a : Application), a.Built →
      ((∃ ad, advertisement c a = .ok ad) ↔
        ∀ e ∈ c.advertisement.manufacturerData.toList, IsValueText e.2) ∧
      ∀ ad, advertisement c a = .ok ad →
        ad.data.serviceUuids = a.services.map Service.identifier ∧ Different ad.data.serviceUuids ∧
          ad.path ≠ a.path ∧ ad.path ∉ a.paths := by
  refine ⟨AdvertisementData.kept_edited, fun c a built => ⟨?_, fun ad ok => ?_⟩⟩
  · simp only [advertisement_ok_iff, exists_and_left, exists_eq, and_true]
  · obtain ⟨-, rfl⟩ := advertisement_ok_iff.mp ok
    have different : Different (a.services.map Service.identifier) := built.placed.siblings.different
    have listed : (edited .peripheral (payloadEdits c a)).serviceUuids = a.services.map Service.identifier := by
      rw [AdvertisementData.serviceUuids_edited, serviceUuids_payloadEdits,
        AdvertisementData.eraseDups_of_different different]
    exact ⟨listed, listed ▸ different, built.placed.advertisement_apart⟩

theorem advertisement_complete_standard : ∃ a ad, application .standard = .ok a ∧ advertisement .standard a = .ok ad ∧
    ad.data.serviceUuids = a.services.map Service.identifier ∧ ad.path ∉ a.paths := by
  have succeeds : (application .standard).toOption.isSome := by decide +kernel
  obtain ⟨a, built⟩ : ∃ a, application .standard = .ok a := by
    cases result : application .standard with
    | ok a => exact ⟨a, rfl⟩
    | error e => exact absurd succeeds (by rw [result]; exact Bool.false_ne_true)
  obtain ⟨succeeds, lists⟩ := advertisement_complete.2 .standard a (.described .standard built)
  obtain ⟨ad, ok⟩ := succeeds.mpr fun e member => nomatch member
  obtain ⟨listed, -, -, apart⟩ := lists ad ok
  exact ⟨a, ad, built, ok, listed, apart⟩

end Profile
end GattPeripheral
