import GattPeripheral.Advertising.Data
import GattPeripheral.Proofs.Profile.Merging

/-!
# What edits make of a payload

`AdvertisementData.edited` is the payload after any edits of a new one. Every field that is set and needs an include has
it, and no include is there twice (`Tidy`): `Tidy.edit` is the step, `tidy_edited` the run. The lists of identifiers are
what was added to them, each identifier at its first place (`serviceUuids_edited`, `solicitUuids_edited`).
-/

namespace GattPeripheral.AdvertisementData

/-! ## Lists without repetition -/

section
variable {α : Type} [BEq α]

theorem eraseDups_concat (xs : List α) (x : α) : (xs ++ [x]).eraseDups = addOnce xs.eraseDups x := by
  rw [addOnce, List.contains_eq_any_beq]
  exact Profile.eraseDupsBy_loop_concat xs [] x

theorem mem_addOnce [LawfulBEq α] {xs : List α} {x y : α} : y ∈ addOnce xs x ↔ y ∈ xs ∨ y = x := by
  rw [addOnce]
  split
  next old => exact ⟨.inl, fun member => member.elim id fun same => same ▸ List.contains_iff_mem.mp old⟩
  next => rw [List.mem_append, List.mem_singleton]

theorem nodup_addOnce [LawfulBEq α] {xs : List α} (nodup : xs.Nodup) (x : α) : (addOnce xs x).Nodup := by
  rw [addOnce]
  split
  next => exact nodup
  next new =>
    have new : x ∉ xs := fun member => new (List.contains_iff_mem.mpr member)
    exact List.nodup_append.mpr ⟨nodup, List.nodup_singleton x, fun y old z added same =>
      new (List.mem_singleton.mp added ▸ same ▸ old)⟩

end

/-! ## Includes -/

structure Tidy (d : AdvertisementData) : Prop where
  includes : d.includes.Nodup
  localName : d.localName.isSome → Include.localName ∈ d.includes
  serviceUuids : d.serviceUuids ≠ [] → Include.serviceUuids ∈ d.includes
  appearance : d.appearance.isSome → Include.appearance ∈ d.includes
  txPower : d.txPower.isSome → Include.txPower ∈ d.includes
  known : d.appearance ≠ some 0

variable {d : AdvertisementData}

theorem tidy_new (kind : AdvertisementKind) : (new kind).Tidy := by
  constructor <;> simp [new]

theorem mem_addInclude (d : AdvertisementData) (name : String) : name ∈ (d.addInclude name).includes :=
  mem_addOnce.mpr (.inr rfl)

theorem Tidy.addInclude (tidy : d.Tidy) (name : String) : (d.addInclude name).Tidy where
  includes := nodup_addOnce tidy.includes name
  localName set := mem_addOnce.mpr (.inl (tidy.localName set))
  serviceUuids some := mem_addOnce.mpr (.inl (tidy.serviceUuids some))
  appearance set := mem_addOnce.mpr (.inl (tidy.appearance set))
  txPower set := mem_addOnce.mpr (.inl (tidy.txPower set))
  known := tidy.known

theorem Tidy.clearAppearance (tidy : d.Tidy) : (d.setAppearance 0).Tidy where
  includes := tidy.includes.filter _
  localName set := List.mem_filter.mpr ⟨tidy.localName set, by decide⟩
  serviceUuids some := List.mem_filter.mpr ⟨tidy.serviceUuids some, by decide⟩
  appearance set := nomatch set
  txPower set := List.mem_filter.mpr ⟨tidy.txPower set, by decide⟩
  known := nofun

theorem Tidy.setAppearance_zero (tidy : d.Tidy) : d.setAppearance 0 =
    { d with appearance := none, includes := d.includes.erase Include.appearance } := by
  rw [tidy.includes.erase_eq_filter]
  rfl

theorem Tidy.edit (tidy : d.Tidy) (e : Edit) : (d.edit e).Tidy := by
  cases e with
  | localName name =>
      exact { tidy.addInclude Include.localName with localName := fun _ => mem_addInclude d _ }
  | serviceUuid u =>
      exact { tidy.addInclude Include.serviceUuids with serviceUuids := fun _ => mem_addInclude d _ }
  | includeField name => exact tidy.addInclude name
  | appearance value =>
      by_cases unknown : value = 0
      · subst unknown
        exact tidy.clearAppearance
      · rw [AdvertisementData.edit, setAppearance, if_neg unknown]
        exact { tidy.addInclude Include.appearance with
          appearance := fun _ => mem_addInclude d _
          known := fun zero => unknown (Option.some.inj zero) }
  | txPower power => exact { tidy.addInclude Include.txPower with txPower := fun _ => mem_addInclude d _ }
  | solicitUuid _ | manufacturerData _ _ | serviceData _ _ | duration _ | timeout _ | discoverable _ | kind _ =>
      exact { tidy with }

def edited (kind : AdvertisementKind) (es : List Edit) : AdvertisementData := es.foldl edit (new kind)

theorem edited_concat (kind : AdvertisementKind) (es : List Edit) (e : Edit) :
    edited kind (es ++ [e]) = (edited kind es).edit e := List.foldl_concat edit (new kind) e es

theorem tidy_edited (kind : AdvertisementKind) (es : List Edit) : (edited kind es).Tidy := by
  induction es using List.reverseRecOn with
  | nil => exact tidy_new kind
  | append_singleton es e ih =>
      rw [edited_concat]
      exact ih.edit e

/-! ## Identifiers -/

def Edit.serviceUuid? : Edit → Option Identifier
  | serviceUuid u => some u
  | _ => none

def Edit.solicitUuid? : Edit → Option Identifier
  | solicitUuid u => some u
  | _ => none

theorem serviceUuids_edit (d : AdvertisementData) (e : Edit) :
    (d.edit e).serviceUuids = e.serviceUuid?.elim d.serviceUuids (addOnce d.serviceUuids) := by
  cases e with
  | appearance value =>
      rw [edit, setAppearance]
      split <;> rfl
  | _ => rfl

theorem solicitUuids_edit (d : AdvertisementData) (e : Edit) :
    (d.edit e).solicitUuids = e.solicitUuid?.elim d.solicitUuids (addOnce d.solicitUuids) := by
  cases e with
  | appearance value =>
      rw [edit, setAppearance]
      split <;> rfl
  | _ => rfl

theorem listed_edited {list : AdvertisementData → List Identifier} {added? : Edit → Option Identifier}
    (empty : ∀ kind, list (new kind) = [])
    (step : ∀ d e, list (d.edit e) = (added? e).elim (list d) (addOnce (list d)))
    (kind : AdvertisementKind) (es : List Edit) : list (edited kind es) = (es.filterMap added?).eraseDups := by
  induction es using List.reverseRecOn with
  | nil => exact empty kind
  | append_singleton es e ih =>
      rw [edited_concat, step, ih, List.filterMap_append]
      cases added : added? e with
      | none => rw [List.filterMap_cons_none added, List.filterMap_nil, List.append_nil, Option.elim_none]
      | some u => rw [List.filterMap_cons_some added, List.filterMap_nil, eraseDups_concat, Option.elim_some]

theorem serviceUuids_edited (kind : AdvertisementKind) (es : List Edit) :
    (edited kind es).serviceUuids = (es.filterMap Edit.serviceUuid?).eraseDups :=
  listed_edited (fun _ => rfl) serviceUuids_edit kind es

theorem solicitUuids_edited (kind : AdvertisementKind) (es : List Edit) :
    (edited kind es).solicitUuids = (es.filterMap Edit.solicitUuid?).eraseDups :=
  listed_edited (fun _ => rfl) solicitUuids_edit kind es

abbrev Different (us : List Identifier) : Prop := us.Pairwise fun u v => (u == v) = false

theorem different_eraseDups (us : List Identifier) : Different us.eraseDups := Profile.firsts_different id us

theorem eraseDups_of_different {us : List Identifier} (different : Different us) : us.eraseDups = us := by
  induction us using List.reverseRecOn with
  | nil => rfl
  | append_singleton us u ih =>
      obtain ⟨front, -, new⟩ := List.pairwise_append.mp different
      have absent : us.contains u = false := by
        rw [List.contains_eq_any_beq, List.any_eq_false]
        intro v member
        rw [BEq.comm, new v member u (List.mem_singleton_self u)]
        exact Bool.false_ne_true
      rw [eraseDups_concat, ih front, addOnce, absent, if_neg Bool.false_ne_true]

/-! ## All edits -/

structure Kept (es : List Edit) (d : AdvertisementData) : Prop extends Tidy d where
  services : d.serviceUuids = (es.filterMap Edit.serviceUuid?).eraseDups
  servicesDiffer : Different d.serviceUuids
  solicited : d.solicitUuids = (es.filterMap Edit.solicitUuid?).eraseDups
  solicitedDiffer : Different d.solicitUuids
  cleared : d.setAppearance 0 = { d with appearance := none, includes := d.includes.erase Include.appearance }

theorem kept_edited (kind : AdvertisementKind) (es : List Edit) : (edited kind es).Kept es where
  toTidy := tidy_edited kind es
  services := serviceUuids_edited kind es
  servicesDiffer := serviceUuids_edited kind es ▸ different_eraseDups _
  solicited := solicitUuids_edited kind es
  solicitedDiffer := solicitUuids_edited kind es ▸ different_eraseDups _
  cleared := (tidy_edited kind es).setAppearance_zero

example : (edited .broadcast [.includeField "rsi", .appearance 833, .localName "lamp", .appearance 0]).includes =
    ["rsi", Include.localName] := by decide

end GattPeripheral.AdvertisementData
