import GattPeripheral.Proofs.Tree.Served
import GattPeripheral.Proofs.Tree.Walks
import GattPeripheral.Tree.Snapshot

/-!
# Frozen trees

`shape` is the tree without values and marks of publication; the snapshot is a function of it
(`Application.managedObjects_shape`). A tree that is published in full is `Fixed`: its shape survives
another publication, and it is `Closed` to edits.
-/

namespace GattPeripheral

/-! ## The shape of a tree -/

def Service.shape (s : Service) : Service := s.outline.blank

def Application.shape (a : Application) : List Service := a.services.map Service.shape

theorem Characteristic.blank_outline (c : Characteristic) : c.outline.blank = c.blank.outline := by
  simp only [outline, blank, List.map_map]
  rfl

theorem Service.blank_outline (s : Service) : s.outline.blank = s.blank.outline := by
  simp only [outline, blank, List.map_map, Function.comp_def, Characteristic.blank_outline]

theorem Characteristic.entries_shape (c : Characteristic) : c.outline.blank.entries = c.entries := by
  simp only [entries, outline, blank, List.map_map]
  rfl

theorem Service.entries_shape (s : Service) : s.shape.entries = s.entries := by
  simp only [entries, shape, outline, blank, List.map_map, List.flatMap_map, Function.comp_def,
    Characteristic.entries_shape]
  rfl

namespace Application

variable {a b : Application}

theorem managedObjects_shape (same : b.shape = a.shape) : b.managedObjects = a.managedObjects := by
  have entries (a : Application) : a.services.flatMap Service.entries = a.shape.flatMap Service.entries := by
    simp only [shape, List.flatMap_map, Service.entries_shape]
  rw [managedObjects, managedObjects, entries b, same, entries a]

theorem shape_of_outline (same : b.outline = a.outline) : b.shape = a.shape := by
  have services : b.services.map Service.outline = a.services.map Service.outline := congrArg Application.services same
  have blanked := congrArg (List.map Service.blank) services
  rwa [List.map_map, List.map_map] at blanked

theorem shape_of_blank (same : b.services.map Service.blank = a.services.map Service.blank) : b.shape = a.shape := by
  have outlined := congrArg (List.map Service.outline) same
  simp only [List.map_map, Function.comp_def, ← Service.blank_outline] at outlined
  exact outlined

/-! ## Edits of a frozen tree -/

structure Closed (a : Application) : Prop where
  service : ∀ identifier primary,
    (∃ s ∈ a.services, (s.identifier == identifier) = true ∧ a.createService identifier primary = (.ok s.key, a)) ∨
      (∀ s ∈ a.services, (s.identifier == identifier) = false) ∧
        a.createService identifier primary = (.error .topologyFrozen, a)
  characteristic : ∀ key s, a.service? key = some s → ∀ identifier flags permissions,
    (∃ position c, s.characteristics[position]? = some c ∧ (c.identifier == identifier) = true ∧
        a.createCharacteristic key identifier flags permissions = (.ok position, a)) ∨
      (∀ c ∈ s.characteristics, (c.identifier == identifier) = false) ∧
        a.createCharacteristic key identifier flags permissions = (.error .topologyFrozen, a)
  descriptor : ∀ key position c, a.characteristic? key position = some c → ∀ identifier permissions,
    (∃ index d, c.descriptors[index]? = some d ∧ (d.identifier == identifier) = true ∧
        a.createDescriptor key position identifier permissions = (.ok index, a)) ∨
      (∀ d ∈ c.descriptors, (d.identifier == identifier) = false) ∧
        a.createDescriptor key position identifier permissions = (.error .topologyFrozen, a)
  removal : ∀ identifier,
    a.removeService identifier = (.error (.invalidState ("cannot remove a service while " ++ a.state.name)), a)

theorem findIdx?_cases {ν : Type} (p : ν → Bool) (xs : List ν) :
    (∃ i x, xs.findIdx? p = some i ∧ xs[i]? = some x ∧ p x = true) ∨
      xs.findIdx? p = none ∧ ∀ x ∈ xs, p x = false := by
  cases found : xs.findIdx? p with
  | none => exact .inr ⟨rfl, List.findIdx?_eq_none_iff.mp found⟩
  | some i =>
      obtain ⟨bound, holds, -⟩ := List.findIdx?_eq_some_iff_getElem.mp found
      exact .inl ⟨i, xs[i], rfl, List.getElem?_eq_getElem bound, holds⟩

theorem Placed.closed (placed : a.Placed) (frozen : a.frozen = true) (published : a.state ≠ .unpublished) :
    a.Closed where
  service identifier primary := by
    unfold createService
    cases found : a.findService? identifier with
    | some s => exact .inl ⟨s, List.mem_of_find?_eq_some found, by simpa using List.find?_some found, rfl⟩
    | none => exact .inr ⟨by simpa [findService?] using found, by simp [frozen]⟩
  characteristic key s found identifier flags permissions := by
    have same := placed.modifyService_self found (f := fun _ => s) rfl
    simp only [createCharacteristic, found, Service.createCharacteristic, Service.findCharacteristic?]
    rcases findIdx?_cases (fun c : Characteristic => c.identifier == identifier) s.characteristics with
      ⟨position, c, known, row, named⟩ | ⟨new, none⟩
    · exact .inl ⟨position, c, row, named, by simp only [known, same]⟩
    · exact .inr ⟨none, by simp only [new, frozen, if_true, same]⟩
  descriptor key position c found identifier permissions := by
    have same := placed.modifyCharacteristic_self found
    simp only [createDescriptor, found, Characteristic.createDescriptor, Characteristic.findDescriptor?]
    rcases findIdx?_cases (fun d : Descriptor => d.identifier == identifier) c.descriptors with
      ⟨index, d, known, row, named⟩ | ⟨new, none⟩
    · exact .inl ⟨index, d, row, named, by simp only [known, same]⟩
    · exact .inr ⟨none, by simp only [new, frozen, if_true, same]⟩
  removal identifier := by rw [removeService, if_neg published]

/-! ## Trees that are published in full -/

structure Fixed (a : Application) : Prop where
  placed : a.Placed
  subscribable : a.Subscribable
  frozen : a.frozen = true
  published : a.state ≠ .unpublished

namespace Fixed

theorem closed (fixed : a.Fixed) : a.Closed := fixed.placed.closed fixed.frozen fixed.published

theorem edit (fixed : a.Fixed) (edit : Edit) : edit.apply a = a := by
  rcases edit.apply_cases fixed.placed with same | ⟨unlocked, -⟩ | ⟨s, removes, -⟩
  · exact same
  · cases unlocked.symm.trans fixed.frozen
  · exact absurd removes.unpublished fixed.published

theorem outline (fixed : a.Fixed) (same : b.outline = a.outline) : b.Fixed ∧ b.shape = a.shape := by
  refine ⟨?_, shape_of_outline same⟩
  have placed := fixed.placed.of_outline same
  injection same with _ state frozen services
  have subscribable := forall_of_map_eq Service.subscribable_outline services fixed.subscribable
  exact ⟨placed, subscribable, frozen.trans fixed.frozen, state ▸ fixed.published⟩

theorem grown (fixed : a.Fixed) (grown : a.Grown b) (frozen : b.frozen = true) (published : b.state ≠ .unpublished) :
    b.Fixed ∧ b.shape = a.shape :=
  ⟨⟨grown.placed fixed.placed, grown.subscribable fixed.subscribable, frozen, published⟩,
    shape_of_blank (grown.blank fixed.subscribable)⟩

end Fixed
end Application
end GattPeripheral
