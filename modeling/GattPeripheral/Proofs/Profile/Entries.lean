import GattPeripheral.Profile
import GattPeripheral.Proofs.Attribute.Flags
import GattPeripheral.Proofs.Identifier
import GattPeripheral.Proofs.Text.Blank
import Mathlib.Data.List.Forall2
import Mathlib.Tactic.MkIffOfInductiveProp

/-!
# The entries of a configuration

A configuration is written in texts. `DescriptorConfig.Means` and its like relate it to an entry that has what the
texts say, and `DescriptorConfig.Legible` and its like ask of each text that it says something. Whatever is legible
means exactly one entry (`DescriptorConfig.means_iff_entry` and so on).
-/

namespace GattPeripheral

/-! ## Names and identifiers -/

def Flags.written (names : List String) : Flags := (parse names).toOption.getD empty

theorem Flags.named_iff {names : List String} {fs : Flags} :
    Named names fs ↔ (∀ n ∈ names, ∃ f : Flag, f.name = n) ∧ fs = written names := by
  rw [← parse_eq_ok_iff, eq_ok_iff empty, ← sets.exists_named_iff Flag.roster names, written]
  simp only [parse_eq_ok_iff, Named]

def Permissions.written (names : List String) : Permissions := (parse names).toOption.getD empty

theorem Permissions.named_iff {names : List String} {ps : Permissions} :
    Named names ps ↔ (∀ n ∈ names, ∃ p : Permission, p.name = n) ∧ ps = written names := by
  rw [← parse_eq_ok_iff, eq_ok_iff empty, ← sets.exists_named_iff Permission.roster names, written]
  simp only [parse_eq_ok_iff, Named]

def Identifier.IsText (s : String) : Prop := s.toList.countP Text.isHexDigit ∈ [4, 8, 32]

def Identifier.written (s : String) : Identifier := (parse s).toOption.getD default

theorem Identifier.spelled_iff {s : String} {u : Identifier} : Spelled s u ↔ IsText s ∧ u = written s := by
  rw [← parse_eq_ok_iff, eq_ok_iff default, parse_isOk_iff, IsText, written]

def Permission.impliedBy : Permission → List Flag
  | read => [.read]
  | write => [.write, .writeWithoutResponse]
  | readEncrypted => [.encryptRead]
  | writeEncrypted => [.encryptWrite]
  | readAuthenticated => [.encryptAuthenticatedRead]
  | writeAuthenticated => [.encryptAuthenticatedWrite]

namespace Profile

theorem contains_permissionsFor (flags : Flags) (p : Permission) :
    (permissionsFor flags).contains p = true ↔ ∃ f ∈ p.impliedBy, flags.contains f = true := by
  rw [permissionsFor, Permissions.ofList, Permissions.sets.contains_collected]
  cases p <;> simp [Permission.impliedBy]

theorem eq_permissionsFor_iff {flags : Flags} {ps : Permissions} :
    ps = permissionsFor flags ↔ ∀ p, ps.contains p = true ↔ ∃ f ∈ p.impliedBy, flags.contains f = true := by
  constructor
  · rintro rfl
    exact contains_permissionsFor flags
  · intro implied
    exact Permissions.sets.ext fun p => Bool.eq_iff_iff.mpr ((implied p).trans (contains_permissionsFor flags p).symm)

/-! ## Values -/

/-- The text has white space at both ends, and between them these characters, perhaps with `0x` or `0X` in front. -/
def Wraps (text : String) (digits : List Char) : Prop :=
  ∃ front mark back, text.toList = front ++ (mark ++ digits) ++ back ∧ (∀ c ∈ front, c ∈ Text.whiteSpace) ∧
    (∀ c ∈ back, c ∈ Text.whiteSpace) ∧ mark ∈ [[], ['0', 'x'], ['0', 'X']]

def IsValueText (text : String) : Prop :=
  ∃ digits, Wraps text digits ∧ (∀ c ∈ digits, Text.isHexDigit c = true) ∧ digits.length % 2 = 0

def IsValueOf (text : String) (value : Bytes) : Prop :=
  ∃ digits, Wraps text digits ∧ digits.map Char.toLower = value.flatMap Text.byteDigits

def bareDigits (text : String) : List Char :=
  match Text.trim text.toList with
  | '0' :: 'x' :: digits | '0' :: 'X' :: digits => digits
  | digits => digits

theorem wraps_bareDigits (text : String) : Wraps text (bareDigits text) := by
  obtain ⟨front, back, whole, before, after⟩ := Text.exists_surrounded text.toList
  have mark : ∃ mark ∈ [[], ['0', 'x'], ['0', 'X']], Text.trim text.toList = mark ++ bareDigits text := by
    rw [bareDigits]
    split
    next small => exact ⟨['0', 'x'], by simp, small⟩
    next big => exact ⟨['0', 'X'], by simp, big⟩
    next => exact ⟨[], by simp, rfl⟩
  obtain ⟨mark, known, bare⟩ := mark
  exact ⟨front, mark, back, bare ▸ whole, before, after, known⟩

theorem bareDigits_eq {text : String} {digits : List Char} (wraps : Wraps text digits)
    (hexadecimal : ∀ c ∈ digits, Text.isHexDigit c = true) : bareDigits text = digits := by
  obtain ⟨front, mark, back, whole, before, after, known⟩ := wraps
  have apart : Text.whiteSpace.all (fun c => !(c == 'x' || c == 'X' || Text.isHexDigit c)) = true := by decide
  have marks : [[], ['0', 'x'], ['0', 'X']].all (List.all · fun c => c == 'x' || c == 'X' || Text.isHexDigit c) =
      true := by decide
  have inner : ∀ c ∈ mark ++ digits, c ∉ Text.whiteSpace := by
    intro c member blank
    have no := List.all_eq_true.mp apart c blank
    rcases List.mem_append.mp member with inMark | digit
    · have yes := List.all_eq_true.mp (List.all_eq_true.mp marks mark known) c inMark
      simp [yes] at no
    · simp [hexadecimal c digit] at no
  rw [bareDigits, whole, Text.trim_surrounded before after inner]
  simp only [List.mem_cons, List.not_mem_nil, or_false] at known
  rcases known with rfl | rfl | rfl
  · rw [List.nil_append]
    split
    next => exact absurd (hexadecimal 'x' (by simp)) (by decide)
    next => exact absurd (hexadecimal 'X' (by simp)) (by decide)
    next => rfl
  · rfl
  · rfl

theorem decodeValue_eq_ok_iff {text : String} {value : Bytes} :
    decodeValue text = .ok value ↔ IsValueOf text value := by
  have bare : decodeValue text = (Text.decodeHex (String.ofList (bareDigits text))).mapError (.hex text) := rfl
  rw [bare, mapError_eq_ok_iff, Text.decodeHex_ok_iff]
  constructor
  · exact fun digits => ⟨_, wraps_bareDigits text, digits⟩
  · rintro ⟨digits, wraps, same⟩
    have hexadecimal := (Text.decodable_iff.mp ⟨value, Text.decodeHex_ok_iff.mpr same⟩).1
    rwa [bareDigits_eq wraps hexadecimal]

theorem exists_isValueOf_iff {text : String} : (∃ value, IsValueOf text value) ↔ IsValueText text := by
  simp only [IsValueOf, IsValueText, ← Text.decodable_iff, Text.decodeHex_ok_iff]
  rw [exists_comm]
  simp only [exists_and_left]

def writtenValue (text : String) : Bytes := (decodeValue text).toOption.getD []

theorem isValueOf_iff {text : String} {value : Bytes} :
    IsValueOf text value ↔ IsValueText text ∧ value = writtenValue text := by
  rw [← decodeValue_eq_ok_iff, eq_ok_iff [], ← exists_isValueOf_iff, writtenValue]
  simp only [decodeValue_eq_ok_iff]

end Profile

/-! ## Entries -/

structure DescriptorEntry where
  identifier : Identifier
  permissions : Permissions
  value : Bytes

structure CharacteristicEntry where
  identifier : Identifier
  flags : Flags
  permissions : Permissions
  value : Bytes
  descriptors : List DescriptorEntry

structure ServiceEntry where
  identifier : Identifier
  primary : Bool
  characteristics : List CharacteristicEntry

theorem forall₂_means_iff {α η : Type} {means : α → η → Prop} {legible : α → Prop} {entry : α → η}
    (each : ∀ x e, means x e ↔ legible x ∧ e = entry x) (xs : List α) (es : List η) :
    List.Forall₂ means xs es ↔ (∀ x ∈ xs, legible x) ∧ es = xs.map entry := by
  induction xs generalizing es with
  | nil => simp
  | cons x xs ih =>
      simp only [List.forall₂_cons_left_iff, each, ih, List.forall_mem_cons, List.map_cons]
      constructor
      · rintro ⟨_, _, ⟨here, rfl⟩, ⟨rest, rfl⟩, rfl⟩
        exact ⟨⟨here, rest⟩, rfl⟩
      · rintro ⟨⟨here, rest⟩, rfl⟩
        exact ⟨_, _, ⟨here, rfl⟩, ⟨rest, rfl⟩, rfl⟩

namespace DescriptorConfig

@[mk_iff]
structure Legible (c : DescriptorConfig) : Prop where
  uuid : Identifier.IsText c.uuid
  permissions : ∀ n ∈ c.permissions, ∃ p : Permission, p.name = n
  value : Profile.IsValueText c.value

@[mk_iff]
structure Means (c : DescriptorConfig) (e : DescriptorEntry) : Prop where
  uuid : Identifier.Spelled c.uuid e.identifier
  permissions : Permissions.Named c.permissions e.permissions
  value : Profile.IsValueOf c.value e.value

def entry (c : DescriptorConfig) : DescriptorEntry where
  identifier := .written c.uuid
  permissions := .written c.permissions
  value := Profile.writtenValue c.value

theorem means_iff_entry (c : DescriptorConfig) (e : DescriptorEntry) : c.Means e ↔ c.Legible ∧ e = c.entry := by
  obtain ⟨identifier, permissions, value⟩ := e
  rw [means_iff, legible_iff, Identifier.spelled_iff, Permissions.named_iff, Profile.isValueOf_iff, entry,
    DescriptorEntry.mk.injEq]
  tauto

end DescriptorConfig

namespace CharacteristicConfig

@[mk_iff]
structure Legible (c : CharacteristicConfig) : Prop where
  uuid : Identifier.IsText c.uuid
  flags : ∀ n ∈ c.flags, ∃ f : Flag, f.name = n
  value : Profile.IsValueText c.value
  descriptors : ∀ d ∈ c.descriptors, d.Legible

@[mk_iff]
structure Means (c : CharacteristicConfig) (e : CharacteristicEntry) : Prop where
  uuid : Identifier.Spelled c.uuid e.identifier
  flags : Flags.Named c.flags e.flags
  permissions : ∀ p, e.permissions.contains p = true ↔ ∃ f ∈ p.impliedBy, e.flags.contains f = true
  value : Profile.IsValueOf c.value e.value
  descriptors : List.Forall₂ DescriptorConfig.Means c.descriptors e.descriptors

def entry (c : CharacteristicConfig) : CharacteristicEntry where
  identifier := .written c.uuid
  flags := .written c.flags
  permissions := Profile.permissionsFor (.written c.flags)
  value := Profile.writtenValue c.value
  descriptors := c.descriptors.map DescriptorConfig.entry

theorem means_iff_entry (c : CharacteristicConfig) (e : CharacteristicEntry) :
    c.Means e ↔ c.Legible ∧ e = c.entry := by
  obtain ⟨identifier, flags, permissions, value, descriptors⟩ := e
  rw [means_iff, legible_iff, Identifier.spelled_iff, Flags.named_iff, ← Profile.eq_permissionsFor_iff,
    Profile.isValueOf_iff, forall₂_means_iff DescriptorConfig.means_iff_entry, entry, CharacteristicEntry.mk.injEq]
  constructor
  · rintro ⟨⟨text, rfl⟩, ⟨known, rfl⟩, implied, ⟨digits, rfl⟩, all, rfl⟩
    exact ⟨⟨text, known, digits, all⟩, rfl, rfl, implied, rfl, rfl⟩
  · rintro ⟨⟨text, known, digits, all⟩, rfl, rfl, implied, rfl, rfl⟩
    exact ⟨⟨text, rfl⟩, ⟨known, rfl⟩, implied, ⟨digits, rfl⟩, all, rfl⟩

end CharacteristicConfig

namespace ServiceConfig

@[mk_iff]
structure Legible (c : ServiceConfig) : Prop where
  uuid : Identifier.IsText c.uuid
  characteristics : ∀ x ∈ c.characteristics, x.Legible

@[mk_iff]
structure Means (c : ServiceConfig) (e : ServiceEntry) : Prop where
  uuid : Identifier.Spelled c.uuid e.identifier
  primary : e.primary = c.primary
  characteristics : List.Forall₂ CharacteristicConfig.Means c.characteristics e.characteristics

def entry (c : ServiceConfig) : ServiceEntry where
  identifier := .written c.uuid
  primary := c.primary
  characteristics := c.characteristics.map CharacteristicConfig.entry

theorem means_iff_entry (c : ServiceConfig) (e : ServiceEntry) : c.Means e ↔ c.Legible ∧ e = c.entry := by
  obtain ⟨identifier, primary, characteristics⟩ := e
  rw [means_iff, legible_iff, Identifier.spelled_iff, forall₂_means_iff CharacteristicConfig.means_iff_entry, entry,
    ServiceEntry.mk.injEq]
  tauto

end ServiceConfig
end GattPeripheral
