import GattPeripheral.Config.Settings
import GattPeripheral.Proofs.Except
import GattPeripheral.Proofs.Path.Reading
import GattPeripheral.Proofs.Text.Numeral
import Mathlib.Data.List.Nodup

/-!
# Changing a setting by its key

A table gives each key the kind of its setting, which says what texts it takes and how it shows them. A change of a
known key to a text of its kind rewrites that line of the listing and nothing else; any other change is refused and
leaves the configuration as it was. Main statement: `Config.change_exact`.
-/

namespace GattPeripheral

/-- The kinds of settings. A `code` is shown in hexadecimal digits, a number of `seconds` in decimal ones. -/
inductive SettingKind where
  | text
  | optionalText
  | path
  | truth
  | number
  | code
  | seconds

def NamesNumber (value : String) (n : Nat) : Prop :=
  n < 2 ^ 16 ∧ (Text.IsNumeral 10 value.toList n ∨
    ∃ digits, (value.toList = '0' :: 'x' :: digits ∨ value.toList = '0' :: 'X' :: digits) ∧ Text.IsNumeral 16 digits n)

def IsCode (shown : String) (n : Nat) : Prop :=
  ∃ digits, shown = "0x" ++ String.ofList digits ∧ digits.length = 4 ∧ Text.IsNumeral 16 digits n ∧
    ∀ d ∈ digits, Text.isLowerDigit d = true

/-- A setting of the kind takes a text, which it shows in this form. -/
def SettingKind.Takes : SettingKind → String → String → Prop
  | text, value, shown => shown = value
  | optionalText, value, shown => shown = if value = "" then "(unset)" else value
  | path, value, shown => ObjectPath.IsPathText value ∧ shown = value
  | truth, value, shown => (value = "true" ∨ value = "false") ∧ shown = value
  | number, value, shown => ∃ n < 2 ^ 64, Text.IsNumeral 10 value.toList n ∧ shown = toString n
  | code, value, shown => (value = "" ∧ shown = "(unset)") ∨ ∃ n, NamesNumber value n ∧ IsCode shown n
  | seconds, value, shown => (value = "" ∧ shown = "(unset)") ∨ ∃ n, NamesNumber value n ∧ shown = toString n ++ "s"

namespace Config

def kinds : List (String × SettingKind) :=
  [("adapter", .text), ("device_name", .text), ("application_path", .path), ("log_level", .text),
   ("log_dir", .optionalText), ("advertise", .truth), ("registration_timeout_secs", .number),
   ("retry_delay_ms", .number), ("enable_fallbacks", .truth), ("advertisement.local_name", .optionalText),
   ("advertisement.discoverable", .truth), ("advertisement.include_tx_power", .truth),
   ("advertisement.appearance", .code), ("advertisement.duration", .seconds), ("advertisement.timeout", .seconds)]

/-! ## What the kinds take -/

section Reading
variable {value shown : String}

theorem readPath_ok_iff {s : String} : readPath value = .ok s ↔ ObjectPath.IsPathText value ∧ s = value := by
  rw [← ObjectPath.readable_iff, readPath]
  cases read : ObjectPath.parse value <;> simp [eq_comm]

theorem readBool_ok_iff {b : Bool} : readBool value = .ok b ↔ value = Text.shownBool b := by
  unfold readBool
  split
  next => cases b <;> simp [Text.shownBool]
  next => cases b <;> simp [Text.shownBool]
  next => cases b <;> simp_all [Text.shownBool]

theorem numeral_ok_iff {α : Type} {of : Nat → α} {toNat : α → Nat} (back : ∀ a, of (toNat a) = a)
    {r : Except Text.NumeralError Nat} (fits : ∀ n, r = .ok n → toNat (of n) = n) {a : α} :
    numeral of r = .ok a ↔ r = .ok (toNat a) := by
  rw [numeral, mapError_eq_ok_iff]
  cases r with
  | error e => exact iff_of_false nofun nofun
  | ok n =>
      have own := fits n rfl
      simp only [Except.map, Except.ok.injEq]
      exact ⟨fun same => by rw [← same, own], fun same => by rw [same, back]⟩

theorem readUInt64_ok_iff {n : UInt64} : readUInt64 value = .ok n ↔ Text.IsNumeral 10 value.toList n.toNat := by
  have read {m : Nat} : Text.readDecimal UInt64.size value = .ok m ↔ _ := Text.readDecimal_ok_iff (by decide)
  rw [readUInt64, numeral_ok_iff (fun n => UInt64.ofNat_toNat) fun m found => UInt64.toNat_ofNat_of_lt' (read.mp found).2,
    read, and_iff_left n.toNat_lt_size]

theorem readMarked_ok_iff {n : Nat} : readMarked UInt16.size value = .ok n ↔ NamesNumber value n := by
  have hex {cs : List Char} : Text.readHex UInt16.size cs = .ok n ↔ _ := Text.readHex_ok_iff (by decide)
  have decimal : Text.readDecimal UInt16.size value = .ok n ↔ _ := Text.readDecimal_ok_iff (by decide)
  rw [NamesNumber, and_comm, readMarked]
  split
  case h_3 lower upper =>
    rw [decimal, or_iff_left]
    · rfl
    · rintro ⟨digits, same | same, -⟩
      · exact lower _ same
      · exact upper _ same
  all_goals
    -- Behind a mark, the text is no decimal numeral.
    next digits shape =>
      rw [hex, or_iff_right]
      · refine and_congr_left fun _ => ⟨fun numeral => ⟨digits, by simp [shape], numeral⟩, ?_⟩
        rintro ⟨digits', same | same, numeral⟩ <;> rw [shape] at same <;> cases same
        exact numeral
      · intro numeral
        have plain := numeral.digits
        simp only [shape, List.forall_mem_cons] at plain
        exact absurd plain.2.1 (by decide)

theorem readUInt16_ok_iff {n : UInt16} : readUInt16 value = .ok n ↔ NamesNumber value n.toNat := by
  rw [readUInt16, numeral_ok_iff (fun n => UInt16.ofNat_toNat)
    fun m found => UInt16.toNat_ofNat_of_lt' (readMarked_ok_iff.mp found).1, readMarked_ok_iff]

theorem not_namesNumber_empty (n : Nat) : ¬NamesNumber "" n := by
  rintro ⟨-, decimal | ⟨digits, marked | marked, -⟩⟩
  · exact decimal.ne_nil rfl
  · cases marked
  · cases marked

theorem readOptionalUInt16_ok_iff {n? : Option UInt16} : readOptionalUInt16 value = .ok n? ↔
    (value = "" ∧ n? = none) ∨ ∃ n, NamesNumber value n.toNat ∧ n? = some n := by
  rw [readOptionalUInt16]
  by_cases empty : value = ""
  · subst empty
    have none : ¬∃ n : UInt16, NamesNumber "" n.toNat ∧ n? = some n := fun ⟨n, names, _⟩ =>
      not_namesNumber_empty n.toNat names
    rw [or_iff_left none, and_iff_right rfl]
    exact pure_eq_ok_iff
  · have given : value.isEmpty = false := by simpa using empty
    rw [if_neg (by simp [given])]
    cases read : readUInt16 value with
    | error e =>
        refine iff_of_false nofun ?_
        rintro (⟨none, -⟩ | ⟨n, names, -⟩)
        · exact empty none
        · rw [readUInt16_ok_iff.mpr names] at read
          cases read
    | ok m =>
        have names := readUInt16_ok_iff.mp read
        simp only [Except.map, Except.ok.injEq, empty, false_and, false_or]
        constructor
        · rintro rfl
          exact ⟨m, names, rfl⟩
        · rintro ⟨n, names', rfl⟩
          rw [readUInt16_ok_iff.mpr names'] at read
          rw [Except.ok.inj read]

theorem isCode_iff {n : UInt16} : IsCode shown n.toNat ↔ shown = shownAppearance n := by
  have digits {cs : List Char} : cs = Text.fixedHex 4 n.toNat ↔ _ := Text.eq_fixedHex_iff (by decide) n.toNat_lt
  simp only [IsCode, ← digits, exists_eq_right, shownAppearance]

theorem exists_uint16 {P : Nat → Prop} :
    (∃ n, NamesNumber value n ∧ P n) ↔ ∃ n : UInt16, NamesNumber value n.toNat ∧ P n.toNat := by
  constructor
  · rintro ⟨n, names, holds⟩
    have own := UInt16.toNat_ofNat_of_lt' names.1
    exact ⟨UInt16.ofNat n, by rwa [own], by rwa [own]⟩
  · rintro ⟨n, names, holds⟩
    exact ⟨n.toNat, names, holds⟩

/-! ## What is taken and how it is shown -/

theorem truth_takes : SettingKind.truth.Takes value shown ↔ ∃ b, readBool value = .ok b ∧ shown = Text.shownBool b := by
  simp only [SettingKind.Takes, readBool_ok_iff, Bool.exists_bool, Text.shownBool, Bool.false_eq_true, if_true, if_false]
  constructor
  · rintro ⟨rfl | rfl, rfl⟩
    · exact .inr ⟨rfl, rfl⟩
    · exact .inl ⟨rfl, rfl⟩
  · rintro (⟨rfl, rfl⟩ | ⟨rfl, rfl⟩)
    · exact ⟨.inr rfl, rfl⟩
    · exact ⟨.inl rfl, rfl⟩

theorem path_takes : SettingKind.path.Takes value shown ↔ ∃ s, readPath value = .ok s ∧ shown = s := by
  simp only [SettingKind.Takes, readPath_ok_iff]
  constructor
  · rintro ⟨readable, rfl⟩
    exact ⟨_, ⟨readable, rfl⟩, rfl⟩
  · rintro ⟨_, ⟨readable, rfl⟩, rfl⟩
    exact ⟨readable, rfl⟩

theorem number_takes :
    SettingKind.number.Takes value shown ↔ ∃ n, readUInt64 value = .ok n ∧ shown = toString n.toNat := by
  simp only [SettingKind.Takes, readUInt64_ok_iff]
  constructor
  · rintro ⟨n, small, numeral, rfl⟩
    have own := UInt64.toNat_ofNat_of_lt' small
    exact ⟨UInt64.ofNat n, by rwa [own], by rw [own]⟩
  · rintro ⟨n, numeral, rfl⟩
    exact ⟨n.toNat, n.toNat_lt, numeral, rfl⟩

theorem optional_takes {P : String → Nat → Prop} {form : UInt16 → String}
    (forms : ∀ n : UInt16, P shown n.toNat ↔ shown = form n) :
    ((value = "" ∧ shown = "(unset)") ∨ ∃ n, NamesNumber value n ∧ P shown n) ↔
      ∃ n?, readOptionalUInt16 value = .ok n? ∧ shown = (n?.map form).getD unset := by
  simp only [readOptionalUInt16_ok_iff, exists_uint16, forms]
  constructor
  · rintro (⟨empty, rfl⟩ | ⟨n, names, rfl⟩)
    · exact ⟨none, .inl ⟨empty, rfl⟩, rfl⟩
    · exact ⟨some n, .inr ⟨n, names, rfl⟩, rfl⟩
  · rintro ⟨_, ⟨empty, rfl⟩ | ⟨n, names, rfl⟩, rfl⟩
    · exact .inl ⟨empty, rfl⟩
    · exact .inr ⟨n, names, rfl⟩

theorem code_takes : SettingKind.code.Takes value shown ↔
    ∃ n?, readOptionalUInt16 value = .ok n? ∧ shown = (n?.map shownAppearance).getD unset :=
  optional_takes fun _ => isCode_iff

theorem seconds_takes : SettingKind.seconds.Takes value shown ↔
    ∃ n?, readOptionalUInt16 value = .ok n? ∧ shown = (n?.map shownSeconds).getD unset :=
  optional_takes (P := fun shown n => shown = toString n ++ "s") fun _ => Iff.rfl

theorem optionalText_takes : SettingKind.optionalText.Takes value shown ↔
    shown = (readOptionalText value).getD unset := by
  rw [readOptionalText]
  by_cases empty : value = ""
  · subst empty
    rfl
  · simp [SettingKind.Takes, empty]

theorem readPath_known {key : String} : readPath value ≠ .error (.unknownKey key) := by
  unfold readPath
  split <;> nofun

theorem readBool_known {key : String} : readBool value ≠ .error (.unknownKey key) := by
  unfold readBool
  split <;> nofun

theorem numeral_known {α : Type} {of : Nat → α} {r : Except Text.NumeralError Nat} {key : String} :
    numeral of r ≠ .error (.unknownKey key) := by
  cases r <;> nofun

theorem readOptionalUInt16_known {key : String} : readOptionalUInt16 value ≠ .error (.unknownKey key) := by
  unfold readOptionalUInt16
  split
  next => nofun
  next =>
    intro unknown
    cases read : readUInt16 value with
    | ok n =>
        rw [read] at unknown
        cases unknown
    | error e =>
        rw [read] at unknown
        cases unknown
        exact numeral_known read

end Reading

/-! ## Changes -/

/-- The second configuration shows one line differently, and is otherwise listed as the first one. -/
structure Relisted (key shown : String) (c d : Config) : Prop where
  list : d.list = c.list.map fun e => if e.1 = key then (key, shown) else e
  services : d.services = c.services
  manufacturerData : d.advertisement.manufacturerData = c.advertisement.manufacturerData

def Settles (kind : SettingKind) (key value : String) (c : Config) : Except SettingError Unit × Config → Prop
  | (.ok (), d) => ∃ shown, kind.Takes value shown ∧ Relisted key shown c d
  | (.error e, d) => d = c ∧ e ≠ .unknownKey key ∧ ∀ shown, ¬kind.Takes value shown

section Change
variable {kind : SettingKind} {key value : String} {c : Config}

theorem settles_assign {α : Type} {read : Except SettingError α} {set : Config → α → Config} {form : α → String}
    (takes : ∀ shown, kind.Takes value shown ↔ ∃ v, read = .ok v ∧ shown = form v)
    (known : read ≠ .error (.unknownKey key)) (relisted : ∀ v, Relisted key (form v) c (set c v)) :
    Settles kind key value c ((assign read set).run c) := by
  cases read with
  | ok v => exact ⟨form v, (takes _).mpr ⟨v, rfl, rfl⟩, relisted v⟩
  | error e =>
      refine ⟨rfl, fun unknown => known (congrArg _ unknown), fun shown taken => ?_⟩
      obtain ⟨v, read, -⟩ := (takes shown).mp taken
      cases read

theorem settles_modify {set : Config → Config} {shown : String} (takes : kind.Takes value shown)
    (relisted : Relisted key shown c (set c)) :
    Settles kind key value c ((modify set : Change Unit).run c) :=
  ⟨shown, takes, relisted⟩

theorem settles_path {set : Config → String → Config} (relisted : ∀ v, Relisted key v c (set c v)) :
    Settles .path key value c ((assign (readPath value) set).run c) :=
  settles_assign (fun _ => path_takes) readPath_known relisted

theorem settles_truth {set : Config → Bool → Config} (relisted : ∀ v, Relisted key (Text.shownBool v) c (set c v)) :
    Settles .truth key value c ((assign (readBool value) set).run c) :=
  settles_assign (fun _ => truth_takes) readBool_known relisted

theorem settles_number {set : Config → UInt64 → Config} (relisted : ∀ v, Relisted key (toString v.toNat) c (set c v)) :
    Settles .number key value c ((assign (readUInt64 value) set).run c) :=
  settles_assign (fun _ => number_takes) numeral_known relisted

theorem settles_code {set : Config → Option UInt16 → Config}
    (relisted : ∀ v, Relisted key ((v.map shownAppearance).getD unset) c (set c v)) :
    Settles .code key value c ((assign (readOptionalUInt16 value) set).run c) :=
  settles_assign (fun _ => code_takes) readOptionalUInt16_known relisted

theorem settles_seconds {set : Config → Option UInt16 → Config}
    (relisted : ∀ v, Relisted key ((v.map shownSeconds).getD unset) c (set c v)) :
    Settles .seconds key value c ((assign (readOptionalUInt16 value) set).run c) :=
  settles_assign (fun _ => seconds_takes) readOptionalUInt16_known relisted

theorem change_settles (key value : String) (c : Config) :
    (∃ kind, (key, kind) ∈ kinds ∧ Settles kind key value c ((change key value).run c)) ∨
      (key ∉ kinds.map Prod.fst ∧ (change key value).run c = (.error (.unknownKey key), c)) := by
  unfold change
  split
  case h_1 | h_2 | h_4 => exact .inl ⟨.text, by simp [kinds], settles_modify rfl ⟨rfl, rfl, rfl⟩⟩
  case h_3 => exact .inl ⟨.path, by simp [kinds], settles_path fun _ => ⟨rfl, rfl, rfl⟩⟩
  case h_5 => exact .inl ⟨.optionalText, by simp [kinds], settles_modify (optionalText_takes.mpr rfl) ⟨rfl, rfl, rfl⟩⟩
  case h_6 | h_9 | h_11 | h_12 => exact .inl ⟨.truth, by simp [kinds], settles_truth fun _ => ⟨rfl, rfl, rfl⟩⟩
  case h_7 | h_8 => exact .inl ⟨.number, by simp [kinds], settles_number fun _ => ⟨rfl, rfl, rfl⟩⟩
  case h_10 => exact .inl ⟨.optionalText, by simp [kinds], _, optionalText_takes.mpr rfl, rfl, rfl, rfl⟩
  case h_13 => exact .inl ⟨.code, by simp [kinds], settles_code fun _ => ⟨rfl, rfl, rfl⟩⟩
  case h_14 | h_15 => exact .inl ⟨.seconds, by simp [kinds], settles_seconds fun _ => ⟨rfl, rfl, rfl⟩⟩
  case h_16 => exact .inr ⟨by simp_all [kinds], rfl⟩

end Change

theorem keys_list (c : Config) : c.list.map Prod.fst = kinds.map Prod.fst := rfl

theorem nodup_keys : (kinds.map Prod.fst).Nodup := by decide

theorem kind_unique {key : String} {kind kind' : SettingKind} (here : (key, kind) ∈ kinds)
    (there : (key, kind') ∈ kinds) : kind = kind' :=
  congrArg Prod.snd (List.inj_on_of_nodup_map nodup_keys here there rfl)

theorem lookup_relisted {key shown : String} {lines : List (String × String)} (listed : key ∈ lines.map Prod.fst) :
    (lines.map fun e => if e.1 = key then (key, shown) else e).lookup key = some shown := by
  induction lines with
  | nil => cases listed
  | cons e lines ih =>
      obtain ⟨name, text⟩ := e
      by_cases here : name = key
      · simp [here]
      · have later : key ∈ lines.map Prod.fst := (List.mem_cons.mp listed).resolve_left (Ne.symm here)
        have other : (key == name) = false := beq_false_of_ne (Ne.symm here)
        simp [here, other, List.lookup_cons, ih later]

theorem Relisted.get? {key shown : String} {c d : Config} (relisted : Relisted key shown c d)
    (known : key ∈ kinds.map Prod.fst) : d.get? key = some shown := by
  rw [Config.get?, relisted.list]
  exact lookup_relisted (c.keys_list ▸ known)

/-- Fifteen settings are listed. Changing one of them to a text that it takes shows the text in the setting's own form,
and leaves the other lines, the services and the manufacturer data as they are. Any other change is refused, with the
configuration as it was. -/
theorem change_exact :
    (∀ c : Config, c.list.map Prod.fst = kinds.map Prod.fst) ∧ (kinds.map Prod.fst).Nodup ∧ kinds.length = 15 ∧
      ∀ (key value : String) (c : Config),
        (∃ kind shown d, (key, kind) ∈ kinds ∧ kind.Takes value shown ∧ (change key value).run c = (.ok (), d) ∧
            Relisted key shown c d ∧ d.get? key = some shown ∧
            (key = "application_path" → ∃ p, ObjectPath.parse d.applicationPath = .ok p)) ∨
          ∃ e, (change key value).run c = (.error e, c) ∧ (e = .unknownKey key ↔ key ∉ kinds.map Prod.fst) ∧
            ∀ kind shown, (key, kind) ∈ kinds → ¬kind.Takes value shown := by
  refine ⟨keys_list, nodup_keys, rfl, fun key value c => ?_⟩
  rcases change_settles key value c with ⟨kind, known, settles⟩ | ⟨unknown, refused⟩
  · have listed : key ∈ kinds.map Prod.fst := List.mem_map_of_mem known
    cases outcome : (change key value).run c with
    | mk result d =>
      rw [outcome] at settles
      cases result with
      | ok done =>
          obtain ⟨shown, takes, relisted⟩ := settles
          have line := relisted.get? listed
          refine .inl ⟨kind, shown, d, known, takes, rfl, relisted, line, ?_⟩
          rintro rfl
          obtain rfl : kind = .path := kind_unique known (by simp [kinds])
          obtain ⟨readable, rfl⟩ := takes
          obtain rfl : d.applicationPath = shown := Option.some.inj line
          exact ObjectPath.readable_iff.mpr readable
      | error e =>
          obtain ⟨rfl, other, none⟩ := settles
          refine .inr ⟨e, rfl, iff_of_false other (not_not_intro listed), fun kind' shown there => ?_⟩
          rw [kind_unique there known]
          exact none shown
  · exact .inr ⟨_, refused, iff_of_true rfl unknown, fun kind shown known => absurd (List.mem_map_of_mem known) unknown⟩

end Config
end GattPeripheral
