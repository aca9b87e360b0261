import GattPeripheral.Proofs.Json.Reading
import GattPeripheral.Proofs.Text.Hex
import Mathlib.Data.Rat.Cast.Order
import Mathlib.Tactic.FieldSimp

/-!
# How a value may be written

`Spells j cs`: the text `cs` is one way to write the value `j`. Between the parts of a value there may be blanks,
characters of a string may be escaped, and a number may have a fraction and an exponent. Only whole numbers stand as
their digits. Main statement: `spells_spread`, that the spread form is one of these ways.
-/

namespace GattPeripheral.Json

open Number (isDigit)

/-! ## Strings -/

inductive SpellsChar : Char → List Char → Prop where
  | plain {c} (visible : ¬ c.toNat < 0x20) (quote : c ≠ '"') (backslash : c ≠ '\\') : SpellsChar c [c]
  | short {c letter} (escape : shortEscaped? letter = some c) : SpellsChar c ['\\', letter]
  | unit {c a b d e} (unit : codeUnit? a b d e = some c.toNat) : SpellsChar c ['\\', 'u', a, b, d, e]
  | pair {c a b d e a' b' d' e' high low} (first : codeUnit? a b d e = some high) (leading : isLeading high = true)
      (second : codeUnit? a' b' d' e' = some low) (trailing : isTrailing low = true)
      (joined : joinSurrogates high low = c) :
      SpellsChar c ['\\', 'u', a, b, d, e, '\\', 'u', a', b', d', e']

inductive SpellsText : List Char → List Char → Prop where
  | nil : SpellsText [] []
  | cons {c s piece cs} (here : SpellsChar c piece) (later : SpellsText s cs) : SpellsText (c :: s) (piece ++ cs)

/-! ## Numbers -/

inductive SpellsFraction : List Char → List Char → Prop where
  | absent : SpellsFraction [] []
  | present {digits} (some : digits ≠ []) (all : ∀ c ∈ digits, isDigit c = true) :
      SpellsFraction digits ('.' :: digits)

inductive SpellsExponent : Int → List Char → Prop where
  | absent : SpellsExponent 0 []
  | present {marker sign digits} (marked : marker = 'e' ∨ marker = 'E') (signed : sign = [] ∨ sign = ['+'] ∨ sign = ['-'])
      (some : digits ≠ []) (all : ∀ c ∈ digits, isDigit c = true) :
      SpellsExponent ((if sign = ['-'] then -1 else 1) * Nat.ofDigitChars 10 digits 0) (marker :: (sign ++ digits))

/-- The ways to write the number `mantissa / 10 ^ places`. -/
inductive SpellsNumber (mantissa : Int) (places : Nat) : List Char → Prop where
  | intro {negative : Bool} {whole fraction front back : List Char} {exponent : Int} (some : whole ≠ [])
      (all : ∀ c ∈ whole, isDigit c = true) (leading : whole.head? = Option.some '0' → whole = ['0'])
      (front_spelled : SpellsFraction fraction front) (back_spelled : SpellsExponent exponent back)
      (value : (mantissa : ℚ) / 10 ^ places =
        (if negative then -1 else 1) * Nat.ofDigitChars 10 (whole ++ fraction) 0 * 10 ^ (exponent - fraction.length)) :
      SpellsNumber mantissa places ((if negative then ['-'] else []) ++ (whole ++ (front ++ back)))

/-! ## Values -/

/-- An item of a list or the value of a member, with what stands around it. -/
structure Piece where
  lead : List Char
  json : Json
  text : List Char
  trail : List Char

def Piece.written (p : Piece) : List Char := p.lead ++ (p.text ++ p.trail)

def joined (first : Bool) : List (List Char) → List Char
  | [] => []
  | piece :: pieces => (if first then [] else [',']) ++ (piece ++ joined false pieces)

theorem joined_cons (first : Bool) (piece : List Char) (pieces : List (List Char)) (rest : List Char) :
    joined first (piece :: pieces) ++ rest =
      (if first then [] else [',']) ++ (piece ++ (joined false pieces ++ rest)) := by
  rw [joined, List.append_assoc, List.append_assoc]

theorem apart_joined (pieces : List (List Char)) {rest : List Char} (apart : Apart rest) :
    Apart (joined false pieces ++ rest) := by
  cases pieces with
  | nil => exact apart
  | cons piece pieces => exact apart_cons (by decide) _

/-- The name of a member and all that stands in front of its value. A name that is a number stands as its digits. -/
inductive Labels (name : String) : List Char → Prop where
  | intro {before text after between : List Char} (before_blank : Blank before) (spelled : SpellsText name.toList text)
      (numeric : (∀ c ∈ name.toList, isDigit c = true) → text = name.toList) (after_blank : Blank after)
      (between_blank : Blank between) : Labels name (before ++ '"' :: (text ++ '"' :: (after ++ ':' :: between)))

inductive Spells : Json → List Char → Prop where
  | null : Spells .null ['n', 'u', 'l', 'l']
  | bool (value : Bool) : Spells (.bool value) (bool.text value)
  | number {mantissa places cs} (spelled : SpellsNumber mantissa places cs)
      (plain : places = 0 → cs = decimal mantissa 0) : Spells (.number mantissa places) cs
  | string {s cs} (spelled : SpellsText s.toList cs) : Spells (.string s) ('"' :: (cs ++ ['"']))
  | array {pieces : List Piece} {ends} (spelled : ∀ p ∈ pieces, Spells p.json p.text)
      (leads : ∀ p ∈ pieces, Blank p.lead) (trails : ∀ p ∈ pieces, Blank p.trail) (ends_blank : Blank ends) :
      Spells (.array (pieces.map Piece.json)) ('[' :: (joined true (pieces.map Piece.written) ++ (ends ++ [']'])))
  | object {members : List (String × Piece)} {ends} (spelled : ∀ m ∈ members, Spells m.2.json m.2.text)
      (leads : ∀ m ∈ members, Labels m.1 m.2.lead) (trails : ∀ m ∈ members, Blank m.2.trail) (ends_blank : Blank ends) :
      Spells (.object (members.map fun m => (m.1, m.2.json)))
        ('\x7b' :: (joined true (members.map fun m => m.2.written) ++ (ends ++ ['\x7d'])))

/-! ## First characters -/

structure Begins (c : Char) : Prop where
  visible : Cursor.isBlank c = false
  bracket : c ≠ ']'

theorem Begins.of_isDigit {c : Char} (digit : isDigit c = true) : Begins c := by
  constructor
  · cases blank : Cursor.isBlank c with
    | false => rfl
    | true =>
        simp only [Cursor.isBlank, Bool.or_eq_true, decide_eq_true_eq] at blank
        rcases blank with ((rfl | rfl) | rfl) | rfl <;> cases digit
  · rintro rfl
    cases digit

theorem SpellsNumber.head {mantissa : Int} {places : Nat} {cs : List Char} (spelled : SpellsNumber mantissa places cs) :
    ∃ c tail, cs = c :: tail ∧ (c = '-' ∨ isDigit c = true) := by
  obtain ⟨some, all, -, -, -, -⟩ := spelled
  rename_i negative whole _ _ _ _
  cases negative with
  | true => exact ⟨'-', _, rfl, .inl rfl⟩
  | false =>
      cases whole with
      | nil => exact absurd rfl some
      | cons c whole => exact ⟨c, _, rfl, .inr (all c List.mem_cons_self)⟩

theorem Spells.head {j : Json} {cs : List Char} (spelled : Spells j cs) :
    ∃ c tail, cs = c :: tail ∧ Begins c ∧ (c = 'n' → j = .null) := by
  cases spelled with
  | null => exact ⟨'n', _, rfl, ⟨rfl, by decide⟩, fun _ => rfl⟩
  | bool value =>
      cases value with
      | true => exact ⟨'t', _, rfl, ⟨rfl, by decide⟩, nofun⟩
      | false => exact ⟨'f', _, rfl, ⟨rfl, by decide⟩, nofun⟩
  | number spelled _ =>
      obtain ⟨c, tail, rfl, rfl | digit⟩ := spelled.head
      · exact ⟨'-', _, rfl, ⟨rfl, by decide⟩, nofun⟩
      · refine ⟨c, _, rfl, .of_isDigit digit, ?_⟩
        rintro rfl
        cases digit
  | string _ => exact ⟨'"', _, rfl, ⟨rfl, by decide⟩, nofun⟩
  | array _ _ _ _ => exact ⟨'[', _, rfl, ⟨rfl, by decide⟩, nofun⟩
  | object _ _ _ _ => exact ⟨'\x7b', _, rfl, ⟨rfl, by decide⟩, nofun⟩

/-! ## The spread form -/

theorem codeUnit?_fixedHex {n : Nat} (small : n < 65536) :
    ∃ a b c d, Text.fixedHex 4 n = [a, b, c, d] ∧ codeUnit? a b c d = some n := by
  refine ⟨_, _, _, _, rfl, ?_⟩
  have last := Text.hexValue?_hexDigit (Nat.mod_lt n (by decide : 0 < 16))
  have third := Text.hexValue?_hexDigit (Nat.mod_lt (n / 16) (by decide : 0 < 16))
  have second := Text.hexValue?_hexDigit (Nat.mod_lt (n / 16 / 16) (by decide : 0 < 16))
  have first := Text.hexValue?_hexDigit (Nat.mod_lt (n / 16 / 16 / 16) (by decide : 0 < 16))
  simp only [codeUnit?, first, second, third, last, Option.bind_eq_bind, Option.bind_some, Option.pure_def,
    Option.some.injEq]
  omega

theorem spells_escape (c : Char) : SpellsChar c (escape c) := by
  unfold escape
  cases short : shortEscape? c with
  | some letter =>
      unfold shortEscape? at short
      split at short <;> cases short <;> exact .short rfl
  | none =>
      by_cases control : c.toNat < 0x20
      · obtain ⟨a, b, d, e, digits, unit⟩ := codeUnit?_fixedHex (n := c.toNat) (by omega)
        simp only [if_pos control, digits]
        exact .unit unit
      · simp only [if_neg control]
        refine .plain control ?_ ?_
        all_goals
          rintro rfl
          cases short

theorem spells_flatMap_escape (cs : List Char) : SpellsText cs (cs.flatMap escape) := by
  induction cs with
  | nil => exact .nil
  | cons c cs ih => exact .cons (spells_escape c) ih

theorem escape_of_isDigit {c : Char} (digit : isDigit c = true) : escape c = [c] := by
  have plain : shortEscape? c = none := by
    unfold shortEscape?
    split <;> first | rfl | cases digit
  have visible : ¬ c.toNat < 0x20 := by
    simp only [isDigit, Bool.and_eq_true, decide_eq_true_eq] at digit
    have low : '0'.toNat ≤ c.toNat := digit.1
    have zero : '0'.toNat = 48 := rfl
    omega
  simp only [escape, plain, if_neg visible]

theorem flatMap_escape_digits {digits : List Char} (all : ∀ c ∈ digits, isDigit c = true) :
    digits.flatMap escape = digits := by
  induction digits with
  | nil => rfl
  | cons c digits ih =>
      have digit := all c List.mem_cons_self
      rw [List.flatMap_cons, ih fun d member => all d (List.mem_cons_of_mem c member), escape_of_isDigit digit]
      rfl

theorem isDigit_toDigits {n : Nat} {c : Char} (member : c ∈ Nat.toDigits 10 n) : isDigit c = true := by
  have digit := Nat.isDigit_of_mem_toDigits (by decide) (by decide) member
  simpa [isDigit, Char.isDigit, Char.le_def] using digit

theorem head_toDigits_ne_zero {n : Nat} (positive : 0 < n) : (Nat.toDigits 10 n).head? ≠ some '0' := by
  induction n using Nat.strongRecOn with
  | ind n ih =>
      by_cases small : n < 10
      · rw [Nat.toDigits_of_lt_base small]
        have all : ∀ m < 10, 0 < m → [m.digitChar].head? ≠ some '0' := by decide
        exact all n small positive
      · have fewer : n / 10 < n := Nat.div_lt_self positive (by decide)
        rw [Nat.toDigits_of_base_le (by decide) (by omega), List.head?_append]
        have front := ih (n / 10) fewer (by omega)
        cases head : (Nat.toDigits 10 (n / 10)).head? with
        | none => simp [Nat.toDigits_ne_nil] at head
        | some c => simpa [head] using front

theorem toDigits_of_head_zero {n : Nat} (leading : (Nat.toDigits 10 n).head? = some '0') : Nat.toDigits 10 n = ['0'] := by
  by_cases zero : n = 0
  · rw [zero, Nat.toDigits_zero]
  · exact absurd leading (head_toDigits_ne_zero (Nat.pos_of_ne_zero zero))

theorem cast_eq_sign_mul_natAbs (n : Int) : (n : ℚ) = (if n < 0 then -1 else 1) * (n.natAbs : ℚ) := by
  rw [Nat.cast_natAbs]
  split
  next negative => rw [abs_of_neg negative, Int.cast_neg, neg_one_mul, neg_neg]
  next positive => rw [abs_of_nonneg (not_lt.mp positive), one_mul]

theorem ofDigitChars_zeros (count : Nat) (digits : List Char) :
    Nat.ofDigitChars 10 (List.replicate count '0' ++ digits) 0 = Nat.ofDigitChars 10 digits 0 := by
  induction count with
  | zero => rfl
  | succ count ih => exact ih

theorem spells_pointed {mantissa : Int} (places : Nat) {digits : List Char} (all : ∀ c ∈ digits, isDigit c = true)
    (long : places + 2 ≤ digits.length) (leading : digits.head? = some '0' → digits.length = places + 2)
    (worth : Nat.ofDigitChars 10 digits 0 = mantissa.natAbs) :
    SpellsNumber mantissa (places + 1) ((if mantissa < 0 then ['-'] else []) ++
      (digits.take (digits.length - (places + 1)) ++ '.' :: digits.drop (digits.length - (places + 1)))) := by
  generalize whole_eq : digits.length - (places + 1) = whole
  have taken : (digits.take whole).length = whole := List.length_take_of_le (by omega)
  have dropped : (digits.drop whole).length = places + 1 := by
    rw [List.length_drop]
    omega
  have some_taken : digits.take whole ≠ [] := List.ne_nil_of_length_pos (by omega)
  have some_dropped : digits.drop whole ≠ [] := List.ne_nil_of_length_pos (by omega)
  have front : (digits.take whole).head? = some '0' → digits.take whole = ['0'] := by
    intro zero
    have single : whole = 1 := by
      rw [List.head?_take, if_neg (by omega)] at zero
      have := leading zero
      omega
    obtain ⟨c, only⟩ := List.length_eq_one_iff.mp (taken.trans single)
    rw [only] at zero ⊢
    rw [Option.some.inj zero]
  have value : (mantissa : ℚ) / 10 ^ (places + 1) = (if decide (mantissa < 0) = true then -1 else 1) *
      Nat.ofDigitChars 10 (digits.take whole ++ digits.drop whole) 0 * 10 ^ ((0 : ℤ) - (digits.drop whole).length) := by
    rw [List.take_append_drop, worth, dropped, zero_sub, zpow_neg, zpow_natCast, ← div_eq_mul_inv]
    simp only [decide_eq_true_eq, ← cast_eq_sign_mul_natAbs]
  have spelled := SpellsNumber.intro some_taken (fun c member => all c (List.mem_of_mem_take member)) front
    (.present some_dropped fun c member => all c (List.mem_of_mem_drop member)) .absent value
  simpa using spelled

theorem spells_decimal (mantissa : Int) (places : Nat) : SpellsNumber mantissa places (decimal mantissa places) := by
  generalize digits_eq : Nat.toDigits 10 mantissa.natAbs = digits
  have worth : Nat.ofDigitChars 10 digits 0 = mantissa.natAbs := by rw [← digits_eq, Nat.ofDigitChars_ten_toDigits]
  have all : ∀ c ∈ digits, isDigit c = true := fun c member => isDigit_toDigits (digits_eq ▸ member)
  have leading : digits.head? = some '0' → digits = ['0'] := fun zero => by
    rw [← digits_eq] at zero ⊢
    exact toDigits_of_head_zero zero
  cases places with
  | zero =>
      have spelled : SpellsNumber mantissa 0
          ((if decide (mantissa < 0) then ['-'] else []) ++ (digits ++ ([] ++ []))) :=
        .intro (digits_eq ▸ Nat.toDigits_ne_nil) all leading .absent .absent
          (by simpa [worth] using cast_eq_sign_mul_natAbs mantissa)
      simpa [decimal, digits_eq] using spelled
  | succ places =>
      -- Zeros in front see to it that a digit stands before the point.
      have zeros : ∀ c ∈ List.replicate (places + 2 - digits.length) '0', isDigit c = true :=
        fun c member => (List.mem_replicate.mp member).2 ▸ rfl
      have pointed := spells_pointed places (List.forall_mem_append.mpr ⟨zeros, all⟩)
        (by rw [List.length_append, List.length_replicate]; omega)
        (by
          intro zero
          rw [List.length_append, List.length_replicate]
          by_cases padded : places + 2 ≤ digits.length
          · rw [Nat.sub_eq_zero_of_le padded] at zero
            have single := congrArg List.length (leading zero)
            rw [List.length_singleton] at single
            omega
          · omega)
        ((ofDigitChars_zeros _ digits).trans worth)
      simpa [decimal, digits_eq] using pointed

def spreadMember (depth : Nat) (m : String × Json) : List Char := quote m.1 ++ ':' :: ' ' :: spread depth m.2

theorem spreadItems_joined (depth : Nat) (js : List Json) :
    spreadItems depth js = joined true (js.map fun j => newLine depth ++ spread depth j) := by
  have later : ∀ j js, spreadItems depth (j :: js) =
      newLine depth ++ (spread depth j ++ joined false (js.map fun j => newLine depth ++ spread depth j)) := by
    intro j js
    induction js generalizing j with
    | nil => simp [spreadItems, joined]
    | cons k js ih => simp [spreadItems, joined, ih]
  cases js with
  | nil => simp [spreadItems, joined]
  | cons j js => simp [later, joined]

theorem spreadMembers_joined (depth : Nat) (ms : List (String × Json)) :
    spreadMembers depth ms = joined true (ms.map fun m => newLine depth ++ spreadMember depth m) := by
  have later : ∀ m ms, spreadMembers depth (m :: ms) =
      newLine depth ++ (spreadMember depth m ++ joined false (ms.map fun m => newLine depth ++ spreadMember depth m)) := by
    intro m ms
    induction ms generalizing m with
    | nil => simp [spreadMembers, spreadMember, joined]
    | cons n ms ih => simp [spreadMembers, spreadMember, joined, ih]
  cases ms with
  | nil => simp [spreadMembers, joined]
  | cons m ms => simp [later, joined]

def closing {α : Type} (depth : Nat) (parts : List α) : List Char := if parts.isEmpty then [] else newLine depth

theorem blank_closing {α : Type} (depth : Nat) (parts : List α) : Blank (closing depth parts) := by
  unfold closing
  split
  · exact blank_nil
  · exact blank_newLine depth

theorem spread_array (depth : Nat) (js : List Json) : spread depth (.array js) =
    '[' :: (joined true (js.map fun j => newLine (depth + 1) ++ spread (depth + 1) j) ++
      (closing depth js ++ [']'])) := by
  cases js with
  | nil => simp [spread, joined, closing]
  | cons j js => simp [spread, spreadItems_joined, closing]

theorem spread_object (depth : Nat) (ms : List (String × Json)) : spread depth (.object ms) =
    '\x7b' :: (joined true (ms.map fun m => newLine (depth + 1) ++ spreadMember (depth + 1) m) ++
      (closing depth ms ++ ['\x7d'])) := by
  cases ms with
  | nil => simp [spread, joined, closing]
  | cons m ms => simp [spread, spreadMembers_joined, closing]

theorem labels_newLine (depth : Nat) (name : String) : Labels name (newLine depth ++ (quote name ++ [':', ' '])) := by
  have space : Blank [' '] := by simp [Blank, Cursor.isBlank]
  have labels := Labels.intro (blank_newLine depth) (spells_flatMap_escape name.toList)
    (fun numeric => flatMap_escape_digits numeric) blank_nil space
  simpa [quote] using labels

theorem spells_spread (depth : Nat) (j : Json) : Spells j (spread depth j) := by
  match j with
  | .null =>
      rw [spread]
      exact .null
  | .bool value =>
      rw [spread]
      exact .bool value
  | .number mantissa places =>
      rw [spread]
      exact .number (spells_decimal mantissa places) fun zero => zero ▸ rfl
  | .string s =>
      rw [spread]
      exact .string (spells_flatMap_escape s.toList)
  | .array items =>
      let piece (j : Json) : Piece := ⟨newLine (depth + 1), j, spread (depth + 1) j, []⟩
      have spelled : Spells (.array ((items.map piece).map Piece.json)) _ := .array
        (List.forall_mem_map.mpr fun j member => spells_spread (depth + 1) j)
        (List.forall_mem_map.mpr fun _ _ => blank_newLine (depth + 1)) (List.forall_mem_map.mpr fun _ _ => blank_nil)
        (blank_closing depth items)
      rw [spread_array]
      simpa [piece, Function.comp_def, Piece.written] using spelled
  | .object members =>
      let piece (m : String × Json) : String × Piece :=
        (m.1, ⟨newLine (depth + 1) ++ (quote m.1 ++ [':', ' ']), m.2, spread (depth + 1) m.2, []⟩)
      have spelled : Spells (.object ((members.map piece).map fun m => (m.1, m.2.json))) _ := .object
        (List.forall_mem_map.mpr fun m member => spells_spread (depth + 1) m.2)
        (List.forall_mem_map.mpr fun m _ => labels_newLine (depth + 1) m.1)
        (List.forall_mem_map.mpr fun _ _ => blank_nil) (blank_closing depth members)
      rw [spread_object]
      simpa [piece, Function.comp_def, Piece.written, spreadMember] using spelled
termination_by j
decreasing_by
  · have := List.sizeOf_lt_of_mem member
    simp only [Json.array.sizeOf_spec]
    omega
  · have := List.sizeOf_lt_of_mem member
    obtain ⟨name, value⟩ := m
    simp only [Json.object.sizeOf_spec, Prod.mk.sizeOf_spec] at this ⊢
    omega

def IsDocument (j : Json) (text : String) : Prop :=
  ∃ before cs after, Blank before ∧ Spells j cs ∧ Blank after ∧ text.toList = before ++ (cs ++ after)

theorem isDocument_spreadText (j : Json) : IsDocument j j.spreadText :=
  ⟨[], j.spread 0, [], blank_nil, spells_spread 0 j, blank_nil, by simp [spreadText]⟩

end GattPeripheral.Json
