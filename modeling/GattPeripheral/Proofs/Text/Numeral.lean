import GattPeripheral.Proofs.Text.Hex
import GattPeripheral.Text.Numeral
import Mathlib.Data.Nat.Digits.Defs

/-!
# Numerals

A numeral is read exactly if it consists of digits of the base, behind one plus sign or none, and its value stays
below the limit (`readDecimal_ok_iff`, `readHex_ok_iff`). The check of the limit at each digit loses no numeral, because
the value only grows with the digits.
-/

namespace GattPeripheral.Text

/-- Digits of the base with the value `n`, high digits first, behind one plus sign or none. -/
def IsNumeral (base : Nat) (cs : List Char) (n : Nat) : Prop :=
  ∃ (digits : List Char) (values : List Nat), (cs = digits ∨ cs = '+' :: digits) ∧ digits ≠ [] ∧
    digits.map hexValue? = values.map some ∧ (∀ v ∈ values, v < base) ∧ n = Nat.ofDigits base values.reverse

theorem foldl_eq_ofDigits (base : Nat) (values : List Nat) :
    values.foldl (fun n v => base * n + v) 0 = Nat.ofDigits base values.reverse := by
  rw [Nat.ofDigits_eq_foldr, List.foldr_reverse]
  simp only [Nat.cast_id, Nat.add_comm]

theorem le_foldl {base : Nat} (positive : 0 < base) (values : List Nat) (n : Nat) :
    n ≤ values.foldl (fun n v => base * n + v) n := by
  induction values generalizing n with
  | nil => exact Nat.le_refl n
  | cons v values ih =>
      calc n
        _ ≤ base * n + v := Nat.le_add_right_of_le (Nat.le_mul_of_pos_left n positive)
        _ ≤ _ := ih (base * n + v)

theorem decimalValue?_eq_some_iff {c : Char} {v : Nat} :
    decimalValue? c = some v ↔ hexValue? c = some v ∧ v < 10 := by
  have bound {d e : Char} (le : d ≤ e) : d.toNat ≤ e.toNat := UInt32.le_iff_toNat_le.mp (Char.le_def.mp le)
  unfold decimalValue? hexValue?
  split
  next digit =>
    have below : c.toNat ≤ 57 := bound digit.2
    simp only [Option.some.injEq]
    omega
  next =>
    split
    next lower =>
      have above : 97 ≤ c.toNat := bound lower.1
      simp only [Option.some.injEq, reduceCtorEq, false_iff]
      omega
    next =>
      split
      next upper =>
        have above : 65 ≤ c.toNat := bound upper.1
        simp only [Option.some.injEq, reduceCtorEq, false_iff]
        omega
      next => simp

variable {value? : Char → Option Nat} {base limit : Nat}

theorem readDigits_ok_iff (positive : 0 < base) {cs : List Char} {n m : Nat} (fits : n < limit) :
    readDigits value? base limit n cs = .ok m ↔ ∃ values : List Nat, cs.map value? = values.map some ∧
      m = values.foldl (fun n v => base * n + v) n ∧ m < limit := by
  induction cs generalizing n with
  | nil =>
      constructor
      · intro read
        cases read
        exact ⟨[], rfl, rfl, fits⟩
      · rintro ⟨values, same, rfl, -⟩
        obtain rfl := List.map_eq_nil_iff.mp same.symm
        rfl
  | cons c cs ih =>
      rw [readDigits, List.map_cons]
      cases digit : value? c with
      | none =>
          refine iff_of_false nofun ?_
          rintro ⟨values, same, -⟩
          cases values <;> cases same
      | some v =>
          by_cases small : base * n + v < limit
          · simp only [if_pos small, ih small]
            constructor
            · rintro ⟨values, same, result⟩
              exact ⟨v :: values, by rw [same, List.map_cons], result⟩
            · rintro ⟨values, same, result⟩
              cases values with
              | nil => cases same
              | cons w values =>
                  obtain ⟨rfl, later⟩ : v = w ∧ cs.map value? = values.map some := by simpa using same
                  exact ⟨values, later, result⟩
          · simp only [if_neg small]
            refine iff_of_false nofun ?_
            rintro ⟨values, same, rfl, below⟩
            cases values with
            | nil => cases same
            | cons w values =>
                obtain ⟨rfl, -⟩ : v = w ∧ cs.map value? = values.map some := by simpa using same
                exact small (Nat.lt_of_le_of_lt (le_foldl positive values _) below)

section Readers
variable (digit : ∀ {c v}, value? c = some v ↔ hexValue? c = some v ∧ v < base) (positive : 0 < base) (room : 0 < limit)
include digit

theorem map_digits_iff {cs : List Char} {values : List Nat} :
    cs.map value? = values.map some ↔ cs.map hexValue? = values.map some ∧ ∀ v ∈ values, v < base := by
  induction cs generalizing values with
  | nil =>
      cases values with
      | nil => simp
      | cons v values => simp
  | cons c cs ih =>
      cases values with
      | nil => simp
      | cons v values =>
          simp only [List.map_cons, List.cons.injEq, digit, ih, List.forall_mem_cons]
          exact ⟨fun ⟨⟨h, i⟩, j, k⟩ => ⟨⟨h, j⟩, i, k⟩, fun ⟨⟨h, j⟩, i, k⟩ => ⟨⟨h, i⟩, j, k⟩⟩

include positive room

theorem readDigits_zero_ok_iff {cs : List Char} {n : Nat} :
    readDigits value? base limit 0 cs = .ok n ↔ (∃ values : List Nat, cs.map hexValue? = values.map some ∧
      (∀ v ∈ values, v < base) ∧ n = Nat.ofDigits base values.reverse) ∧ n < limit := by
  simp only [readDigits_ok_iff positive room, map_digits_iff digit, foldl_eq_ofDigits]
  exact ⟨fun ⟨values, ⟨same, small⟩, value, below⟩ => ⟨⟨values, same, small, value⟩, below⟩,
    fun ⟨⟨values, same, small, value⟩, below⟩ => ⟨values, ⟨same, small⟩, value, below⟩⟩

theorem readNumeral_ok_iff {cs : List Char} {n : Nat} :
    readNumeral value? base limit cs = .ok n ↔ IsNumeral base cs n ∧ n < limit := by
  have plus (digits : List Char) (values : List Nat) : ('+' :: digits).map hexValue? ≠ values.map some := by
    intro same
    cases values <;> cases same
  have read {cs : List Char} : readDigits value? base limit 0 cs = .ok n ↔ _ :=
    readDigits_zero_ok_iff digit positive room
  unfold readNumeral
  split
  next =>
    refine iff_of_false nofun ?_
    rintro ⟨⟨digits, values, rfl | more, some, -⟩, -⟩
    · exact some rfl
    · cases more
  next =>
    refine iff_of_false nofun ?_
    rintro ⟨⟨digits, values, rfl | more, some, same, -⟩, -⟩
    · exact plus [] values same
    · cases more
      exact some rfl
  next digits some =>
    rw [read]
    refine and_congr_left fun _ => ⟨?_, ?_⟩
    · rintro ⟨values, digits⟩
      exact ⟨_, values, .inr rfl, fun none => some (none ▸ rfl), digits⟩
    · rintro ⟨_, values, rfl | more, -, same, rest⟩
      · exact absurd same (plus digits values)
      · cases more
        exact ⟨values, same, rest⟩
  next _ some _ signed =>
    rw [read]
    refine and_congr_left fun _ => ⟨?_, ?_⟩
    · rintro ⟨values, result⟩
      exact ⟨cs, values, .inl rfl, some, result⟩
    · rintro ⟨_, values, rfl | more, -, result⟩
      · exact ⟨values, result⟩
      · exact absurd more (signed _)

end Readers

theorem readDecimal_ok_iff (room : 0 < limit) {s : String} {n : Nat} :
    readDecimal limit s = .ok n ↔ IsNumeral 10 s.toList n ∧ n < limit :=
  readNumeral_ok_iff decimalValue?_eq_some_iff (by decide) room

theorem readHex_ok_iff (room : 0 < limit) {cs : List Char} {n : Nat} :
    readHex limit cs = .ok n ↔ IsNumeral 16 cs n ∧ n < limit :=
  readNumeral_ok_iff ⟨fun value => ⟨value, (hexValue?_eq_some_iff.mp value).1⟩, And.left⟩ (by decide) room

theorem IsNumeral.ne_nil {cs : List Char} {n : Nat} (numeral : IsNumeral base cs n) : cs ≠ [] := by
  obtain ⟨digits, -, rfl | rfl, some, -⟩ := numeral
  · exact some
  · exact List.cons_ne_nil _ _

theorem IsNumeral.digits {cs : List Char} {n : Nat} (numeral : IsNumeral base cs n) :
    ∀ c ∈ cs, c = '+' ∨ (hexValue? c).isSome = true := by
  obtain ⟨digits, values, spelled, -, same, -⟩ := numeral
  have all : ∀ c ∈ digits, (hexValue? c).isSome = true := by
    intro c member
    have value : hexValue? c ∈ values.map some := same ▸ List.mem_map_of_mem member
    obtain ⟨v, -, found⟩ := List.mem_map.mp value
    rw [← found]
    rfl
  rcases spelled with rfl | rfl
  · exact fun c member => .inr (all c member)
  · exact List.forall_mem_cons.mpr ⟨.inl rfl, fun c member => .inr (all c member)⟩

/-! ## A fixed number of digits -/

def isLowerDigit (c : Char) : Bool := ('0' ≤ c && c ≤ '9') || ('a' ≤ c && c ≤ 'f')

theorem isLowerDigit_iff {c : Char} : isLowerDigit c = true ↔ ∃ d < 16, c = hexDigit d := by
  constructor
  · intro lower
    have digit : isHexDigit c = true := by
      simp only [isLowerDigit, isHexDigit, Bool.or_eq_true] at lower ⊢
      exact .inl lower
    obtain ⟨d, small, same⟩ := exists_digit digit
    have ascii : c.toNat < 128 := by
      by_contra far
      have value := hexValue?_eq_some_iff.mpr ⟨small, same⟩
      rw [hexValue?_of_not_ascii far] at value
      cases value
    have kept : ∀ n < 128, isLowerDigit (Char.ofNat n) = true → (Char.ofNat n).toLower = Char.ofNat n := by
      decide +kernel
    have here := kept c.toNat ascii
    rw [Char.ofNat_toNat] at here
    exact ⟨d, small, (here lower).symm.trans same⟩
  · rintro ⟨d, small, rfl⟩
    have all : ∀ d < 16, isLowerDigit (hexDigit d) = true := by decide
    exact all d small

theorem fixedHex_eq_map (width n : Nat) : fixedHex width n = (places width n).map hexDigit := by
  induction width generalizing n with
  | zero => rfl
  | succ width ih => rw [fixedHex, ih, places, List.map_append, List.map_singleton]

theorem places_small (width n : Nat) : ∀ v ∈ places width n, v < 16 := by
  induction width generalizing n with
  | zero => exact fun v member => by cases member
  | succ width ih =>
      intro v member
      rw [places, List.mem_append, List.mem_singleton] at member
      rcases member with earlier | rfl
      · exact ih _ v earlier
      · exact Nat.mod_lt n (by decide)

theorem ofDigits_places (width n : Nat) : Nat.ofDigits 16 (places width n).reverse = n % 16 ^ width := by
  induction width generalizing n with
  | zero => rw [Nat.pow_zero, Nat.mod_one]; rfl
  | succ width ih =>
      rw [places, List.reverse_append, List.reverse_singleton, List.singleton_append, Nat.ofDigits_cons, ih,
        Nat.pow_succ', Nat.mod_mul]

theorem map_hexValue?_map_hexDigit {vs : List Nat} (small : ∀ v ∈ vs, v < 16) :
    (vs.map hexDigit).map hexValue? = vs.map some := by
  rw [List.map_map]
  exact List.map_congr_left fun v member => hexValue?_hexDigit (small v member)

theorem exists_map_hexDigit {cs : List Char} (lower : ∀ c ∈ cs, isLowerDigit c = true) :
    ∃ vs : List Nat, (∀ v ∈ vs, v < 16) ∧ cs = vs.map hexDigit := by
  induction cs with
  | nil => exact ⟨[], nofun, rfl⟩
  | cons c cs ih =>
      rw [List.forall_mem_cons] at lower
      obtain ⟨v, small, rfl⟩ := isLowerDigit_iff.mp lower.1
      obtain ⟨vs, all, rfl⟩ := ih lower.2
      exact ⟨v :: vs, List.forall_mem_cons.mpr ⟨small, all⟩, rfl⟩

theorem eq_fixedHex_iff {width n : Nat} (positive : 0 < width) (small : n < 16 ^ width) {cs : List Char} :
    cs = fixedHex width n ↔ cs.length = width ∧ IsNumeral 16 cs n ∧ ∀ c ∈ cs, isLowerDigit c = true := by
  have own := places_small width n
  have value := (ofDigits_places width n).trans (Nat.mod_eq_of_lt small)
  constructor
  · rintro rfl
    have count := length_fixedHex width n
    refine ⟨count, ⟨_, places width n, .inl rfl, ?_, ?_, own, value.symm⟩, ?_⟩
    · exact List.ne_nil_of_length_pos (by omega)
    · rw [fixedHex_eq_map, map_hexValue?_map_hexDigit own]
    · rw [fixedHex_eq_map, List.forall_mem_map]
      exact fun v member => isLowerDigit_iff.mpr ⟨v, own v member, rfl⟩
  · rintro ⟨count, ⟨digits, vs, rfl | rfl, -, same, -, value'⟩, lower⟩
    · obtain ⟨ws, bound, rfl⟩ := exists_map_hexDigit lower
      rw [map_hexValue?_map_hexDigit bound] at same
      obtain rfl : ws = vs := (List.map_inj_right fun _ _ => Option.some.inj).mp same
      rw [List.length_map] at count
      have reversed : ws.reverse = (places width n).reverse := by
        refine Nat.ofDigits_inj_of_len_eq (by decide : 1 < 16) ?_ ?_ ?_ (value'.symm.trans value.symm)
        · rw [List.length_reverse, List.length_reverse, length_places, count]
        · exact fun v member => bound v (List.mem_reverse.mp member)
        · exact fun v member => own v (List.mem_reverse.mp member)
      rw [fixedHex_eq_map, List.reverse_inj.mp reversed]
    · have plus := lower '+' List.mem_cons_self
      cases plus

end GattPeripheral.Text
