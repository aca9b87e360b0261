import GattPeripheral.Identifier
import GattPeripheral.Proofs.Text.Numeral
import Mathlib.Data.String.Basic

/-!
# The forms of an identifier

Reading looks at the digits of a text alone, so it undoes every way of writing an identifier. The alias of an identifier
is the number that it is made from, if there is one, and identifiers are ordered as their digits are, however wide they
were written. Main statement: `Identifier.forms_agree`.
-/

namespace GattPeripheral.Identifier

variable {u v : Identifier}

theorem beq_iff_bits : (u == v) = true ↔ u.bits = v.bits := @beq_iff_eq _ _ _ u.bits v.bits

instance : EquivBEq Identifier where
  rfl := beq_iff_bits.mpr rfl
  symm same := beq_iff_bits.mpr (beq_iff_bits.mp same).symm
  trans same next := beq_iff_bits.mpr ((beq_iff_bits.mp same).trans (beq_iff_bits.mp next))

/-! ## Reading -/

def lowerDigits (s : String) : List Char := (s.toList.filter Text.isHexDigit).map Char.toLower

theorem digits_eq (s : String) : digits s = (lowerDigits s).filterMap Text.hexValue? := by
  rw [lowerDigits, List.filterMap_map, List.filterMap_filter, digits]
  refine congrArg (List.filterMap · s.toList) (funext fun c => ?_)
  rw [Function.comp_apply, Text.hexValue?_toLower, ← Text.isSome_hexValue?]
  cases Text.hexValue? c <;> rfl

theorem length_digits (s : String) : (digits s).length = s.toList.countP Text.isHexDigit := by
  rw [digits, List.length_filterMap_eq_countP]
  exact congrArg (List.countP · s.toList) (funext Text.isSome_hexValue?)

theorem parse_isOk_iff {s : String} :
    (∃ u, parse s = .ok u) ↔ s.toList.countP Text.isHexDigit ∈ [4, 8, 32] := by
  rw [parse, ← length_digits]
  constructor
  · rintro ⟨u, read⟩
    split at read
    next four => simp [four]
    next eight => simp [eight]
    next all => simp [all]
    next => cases read
  · intro count
    simp only [List.mem_cons, List.not_mem_nil, or_false] at count
    rcases count with four | eight | all
    · exact ⟨_, by rw [four]; rfl⟩
    · exact ⟨_, by rw [eight]; rfl⟩
    · exact ⟨_, by rw [all]; rfl⟩

theorem parse_congr {s t : String} (same : digits s = digits t) : (parse s).toOption = (parse t).toOption := by
  rw [parse, parse, same]
  split <;> rfl

/-! ## Writing -/

theorem number_places (width n : Nat) : number (Text.places width n) = n % 16 ^ width := by
  rw [number, Text.foldl_eq_ofDigits, Text.ofDigits_places]

theorem parse_of_short {s : String} {n : UInt16} (written : digits s = Text.places 4 n.toNat) :
    parse s = .ok (ofShort n) := by
  have value : number (digits s) = n.toNat := by
    rw [written, number_places]
    exact Nat.mod_eq_of_lt n.toNat_lt
  rw [parse, value, written, Text.length_places, UInt16.ofNat_toNat]
  rfl

theorem parse_of_medium {s : String} {n : UInt32} (written : digits s = Text.places 8 n.toNat) :
    parse s = .ok (ofMedium n) := by
  have value : number (digits s) = n.toNat := by
    rw [written, number_places]
    exact Nat.mod_eq_of_lt n.toNat_lt
  rw [parse, value, written, Text.length_places, UInt32.ofNat_toNat]
  rfl

theorem parse_of_full {s : String} {bits : BitVec 128} (written : digits s = Text.places 32 bits.toNat) :
    parse s = .ok (ofBits bits) := by
  have value : number (digits s) = bits.toNat := by
    rw [written, number_places]
    exact Nat.mod_eq_of_lt bits.isLt
  rw [parse, value, written, Text.length_places, BitVec.ofNat_toNat, BitVec.setWidth_eq]
  rfl

theorem digits_ofList (cs : List Char) : digits (String.ofList cs) = cs.filterMap Text.hexValue? := by
  rw [digits, String.toList_ofList]

/-- The digits of a text, whatever stands between them, are those of an alias or all digits of the identifier. -/
inductive Spelled (s : String) : Identifier → Prop where
  | short (n : UInt16) (digits : lowerDigits s = Text.fixedHex 4 n.toNat) :
      Spelled s ⟨BitVec.ofNat 128 (n.toNat * 2 ^ 96 + 0x1000800000805f9b34fb), .short⟩
  | medium (n : UInt32) (digits : lowerDigits s = Text.fixedHex 8 n.toNat) :
      Spelled s ⟨BitVec.ofNat 128 (n.toNat * 2 ^ 96 + 0x1000800000805f9b34fb), .medium⟩
  | full (bits : BitVec 128) (digits : lowerDigits s = Text.fixedHex 32 bits.toNat) : Spelled s ⟨bits, .full⟩

theorem Spelled.parse {s : String} {u : Identifier} (spelled : Spelled s u) : parse s = .ok u := by
  cases spelled with
  | short n written =>
      refine parse_of_short ?_
      rw [digits_eq, written, Text.filterMap_fixedHex]
  | medium n written =>
      refine parse_of_medium ?_
      rw [digits_eq, written, Text.filterMap_fixedHex]
  | full bits written =>
      refine parse_of_full ?_
      rw [digits_eq, written, Text.filterMap_fixedHex]

theorem exists_spelled {s : String} (count : s.toList.countP Text.isHexDigit ∈ [4, 8, 32]) : ∃ u, Spelled s u := by
  obtain ⟨n, small, written⟩ := Text.exists_fixedHex fun c member => (List.mem_filter.mp member).2
  rw [← List.countP_eq_length_filter] at small written
  simp only [List.mem_cons, List.not_mem_nil, or_false] at count
  rcases count with four | eight | all
  · rw [four] at small written
    refine ⟨_, .short (UInt16.ofNat n) ?_⟩
    rwa [UInt16.toNat_ofNat_of_lt' small]
  · rw [eight] at small written
    refine ⟨_, .medium (UInt32.ofNat n) ?_⟩
    rwa [UInt32.toNat_ofNat_of_lt' small]
  · rw [all] at small written
    refine ⟨_, .full (BitVec.ofNat 128 n) ?_⟩
    rwa [BitVec.toNat_ofNat, Nat.mod_eq_of_lt (show n < 2 ^ 128 from small)]

theorem parse_eq_ok_iff {s : String} {u : Identifier} : parse s = .ok u ↔ Spelled s u := by
  refine ⟨fun read => ?_, Spelled.parse⟩
  obtain ⟨v, spelled⟩ := exists_spelled (parse_isOk_iff.mp ⟨u, read⟩)
  exact Except.ok.inj (spelled.parse.symm.trans read) ▸ spelled

theorem digits_wire (u : Identifier) : digits u.wire = Text.places 32 u.bits.toNat := by
  rw [wire, digits_ofList, wireDigits, Text.filterMap_fixedHex]

theorem digits_dashed (u : Identifier) : digits u.dashed = Text.places 32 u.bits.toNat := by
  let ds := u.wireDigits
  have dash : Text.hexValue? '-' = none := by decide
  have group (start more : Nat) : (ds.drop start).take more ++ ds.drop (start + more) = ds.drop start := by
    rw [← List.drop_drop, List.take_append_drop]
  rw [dashed, digits_ofList]
  calc _ = (ds.take 8 ++ ((ds.drop 8).take 4 ++ ((ds.drop 12).take 4 ++ ((ds.drop 16).take 4 ++
          ds.drop 20)))).filterMap Text.hexValue? := by
        simp only [List.filterMap_append, List.filterMap_cons_none dash, ds]
    _ = ds.filterMap Text.hexValue? := by rw [group 16 4, group 12 4, group 8 4, List.take_append_drop]
    _ = _ := Text.filterMap_fixedHex 32 _

/-! ## Aliases -/

theorem toNat_alias {n : Nat} (small : n < 2 ^ 32) :
    (BitVec.ofNat 128 (n * aliasShift + base)).toNat = n * aliasShift + base := by
  rw [BitVec.toNat_ofNat]
  exact Nat.mod_eq_of_lt (by unfold aliasShift base; omega)

theorem medium?_eq_some_iff {n : Nat} :
    u.medium? = some n ↔ n < 2 ^ 32 ∧ u.bits = BitVec.ofNat 128 (n * aliasShift + base) := by
  have bound := u.bits.isLt
  rw [medium?, isBaseDerived, ← BitVec.toNat_inj]
  constructor
  · intro found
    split at found
    next derived =>
      have whole := Nat.div_add_mod u.bits.toNat aliasShift
      rw [beq_iff_eq.mp derived] at whole
      obtain rfl := Option.some.inj found
      have small : u.bits.toNat / aliasShift < 2 ^ 32 := by unfold aliasShift; omega
      rw [toNat_alias small, Nat.mul_comm]
      exact ⟨small, whole.symm⟩
    next => cases found
  · rintro ⟨small, same⟩
    have derived : (n * aliasShift + base) % aliasShift = base := by
      rw [Nat.mul_comm, Nat.mul_add_mod]
      rfl
    rw [same, toNat_alias small, derived, if_pos (beq_self_eq_true base), Nat.add_comm,
      Nat.add_mul_div_right _ _ (by decide), Nat.div_eq_of_lt (show base < aliasShift by decide), Nat.zero_add]

theorem medium?_eq_iff {n : Nat} : u.medium? = some n ↔ ∃ x : UInt32, x.toNat = n ∧ (u == ofMedium x) = true := by
  rw [medium?_eq_some_iff]
  constructor
  · rintro ⟨small, same⟩
    refine ⟨UInt32.ofNat n, UInt32.toNat_ofNat_of_lt' small, beq_iff_bits.mpr ?_⟩
    rw [ofMedium, UInt32.toNat_ofNat_of_lt' small, same]
  · rintro ⟨x, rfl, same⟩
    have bits := beq_iff_bits.mp same
    rw [ofMedium] at bits
    exact ⟨x.toNat_lt, bits⟩

theorem short?_eq_iff {n : Nat} : u.short? = some n ↔ ∃ x : UInt16, x.toNat = n ∧ (u == ofShort x) = true := by
  rw [short?, Option.filter_eq_some_iff, medium?_eq_some_iff, decide_eq_true_eq]
  constructor
  · rintro ⟨⟨-, same⟩, small⟩
    refine ⟨UInt16.ofNat n, UInt16.toNat_ofNat_of_lt' small, beq_iff_bits.mpr ?_⟩
    rw [ofShort, UInt16.toNat_ofNat_of_lt' small, same]
  · rintro ⟨x, rfl, same⟩
    have bits := beq_iff_bits.mp same
    rw [ofShort] at bits
    exact ⟨⟨Nat.lt_trans x.toNat_lt (by decide), bits⟩, x.toNat_lt⟩

/-! ## Order -/

theorem wire_eq_iff : u.wire = v.wire ↔ u.bits = v.bits := by
  have digits := (Text.fixedHex_lt_iff 32 u.bits.isLt v.bits.isLt).2
  rw [wire, wire, String.ofList_inj, wireDigits, wireDigits, ← BitVec.toNat_inj]
  exact digits

theorem wire_lt_iff : u.wire < v.wire ↔ u.bits.toNat < v.bits.toNat := by
  have digits := (Text.fixedHex_lt_iff 32 u.bits.isLt v.bits.isLt).1
  rw [String.lt_iff_toList_lt, wire, wire, String.toList_ofList, String.toList_ofList]
  exact digits

theorem compare_eq (u v : Identifier) : compare u v = compare u.wire v.wire := by
  rcases Nat.lt_trichotomy u.bits.toNat v.bits.toNat with less | same | more
  · have numbers : compare u v = .lt := Nat.compare_eq_lt.mpr less
    have texts : compare u.wire v.wire = .lt := Std.LawfulLTCmp.eq_lt_iff_lt.mpr (wire_lt_iff.mpr less)
    rw [numbers, texts]
  · have numbers : compare u v = .eq := Nat.compare_eq_eq.mpr same
    rw [numbers, Std.compare_eq_iff_eq.mpr (wire_eq_iff.mpr (BitVec.eq_of_toNat_eq same))]
  · have numbers : compare u v = .gt := Nat.compare_eq_gt.mpr more
    have texts : compare u.wire v.wire = .gt := Std.LawfulLTCmp.eq_gt_iff_gt.mpr (wire_lt_iff.mpr more)
    rw [numbers, texts]

/-- A text is read exactly if it has 4, 8 or 32 digits, whatever stands between them and whichever their case; a
number is read back from its digits, and an identifier from both of its forms. An alias is the number that the
identifier is made from, and identifiers are the same and ordered as their forms on the wire are, whatever their
widths. -/
theorem forms_agree :
    (∀ s, (∃ u, parse s = .ok u) ↔ s.toList.countP Text.isHexDigit ∈ [4, 8, 32]) ∧
      (∀ s t, lowerDigits s = lowerDigits t → (parse s).toOption = (parse t).toOption) ∧
      (∀ n : UInt16, parse (String.ofList (Text.fixedHex 4 n.toNat)) = .ok (ofShort n)) ∧
      (∀ n : UInt32, parse (String.ofList (Text.fixedHex 8 n.toNat)) = .ok (ofMedium n)) ∧
      (∀ u : Identifier, (∃ v, parse u.dashed = .ok v ∧ (v == u) = true) ∧
        ∃ v, parse u.wire = .ok v ∧ (v == u) = true) ∧
      (∀ (u : Identifier) (n : Nat), (u.short? = some n ↔ ∃ x : UInt16, x.toNat = n ∧ (u == ofShort x) = true) ∧
        (u.medium? = some n ↔ ∃ x : UInt32, x.toNat = n ∧ (u == ofMedium x) = true)) ∧
      (∀ (u v : Identifier) (w w' : Width), let x := { u with width := w }; let y := { v with width := w' }
        ((x == y) = true ↔ u.wire = v.wire) ∧ compare x y = compare u.wire v.wire) := by
  refine ⟨fun _ => parse_isOk_iff, fun s t same => parse_congr ?_, fun n => parse_of_short ?_,
    fun n => parse_of_medium ?_, fun u => ?_, fun u n => ⟨short?_eq_iff, medium?_eq_iff⟩, fun u v w w' => ⟨?_, ?_⟩⟩
  · rw [digits_eq, digits_eq, same]
  · rw [digits_ofList, Text.filterMap_fixedHex]
  · rw [digits_ofList, Text.filterMap_fixedHex]
  · exact ⟨⟨_, parse_of_full u.digits_dashed, beq_iff_bits.mpr rfl⟩,
      _, parse_of_full u.digits_wire, beq_iff_bits.mpr rfl⟩
  · rw [wire_eq_iff]
    exact beq_iff_bits
  · exact compare_eq { u with width := w } { v with width := w' }

theorem forms_agree_marked : lowerDigits "18-0F" = lowerDigits "<180f>" ∧
    (parse "18-0F").toOption = (parse "<180f>").toOption ∧ ∃ u, parse "18-0F" = .ok u := by
  have same : lowerDigits "18-0F" = lowerDigits "<180f>" := by decide +kernel
  exact ⟨same, forms_agree.2.1 _ _ same, (forms_agree.1 _).mpr (by decide +kernel)⟩

end GattPeripheral.Identifier
