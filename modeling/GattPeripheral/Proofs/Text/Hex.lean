import GattPeripheral.Proofs.Except
import GattPeripheral.Text.Hex
import Mathlib.Algebra.Group.Nat.Defs
import Mathlib.Data.List.Induction

/-!
# Hexadecimal digits

Digits of both cases have the same value. A text is read as octets exactly if it is, up to case, what writing the
octets gives (`decodeHex_ok_iff`), for which it takes an even number of digits and nothing else (`decodable_iff`).
With a fixed number of digits, the order of the texts is that of the numbers (`fixedHex_lt_iff`).
-/

namespace GattPeripheral.Text

/-! ## One digit -/

def isHexDigit (c : Char) : Bool := ('0' ≤ c && c ≤ '9') || ('a' ≤ c && c ≤ 'f') || ('A' ≤ c && c ≤ 'F')

theorem toNat_ofNat {n : Nat} (small : n < 256) : (Char.ofNat n).toNat = n := by
  rw [Char.ofNat, dif_pos (Or.inl (by omega))]
  rfl

theorem hexValue?_of_not_ascii {c : Char} (far : ¬ c.toNat < 128) : hexValue? c = none := by
  have above {d : Char} (near : d.toNat < 128) : ¬ c ≤ d := fun below =>
    far (Nat.lt_of_le_of_lt (UInt32.le_iff_toNat_le.mp (Char.le_def.mp below)) near)
  unfold hexValue?
  rw [if_neg (fun between => above (by decide) between.2), if_neg (fun between => above (by decide) between.2),
    if_neg (fun between => above (by decide) between.2)]

theorem toLower_of_not_ascii {c : Char} (far : ¬ c.toNat < 128) : c.toLower = c := by
  have upper : ¬ (c.val ≥ 'A'.val ∧ c.val ≤ 'Z'.val) := fun between =>
    far (Nat.lt_of_le_of_lt (UInt32.le_iff_toNat_le.mp between.2) (by decide))
  exact dif_neg upper

theorem isSome_hexValue? (c : Char) : (hexValue? c).isSome = isHexDigit c := by
  simp only [hexValue?, isHexDigit]
  split
  next digit => simp [digit]
  next none =>
    split
    next lower => simp [lower]
    next => split <;> simp_all

theorem hexValue?_ascii {c : Char} (ascii : c.toNat < 128) :
    hexValue? c.toLower = hexValue? c ∧ ∀ d ∈ hexValue? c, d < 16 ∧ c.toLower = hexDigit d := by
  have all : ∀ n < 128, hexValue? (Char.ofNat n).toLower = hexValue? (Char.ofNat n) ∧
      ∀ d ∈ hexValue? (Char.ofNat n), d < 16 ∧ (Char.ofNat n).toLower = hexDigit d := by decide +kernel
  exact Char.ofNat_toNat c ▸ all c.toNat ascii

theorem hexValue?_toLower (c : Char) : hexValue? c.toLower = hexValue? c := by
  by_cases ascii : c.toNat < 128
  · exact (hexValue?_ascii ascii).1
  · rw [toLower_of_not_ascii ascii]

theorem hexValue?_hexDigit {d : Nat} (small : d < 16) : hexValue? (hexDigit d) = some d := by
  have all : ∀ d < 16, hexValue? (hexDigit d) = some d := by decide
  exact all d small

theorem hexValue?_eq_some_iff {c : Char} {d : Nat} : hexValue? c = some d ↔ d < 16 ∧ c.toLower = hexDigit d := by
  constructor
  · intro value
    have ascii : c.toNat < 128 := by
      by_contra far
      rw [hexValue?_of_not_ascii far] at value
      cases value
    exact (hexValue?_ascii ascii).2 d value
  · rintro ⟨small, same⟩
    rw [← hexValue?_toLower, same, hexValue?_hexDigit small]

/-! ## Octets -/

theorem toList_loop (bytes : ByteArray) (i : Nat) (front : List UInt8) :
    ByteArray.toList.loop bytes i front = front.reverse ++ bytes.data.toList.drop i := by
  fun_induction ByteArray.toList.loop bytes i front with
  | case1 i front inside ih =>
      have bound : i < bytes.data.toList.length := inside
      have here : bytes.get! i = bytes.data.toList[i] := by
        rw [Array.getElem_toList]
        exact getElem!_pos bytes.data i bound
      rw [ih, List.drop_eq_getElem_cons bound, here, List.reverse_cons, List.append_assoc, List.singleton_append]
  | case2 i front outside =>
      have beyond : bytes.data.toList.length ≤ i := Nat.not_lt.mp outside
      rw [List.drop_eq_nil_of_le beyond, List.append_nil]

theorem octets_ofList (cs : List Char) : (String.ofList cs).toUTF8.toList = cs.flatMap String.utf8EncodeChar := by
  rw [ByteArray.toList, toList_loop, String.toUTF8, String.toByteArray_ofList, List.utf8Encode,
    List.toList_data_toByteArray]
  rfl

def lowered (octet : UInt8) : Char := (Char.ofNat octet.toNat).toLower

theorem hexOctet_ok_iff {octet : UInt8} {index d : Nat} :
    hexOctet octet index = .ok d ↔ d < 16 ∧ lowered octet = hexDigit d := by
  rw [lowered, ← hexValue?_eq_some_iff, hexOctet]
  cases hexValue? (Char.ofNat octet.toNat) <;> simp

theorem hexDigit_inj {d e : Nat} (small : d < 16) (small' : e < 16) (same : hexDigit d = hexDigit e) : d = e := by
  have value := hexValue?_hexDigit small
  rw [same, hexValue?_hexDigit small'] at value
  exact (Option.some.inj value).symm

theorem byteDigits_ofNat {high low : Nat} (small : high < 16) (small' : low < 16) :
    byteDigits (UInt8.ofNat (16 * high + low)) = [hexDigit high, hexDigit low] := by
  have value : (UInt8.ofNat (16 * high + low)).toNat = 16 * high + low := by
    rw [UInt8.toNat_ofNat']
    omega
  rw [byteDigits, value, show (16 * high + low) / 16 = high by omega, show (16 * high + low) % 16 = low by omega]

theorem ofNat_halves (b : UInt8) : UInt8.ofNat (16 * (b.toNat / 16) + b.toNat % 16) = b := by
  rw [Nat.div_add_mod, UInt8.ofNat_toNat]

theorem decodePairs_ok_iff {octets bytes : Bytes} (even : octets.length % 2 = 0) (index : Nat) :
    decodePairs index octets = .ok bytes ↔ octets.map lowered = bytes.flatMap byteDigits := by
  fun_induction decodePairs index octets generalizing bytes with
  | case1 index high low rest ih =>
      have even : rest.length % 2 = 0 := by
        simp only [List.length_cons] at even
        omega
      simp only [bind_eq_ok_iff, hexOctet_ok_iff, ih even]
      constructor
      · rintro ⟨h, ⟨small, first⟩, l, ⟨small', second⟩, tail, later, result⟩
        obtain rfl : _ = bytes := Except.ok.inj result
        rw [List.map_cons, List.map_cons, first, second, later, List.flatMap_cons, byteDigits_ofNat small small']
        rfl
      · intro digits
        cases bytes with
        | nil => cases digits
        | cons b tail =>
            rw [List.map_cons, List.map_cons, List.flatMap_cons, byteDigits, List.cons_append, List.cons_append,
              List.nil_append, List.cons.injEq, List.cons.injEq] at digits
            obtain ⟨first, second, later⟩ := digits
            have bound := b.toNat_lt
            refine ⟨b.toNat / 16, ⟨by omega, first⟩, b.toNat % 16, ⟨by omega, second⟩, tail, later, ?_⟩
            rw [ofNat_halves]
            rfl
  | case2 octets index short =>
      have none : octets = [] := by
        match octets with
        | [] => rfl
        | [_] => simp at even
        | high :: low :: rest => exact absurd rfl (short high low rest)
      cases bytes <;> simp [none, byteDigits]

/-! ## Texts -/

theorem utf8EncodeChar_ascii {c : Char} (ascii : c.toNat < 128) :
    ∃ octet : UInt8, String.utf8EncodeChar c = [octet] ∧ lowered octet = c.toLower := by
  refine ⟨UInt8.ofNat c.toNat, ?_, ?_⟩
  · have small : c.val.toNat ≤ 127 := Nat.le_of_lt_succ ascii
    simp only [String.utf8EncodeChar, if_pos small]
    rfl
  · have value : (UInt8.ofNat c.toNat).toNat = c.toNat := by
      rw [UInt8.toNat_ofNat']
      omega
    rw [lowered, value, Char.ofNat_toNat]

theorem utf8EncodeChar_far {c : Char} (far : ¬ c.toNat < 128) :
    ∃ (octet : UInt8) (rest : Bytes), String.utf8EncodeChar c = octet :: rest ∧ ¬ octet.toNat < 128 := by
  have big : ¬ c.val.toNat ≤ 127 := fun small => far (Nat.lt_succ_of_le small)
  simp only [String.utf8EncodeChar, if_neg big]
  split
  · refine ⟨_, _, rfl, ?_⟩
    rw [UInt8.toNat_ofNat']
    omega
  · split
    · refine ⟨_, _, rfl, ?_⟩
      rw [UInt8.toNat_ofNat']
      omega
    · refine ⟨_, _, rfl, ?_⟩
      rw [UInt8.toNat_ofNat']
      omega

theorem isHexDigit_of_toLower {c : Char} {d : Nat} (small : d < 16) (same : c.toLower = hexDigit d) :
    isHexDigit c = true := by
  rw [← isSome_hexValue?, hexValue?_eq_some_iff.mpr ⟨small, same⟩]
  rfl

theorem lowered_octets_iff (cs : List Char) {digits : List Nat} (small : ∀ d ∈ digits, d < 16) :
    (cs.flatMap String.utf8EncodeChar).map lowered = digits.map hexDigit ↔
      cs.map Char.toLower = digits.map hexDigit := by
  induction cs generalizing digits with
  | nil => exact Iff.rfl
  | cons c cs ih =>
      cases digits with
      | nil =>
          by_cases ascii : c.toNat < 128
          · obtain ⟨octet, encoded, -⟩ := utf8EncodeChar_ascii ascii
            simp [encoded]
          · obtain ⟨octet, rest, encoded, -⟩ := utf8EncodeChar_far ascii
            simp [encoded]
      | cons d digits =>
          rw [List.forall_mem_cons] at small
          by_cases ascii : c.toNat < 128
          · obtain ⟨octet, encoded, same⟩ := utf8EncodeChar_ascii ascii
            simp [encoded, same, ih small.2]
          · obtain ⟨octet, rest, encoded, big⟩ := utf8EncodeChar_far ascii
            have noDigit {c : Char} (far : ¬ c.toNat < 128) : c.toLower ≠ hexDigit d := by
              intro same
              have value := hexValue?_eq_some_iff.mpr ⟨small.1, same⟩
              rw [hexValue?_of_not_ascii far] at value
              cases value
            have octetFar : ¬ (Char.ofNat octet.toNat).toNat < 128 := by
              rwa [toNat_ofNat octet.toNat_lt]
            simp [encoded, lowered, noDigit ascii, noDigit octetFar]

def halves (bytes : Bytes) : List Nat := bytes.flatMap fun b => [b.toNat / 16, b.toNat % 16]

theorem halves_small (bytes : Bytes) : ∀ d ∈ halves bytes, d < 16 := by
  intro d member
  obtain ⟨b, -, half⟩ := List.mem_flatMap.mp member
  have bound := b.toNat_lt
  simp only [List.mem_cons, List.not_mem_nil, or_false] at half
  rcases half with rfl | rfl <;> omega

theorem flatMap_byteDigits (bytes : Bytes) : bytes.flatMap byteDigits = (halves bytes).map hexDigit := by
  rw [halves, List.map_flatMap]
  rfl

theorem length_byteDigits (bytes : Bytes) : (bytes.flatMap byteDigits).length = 2 * bytes.length := by
  induction bytes with
  | nil => rfl
  | cons b bytes ih => rw [List.flatMap_cons, List.length_append, ih, List.length_cons, byteDigits]; simp; omega

theorem decodeHex_ok_iff {cs : List Char} {bytes : Bytes} :
    decodeHex (String.ofList cs) = .ok bytes ↔ cs.map Char.toLower = bytes.flatMap byteDigits := by
  have octets := lowered_octets_iff cs (halves_small bytes)
  rw [← flatMap_byteDigits] at octets
  rw [decodeHex, octets_ofList, ← octets]
  by_cases odd : (cs.flatMap String.utf8EncodeChar).length % 2 = 1
  · rw [if_pos odd]
    refine iff_of_false nofun fun same => ?_
    have lengths := congrArg List.length same
    rw [List.length_map, length_byteDigits] at lengths
    omega
  · rw [if_neg odd]
    exact decodePairs_ok_iff (Nat.mod_two_ne_one.mp odd) 0

theorem exists_digit {c : Char} (digit : isHexDigit c = true) : ∃ d < 16, c.toLower = hexDigit d := by
  rw [← isSome_hexValue?] at digit
  obtain ⟨d, value⟩ := Option.isSome_iff_exists.mp digit
  exact ⟨d, hexValue?_eq_some_iff.mp value⟩

theorem decodable_iff {cs : List Char} :
    (∃ bytes, decodeHex (String.ofList cs) = .ok bytes) ↔
      (∀ c ∈ cs, isHexDigit c = true) ∧ cs.length % 2 = 0 := by
  simp only [decodeHex_ok_iff]
  constructor
  · rintro ⟨bytes, digits⟩
    constructor
    · intro c member
      have lower := List.mem_map_of_mem (f := Char.toLower) member
      rw [digits, flatMap_byteDigits] at lower
      obtain ⟨d, half, same⟩ := List.mem_map.mp lower
      exact isHexDigit_of_toLower (halves_small bytes d half) same.symm
    · have lengths := congrArg List.length digits
      rw [List.length_map, length_byteDigits] at lengths
      omega
  · rintro ⟨all, even⟩
    induction cs using List.twoStepInduction with
    | nil => exact ⟨[], rfl⟩
    | singleton c => cases even
    | cons_cons high low rest ih _ =>
        simp only [List.forall_mem_cons] at all
        obtain ⟨h, small, first⟩ := exists_digit all.1
        obtain ⟨l, small', second⟩ := exists_digit all.2.1
        have even : rest.length % 2 = 0 := by
          rw [List.length_cons, List.length_cons] at even
          omega
        obtain ⟨bytes, later⟩ := ih all.2.2 even
        refine ⟨UInt8.ofNat (16 * h + l) :: bytes, ?_⟩
        rw [List.map_cons, List.map_cons, first, second, later, List.flatMap_cons, byteDigits_ofNat small small']
        rfl

/-! ## A fixed number of digits -/

theorem length_fixedHex (width n : Nat) : (fixedHex width n).length = width := by
  induction width generalizing n with
  | zero => rfl
  | succ width ih => rw [fixedHex, List.length_append, ih, List.length_singleton]

theorem exists_fixedHex {cs : List Char} (all : ∀ c ∈ cs, isHexDigit c = true) :
    ∃ n < 16 ^ cs.length, cs.map Char.toLower = fixedHex cs.length n := by
  induction cs using List.reverseRecOn with
  | nil => exact ⟨0, by decide, rfl⟩
  | append_singleton cs c ih =>
      rw [List.forall_mem_append, List.forall_mem_singleton] at all
      obtain ⟨n, small, front⟩ := ih all.1
      obtain ⟨d, digit, last⟩ := exists_digit all.2
      rw [List.length_append, List.length_singleton]
      refine ⟨16 * n + d, by rw [Nat.pow_succ]; omega, ?_⟩
      rw [fixedHex, List.map_append, List.map_singleton, front, last, show (16 * n + d) / 16 = n by omega,
        show (16 * n + d) % 16 = d by omega]

def places (width n : Nat) : List Nat :=
  match width with
  | 0 => []
  | width + 1 => places width (n / 16) ++ [n % 16]

theorem length_places (width n : Nat) : (places width n).length = width := by
  induction width generalizing n with
  | zero => rfl
  | succ width ih => rw [places, List.length_append, ih, List.length_singleton]

theorem filterMap_fixedHex (width n : Nat) : (fixedHex width n).filterMap hexValue? = places width n := by
  induction width generalizing n with
  | zero => rfl
  | succ width ih =>
      have digit : [hexDigit (n % 16)].filterMap hexValue? = [n % 16] :=
        List.filterMap_cons_some (hexValue?_hexDigit (Nat.mod_lt n (by decide)))
      rw [fixedHex, List.filterMap_append, ih, digit, places]

theorem toNat_hexDigit {d : Nat} (small : d < 16) : (hexDigit d).toNat = if d < 10 then 48 + d else 87 + d := by
  have all : ∀ d < 16, (hexDigit d).toNat = if d < 10 then 48 + d else 87 + d := by decide
  exact all d small

theorem hexDigit_lt_iff {d e : Nat} (small : d < 16) (small' : e < 16) : hexDigit d < hexDigit e ↔ d < e := by
  have order : hexDigit d < hexDigit e ↔ (hexDigit d).toNat < (hexDigit e).toNat := UInt32.lt_iff_toNat_lt
  rw [order, toNat_hexDigit small, toNat_hexDigit small']
  split <;> split <;> omega

theorem append_lt_append_iff {front front' : List Char} {c d : Char} (same : front.length = front'.length) :
    front ++ [c] < front' ++ [d] ↔ front < front' ∨ front = front' ∧ c < d := by
  induction front generalizing front' with
  | nil =>
      obtain rfl := List.length_eq_zero_iff.mp same.symm
      simp [List.cons_lt_cons_iff]
  | cons b front ih =>
      obtain ⟨b', front', rfl⟩ := List.exists_cons_of_length_eq_add_one same.symm
      rw [List.cons_append, List.cons_append, List.cons_lt_cons_iff, List.cons_lt_cons_iff,
        ih (Nat.succ.inj same), List.cons.injEq]
      tauto

theorem fixedHex_lt_iff (width : Nat) {m n : Nat} (small : m < 16 ^ width) (small' : n < 16 ^ width) :
    (fixedHex width m < fixedHex width n ↔ m < n) ∧ (fixedHex width m = fixedHex width n ↔ m = n) := by
  induction width generalizing m n with
  | zero =>
      obtain rfl : m = 0 := Nat.lt_one_iff.mp small
      obtain rfl : n = 0 := Nat.lt_one_iff.mp small'
      simp [fixedHex]
  | succ width ih =>
      rw [Nat.pow_succ] at small small'
      obtain ⟨less, equal⟩ := ih (m := m / 16) (n := n / 16) (by omega) (by omega)
      have last := Nat.mod_lt m (by decide : 0 < 16)
      have last' := Nat.mod_lt n (by decide : 0 < 16)
      have lengths : (fixedHex width (m / 16)).length = (fixedHex width (n / 16)).length := by
        rw [length_fixedHex, length_fixedHex]
      have digit : hexDigit (m % 16) = hexDigit (n % 16) ↔ m % 16 = n % 16 :=
        ⟨hexDigit_inj last last', congrArg hexDigit⟩
      constructor
      · rw [fixedHex, fixedHex, append_lt_append_iff lengths, less, equal, hexDigit_lt_iff last last']
        omega
      · rw [fixedHex, fixedHex, List.append_eq_append_iff_of_size_eq_left lengths, equal, List.singleton_inj, digit]
        omega

end GattPeripheral.Text
