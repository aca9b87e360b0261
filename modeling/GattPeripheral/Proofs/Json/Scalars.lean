import GattPeripheral.Proofs.Json.Spelling

/-!
# Texts, numbers and truth values

`Treats r j outcome`: however the value `j` is written, the reader answers it with this outcome. Every text is read
back from any of its spellings (`Reads.text`), and a number below the bound of its type from its decimal digits
(`Reads.number`). These, `bool` and `optional` are the values without parts that documents are made of.
-/

namespace GattPeripheral.Json

open Number (isDigit digitValue takeDigits)

variable {α : Type}

def Treats (r : Reader α) (j : Json) (outcome : Option α) : Prop :=
  ∀ ⦃cs⦄, Spells j cs → ∀ ⦃blanks rest⦄, Blank blanks → Apart rest → Answers r (blanks ++ (cs ++ rest)) outcome rest

theorem Treats.map {r : Reader α} {j : Json} {outcome : Option α} {γ : Type} (treats : Treats r j outcome) (f : α → γ) :
    Treats (do return f (← r)) j (outcome.map f) :=
  fun _ spelled _ _ blank apart => (treats spelled blank apart).map f

/-! ## Characters of a text -/

theorem toNat_not_surrogate (c : Char) : isLeading c.toNat = false ∧ isTrailing c.toNat = false := by
  have valid : c.toNat < 0xd800 ∨ 0xdfff < c.toNat ∧ c.toNat < 0x110000 := c.valid
  simp only [isLeading, isTrailing, Bool.and_eq_false_iff, decide_eq_false_iff_not]
  omega

theorem textFrom_piece {c : Char} {piece : List Char} (spelled : SpellsChar c piece) (tail : List Char) (p : Position) :
    ∃ q, textFrom (piece ++ tail) p = ((textFrom tail q).1.map (c :: ·), (textFrom tail q).2) := by
  cases spelled with
  | plain visible quote backslash =>
      refine ⟨p.after c, ?_⟩
      rw [List.cons_append, List.nil_append, textFrom, if_neg visible]
      · exact quote
      · exact backslash
  | short escape =>
      unfold shortEscaped? at escape
      split at escape <;> cases escape <;> exact ⟨(p.after '\\').after _, rfl⟩
  | @unit a b d e unit =>
      obtain ⟨leading, trailing⟩ := toNat_not_surrogate c
      refine ⟨((p.after '\\').after 'u').afterOctets 4 (a :: b :: d :: e :: tail), ?_⟩
      simp [textFrom, unit, leading, trailing]
  | @pair a b d e a' b' d' e' high low first leading second trailing joined =>
      have apart : isTrailing high = false := by
        simp only [isLeading, isTrailing, Bool.and_eq_true, decide_eq_true_eq, Bool.and_eq_false_iff,
          decide_eq_false_iff_not] at leading ⊢
        omega
      let tail' := '\\' :: 'u' :: a' :: b' :: d' :: e' :: tail
      refine ⟨(((p.after '\\').after 'u').afterOctets 4 (a :: b :: d :: e :: tail')).afterOctets 6 tail', ?_⟩
      simp [textFrom, first, leading, second, trailing, apart, joined, tail']

theorem textFrom_spelled {s cs : List Char} (spelled : SpellsText s cs) (rest : List Char) (p : Position) :
    ∃ q, textFrom (cs ++ '"' :: rest) p = (.ok s, ⟨rest, q⟩) := by
  induction spelled generalizing p with
  | nil => exact ⟨p.after '"', by simp [textFrom]⟩
  | cons here later ih =>
      obtain ⟨q, first⟩ := textFrom_piece here (_ ++ '"' :: rest) p
      obtain ⟨q', others⟩ := ih q
      refine ⟨q', ?_⟩
      rw [List.append_assoc, first, others]
      rfl

theorem Reads.text {s : String} {cs : List Char} (spelled : SpellsText s.toList cs) (rest : List Char) :
    Reads Reader.text (cs ++ '"' :: rest) s rest := by
  intro p
  obtain ⟨q, read⟩ := textFrom_spelled spelled rest p
  refine ⟨q, ?_⟩
  simp only [Reader.text, read, Except.map, String.ofList_toList]

theorem treats_string (s : String) : Treats Reader.string (.string s) (some s) := by
  intro cs spelled blanks rest blank _
  cases spelled with
  | string spelled =>
      have read := Reads.text spelled rest
      rw [List.cons_append, List.append_assoc, List.singleton_append]
      exact Reads.located (.bind (.valueStart blank rfl) (.bind (.skipOne _ _) read))

/-! ## Words -/

theorem Reads.word (letters rest : List Char) : Reads (Reader.word letters) (letters ++ rest) () rest := by
  induction letters with
  | nil => exact .pure _ _
  | cons c letters ih =>
      refine .bind (.peek _) ?_
      simp only [List.cons_append, List.head?_cons, if_true]
      exact .bind (.skipOne _ _) ih

theorem treats_bool (b : Bool) : Treats Reader.bool (.bool b) (some b) := by
  intro cs spelled blanks rest blank _
  cases spelled
  cases b with
  | true =>
      exact Reads.located (.bind (.valueStart (c := 't') blank rfl) (.bind (.skipOne _ _)
        (.bind (.word ['r', 'u', 'e'] rest) (.pure _ _))))
  | false =>
      exact Reads.located (.bind (.valueStart (c := 'f') blank rfl) (.bind (.skipOne _ _)
        (.bind (.word ['a', 'l', 's', 'e'] rest) (.pure _ _))))

theorem treats_null (r : Reader α) : Treats (Reader.optional r) .null (some none) := by
  intro cs spelled blanks rest blank _
  cases spelled
  exact Reads.bind (.peekValue (c := 'n') blank rfl) (.bind (.skipOne _ _)
    (.bind (.word ['u', 'l', 'l'] rest) (.pure _ _)))

theorem Treats.optional {r : Reader α} {j : Json} {outcome : Option α} (treats : Treats r j outcome)
    (other : j ≠ .null) : Treats (Reader.optional r) j (outcome.map some) := by
  intro cs spelled blanks rest blank apart
  obtain ⟨c, tail, rfl, begins, null⟩ := spelled.head
  have value := treats spelled blank_nil apart
  refine Reads.answers (.peekValue blank begins.visible) ?_
  split
  next found => exact absurd (null (Option.some.inj found)) other
  next => exact value.map some

/-! ## Numbers -/

theorem ofDigitChars_cons (c : Char) (digits : List Char) (n : Nat) :
    Nat.ofDigitChars 10 (c :: digits) n = Nat.ofDigitChars 10 digits (10 * n + digitValue c) := by
  simp [Nat.ofDigitChars, digitValue]

theorem le_ofDigitChars (digits : List Char) (n : Nat) : n ≤ Nat.ofDigitChars 10 digits n := by
  induction digits generalizing n with
  | nil => exact Nat.le_refl n
  | cons c digits ih =>
      have later := ih (10 * n + digitValue c)
      rw [ofDigitChars_cons]
      omega

theorem takeDigits_all {digits : List Char} (all : ∀ c ∈ digits, isDigit c = true) (significand taken : Nat)
    (fits : Nat.ofDigitChars 10 digits significand < Number.unsignedLimit) :
    takeDigits significand taken digits =
      (Nat.ofDigitChars 10 digits significand, taken + digits.length, []) := by
  induction digits generalizing significand taken with
  | nil => rfl
  | cons c digits ih =>
      have digit : isDigit c = true := all c List.mem_cons_self
      have grows := le_ofDigitChars digits (10 * significand + digitValue c)
      rw [ofDigitChars_cons] at fits ⊢
      have here : 10 * significand + digitValue c < Number.unsignedLimit := Nat.lt_of_le_of_lt grows fits
      simp only [takeDigits, digit, here, decide_true, Bool.and_self, if_true]
      rw [ih (fun d member => all d (List.mem_cons_of_mem c member)) _ _ fits, List.length_cons,
        Nat.add_assoc, Nat.add_comm 1]

theorem takeDigits_toDigits {n : Nat} (fits : n < Number.unsignedLimit) :
    takeDigits 0 0 (Nat.toDigits 10 n) = (n, (Nat.toDigits 10 n).length, []) := by
  have value := Nat.ofDigitChars_ten_toDigits (n := n)
  rw [takeDigits_all (fun c => isDigit_toDigits) 0 0 (value.symm ▸ fits), value, Nat.zero_add]

section Digits
variable {front rest : List Char} (digits : ∀ c ∈ front, isDigit c = true) (ends : ∀ c ∈ rest.head?, isDigit c = false)
include digits ends

theorem Reads.digitsAhead : Reads Reader.digitsAhead (front ++ rest) front (front ++ rest) := by
  have run : (front ++ rest).takeWhile isDigit = front := by
    rw [List.takeWhile_append_of_pos digits]
    cases rest with
    | nil => rw [List.takeWhile_nil, List.append_nil]
    | cons c rest => rw [List.takeWhile_cons_of_neg (by simp [ends c rfl]), List.append_nil]
  exact fun p => ⟨p, by rw [Reader.digitsAhead, run]⟩

theorem Reads.skipDigits : Reads Reader.skipDigits (front ++ rest) () rest := by
  intro p
  obtain ⟨q, skipped⟩ := skipWhile_append digits ends p
  exact ⟨q, by rw [Reader.skipDigits, skipped]⟩

end Digits

theorem Apart.point {rest : List Char} (apart : Apart rest) : rest.head?.any (· = '.') = false := by
  cases head : rest.head? with
  | none => rfl
  | some c => simpa using (apart c head).2.1

theorem Apart.exponent {rest : List Char} (apart : Apart rest) :
    rest.head?.any (fun c => c = 'e' || c = 'E') = false := by
  cases head : rest.head? with
  | none => rfl
  | some c => simpa using (apart c head).2.2

theorem Reads.number {n : Nat} (fits : n < Number.unsignedLimit) {rest : List Char} (apart : Apart rest) :
    Reads (Reader.number false) (Nat.toDigits 10 n ++ rest) (.unsigned n) rest := by
  have digits : ∀ c ∈ Nat.toDigits 10 n, isDigit c = true := fun c => isDigit_toDigits
  have ends : ∀ c ∈ rest.head?, isDigit c = false := fun c head => (apart c head).1
  have ahead := Reads.digitsAhead digits ends
  have skipped := Reads.skipDigits digits ends
  cases some : Nat.toDigits 10 n with
  | nil => exact absurd some Nat.toDigits_ne_nil
  | cons first more =>
      have single : ¬(first = '0' ∧ 1 < (first :: more).length) := by
        rintro ⟨rfl, long⟩
        rw [← some, toDigits_of_head_zero (by rw [some]; rfl)] at long
        exact Nat.lt_irrefl 1 long
      have taken := takeDigits_toDigits fits
      rw [some] at ahead skipped taken
      refine .bind (.peek _) (.bind ahead ?_)
      simp only [List.isEmpty_cons, Bool.false_eq_true, if_false, if_neg single, taken]
      exact .bind skipped (.bind (.nextIs apart.point) (.bind (.nextIs apart.exponent) (.pure _ _)))

theorem Reads.natural {limit n : Nat} (small : n < limit) (narrow : limit ≤ Number.unsignedLimit)
    (type : String) {blanks rest : List Char} (blank : Blank blanks) (apart : Apart rest) :
    Reads (Reader.natural limit type) (blanks ++ (Nat.toDigits 10 n ++ rest)) n rest := by
  have number := Reads.number (Nat.lt_of_lt_of_le small narrow) apart
  cases some : Nat.toDigits 10 n with
  | nil => exact absurd some Nat.toDigits_ne_nil
  | cons first more =>
      have digit : isDigit first = true := isDigit_toDigits (n := n) (some ▸ List.mem_cons_self)
      have minus : first ≠ '-' := by
        rintro rfl
        cases digit
      rw [some] at number
      refine .located (.bind (.valueStart blank (Begins.of_isDigit digit).visible) ?_)
      split
      next => exact absurd rfl minus
      next =>
        rw [if_pos digit]
        refine .bind number ?_
        rw [Reader.bounded, if_pos small]
        exact .pure _ _

theorem decimal_ofNat (n : Nat) : decimal n 0 = Nat.toDigits 10 n := by
  have sign : ¬((n : Int) < 0) := by omega
  simp [decimal, sign]

theorem treats_natural {limit n : Nat} (small : n < limit) (narrow : limit ≤ Number.unsignedLimit) (type : String) :
    Treats (Reader.natural limit type) (.ofNat n) (some n) := by
  intro cs spelled blanks rest blank apart
  cases spelled with
  | number _ plain =>
      rw [plain rfl, decimal_ofNat]
      exact Reads.natural small narrow type blank apart

end GattPeripheral.Json
