import GattPeripheral.Proofs.Json.Scalars

/-!
# Passing over values

The value of an unknown member is passed over with the open brackets on a stack. `Reader.resume` is what happens behind
a value. A text `Passes` if passing over it leads to that, with a bound on the fuel it takes: a value without parts, and
a container whose parts pass. Main statement: `treats_skipValue`, that every value is passed over to its end.
-/

namespace GattPeripheral.Json

open Number (isDigit)

/-! ## Values without parts -/

theorem skipTextFrom_piece {c : Char} {piece : List Char} (spelled : SpellsChar c piece) (tail : List Char)
    (p : Position) : ∃ q, skipTextFrom (piece ++ tail) p = skipTextFrom tail q := by
  cases spelled with
  | plain visible quote backslash =>
      refine ⟨p.after c, ?_⟩
      rw [List.cons_append, List.nil_append, skipTextFrom, if_neg visible]
      · exact quote
      · exact backslash
  | short escape =>
      unfold shortEscaped? at escape
      split at escape <;> cases escape <;> exact ⟨(p.after '\\').after _, rfl⟩
  | @unit a b d e unit =>
      refine ⟨((p.after '\\').after 'u').afterOctets 4 (a :: b :: d :: e :: tail), ?_⟩
      simp [skipTextFrom, unit]
  | @pair a b d e a' b' d' e' high low first leading second trailing joined =>
      let tail' := '\\' :: 'u' :: a' :: b' :: d' :: e' :: tail
      let q := ((p.after '\\').after 'u').afterOctets 4 (a :: b :: d :: e :: tail')
      refine ⟨((q.after '\\').after 'u').afterOctets 4 (a' :: b' :: d' :: e' :: tail), ?_⟩
      simp [skipTextFrom, first, second, q, tail']

theorem Reads.skipText {s cs : List Char} (spelled : SpellsText s cs) (rest : List Char) :
    Reads Reader.skipText (cs ++ '"' :: rest) () rest := by
  intro p
  rw [Reader.skipText]
  induction spelled generalizing p with
  | nil => exact ⟨p.after '"', by simp [skipTextFrom]⟩
  | cons here later ih =>
      obtain ⟨q, first⟩ := skipTextFrom_piece here (_ ++ '"' :: rest) p
      obtain ⟨q', others⟩ := ih q
      exact ⟨q', by rw [List.append_assoc, first, others]⟩

theorem any_isDigit_append {digits rest : List Char} (some : digits ≠ []) (all : ∀ c ∈ digits, isDigit c = true) :
    (digits ++ rest).head?.any isDigit = true := by
  cases digits with
  | nil => exact absurd rfl some
  | cons c digits => exact all c List.mem_cons_self

theorem Reads.skipFraction {digits cs rest : List Char} (spelled : SpellsFraction digits cs)
    (ends : ∀ c ∈ rest.head?, isDigit c = false ∧ c ≠ '.') : Reads Reader.skipFraction (cs ++ rest) () rest := by
  cases spelled with
  | absent =>
      have point : rest.head?.any (· = '.') = false := by
        cases head : rest.head? with
        | none => rfl
        | some c => simpa using (ends c head).2
      exact .bind (.nextIs point) (.pure _ _)
  | present some all =>
      have skipped := Reads.skipDigits all fun c head => (ends c head).1
      exact .bind (.nextIs rfl) (.bind (.skipOne _ _) (.bind (.nextIs (any_isDigit_append some all)) skipped))

theorem Reads.exponentSign {sign digits rest : List Char} (signed : sign = [] ∨ sign = ['+'] ∨ sign = ['-'])
    (some : digits ≠ []) (all : ∀ c ∈ digits, isDigit c = true) :
    ∃ down, Reads Reader.exponentSign (sign ++ (digits ++ rest)) down (digits ++ rest) := by
  rcases signed with rfl | rfl | rfl
  · refine ⟨false, .bind (.peek _) ?_⟩
    cases digits with
    | nil => exact absurd rfl some
    | cons c digits =>
        have digit := all c List.mem_cons_self
        rw [List.nil_append, List.cons_append, List.head?_cons]
        split
        next plus => cases Option.some.inj plus ▸ digit
        next minus => cases Option.some.inj minus ▸ digit
        next => exact .pure _ _
  · exact ⟨false, .bind (.peek _) (.bind (.skipOne _ _) (.pure _ _))⟩
  · exact ⟨true, .bind (.peek _) (.bind (.skipOne _ _) (.pure _ _))⟩

theorem Reads.skipExponentPart {value : Int} {cs rest : List Char} (spelled : SpellsExponent value cs)
    (apart : Apart rest) : Reads Reader.skipExponentPart (cs ++ rest) () rest := by
  cases spelled with
  | absent =>
      exact .bind (.nextIs apart.exponent) (.pure _ _)
  | @present marker sign digits marked signed some all =>
      have begins : (marker :: (sign ++ digits) ++ rest).head?.any (fun c => c = 'e' || c = 'E') = true := by
        rcases marked with rfl | rfl <;> rfl
      obtain ⟨down, sign_read⟩ : ∃ down, Reads Reader.exponentSign (sign ++ (digits ++ rest)) down (digits ++ rest) :=
        Reads.exponentSign signed some all
      have skipped := Reads.skipDigits all fun c head => (apart c head).1
      rw [← List.append_assoc] at sign_read
      exact .bind (.nextIs begins) (.bind (.skipOne _ _) (.bind sign_read
        (.bind (.nextIs (any_isDigit_append some all)) skipped)))

theorem Reads.skipNumber {whole fraction front back rest : List Char} {exponent : Int} (some : whole ≠ [])
    (all : ∀ c ∈ whole, isDigit c = true) (leading : whole.head? = Option.some '0' → whole = ['0'])
    (front_spelled : SpellsFraction fraction front) (back_spelled : SpellsExponent exponent back) (apart : Apart rest) :
    Reads Reader.skipNumber (whole ++ (front ++ (back ++ rest))) () rest := by
  have behind : ∀ c ∈ (back ++ rest).head?, isDigit c = false ∧ c ≠ '.' := by
    cases back_spelled with
    | absent => exact fun c head => ⟨(apart c head).1, (apart c head).2.1⟩
    | present marked _ _ _ =>
        intro c head
        obtain rfl := Option.some.inj head
        rcases marked with rfl | rfl <;> decide
  have ends : ∀ c ∈ (front ++ (back ++ rest)).head?, isDigit c = false := by
    cases front_spelled with
    | absent => exact fun c head => (behind c head).1
    | present _ _ =>
        intro c head
        obtain rfl := Option.some.inj head
        rfl
  refine .bind (.digitsAhead all ends) ?_
  split
  next => exact absurd rfl some
  next => cases leading rfl
  next =>
    exact .bind (.skipDigits all ends)
      (.bind (.skipFraction front_spelled behind) (.skipExponentPart back_spelled apart))

theorem Reads.skipOpening_number {mantissa : Int} {places : Nat} {cs blanks rest : List Char}
    (spelled : SpellsNumber mantissa places cs) (blank : Blank blanks) (apart : Apart rest) :
    Reads Reader.skipOpening (blanks ++ (cs ++ rest)) none rest := by
  cases spelled with
  | @intro negative whole fraction front back exponent some all leading front_spelled back_spelled value =>
      have skipped := Reads.skipNumber some all leading front_spelled back_spelled apart
      rw [List.append_assoc, List.append_assoc, List.append_assoc]
      cases negative with
      | true => exact .bind (.valueStart (c := '-') blank rfl) (.bind (.skipOne _ _) (.bind skipped (.pure _ _)))
      | false =>
          cases whole with
          | nil => exact absurd rfl some
          | cons c whole =>
              have digit := all c List.mem_cons_self
              refine .bind (.valueStart blank (Begins.of_isDigit digit).visible) ?_
              split
              case h_8 =>
                rw [if_pos digit]
                exact .bind skipped (.pure _ _)
              all_goals cases digit

/-! ## Behind a value -/

/-- Goes on behind a value inside open brackets. -/
def Reader.resume (fuel : Nat) (outer : List Char) : Reader Unit := do
  let left ← skipBetween true outer
  if left.isEmpty then return () else skipValues fuel left

def Passes (cs : List Char) : Prop :=
  ∃ n ≤ cs.length, ∀ {fuel outer blanks rest rest'}, Blank blanks → Apart rest →
    Reads (Reader.resume fuel outer) rest () rest' →
      Reads (Reader.skipValues (fuel + n) outer) (blanks ++ (cs ++ rest)) () rest'

theorem passes_of_opening {cs : List Char} (some : 1 ≤ cs.length)
    (opening : ∀ {blanks rest}, Blank blanks → Apart rest →
      Reads Reader.skipOpening (blanks ++ (cs ++ rest)) none rest) : Passes cs :=
  ⟨1, some, fun blank apart resumes => .bind (opening blank apart) resumes⟩

section Brackets
variable {opening closing : Char} {outer blanks rest rest' : List Char}

theorem closing_cases (closes : Reader.closes opening closing = true) : closing = ']' ∨ closing = '\x7d' := by
  simp only [Reader.closes, Bool.or_eq_true, Bool.and_eq_true, decide_eq_true_eq] at closes
  exact closes.imp And.right And.right

theorem apart_closing (closes : Reader.closes opening closing = true) (rest : List Char) : Apart (closing :: rest) := by
  rcases closing_cases closes with rfl | rfl <;> exact apart_cons (by decide) _

theorem Reads.skipBetween_close {α : Type} {f : List Char → Reader α} {a : α} (comma : Bool)
    (closes : Reader.closes opening closing = true) (blank : Blank blanks)
    (later : Reads (Reader.skipBetween true outer >>= f) rest a rest') :
    Reads (Reader.skipBetween comma (opening :: outer) >>= f) (blanks ++ closing :: rest) a rest' := by
  have visible : Cursor.isBlank closing = false ∧ closing ≠ ',' := by
    rcases closing_cases closes with rfl | rfl <;> decide
  have other : (closing = ',' && comma) = false := by simp [visible.2]
  rw [Reader.skipBetween, bind_assoc]
  refine .bind (.peekValue blank visible.1) ?_
  simp only [other, closes, Bool.false_eq_true, if_false, if_true, bind_assoc]
  exact .bind (.skipOne _ _) later

/-- What stands in front of a value inside a container is passed over, up to blanks. -/
structure Enters (opening : Char) (lead text : List Char) : Prop where
  first : ∀ outer rest, ∃ between, Blank between ∧
    Reads (Reader.skipBetween false (opening :: outer)) (lead ++ (text ++ rest)) (opening :: outer)
      (between ++ (text ++ rest))
  later : ∀ outer rest blanks, Blank blanks → ∃ between, Blank between ∧
    Reads (Reader.skipBetween true (opening :: outer)) (blanks ++ ',' :: (lead ++ (text ++ rest))) (opening :: outer)
      (between ++ (text ++ rest))

end Brackets

theorem Spells.enters_array {j : Json} {lead text : List Char} (spelled : Spells j text) (blank : Blank lead) :
    Enters '[' lead text where
  first outer rest := by
    obtain ⟨c, tail, rfl, begins, -⟩ := spelled.head
    have bracket : Reader.closes '[' c = false := by simp [Reader.closes, begins.bracket]
    refine ⟨[], blank_nil, ?_⟩
    rw [Reader.skipBetween]
    refine .bind (.peekValue blank begins.visible) ?_
    simp only [bracket, Bool.and_false]
    exact .pure _ _
  later outer rest blanks before := by
    refine ⟨lead, blank, ?_⟩
    rw [Reader.skipBetween]
    refine .bind (.peekValue before rfl) ?_
    exact .bind (.skipOne _ _) (.pure _ _)

theorem Reads.skipName {name : String} {lead : List Char} (labels : Labels name lead) :
    ∃ before tail between, lead = before ++ '"' :: tail ∧ Blank before ∧ Blank between ∧
      ∀ blanks rest, Blank blanks → Reads Reader.skipName (blanks ++ '"' :: (tail ++ rest)) () (between ++ rest) := by
  cases labels with
  | @intro before text after between before_blank spelled numeric after_blank between_blank =>
      refine ⟨before, _, between, rfl, before_blank, between_blank, fun blanks rest blank => ?_⟩
      have skipped := Reads.skipText spelled (after ++ ':' :: (between ++ rest))
      simp only [List.append_assoc, List.cons_append]
      exact .bind (.peekValue blank rfl) (.bind (.skipOne _ _) (.bind skipped
        (.bind (.peekValue after_blank rfl) (.skipOne _ _))))

theorem Labels.enters {name : String} {lead : List Char} (labels : Labels name lead) (text : List Char) :
    Enters '\x7b' lead text := by
  obtain ⟨before, tail, between, rfl, before_blank, blank, skipped⟩ := Reads.skipName labels
  constructor
  · intro outer rest
    refine ⟨between, blank, ?_⟩
    rw [Reader.skipBetween, List.append_assoc, List.cons_append]
    exact .bind (.peekValue before_blank rfl) (.bind (skipped [] _ blank_nil) (.pure _ _))
  · intro outer rest blanks front_blank
    refine ⟨between, blank, ?_⟩
    rw [Reader.skipBetween, List.append_assoc, List.cons_append]
    exact .bind (.peekValue front_blank rfl) (.bind (.skipOne _ _) (.bind (skipped before _ before_blank) (.pure _ _)))

theorem resumes_pieces {opening closing : Char} (closes : Reader.closes opening closing = true) (pieces : List Piece)
    (passes : ∀ p ∈ pieces, Passes p.text) (enters : ∀ p ∈ pieces, Enters opening p.lead p.text)
    (trails : ∀ p ∈ pieces, Blank p.trail) : ∃ n ≤ (joined false (pieces.map Piece.written)).length,
      ∀ {fuel outer blanks ends rest rest'}, Blank blanks → Blank ends → Reads (Reader.resume fuel outer) rest () rest' →
        Reads (Reader.resume (fuel + n) (opening :: outer))
          (blanks ++ (joined false (pieces.map Piece.written) ++ (ends ++ closing :: rest))) () rest' := by
  induction pieces with
  | nil =>
      refine ⟨0, Nat.le_refl 0, fun blank ends_blank resumes => ?_⟩
      rw [List.map_nil, joined, List.nil_append, ← List.append_assoc]
      exact .skipBetween_close true closes (blank.append ends_blank) resumes
  | cons p pieces ih =>
      obtain ⟨n, bound, passes_here⟩ := passes p List.mem_cons_self
      have trail := trails p List.mem_cons_self
      have entered := enters p List.mem_cons_self
      obtain ⟨m, bound', resumes_later⟩ := ih (fun q member => passes q (List.mem_cons_of_mem p member))
        (fun q member => enters q (List.mem_cons_of_mem p member))
        (fun q member => trails q (List.mem_cons_of_mem p member))
      refine ⟨m + n, ?_, fun {fuel outer blanks ends rest rest'} blank ends_blank resumes => ?_⟩
      · simp only [List.map_cons, joined, Piece.written, List.length_append, Bool.false_eq_true, if_false,
          List.length_singleton]
        omega
      · let left := joined false (pieces.map Piece.written) ++ (ends ++ closing :: rest)
        obtain ⟨between, between_blank, enters_here⟩ := entered.later outer (p.trail ++ left) blanks blank
        have apart : Apart left := apart_joined _ (ends_blank.apart (apart_closing closes rest))
        have later : Reads (Reader.resume (fuel + m) (opening :: outer)) (p.trail ++ left) () rest' :=
          resumes_later trail ends_blank resumes
        have here := passes_here between_blank (trail.apart apart) later
        rw [Nat.add_assoc] at here
        rw [List.map_cons, joined_cons, Piece.written, List.append_assoc, List.append_assoc]
        exact .bind enters_here here

theorem passes_container {opening closing : Char} (closes : Reader.closes opening closing = true)
    (opens : ∀ {blanks rest}, Blank blanks → Reads Reader.skipOpening (blanks ++ opening :: rest) (some opening) rest)
    {pieces : List Piece} {ends : List Char} (passes : ∀ p ∈ pieces, Passes p.text)
    (enters : ∀ p ∈ pieces, Enters opening p.lead p.text) (trails : ∀ p ∈ pieces, Blank p.trail) (ends_blank : Blank ends) :
    Passes (opening :: (joined true (pieces.map Piece.written) ++ (ends ++ [closing]))) := by
  cases pieces with
  | nil =>
      refine ⟨1, by simp, fun {fuel outer blanks rest rest'} blank _ resumes => ?_⟩
      have closed : Reads (Reader.skipBetween false (opening :: outer) >>= _) (ends ++ closing :: rest) () rest' :=
        .skipBetween_close false closes ends_blank resumes
      have text : opening :: (joined true (List.map Piece.written []) ++ (ends ++ [closing])) ++ rest =
          opening :: (ends ++ closing :: rest) := by simp [joined]
      rw [text]
      exact .bind (opens blank) closed
  | cons p pieces =>
      obtain ⟨n, bound, passes_here⟩ := passes p List.mem_cons_self
      obtain ⟨m, bound', resumes_later⟩ := resumes_pieces closes pieces
        (fun q member => passes q (List.mem_cons_of_mem p member))
        (fun q member => enters q (List.mem_cons_of_mem p member))
        (fun q member => trails q (List.mem_cons_of_mem p member))
      refine ⟨m + n + 1, ?_, fun {fuel outer blanks rest rest'} blank _ resumes => ?_⟩
      · simp only [List.map_cons, joined, Piece.written, List.length_cons, List.length_append]
        omega
      · let left := joined false (pieces.map Piece.written) ++ (ends ++ closing :: rest)
        have trail := trails p List.mem_cons_self
        obtain ⟨between, between_blank, enters_here⟩ :=
          (enters p List.mem_cons_self).first outer (p.trail ++ left)
        have apart : Apart left := apart_joined _ (ends_blank.apart (apart_closing closes rest))
        have here := passes_here between_blank (trail.apart apart) (resumes_later trail ends_blank resumes)
        have text : opening :: (joined true ((p :: pieces).map Piece.written) ++ (ends ++ [closing])) ++ rest =
            opening :: (p.lead ++ (p.text ++ (p.trail ++ left))) := by
          simp [left, joined, Piece.written]
        rw [text]
        rw [Nat.add_assoc] at here
        exact .bind (opens blank) (.bind enters_here here)

/-- Passing over a value takes no more fuel than it has characters. -/
theorem Spells.passes {j : Json} {cs : List Char} (spelled : Spells j cs) : Passes cs := by
  induction spelled with
  | null =>
      exact passes_of_opening (by decide) fun {blanks rest} blank _ =>
        .bind (.valueStart (c := 'n') blank rfl) (.bind (.skipOne _ _)
          (.bind (.word ['u', 'l', 'l'] rest) (.pure _ _)))
  | bool value =>
      cases value with
      | true =>
          exact passes_of_opening (by decide) fun {blanks rest} blank _ =>
            .bind (.valueStart (c := 't') blank rfl) (.bind (.skipOne _ _)
              (.bind (.word ['r', 'u', 'e'] rest) (.pure _ _)))
      | false =>
          exact passes_of_opening (by decide) fun {blanks rest} blank _ =>
            .bind (.valueStart (c := 'f') blank rfl) (.bind (.skipOne _ _)
              (.bind (.word ['a', 'l', 's', 'e'] rest) (.pure _ _)))
  | number spelled plain =>
      obtain ⟨c, tail, rfl, -⟩ := spelled.head
      exact passes_of_opening (Nat.succ_pos _) (.skipOpening_number spelled)
  | @string s cs spelled =>
      refine passes_of_opening (Nat.succ_pos _) fun {blanks rest} blank _ => ?_
      have skipped := Reads.skipText spelled rest
      rw [List.cons_append, List.append_assoc, List.singleton_append]
      exact .bind (.valueStart (c := '"') blank rfl) (.bind (.skipOne _ _) (.bind skipped (.pure _ _)))
  | array spelled leads trails ends_blank ih =>
      exact passes_container rfl (fun blank => .bind (.valueStart (c := '[') blank rfl) (.bind (.skipOne _ _) (.pure _ _)))
        ih (fun p member => (spelled p member).enters_array (leads p member)) trails ends_blank
  | @object members ends spelled leads trails ends_blank ih =>
      have passes := passes_container (rfl : Reader.closes '\x7b' '\x7d' = true)
        (fun blank => .bind (.valueStart (c := '\x7b') blank rfl) (.bind (.skipOne _ _) (.pure _ _)))
        (List.forall_mem_map.mpr ih) (List.forall_mem_map.mpr fun m member => (leads m member).enters m.2.text)
        (List.forall_mem_map.mpr trails) ends_blank
      rwa [List.map_map] at passes

theorem treats_skipValue (j : Json) : Treats Reader.skipValue j (some ()) := by
  intro cs spelled blanks rest blank apart
  obtain ⟨n, bound, passes⟩ := spelled.passes
  obtain ⟨fuel, enough⟩ := Nat.exists_eq_add_of_le' (show n ≤ (blanks ++ (cs ++ rest)).length + 1 by
    simp only [List.length_append]
    omega)
  have ended : Reads (Reader.resume fuel []) rest () rest := .bind (.pure [] rest) (.pure () rest)
  have skipped := passes blank apart ended
  rw [← enough] at skipped
  exact Reads.bind (.measure _) skipped

end GattPeripheral.Json
