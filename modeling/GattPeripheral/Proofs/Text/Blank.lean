import GattPeripheral.Text.Blank
import Mathlib.Data.Char
import Mathlib.Data.List.TakeWhile

/-!
# White space around a text

Trimming takes away all white space at both ends of a text and nothing else (`trim_surrounded`, `exists_surrounded`).
-/

namespace GattPeripheral.Text

/-- The characters with the property White_Space. -/
def whiteSpace : List Char :=
  ['\t', '\n', '\x0b', '\x0c', '\r', ' ', '\x85', '\xa0', '\u1680', '\u2000', '\u2001', '\u2002', '\u2003', '\u2004',
    '\u2005', '\u2006', '\u2007', '\u2008', '\u2009', '\u200a', '\u2028', '\u2029', '\u202f', '\u205f', '\u3000']

theorem isBlank_iff {c : Char} : isBlank c = true ↔ c ∈ whiteSpace := by
  have codes : c ∈ whiteSpace ↔ c.toNat ∈ whiteSpace.map Char.toNat := by
    simp [Char.toNat_inj]
  have all : whiteSpace.map Char.toNat =
      [0x9, 0xa, 0xb, 0xc, 0xd, 0x20, 0x85, 0xa0, 0x1680, 0x2000, 0x2001, 0x2002, 0x2003, 0x2004, 0x2005, 0x2006,
        0x2007, 0x2008, 0x2009, 0x200a, 0x2028, 0x2029, 0x202f, 0x205f, 0x3000] := by decide
  rw [codes, all]
  simp only [isBlank, Bool.or_eq_true, Bool.and_eq_true, decide_eq_true_eq, beq_iff_eq, List.mem_cons,
    List.not_mem_nil, or_false]
  omega

theorem dropWhile_front {front rest : List Char} (before : ∀ c ∈ front, isBlank c = true)
    (stops : ∀ c ∈ rest.head?, isBlank c = false) : (front ++ rest).dropWhile isBlank = rest := by
  rw [List.dropWhile_append_of_pos before]
  cases rest with
  | nil => rfl
  | cons c rest => rw [List.dropWhile_cons, stops c rfl, if_neg Bool.false_ne_true]

theorem trim_surrounded {front middle back : List Char} (before : ∀ c ∈ front, c ∈ whiteSpace)
    (after : ∀ c ∈ back, c ∈ whiteSpace) (inner : ∀ c ∈ middle, c ∉ whiteSpace) :
    trim (front ++ middle ++ back) = middle := by
  simp only [← isBlank_iff, Bool.not_eq_true] at before after inner
  cases middle with
  | nil =>
      have blank : ∀ c ∈ front ++ [] ++ back, isBlank c = true := by
        simpa [or_imp, forall_and] using ⟨before, after⟩
      rw [trim, List.dropWhile_eq_nil_iff.mpr blank]
      rfl
  | cons c middle =>
      have start : (front ++ (c :: middle) ++ back).dropWhile isBlank = (c :: middle) ++ back := by
        rw [List.append_assoc]
        exact dropWhile_front before fun d first => inner d (Option.mem_some.mp first ▸ List.mem_cons_self)
      have finish : (back.reverse ++ (c :: middle).reverse).dropWhile isBlank = (c :: middle).reverse :=
        dropWhile_front (fun d member => after d (List.mem_reverse.mp member)) fun d last =>
          inner d (List.mem_reverse.mp (List.mem_of_mem_head? last))
      rw [trim, start, List.reverse_append, finish, List.reverse_reverse]

theorem exists_surrounded (cs : List Char) : ∃ front back, cs = front ++ trim cs ++ back ∧
    (∀ c ∈ front, c ∈ whiteSpace) ∧ ∀ c ∈ back, c ∈ whiteSpace := by
  simp only [← isBlank_iff]
  let rest := cs.dropWhile isBlank
  refine ⟨cs.takeWhile isBlank, (rest.reverse.takeWhile isBlank).reverse, ?_, ?_, ?_⟩
  · rw [trim, List.append_assoc, ← List.reverse_append, List.takeWhile_append_dropWhile, List.reverse_reverse,
      List.takeWhile_append_dropWhile]
  · intro c member
    exact List.mem_takeWhile_imp member
  · intro c member
    exact List.mem_takeWhile_imp (List.mem_reverse.mp member)

end GattPeripheral.Text
