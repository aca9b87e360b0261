import GattPeripheral.Attribute.Access

/-!
# Values written and read at offsets

`Bytes.Overlaid` says what a value is after octets were written into it behind its start, and
`Bytes.overlaid_writeAt` that this is what a write does. `Bytes.writeAt_end` is the case that a long write
consists of.
-/

namespace GattPeripheral.Bytes

/-- `result` is `value` with `bytes` laid over it at an offset, and zeros in the gap before them if there
is one. -/
structure Overlaid (value bytes : Bytes) (offset : Nat) (result : Bytes) : Prop where
  length : result.length = max value.length (offset + bytes.length)
  covered : ∀ i, offset ≤ i → i < offset + bytes.length → result[i]? = bytes[i - offset]?
  kept : ∀ i, i < value.length → ¬ (offset ≤ i ∧ i < offset + bytes.length) → result[i]? = value[i]?
  gap : ∀ i, value.length ≤ i → i < offset → result[i]? = some 0

theorem writeAt_zero (value bytes : Bytes) : writeAt value 0 bytes = bytes := if_pos rfl

theorem writeAt_pos {offset : Nat} (positive : 0 < offset) (value bytes : Bytes) : writeAt value offset bytes =
    value.take offset ++ List.replicate (offset - value.length) 0 ++ bytes ++ value.drop (offset + bytes.length) :=
  if_neg (Nat.ne_of_gt positive)

theorem overlaid_writeAt {offset : Nat} (positive : 0 < offset) (value bytes : Bytes) :
    Overlaid value bytes offset (writeAt value offset bytes) := by
  rw [writeAt_pos positive]
  have front : (value.take offset ++ List.replicate (offset - value.length) 0).length = offset := by
    simp only [List.length_append, List.length_take, List.length_replicate]
    omega
  constructor
  · simp only [List.length_append, front, List.length_drop]
    omega
  · intro i lower upper
    rw [List.getElem?_append_left (by simp only [List.length_append, front]; omega),
      List.getElem?_append_right (by omega), front]
  · intro i inside uncovered
    by_cases before : i < offset
    · rw [List.getElem?_append_left (by simp only [List.length_append, front]; omega),
        List.getElem?_append_left (by omega), List.getElem?_append_left (by simp; omega),
        List.getElem?_take_of_lt before]
    · have after : offset + bytes.length ≤ i := by omega
      rw [List.getElem?_append_right (by simp only [List.length_append, front]; omega), List.getElem?_drop]
      congr 1
      simp only [List.length_append, front]
      omega
  · intro i past before
    rw [List.getElem?_append_left (by simp only [List.length_append, front]; omega),
      List.getElem?_append_left (by omega), List.getElem?_append_right (by simp; omega),
      List.getElem?_replicate_of_lt (by simp; omega)]

theorem writeAt_end (value bytes : Bytes) : writeAt value value.length bytes = value ++ bytes := by
  rcases Nat.eq_zero_or_pos value.length with empty | positive
  · rw [empty, writeAt_zero, List.length_eq_zero_iff.mp empty, List.nil_append]
  · rw [writeAt_pos positive, List.take_length, Nat.sub_self, List.drop_eq_nil_of_le (Nat.le_add_right _ _)]
    simp

end GattPeripheral.Bytes
