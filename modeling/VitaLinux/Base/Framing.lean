import Mathlib.Data.List.Basic

/-!
# Records in a stream

A stream cut into records of one size. What is complete and what is left over do
not depend on the pieces in which the stream arrives.
-/

namespace VitaLinux.Base

variable {α : Type*}

/-- The complete records at the start of a stream. -/
def records (size : Nat) (stream : List α) : List (List α) :=
  (List.range (stream.length / size)).map fun i => (stream.drop (i * size)).take size

/-- What follows the complete records. -/
def leftover (size : Nat) (stream : List α) : List α :=
  stream.drop (stream.length / size * size)

theorem records_length (size : Nat) (stream : List α) :
    (records size stream).length = stream.length / size := by
  simp [records]

/-- A record has its size. -/
theorem mem_records {size : Nat} {stream record : List α} (h : record ∈ records size stream) :
    0 < size ∧ record.length = size := by
  obtain ⟨i, bound, rfl⟩ := List.mem_map.mp h
  have within := List.mem_range.mp bound
  have positive : 0 < size := by
    apply Nat.pos_of_ne_zero
    rintro rfl
    rw [Nat.div_zero] at within
    exact Nat.not_lt_zero i within
  have fits : (i + 1) * size ≤ stream.length := (Nat.le_div_iff_mul_le positive).mp within
  rw [Nat.succ_mul] at fits
  rw [List.length_take, List.length_drop]
  omega

theorem leftover_length (size : Nat) (stream : List α) :
    (leftover size stream).length = stream.length % size := by
  rw [leftover, List.length_drop]
  have division := Nat.div_add_mod stream.length size
  rw [Nat.mul_comm] at division
  omega

theorem leftover_short {size : Nat} (positive : 0 < size) (stream : List α) :
    (leftover size stream).length < size := by
  rw [leftover_length]
  exact Nat.mod_lt _ positive

theorem records_of_short {size : Nat} {stream : List α} (short : stream.length < size) :
    records size stream = [] := by
  rw [records, Nat.div_eq_of_lt short]
  rfl

theorem leftover_of_short {size : Nat} {stream : List α} (short : stream.length < size) :
    leftover size stream = stream := by
  rw [leftover, Nat.div_eq_of_lt short, Nat.zero_mul, List.drop_zero]

/-- A stream long enough for it starts with a record. -/
theorem records_of_long {size : Nat} {stream : List α} (positive : 0 < size)
    (long : size ≤ stream.length) :
    records size stream = stream.take size :: records size (stream.drop size) := by
  have count : stream.length / size = (stream.drop size).length / size + 1 := by
    rw [List.length_drop, Nat.div_eq_sub_div positive long]
  rw [records, count, List.range_succ_eq_map, List.map_cons, List.map_map, records]
  congr 1
  · simp
  · apply List.map_congr_left
    intro i _
    simp only [Function.comp_def, List.drop_drop, Nat.succ_mul]
    rw [Nat.add_comm]

theorem leftover_of_long {size : Nat} {stream : List α} (positive : 0 < size)
    (long : size ≤ stream.length) :
    leftover size stream = leftover size (stream.drop size) := by
  have count : stream.length / size = (stream.drop size).length / size + 1 := by
    rw [List.length_drop, Nat.div_eq_sub_div positive long]
  rw [leftover, count, leftover, List.drop_drop, Nat.succ_mul, Nat.add_comm]

/-- Reading on after some of a stream: only what was left over matters. -/
theorem records_append {size : Nat} (positive : 0 < size) (before after : List α) :
    records size (before ++ after) =
        records size before ++ records size (leftover size before ++ after) ∧
      leftover size (before ++ after) = leftover size (leftover size before ++ after) := by
  induction hn : before.length using Nat.strongRecOn generalizing before with
  | ind n ih =>
    by_cases short : before.length < size
    · rw [records_of_short short, leftover_of_short short, List.nil_append]
      exact ⟨rfl, rfl⟩
    · have long : size ≤ before.length := Nat.not_lt.mp short
      have whole : size ≤ (before ++ after).length := by
        rw [List.length_append]
        omega
      have smaller : (before.drop size).length < n := by
        rw [List.length_drop]
        omega
      obtain ⟨tail, rest⟩ := ih _ smaller (before.drop size) rfl
      rw [records_of_long positive whole, records_of_long positive long,
        leftover_of_long positive whole, leftover_of_long positive long,
        List.take_append_of_le_length long, List.drop_append_of_le_length long, tail, rest]
      exact ⟨rfl, rfl⟩

theorem leftover_leftover {size : Nat} (positive : 0 < size) (stream : List α) :
    leftover size (leftover size stream) = leftover size stream :=
  leftover_of_short (leftover_short positive stream)

end VitaLinux.Base
