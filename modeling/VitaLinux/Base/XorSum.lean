import Mathlib.Algebra.Order.Ring.Int

/-!
# XOR of many words

A word of all ones among the words that are added up marks a failure. Two marks cancel, so
what the marks leave depends on whether their number is odd.
-/

namespace VitaLinux.Base

variable {w : Nat}

/-- `sum = 0; for (..) sum ^= word;` -/
def xorAll (words : List (BitVec w)) : BitVec w := words.foldl (· ^^^ ·) 0

/-- What `n` words of all ones add up to. -/
def marks (w n : Nat) : BitVec w := if n % 2 = 1 then BitVec.allOnes w else 0

theorem foldl_xor (words : List (BitVec w)) (start : BitVec w) :
    words.foldl (· ^^^ ·) start = start ^^^ xorAll words := by
  unfold xorAll
  induction words generalizing start with
  | nil => simp
  | cons a words ih =>
    rw [List.foldl_cons, List.foldl_cons, ih, ih (0 ^^^ a)]
    simp [BitVec.xor_assoc]

@[simp] theorem xorAll_nil : xorAll ([] : List (BitVec w)) = 0 := rfl

theorem xorAll_cons (a : BitVec w) (words : List (BitVec w)) :
    xorAll (a :: words) = a ^^^ xorAll words := by
  rw [xorAll, List.foldl_cons, foldl_xor]
  simp

/-- The sum of words that may be undefined, one word at a time. -/
theorem xorAll_mapM_cons {α : Type} (word : α → Option (BitVec w)) (a : α) (l : List α) :
    ((a :: l).mapM word).map xorAll =
      (word a).bind fun v => ((l.mapM word).map xorAll).map fun sum => v ^^^ sum := by
  rw [List.mapM_cons]
  cases word a with
  | none => rfl
  | some v =>
    cases l.mapM word with
    | none => rfl
    | some words => exact congrArg some (xorAll_cons v words)

theorem marks_succ (w n : Nat) : marks w (n + 1) = BitVec.allOnes w ^^^ marks w n := by
  unfold marks
  obtain even | odd := Nat.mod_two_eq_zero_or_one n
  · simp [even, show (n + 1) % 2 = 1 by omega]
  · simp [odd, show (n + 1) % 2 = 0 by omega]

theorem xor_marks_eq_iff {sum : BitVec w} {n : Nat} :
    sum ^^^ marks w n = BitVec.allOnes w ↔ sum = marks w (n + 1) := by
  rw [marks_succ]
  constructor
  · intro same
    rw [← same, BitVec.xor_assoc, BitVec.xor_self, BitVec.xor_zero]
  · rintro rfl
    rw [BitVec.xor_assoc, BitVec.xor_self, BitVec.xor_zero]

/-- The sum of words below a power of two stays below it. -/
theorem xorAll_mapM_lt {α : Type} {word : α → Option (BitVec w)} {k : Nat}
    (small : ∀ a v, word a = some v → v.toNat < 2 ^ k) {l : List α} {sum : BitVec w}
    (found : (l.mapM word).map xorAll = some sum) : sum.toNat < 2 ^ k := by
  induction l generalizing sum with
  | nil =>
    obtain rfl : 0 = sum := Option.some.inj found
    exact Nat.two_pow_pos k
  | cons a l ih =>
    rw [xorAll_mapM_cons] at found
    obtain ⟨v, own, found⟩ := Option.bind_eq_some_iff.mp found
    obtain ⟨rest, others, rfl⟩ := Option.map_eq_some_iff.mp found
    rw [BitVec.toNat_xor]
    exact Nat.xor_lt_two_pow (small a v own) (ih others)

/-- XOR with a byte changes the last byte only. -/
theorem xor_byte_le {a b : Nat} (byte : b < 2 ^ 8) : a ^^^ b ≤ a + 255 := by
  have high : (a ^^^ b) / 2 ^ 8 = a / 2 ^ 8 := by
    rw [Nat.xor_div_two_pow, Nat.div_eq_of_lt byte, Nat.xor_zero]
  omega

end VitaLinux.Base
