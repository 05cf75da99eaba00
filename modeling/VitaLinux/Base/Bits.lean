import Mathlib.Data.Int.Bitwise
import Mathlib.Tactic.Positivity

/-!
# Two's complement masks and shifts

Both are division by a power of two, for negative numbers too.
-/

namespace VitaLinux.Base

/-- The low `k` bits of the two's complement, as `x & (2^k - 1)` takes them. -/
theorem land_mask (x : Int) (k : Nat) : Int.land x ((2 ^ k - 1 : Nat) : Int) = x % 2 ^ k := by
  have pos : 0 < 2 ^ k := Nat.two_pow_pos k
  cases x with
  | ofNat m =>
    change ((m &&& (2 ^ k - 1) : Nat) : Int) = (m : Int) % 2 ^ k
    rw [Nat.and_two_pow_sub_one_eq_mod]
    push_cast
    rfl
  | negSucc m =>
    have bits : Nat.ldiff (2 ^ k - 1) m = 2 ^ k - (m % 2 ^ k + 1) := by
      apply Nat.eq_of_testBit_eq
      intro i
      rw [Nat.testBit_ldiff, Nat.testBit_two_pow_sub_one,
        Nat.testBit_two_pow_sub_succ (Nat.mod_lt _ pos), Nat.testBit_mod_two_pow]
      by_cases h : i < k <;> simp [h]
    change ((Nat.ldiff (2 ^ k - 1) m : Nat) : Int) = Int.negSucc m % 2 ^ k
    have small := Nat.mod_lt m pos
    rw [bits, Int.negSucc_emod m (by positivity)]
    push_cast [Nat.sub_sub, show m % 2 ^ k + 1 ≤ 2 ^ k from small]
    omega

theorem land_mask_range (x : Int) (k : Nat) :
    0 ≤ Int.land x ((2 ^ k - 1 : Nat) : Int) ∧ Int.land x ((2 ^ k - 1 : Nat) : Int) < 2 ^ k := by
  rw [land_mask]
  have pos : (0 : Int) < 2 ^ k := by positivity
  exact ⟨Int.emod_nonneg x (by omega), Int.emod_lt_of_pos x pos⟩

/-- `x >> n` is the quotient by `2^n` rounded down. -/
theorem shiftRight_bounds (x : Int) (n : Nat) :
    (x >>> n) * 2 ^ n ≤ x ∧ x < (x >>> n + 1) * 2 ^ n := by
  have pos : (0 : Int) < 2 ^ n := by positivity
  rw [Int.shiftRight_eq_div_pow]
  push_cast
  constructor
  · exact Int.ediv_mul_le x (by omega)
  · exact Int.lt_ediv_add_one_mul_self x pos

end VitaLinux.Base
