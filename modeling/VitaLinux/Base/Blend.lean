import Mathlib.Algebra.Order.Ring.Abs
import Mathlib.Algebra.Order.Ring.Int

/-!
# Blending two integers

`mixFloor s a b w` is the point `w` parts out of `s` of the way from `a` to `b`, rounded
down. It goes from `a` to `b` without turning back, and no faster than rounding allows.
-/

namespace VitaLinux.Base

def mixFloor (s a b w : Int) : Int := a + ((b - a) * w) / s

variable {s a b w w' : Int}

theorem mixFloor_zero (s a b : Int) : mixFloor s a b 0 = a := by
  rw [mixFloor, mul_zero, Int.zero_ediv, add_zero]

theorem mixFloor_full (a b : Int) (positive : 0 < s) : mixFloor s a b s = b := by
  rw [mixFloor, Int.mul_ediv_cancel _ positive.ne']
  omega

theorem mixFloor_monotone (positive : 0 < s) (rising : a ≤ b) (h : w ≤ w') :
    mixFloor s a b w ≤ mixFloor s a b w' := by
  have products := mul_le_mul_of_nonneg_left h (sub_nonneg.mpr rising)
  have quotients := Int.ediv_le_ediv positive products
  simp only [mixFloor]
  omega

theorem mixFloor_antitone (positive : 0 < s) (falling : b ≤ a) (h : w ≤ w') :
    mixFloor s a b w' ≤ mixFloor s a b w := by
  have products := mul_le_mul_of_nonpos_left h (sub_nonpos.mpr falling)
  have quotients := Int.ediv_le_ediv positive products
  simp only [mixFloor]
  omega

/-- A blend stays between its ends. -/
theorem mixFloor_between (positive : 0 < s) (low : 0 ≤ w) (high : w ≤ s) :
    min a b ≤ mixFloor s a b w ∧ mixFloor s a b w ≤ max a b := by
  rcases le_total a b with rising | falling
  · have left := mixFloor_monotone positive rising low
    have right := mixFloor_monotone positive rising high
    rw [mixFloor_zero] at left
    rw [mixFloor_full a b positive] at right
    exact ⟨min_le_of_left_le left, le_max_of_le_right right⟩
  · have left := mixFloor_antitone positive falling low
    have right := mixFloor_antitone positive falling high
    rw [mixFloor_zero] at left
    rw [mixFloor_full a b positive] at right
    exact ⟨min_le_of_right_le right, le_max_of_le_left left⟩

/-- Two quotients differ by at most the difference, rounded up. -/
theorem ediv_sub_ediv_le (positive : 0 < s) (x y : Int) :
    y / s - x / s ≤ (y - x + (s - 1)) / s := by
  have above := Int.lt_ediv_add_one_mul_self (y - x + (s - 1)) positive
  have below := Int.lt_ediv_add_one_mul_self x positive
  have quotient : y / s < (y - x + (s - 1)) / s + x / s + 1 := by
    rw [Int.ediv_lt_iff_lt_mul positive]
    rw [add_mul, one_mul] at above below ⊢
    rw [add_mul]
    omega
  omega

/-- A blend moves by at most its share of the distance, rounded up. -/
theorem mixFloor_step (positive : 0 < s) (h : w ≤ w') :
    |mixFloor s a b w' - mixFloor s a b w| ≤ (|b - a| * (w' - w) + (s - 1)) / s := by
  have share : |(b - a) * w' - (b - a) * w| = |b - a| * (w' - w) := by
    rw [← mul_sub, abs_mul, abs_of_nonneg (sub_nonneg.mpr h)]
  have distance : mixFloor s a b w' - mixFloor s a b w =
      (b - a) * w' / s - (b - a) * w / s := by
    simp only [mixFloor]
    omega
  have forwards := ediv_sub_ediv_le positive ((b - a) * w) ((b - a) * w')
  have backwards := ediv_sub_ediv_le positive ((b - a) * w') ((b - a) * w)
  have low := neg_abs_le ((b - a) * w' - (b - a) * w)
  have high := le_abs_self ((b - a) * w' - (b - a) * w)
  rw [share] at low high
  rw [distance, abs_le]
  constructor
  · have rounded := Int.ediv_le_ediv positive (show (b - a) * w - (b - a) * w' + (s - 1) ≤
      |b - a| * (w' - w) + (s - 1) by omega)
    omega
  · have rounded := Int.ediv_le_ediv positive (show (b - a) * w' - (b - a) * w + (s - 1) ≤
      |b - a| * (w' - w) + (s - 1) by omega)
    omega

end VitaLinux.Base
