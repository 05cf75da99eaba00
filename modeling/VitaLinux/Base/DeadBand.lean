import Mathlib.Algebra.Order.Ring.Int

/-!
# A scale with a dead band

Positions between `min` and `max` are put on a scale of `-full` to `full`: 0 in the
band from `low` to `high`, and in proportion on either side of it, with divisions
that truncate.
-/

namespace VitaLinux.Base

structure DeadBand where
  min : Int
  low : Int
  high : Int
  max : Int
  min_le : min ≤ low
  ordered : low ≤ high
  le_max : high ≤ max

namespace DeadBand

variable (band : DeadBand) {full v u : Int}

def level (full v : Int) : Int :=
  if band.low ≤ v ∧ v ≤ band.high then 0
  else if v < band.low then ((v - band.low) * full).tdiv (band.low - band.min)
  else ((v - band.high) * full).tdiv (band.max - band.high)

/-- The nearest position of the scale. -/
def clamp (v : Int) : Int :=
  if v < band.min then band.min else if band.max < v then band.max else v

theorem clamp_range (v : Int) : band.min ≤ band.clamp v ∧ band.clamp v ≤ band.max := by
  have := band.min_le
  have := band.ordered
  have := band.le_max
  simp only [clamp]
  split
  · omega
  · split <;> omega

theorem clamp_of_range (low : band.min ≤ v) (high : v ≤ band.max) : band.clamp v = v := by
  rw [clamp, if_neg (by omega), if_neg (by omega)]

theorem clamp_of_le (h : v ≤ band.min) : band.clamp v = band.min := by
  have := band.min_le
  have := band.ordered
  have := band.le_max
  simp only [clamp]
  split
  · rfl
  · split <;> omega

theorem clamp_of_ge (h : band.max ≤ v) : band.clamp v = band.max := by
  have := band.min_le
  have := band.ordered
  have := band.le_max
  simp only [clamp]
  split
  · omega
  · split <;> omega

/-- A value stays below what both it and the least value are below. -/
theorem clamp_lt (h : v < u) (least : band.min < u) : band.clamp v < u := by
  simp only [clamp]
  split
  · exact least
  · split <;> omega

theorem lt_clamp (h : u < v) (greatest : u < band.max) : u < band.clamp v := by
  simp only [clamp]
  split
  · omega
  · split <;> omega

theorem clamp_monotone (h : v ≤ u) : band.clamp v ≤ band.clamp u := by
  have := band.min_le
  have := band.ordered
  have := band.le_max
  simp only [clamp]
  repeat' split
  all_goals omega

theorem level_dead (low : band.low ≤ v) (high : v ≤ band.high) : band.level full v = 0 :=
  if_pos ⟨low, high⟩

theorem level_below (h : v < band.low) :
    band.level full v = ((v - band.low) * full).tdiv (band.low - band.min) := by
  rw [level, if_neg (by omega), if_pos h]

theorem level_above (h : band.high < v) :
    band.level full v = ((v - band.high) * full).tdiv (band.max - band.high) := by
  have := band.ordered
  rw [level, if_neg (by omega), if_neg (by omega)]

theorem level_min (room : band.min < band.low) : band.level full band.min = -full := by
  have opposite : (band.min - band.low) * full = -full * (band.low - band.min) := by
    rw [neg_mul, mul_comm, ← mul_neg, neg_sub]
  rw [level_below band room, opposite, Int.mul_tdiv_cancel]
  omega

theorem level_max (room : band.high < band.max) : band.level full band.max = full := by
  rw [level_above band room, mul_comm, Int.mul_tdiv_cancel]
  omega

/-- Below the band the scale is not positive. -/
theorem level_nonpos (scale : 0 ≤ full) (h : v < band.low) : band.level full v ≤ 0 := by
  have opposite : 0 ≤ (band.low - v) * full := mul_nonneg (by omega) scale
  have quotient := Int.tdiv_nonneg opposite (sub_nonneg.mpr band.min_le)
  have sign : (v - band.low) * full = -((band.low - v) * full) := by
    rw [← neg_mul, neg_sub]
  rw [level_below band h, sign, Int.neg_tdiv]
  omega

/-- Above the band the scale is not negative. -/
theorem level_nonneg (scale : 0 ≤ full) (h : band.high < v) : 0 ≤ band.level full v := by
  rw [level_above band h]
  exact Int.tdiv_nonneg (mul_nonneg (by omega) scale) (sub_nonneg.mpr band.le_max)

/-- The scale never falls from one position to a higher one. -/
theorem level_monotone (scale : 0 ≤ full) (low : band.min ≤ v) (high : u ≤ band.max) (h : v ≤ u) :
    band.level full v ≤ band.level full u := by
  have := band.ordered
  by_cases below : v < band.low
  · by_cases below' : u < band.low
    · rw [level_below band below, level_below band below']
      exact Int.tdiv_le_tdiv (by omega) (mul_le_mul_of_nonneg_right (by omega) scale)
    · have left := level_nonpos band scale below
      by_cases above' : band.high < u
      · exact left.trans (level_nonneg band scale above')
      · rwa [level_dead band (not_lt.mp below') (not_lt.mp above')]
  · by_cases above : band.high < v
    · rw [level_above band above, level_above band (above.trans_le h)]
      exact Int.tdiv_le_tdiv (by omega) (mul_le_mul_of_nonneg_right (by omega) scale)
    · rw [level_dead band (not_lt.mp below) (not_lt.mp above)]
      by_cases above' : band.high < u
      · exact level_nonneg band scale above'
      · rw [level_dead band (by omega) (not_lt.mp above')]

/-- The scale keeps to its ends. -/
theorem level_range (scale : 0 ≤ full) (low : band.min ≤ v) (high : v ≤ band.max) :
    -full ≤ band.level full v ∧ band.level full v ≤ full := by
  have := band.ordered
  constructor
  · by_cases below : v < band.low
    · have bottom : band.level full band.min = -full := level_min band (by omega)
      exact bottom.ge.trans (level_monotone band scale (le_refl _) high low)
    · by_cases above : band.high < v
      · exact (neg_nonpos.mpr scale).trans (level_nonneg band scale above)
      · rw [level_dead band (not_lt.mp below) (not_lt.mp above)]
        exact neg_nonpos.mpr scale
  · by_cases above : band.high < v
    · have top : band.level full band.max = full := level_max band (by omega)
      exact (level_monotone band scale low (le_refl _) high).trans top.le
    · by_cases below : v < band.low
      · exact (level_nonpos band scale below).trans scale
      · rw [level_dead band (not_lt.mp below) (not_lt.mp above)]
        exact scale

/-- A band in the middle of its range makes the scale symmetric. -/
theorem level_mirror (middle : band.low - band.min = band.max - band.high) :
    band.level full (band.min + band.max - v) = -band.level full v := by
  have := band.ordered
  by_cases below : v < band.low
  · have distance : band.min + band.max - v - band.high = band.low - v := by omega
    have sign : (v - band.low) * full = -((band.low - v) * full) := by
      rw [← neg_mul, neg_sub]
    rw [level_below band below, level_above band (by omega), distance, ← middle, sign,
      Int.neg_tdiv, neg_neg]
  · by_cases above : band.high < v
    · have distance : band.min + band.max - v - band.low = -(v - band.high) := by omega
      rw [level_above band above, level_below band (by omega), distance, middle, neg_mul,
        Int.neg_tdiv]
    · rw [level_dead band (not_lt.mp below) (not_lt.mp above),
        level_dead band (by omega) (by omega), neg_zero]

end DeadBand

end VitaLinux.Base
