import VitaLinux.Base.DeadBand
import VitaLinux.Cart.Input.Source

/-!
# cart/src/input_normalize.c

`int32_t` arithmetic that overflows is undefined in C and wraps here; `int64_t` is `Int`.
-/

namespace VitaLinux.Cart

open Base

def CART_INPUT_AXIS_INVALID : Int := -2147483648

/-- `cart_input_axis_normalize`, given a range. -/
def axisNormalize (raw : Int32) (range : CartInputAxisRange) : Int :=
  if range.max ≤ range.min ∨ range.deadzonePct < 0 ∨ 50 < range.deadzonePct then
    CART_INPUT_AXIS_INVALID
  else
    let clamped := raw.toInt
    let clamped := if clamped < range.min.toInt then range.min.toInt else clamped
    let clamped := if range.max.toInt < clamped then range.max.toInt else clamped
    let span := range.max - range.min
    let half := (span.toInt * range.deadzonePct.toInt).tdiv 200
    let low := range.min.toInt + (span / 2).toInt - half
    let high := low + 2 * half
    if low ≤ clamped ∧ clamped ≤ high then 0
    else if clamped < low then ((clamped - low) * 100).tdiv (low - range.min.toInt)
    else ((clamped - high) * 100).tdiv (range.max.toInt - high)

namespace CartInputAxisRange

variable (range : CartInputAxisRange)

/-- `max - min`, however large. -/
def span : Int := range.max.toInt - range.min.toInt

/-- Half the width of the dead zone. -/
def half : Int := range.span * range.deadzonePct.toInt / 200

/-- The middle of the dead zone. -/
def center : Int := range.min.toInt + range.span / 2

/-- The dead zone is one that `cart_input_axis_normalize` accepts. -/
def PctValid : Prop := 0 ≤ range.deadzonePct.toInt ∧ range.deadzonePct.toInt ≤ 50

variable {range}

/-- The dead zone takes at most the middle half of the range. -/
theorem half_le (spread : 0 < range.span) (pct : range.PctValid) :
    0 ≤ range.half ∧ range.half ≤ range.span / 4 := by
  have least : 0 ≤ range.span * range.deadzonePct.toInt := mul_nonneg spread.le pct.1
  have most : range.span * range.deadzonePct.toInt ≤ range.span * 50 :=
    mul_le_mul_of_nonneg_left pct.2 spread.le
  simp only [half]
  omega

/-- A range of some width and its dead zone. -/
def band (spread : 0 < range.span) (pct : range.PctValid) : DeadBand where
  min := range.min.toInt
  low := range.center - range.half
  high := range.center + range.half
  max := range.max.toInt
  min_le := by
    have := half_le spread pct
    simp only [center]
    omega
  ordered := by
    have := half_le spread pct
    omega
  le_max := by
    have := half_le spread pct
    simp only [center, span] at *
    omega

end CartInputAxisRange

theorem int32_toInt_sub {a b : Int32} (low : -2147483648 ≤ a.toInt - b.toInt)
    (high : a.toInt - b.toInt ≤ 2147483647) : (a - b).toInt = a.toInt - b.toInt := by
  rw [Int32.toInt_sub, Int.bmod_eq_of_le (by omega) (by omega)]

theorem int32_half {a : Int32} (nonneg : 0 ≤ a.toInt) : (a / 2).toInt = a.toInt / 2 := by
  rw [Int32.toInt_div_of_ne_right a 2 (by decide), show (2 : Int32).toInt = 2 from rfl,
    Int.tdiv_eq_ediv_of_nonneg nonneg]

theorem accepted_of_spread {range : CartInputAxisRange} (spread : 0 < range.span)
    (pct : range.PctValid) :
    ¬ (range.max ≤ range.min ∨ range.deadzonePct < 0 ∨ 50 < range.deadzonePct) := by
  rw [Int32.le_iff_toInt_le, Int32.lt_iff_toInt_lt, Int32.lt_iff_toInt_lt,
    show (0 : Int32).toInt = 0 from rfl, show (50 : Int32).toInt = 50 from rfl]
  simp only [CartInputAxisRange.span, CartInputAxisRange.PctValid] at spread pct
  omega

theorem half_eq {range : CartInputAxisRange} (spread : 0 < range.span) (pct : range.PctValid) :
    (range.span * range.deadzonePct.toInt).tdiv 200 = range.half :=
  Int.tdiv_eq_ediv_of_nonneg (mul_nonneg spread.le pct.1)

section Fits

variable {range : CartInputAxisRange} (spread : 0 < range.span) (pct : range.PctValid)

theorem clamp_eq (raw : Int) :
    (if range.max.toInt < (if raw < range.min.toInt then range.min.toInt else raw) then
      range.max.toInt
    else if raw < range.min.toInt then range.min.toInt else raw) =
      (range.band spread pct).clamp raw := by
  simp only [DeadBand.clamp, CartInputAxisRange.band]
  simp only [CartInputAxisRange.span] at spread
  split <;> split <;> omega

theorem high_eq : (range.band spread pct).low + 2 * range.half = (range.band spread pct).high := by
  simp only [CartInputAxisRange.band]
  omega

/-- On a range whose width fits, the function is the scale of the range's dead band. -/
theorem axisNormalize_eq (fits : range.span ≤ 2147483647) (raw : Int32) :
    axisNormalize raw range =
      (range.band spread pct).level 100 ((range.band spread pct).clamp raw.toInt) := by
  have width : (range.max - range.min).toInt = range.span := int32_toInt_sub
    (by simp only [CartInputAxisRange.span] at spread; omega) fits
  have middle : ((range.max - range.min) / 2).toInt = range.span / 2 := by
    rw [int32_half (by omega), width]
  have low : range.min.toInt + range.span / 2 - range.half = (range.band spread pct).low := rfl
  rw [axisNormalize, if_neg (accepted_of_spread spread pct)]
  simp only [width, middle, half_eq spread pct, low, clamp_eq spread pct, high_eq spread pct]
  rfl

end Fits

/-! ## The curve -/

/-- The shape of the curve over all raw values. -/
structure NormalisationCurve (range : CartInputAxisRange) : Prop where
  monotone : ∀ raw raw' : Int32, raw.toInt ≤ raw'.toInt →
    axisNormalize raw range ≤ axisNormalize raw' range
  dead : ∀ raw : Int32, range.center - range.half ≤ raw.toInt →
    raw.toInt ≤ range.center + range.half → axisNormalize raw range = 0
  bottom : ∀ raw : Int32, raw.toInt ≤ range.min.toInt → axisNormalize raw range = -100
  top : ∀ raw : Int32, range.max.toInt ≤ raw.toInt → axisNormalize raw range = 100
  below : ∀ raw : Int32, raw.toInt < range.center - range.half → axisNormalize raw range ≤ 0
  above : ∀ raw : Int32, range.center + range.half < raw.toInt → 0 ≤ axisNormalize raw range
  mirror : range.span % 2 = 0 → ∀ raw mirrored : Int32, range.min.toInt ≤ raw.toInt →
    raw.toInt ≤ range.max.toInt →
    mirrored.toInt = range.min.toInt + range.max.toInt - raw.toInt →
    axisNormalize mirrored range = -axisNormalize raw range

/-- **The curve of `cart_input_axis_normalize`**, for every range at least two wide whose
width fits an `int32_t` and every dead zone that the function accepts. -/
theorem normalisation_curve {range : CartInputAxisRange}
    (width : 2 ≤ range.span ∧ range.span ≤ 2147483647) (pct : range.PctValid) :
    NormalisationCurve range := by
  have spread : 0 < range.span := by omega
  have half := CartInputAxisRange.half_le spread pct
  have scale : (0 : Int) ≤ 100 := by decide
  have eq (raw : Int32) := axisNormalize_eq spread pct width.2 raw
  have lower : range.min.toInt < range.center - range.half := by
    simp only [CartInputAxisRange.center]
    omega
  have upper : range.center + range.half < range.max.toInt := by
    simp only [CartInputAxisRange.center, CartInputAxisRange.span] at *
    omega
  constructor
  case monotone =>
    intro raw raw' h
    rw [eq, eq]
    exact DeadBand.level_monotone _ scale (DeadBand.clamp_range _ _).1
      (DeadBand.clamp_range _ _).2 (DeadBand.clamp_monotone _ h)
  case dead =>
    intro raw low high
    rw [eq, DeadBand.clamp_of_range _ (lower.le.trans low) (high.trans upper.le)]
    exact DeadBand.level_dead _ low high
  case bottom =>
    intro raw low
    rw [eq, DeadBand.clamp_of_le _ low]
    exact DeadBand.level_min _ lower
  case top =>
    intro raw high
    rw [eq, DeadBand.clamp_of_ge _ high]
    exact DeadBand.level_max _ upper
  case below =>
    intro raw low
    rw [eq]
    exact DeadBand.level_nonpos _ scale (DeadBand.clamp_lt _ low lower)
  case above =>
    intro raw high
    rw [eq]
    exact DeadBand.level_nonneg _ scale (DeadBand.lt_clamp _ high upper)
  case mirror =>
    intro even raw mirrored low high position
    have middle : (range.band spread pct).low - (range.band spread pct).min =
        (range.band spread pct).max - (range.band spread pct).high := by
      simp only [CartInputAxisRange.band, CartInputAxisRange.center, CartInputAxisRange.span] at *
      omega
    have here : (range.band spread pct).clamp raw.toInt = raw.toInt :=
      DeadBand.clamp_of_range _ low high
    have there : (range.band spread pct).clamp mirrored.toInt = mirrored.toInt := by
      apply DeadBand.clamp_of_range
      · simp only [CartInputAxisRange.band]
        omega
      · simp only [CartInputAxisRange.band]
        omega
    rw [eq, eq, here, there, position]
    exact DeadBand.level_mirror _ middle

/-- A stick of 201 positions. -/
def stickRange : CartInputAxisRange := ⟨-100, 100, 15⟩

theorem normalisation_curve_stick :
    (2 ≤ stickRange.span ∧ stickRange.span ≤ 2147483647) ∧ stickRange.PctValid ∧
      NormalisationCurve stickRange :=
  ⟨by decide, ⟨by decide, by decide⟩, normalisation_curve (by decide) ⟨by decide, by decide⟩⟩

end VitaLinux.Cart
