import VitaLinux.Base.SignedArithmetic
import VitaLinux.Cart.Input.Discovery
import VitaLinux.Cart.InputNormalize

/-!
# The arithmetic of an axis

The calibration and the normalisation of an axis once more, with C's undefined cases:
an `int32_t` or `int64_t` result that does not fit, and a division by zero.
-/

namespace VitaLinux.Cart

open Base

def int32 (v : Int32) : Signed 32 := .ofInt v.toInt

/-- The calibration in `probe_snapshot_axes`. -/
def checkedDeadzone (info : AbsInfo) : Option Int := do
  let span ← (int32 info.maximum - int32 info.minimum).eval
  let pct := int32 CART_INPUT_DEFAULT_DEADZONE_PCT
  let flat := int32 info.flat
  if (← Signed.lt 0 span) && (← Signed.lt 0 flat) then
    let suggested ← (flat * 200 / span).eval
    if (← pct.lt suggested) && (← suggested.le 50) then suggested.value else pct.value
  else pct.value

/-- `cart_input_axis_normalize` -/
def checkedNormalize (raw : Int32) (range : CartInputAxisRange) : Option Int :=
  if range.max ≤ range.min ∨ range.deadzonePct < 0 ∨ 50 < range.deadzonePct then
    some CART_INPUT_AXIS_INVALID
  else do
    let min := (int32 range.min).cast 64
    let max := (int32 range.max).cast 64
    let clamped := (int32 raw).cast 64
    let clamped := if ← clamped.lt min then min else clamped
    let clamped := if ← max.lt clamped then max else clamped
    let span ← (int32 range.max - int32 range.min).eval
    let half ← (span.cast 64 * (int32 range.deadzonePct).cast 64 / 200).eval
    let low ← (min + (span / 2).cast 64 - half).eval
    let high ← (low + 2 * half).eval
    if (← low.le clamped) && (← clamped.le high) then some 0
    else if ← clamped.lt low then (((clamped - low) * 100 / (low - min)).cast 32).value
    else (((clamped - high) * 100 / (max - high)).cast 32).value

/-- The range that `probe_snapshot_axes` stores for an axis. -/
def AbsInfo.calibrated (info : AbsInfo) : CartInputAxisRange :=
  ⟨info.minimum, info.maximum, snapshotDeadzone info⟩

/-- Calibrating an axis and normalising a raw value are defined, the dead zone is
between 15 and 50 per cent and the value between -100 and 100, unless there is none. -/
structure AxisSafe (info : AbsInfo) (raw : Int32) : Prop where
  calibration : checkedDeadzone info = some (snapshotDeadzone info).toInt
  deadzone : 15 ≤ (snapshotDeadzone info).toInt ∧ (snapshotDeadzone info).toInt ≤ 50
  normalisation : checkedNormalize raw info.calibrated =
    some (axisNormalize raw info.calibrated)
  level : axisNormalize raw info.calibrated = CART_INPUT_AXIS_INVALID ∨
    (-100 ≤ axisNormalize raw info.calibrated ∧ axisNormalize raw info.calibrated ≤ 100)

/-- The width of the range fits, and so does the flat zone of a range that has one. -/
def AbsInfo.Moderate (info : AbsInfo) : Prop :=
  FitsSigned 32 (info.maximum.toInt - info.minimum.toInt) ∧
    (info.minimum.toInt < info.maximum.toInt → 0 < info.flat.toInt →
      FitsSigned 32 (info.flat.toInt * 200))

theorem int32_has (v : Int32) : (int32 v).Has v.toInt (-2147483648) 2147483647 :=
  .ofInt v.le_toInt v.toInt_le

theorem snapshotDeadzone_range (info : AbsInfo) :
    15 ≤ (snapshotDeadzone info).toInt ∧ (snapshotDeadzone info).toInt ≤ 50 := by
  simp only [snapshotDeadzone]
  split
  · split
    case isTrue within =>
      obtain ⟨low, high⟩ := within
      rw [Int32.lt_iff_toInt_lt] at low
      rw [Int32.le_iff_toInt_le] at high
      exact ⟨low.le, high⟩
    case isFalse => decide
  · decide

/-! ## Calibration -/

/-- The suggestion that a flat zone makes, computed without overflow. -/
theorem suggested_value {info : AbsInfo} (moderate : info.Moderate)
    (spread : info.minimum.toInt < info.maximum.toInt) (zone : 0 < info.flat.toInt) :
    ((int32 info.flat * 200) / (int32 info.maximum - int32 info.minimum)).value =
      some (info.flat * 200 / (info.maximum - info.minimum)).toInt := by
  obtain ⟨spanFits, flatFits⟩ := moderate
  have productFits := flatFits spread zone
  have span : (int32 info.maximum - int32 info.minimum).value =
      some (info.maximum.toInt - info.minimum.toInt) := by
    rw [Signed.value_sub (int32_has _).value (int32_has _).value, Signed.fitSigned_eq spanFits]
  have product : (int32 info.flat * 200).value = some (info.flat.toInt * 200) := by
    rw [Signed.value_mul (int32_has _).value (Signed.Has.literal 200).value]
    exact Signed.fitSigned_eq productFits
  have wrappedSpan : (info.maximum - info.minimum).toInt =
      info.maximum.toInt - info.minimum.toInt := by
    rw [fitsSigned_32] at spanFits
    exact int32_toInt_sub spanFits.1 spanFits.2
  have wrappedProduct : (info.flat * 200).toInt = info.flat.toInt * 200 := by
    rw [fitsSigned_32] at productFits
    rw [Int32.toInt_mul, show (200 : Int32).toInt = 200 from rfl,
      Int.bmod_eq_of_le (by omega) (by omega)]
  have divisor : info.maximum - info.minimum ≠ -1 := by
    intro same
    rw [same, show (-1 : Int32).toInt = -1 from rfl] at wrappedSpan
    omega
  have least := Int.tdiv_nonneg (show 0 ≤ info.flat.toInt * 200 by omega)
    (show 0 ≤ info.maximum.toInt - info.minimum.toInt by omega)
  have most := Int.tdiv_le_self (info.maximum.toInt - info.minimum.toInt)
    (show 0 ≤ info.flat.toInt * 200 by omega)
  rw [Signed.value_div product span (by omega), Int32.toInt_div_of_ne_right _ _ divisor,
    wrappedProduct, wrappedSpan, Signed.fitSigned_eq]
  rw [fitsSigned_32] at productFits ⊢
  omega

/-- A moderate answer of the driver is calibrated without overflow. -/
theorem checkedDeadzone_eq {info : AbsInfo} (moderate : info.Moderate) :
    checkedDeadzone info = some (snapshotDeadzone info).toInt := by
  have zero : (0 : Signed 32).value = some 0 := (Signed.Has.literal 0).value
  have fifty : (50 : Signed 32).value = some 50 := (Signed.Has.literal 50).value
  have flat := (int32_has info.flat).value
  have pct : (int32 CART_INPUT_DEFAULT_DEADZONE_PCT).value = some 15 := (int32_has _).value
  have span : (int32 info.maximum - int32 info.minimum).value =
      some (info.maximum.toInt - info.minimum.toInt) := by
    rw [Signed.value_sub (int32_has _).value (int32_has _).value,
      Signed.fitSigned_eq moderate.1]
  have wrapped : (info.maximum - info.minimum).toInt =
      info.maximum.toInt - info.minimum.toInt := by
    have spanFits := fitsSigned_32.mp moderate.1
    exact int32_toInt_sub spanFits.1 spanFits.2
  rw [checkedDeadzone, Signed.eval_eq span]
  simp only [Signed.lt_eq zero span, Signed.lt_eq zero flat, Option.bind_eq_bind,
    Option.bind_some, pct, snapshotDeadzone, Int32.lt_iff_toInt_lt, wrapped, Bool.and_eq_true,
    decide_eq_true_eq, show (0 : Int32).toInt = 0 from rfl]
  by_cases zone : 0 < info.maximum.toInt - info.minimum.toInt ∧ 0 < info.flat.toInt
  · have suggested := suggested_value moderate (by omega) zone.2
    rw [if_pos zone, if_pos zone]
    simp only [Signed.eval_eq suggested, Signed.lt_eq pct suggested, Signed.le_eq suggested fifty,
      Option.bind_some, suggested, decide_eq_true_eq, Int32.le_iff_toInt_le,
      show CART_INPUT_DEFAULT_DEADZONE_PCT.toInt = 15 from rfl,
      show (50 : Int32).toInt = 50 from rfl]
    split
    · rfl
    · rfl
  · rw [if_neg zone, if_neg zone]
    rfl

/-- What is calibrated without overflow came from a moderate answer. -/
theorem moderate_of_checkedDeadzone {info : AbsInfo} {pct : Int}
    (h : checkedDeadzone info = some pct) : info.Moderate := by
  have maximum := (int32_has info.maximum).value
  have minimum := (int32_has info.minimum).value
  have flat := (int32_has info.flat).value
  have zero : (0 : Signed 32).value = some 0 := (Signed.Has.literal 0).value
  rw [checkedDeadzone] at h
  obtain ⟨v, defined⟩ := Signed.value_of_eval_bind h
  have spanFits : FitsSigned 32 (info.maximum.toInt - info.minimum.toInt) := by
    rw [Signed.value_sub maximum minimum] at defined
    exact Signed.fits_of_value defined
  have span : (int32 info.maximum - int32 info.minimum).value =
      some (info.maximum.toInt - info.minimum.toInt) := by
    rw [Signed.value_sub maximum minimum, Signed.fitSigned_eq spanFits]
  refine ⟨spanFits, fun spread zone => ?_⟩
  rw [Signed.eval_eq span] at h
  simp only [Signed.lt_eq zero span, Signed.lt_eq zero flat, Option.bind_eq_bind,
    Option.bind_some, Bool.and_eq_true, decide_eq_true_eq] at h
  rw [if_pos ⟨by omega, zone⟩] at h
  obtain ⟨suggested, defined⟩ := Signed.value_of_eval_bind h
  obtain ⟨product, defined⟩ := Signed.dividend_of_value defined
  rw [Signed.value_mul flat (Signed.Has.literal 200).value] at defined
  exact Signed.fits_of_value defined

/-! ## Normalisation -/

/-- On a range whose width fits, nothing overflows and no divisor is zero. -/
theorem checkedNormalize_eq {range : CartInputAxisRange} (spread : 0 < range.span)
    (pct : range.PctValid) (fits : range.span ≤ 2147483647) (raw : Int32) :
    checkedNormalize raw range = some (axisNormalize raw range) := by
  have min64 := (int32_has range.min).cast 64
  have max64 := (int32_has range.max).cast 64
  have raw64 := (int32_has raw).cast 64
  have clamped := Signed.Has.ite (raw.toInt < range.min.toInt) min64 raw64
  have clamped' := (Signed.Has.ite _ max64 clamped).congr (clamp_eq spread pct raw.toInt)
  have difference : (int32 range.max - int32 range.min).value = some range.span := by
    rw [Signed.value_sub (int32_has _).value (int32_has _).value]
    refine Signed.fitSigned_eq (fitsSigned_32.mpr ⟨?_, fits⟩)
    simp only [CartInputAxisRange.span] at spread
    omega
  have span : (int32 range.max - int32 range.min).Has range.span 1 2147483647 :=
    ⟨fun _ => ⟨difference, fitsSigned_32.mpr ⟨by omega, fits⟩, spread, fits⟩⟩
  have percent : ((int32 range.deadzonePct).cast 64).Has range.deadzonePct.toInt 0 50 :=
    ((int32_has _).cast 64).within pct.1 pct.2
  have half := (((span.cast 64).mul percent).div (.literal 200)).congr
    (half_eq spread pct)
  have middle := (span.div (.literal 2)).congr (u := range.span / 2)
    (Int.tdiv_eq_ediv_of_nonneg spread.le)
  have low := ((min64.add (middle.cast 64)).sub half).congr
    (u := (range.band spread pct).low) rfl
  have high := (low.add ((Signed.Has.literal 2).mul half)).congr (high_eq spread pct)
  have bound := DeadBand.level_range (range.band spread pct) (show (0 : Int) ≤ 100 by decide)
    (DeadBand.clamp_range _ raw.toInt).1 (DeadBand.clamp_range _ raw.toInt).2
  rw [checkedNormalize, if_neg (accepted_of_spread spread pct), axisNormalize_eq spread pct fits]
  simp only [Signed.lt_eq raw64.value min64.value, Signed.lt_eq max64.value clamped.value,
    Signed.eval_eq span.value, Signed.eval_eq half.value, Signed.eval_eq low.value,
    Signed.eval_eq high.value, Signed.le_eq low.value clamped'.value,
    Signed.le_eq clamped'.value high.value, Signed.lt_eq clamped'.value low.value,
    Option.bind_eq_bind, Option.bind_some]
  rw [← Bool.decide_and]
  by_cases dead : (range.band spread pct).low ≤ (range.band spread pct).clamp raw.toInt ∧
      (range.band spread pct).clamp raw.toInt ≤ (range.band spread pct).high
  · rw [if_pos (decide_eq_true dead), DeadBand.level_dead _ dead.1 dead.2]
  · rw [if_neg (mt of_decide_eq_true dead)]
    have inside := DeadBand.clamp_range (range.band spread pct) raw.toInt
    by_cases below : (range.band spread pct).clamp raw.toInt < (range.band spread pct).low
    · rw [if_pos (decide_eq_true below)]
      rw [DeadBand.level_below _ below] at bound ⊢
      have divisor : (range.band spread pct).low - (range.band spread pct).min ≠ 0 := by omega
      have quotient := ((clamped'.sub low).mul (.literal 100)).div_of_bounds (low.sub min64)
        divisor bound.1 bound.2
      exact (quotient.cast 32).value
    · rw [if_neg (mt of_decide_eq_true below)]
      have above : (range.band spread pct).high < (range.band spread pct).clamp raw.toInt := by
        omega
      rw [DeadBand.level_above _ above] at bound ⊢
      have divisor : (range.band spread pct).max - (range.band spread pct).high ≠ 0 := by omega
      have quotient := ((clamped'.sub high).mul (.literal 100)).div_of_bounds (max64.sub high)
        divisor bound.1 bound.2
      exact (quotient.cast 32).value

/-- **An axis is calibrated and normalised without overflow exactly when the driver's
answer is moderate**, whatever raw value comes later. -/
theorem axis_safe_iff (info : AbsInfo) (raw : Int32) : AxisSafe info raw ↔ info.Moderate := by
  constructor
  · intro safe
    exact moderate_of_checkedDeadzone safe.calibration
  · intro moderate
    have zone := snapshotDeadzone_range info
    by_cases spread : 0 < info.calibrated.span
    · have pct : info.calibrated.PctValid := ⟨le_trans (by decide) zone.1, zone.2⟩
      have fits : info.calibrated.span ≤ 2147483647 := (fitsSigned_32.mp moderate.1).2
      refine ⟨checkedDeadzone_eq moderate, zone, checkedNormalize_eq spread pct fits raw, .inr ?_⟩
      rw [axisNormalize_eq spread pct fits]
      have inside := DeadBand.clamp_range (info.calibrated.band spread pct) raw.toInt
      exact DeadBand.level_range _ (by decide) inside.1 inside.2
    · have refused : info.calibrated.max ≤ info.calibrated.min ∨
          info.calibrated.deadzonePct < 0 ∨ 50 < info.calibrated.deadzonePct := by
        rw [CartInputAxisRange.span] at spread
        rw [Int32.le_iff_toInt_le]
        omega
      have absent : axisNormalize raw info.calibrated = CART_INPUT_AXIS_INVALID := if_pos refused
      refine ⟨checkedDeadzone_eq moderate, zone, ?_, .inl absent⟩
      rw [absent]
      exact if_pos refused

/-- The answer of a driver that reports the whole range of an `int32_t`. -/
def fullRange : AbsInfo := ⟨0, -2147483648, 2147483647, 0⟩

/-- A device of the full range overflows the subtraction. -/
theorem full_range_overflows : ¬ ∀ info raw, AxisSafe info raw := by
  intro safe
  have calibration := (safe fullRange 0).calibration
  have undefined : checkedDeadzone fullRange = none := by decide
  rw [undefined] at calibration
  cases calibration

end VitaLinux.Cart
