import Mathlib.Tactic.Ring
import VitaLinux.Base.Bits
import VitaLinux.Cart.SceneArithmetic

/-!
# The frame counter wraps where nobody sees it

The row passes are given the frame number modulo 65536. Every scene has that period:
the phase enters a sine modulo 2048, or is shifted by four bits and masked to three. So
the row pass draws what the formulas of the scenes (`Formula`) give over the integers, for
the frame number itself.
-/

namespace VitaLinux.Cart

open VitaLinux.Base Scene2dLegacy

theorem land_2047 (x : Int) : Int.land x 2047 = x % 2048 := land_mask x 11

theorem si_period (sins : SineTable) (x k : Int) : si sins (x + 2048 * k) = si sins x := by
  rw [si, si, land_2047, land_2047, Int.add_mul_emod_self_left]

/-- A multiple of 128 more changes nothing in bits 4 to 6. -/
theorem mask_shift_period (x k : Int) :
    Int.land ((x + 128 * k) >>> (4 : Nat)) 7 = Int.land (x >>> (4 : Nat)) 7 := by
  have mask (y : Int) : Int.land y 7 = y % 8 := land_mask y 3
  have shift (y : Int) : y >>> (4 : Nat) = y / 16 := Int.shiftRight_eq_div_pow y 4
  rw [mask, mask, shift, shift]
  omega

/-! ## The formulas over the integers -/

namespace Formula

variable (sins : SineTable) (t x y : Int)

/-- The sine at a number of steps, which come round after 2048. -/
def sine (x : Int) : Int := sins.value ⟨(x % 2048).toNat, by omega⟩

def candy : U32 :=
  let dx := x - 160
  let dy := y - 90
  let d := (dx * dx + dy * dy) / 16
  let warp := sine sins ((x * 9 + t * 11) % 2048) + sine sins ((y * 13 - t * 7) % 2048)
  let band := (d + warp / 128 - t * 8) / 16 % 8
  mix (PAL (band.tmod 5)) (PAL ((band + 1).tmod 5)) ((sine sins (d * 5 + t * 17) + 1024) / 8)

def checker : U32 :=
  let yy := y + sine sins (x * 10 + t * 14) / 256
  let xx := x + sine sins (y * 13 - t * 9) / 256
  let q := Int.land (Int.xor (xx / 8) (yy / 8)) 1
  let glow := (sine sins (x * 6 + y * 8 + t * 12) + 1024) / 16
  mix (if q ≠ 0 then PAL 0 else PAL 4) (if q ≠ 0 then PAL 2 else PAL 5) glow

def field : Int :=
  (intRange 0 7).foldl (fun field i =>
    let dx := x - (160 + sine sins (t * (7 + i) + i * 273) * (45 + i * 5) / 1024)
    let dy := y - (90 + sine sins (t * (9 + i) + i * 411) * (28 + i * 4) / 1024)
    field + (9000 + i * 700).tdiv (18 + dx * dx + dy * dy)) 0

def bubbles : U32 :=
  let wave := (sine sins (x * 8 - y * 6 + t * 18) + 1024) / 32
  if 22 < field sins t x y then mix (PAL 1) (PAL 5) (Int.land (field sins t x y * 9 + wave) 255)
  else mix (PAL 8) (PAL 6) wave

def ribbons : U32 :=
  let wave := 90 + sine sins (x * 12 + t * 13) / 32
  let wave2 := 90 + sine sins (x * 9 - t * 17 + 500) / 16
  let d1 := Scene2dLegacy.abs (y - wave)
  let d2 := Scene2dLegacy.abs (y - wave2)
  let base := mix (PAL 3) (PAL 1) ((y * 255).tdiv LH)
  let base := if d1 < 8 then mix (PAL 0) (PAL 2) (d1 * 30) else base
  if d2 < 5 then mix (PAL 6) (PAL 2) (d2 * 45) else base

def chrome : U32 :=
  if y < 95 then
    mix (PAL 8) (PAL 0) ((sine sins (x * 5 + y * 4) + 1024) / 16)
  else
    let z := y - 94
    let horizon := Int.land (z * 13) 31 < 2
    let van := ((x - 160) * 90).tdiv (z + 8)
    let vertical := (Scene2dLegacy.abs van).tmod 42 < 2
    if horizon ∨ vertical then PAL 2 else mix (PAL 6) (PAL 8) z

def sugar : U32 :=
  let a := sine sins (x * 10 + t * 13)
  let b := sine sins (y * 14 - t * 9)
  let c := sine sins ((x + y) * 7 + t * 5)
  let v := (a + b + c + 3072).tdiv 12
  let stripe := Int.land ((x + y + sine sins (t * 17 + x * 3) / 128) / 8) 3
  mix (PAL ((stripe + 0).tmod 5)) (PAL ((stripe + 2).tmod 5)) (Int.land v 255)

/-- The pixel of a built-in scene. -/
def pixel (which : Int) : U32 :=
  if which = 0 then candy sins t x y
  else if which = 1 then checker sins t x y
  else if which = 2 then bubbles sins t x y
  else if which = 3 then ribbons sins t x y
  else if which = 4 then chrome sins x y
  else sugar sins t x y

theorem si_eq_sine : si sins = sine sins := by
  funext x
  have index : Fin.ofNat 2048 (x % 2048).toNat = ⟨(x % 2048).toNat, by omega⟩ :=
    Fin.ext (Nat.mod_eq_of_lt (by omega))
  rw [si, sine, land_2047, index]

/-- On `int` values the source's operators are those of the formulas. -/
theorem scenePixel_eq (which : Int) :
    scenePixel sins mix which t x y = pixel sins t x y which := by
  have mask (z : Int) : Int.land z 7 = z % 8 := land_mask z 3
  have shift (z : Int) (n : Nat) : z >>> n = z / 2 ^ n := Int.shiftRight_eq_div_pow z n
  simp only [scenePixel, pixel]
  split
  · simp only [sceneCandy, candy, si_eq_sine, land_2047, mask, shift]
    rfl
  split
  · simp only [sceneChecker, checker, si_eq_sine, shift]
    rfl
  split
  · simp only [sceneBubbles, bubbles, bubbleField, field, bubbleX, bubbleY, si_eq_sine, shift]
    rfl
  split
  · simp only [sceneRibbons, ribbons, si_eq_sine, shift]
    rfl
  split
  · simp only [sceneChrome, chrome, si_eq_sine, shift]
    rfl
  · simp only [sceneSugar, sugar, si_eq_sine, shift]
    rfl

end Formula

section Scenes

variable (sins : SineTable) (mix : U32 → U32 → Int → U32) (t k x y : Int)

theorem sceneCandy_period :
    sceneCandy sins mix (t + 65536 * k) x y = sceneCandy sins mix t x y := by
  have first : x * 9 + (t + 65536 * k) * 11 = x * 9 + t * 11 + 2048 * (352 * k) := by ring
  have second : y * 13 - (t + 65536 * k) * 7 = y * 13 - t * 7 + 2048 * (-224 * k) := by ring
  have third (d : Int) : d * 5 + (t + 65536 * k) * 17 = d * 5 + t * 17 + 2048 * (544 * k) := by
    ring
  have band (d : Int) : d - (t + 65536 * k) * 8 = d - t * 8 + 128 * (-4096 * k) := by ring
  simp only [sceneCandy, first, second, third, band, land_2047, Int.add_mul_emod_self_left,
    si_period, mask_shift_period]

theorem sceneChecker_period :
    sceneChecker sins mix (t + 65536 * k) x y = sceneChecker sins mix t x y := by
  have first : x * 10 + (t + 65536 * k) * 14 = x * 10 + t * 14 + 2048 * (448 * k) := by ring
  have second : y * 13 - (t + 65536 * k) * 9 = y * 13 - t * 9 + 2048 * (-288 * k) := by ring
  have third : x * 6 + y * 8 + (t + 65536 * k) * 12 =
      x * 6 + y * 8 + t * 12 + 2048 * (384 * k) := by ring
  simp only [sceneChecker, first, second, third, si_period]

theorem bubble_period (i : Int) :
    bubbleX sins (t + 65536 * k) i = bubbleX sins t i ∧
      bubbleY sins (t + 65536 * k) i = bubbleY sins t i := by
  have first : (t + 65536 * k) * (7 + i) + i * 273 =
      t * (7 + i) + i * 273 + 2048 * (32 * k * (7 + i)) := by ring
  have second : (t + 65536 * k) * (9 + i) + i * 411 =
      t * (9 + i) + i * 411 + 2048 * (32 * k * (9 + i)) := by ring
  simp only [bubbleX, bubbleY, first, second, si_period, and_self]

theorem sceneBubbles_period :
    sceneBubbles sins mix (t + 65536 * k) x y = sceneBubbles sins mix t x y := by
  have column (i : Int) := (bubble_period sins t k i).1
  have row (i : Int) := (bubble_period sins t k i).2
  have field : bubbleField sins (t + 65536 * k) x y = bubbleField sins t x y := by
    simp only [bubbleField, column, row]
  have wave : x * 8 - y * 6 + (t + 65536 * k) * 18 =
      x * 8 - y * 6 + t * 18 + 2048 * (576 * k) := by ring
  rw [sceneBubbles, sceneBubbles, field, wave, si_period]

theorem sceneRibbons_period :
    sceneRibbons sins mix (t + 65536 * k) x y = sceneRibbons sins mix t x y := by
  have first : x * 12 + (t + 65536 * k) * 13 = x * 12 + t * 13 + 2048 * (416 * k) := by ring
  have second : x * 9 - (t + 65536 * k) * 17 + 500 =
      x * 9 - t * 17 + 500 + 2048 * (-544 * k) := by ring
  simp only [sceneRibbons, first, second, si_period]

theorem sceneSugar_period :
    sceneSugar sins mix (t + 65536 * k) x y = sceneSugar sins mix t x y := by
  have first : x * 10 + (t + 65536 * k) * 13 = x * 10 + t * 13 + 2048 * (416 * k) := by ring
  have second : y * 14 - (t + 65536 * k) * 9 = y * 14 - t * 9 + 2048 * (-288 * k) := by ring
  have third : (x + y) * 7 + (t + 65536 * k) * 5 = (x + y) * 7 + t * 5 + 2048 * (160 * k) := by
    ring
  have fourth : (t + 65536 * k) * 17 + x * 3 = t * 17 + x * 3 + 2048 * (544 * k) := by ring
  simp only [sceneSugar, first, second, third, fourth, si_period]

/-- 65536 is a period of every scene. -/
theorem scenePixel_period (which : Int) :
    scenePixel sins mix which (t + 65536 * k) x y = scenePixel sins mix which t x y := by
  simp only [scenePixel]
  split
  · exact sceneCandy_period sins mix t k x y
  split
  · exact sceneChecker_period sins mix t k x y
  split
  · exact sceneBubbles_period sins mix t k x y
  split
  · exact sceneRibbons_period sins mix t k x y
  split
  · rfl
  · exact sceneSugar_period sins mix t k x y

end Scenes

theorem scenePixel_phase (sins : SineTable) (mix : U32 → U32 → Int → U32) (which : Int)
    (frame : U64) :
    scenePixel sins mix which (legacyFramePhase frame) = scenePixel sins mix which frame.toNat := by
  have phase : legacyFramePhase frame =
      (frame.toNat : Int) + 65536 * -((frame.toNat : Int) / 65536) := by
    have reduced : (frame % 65536#64).toNat = frame.toNat % 65536 := BitVec.toNat_umod
    rw [legacyFramePhase, reduced]
    omega
  funext x y
  rw [phase, scenePixel_period]

/-- **The frame wrap is invisible.** The row pass of every scene, which reduces the frame
number and computes in `int`, draws the formulas of the scene over the integers at the
frame number itself. -/
theorem frame_wrap_invisible {abi : Abi} (sins : SineTable) (which : Fin 6) (frame : U64)
    (rowStart rowEnd : Int) (low : Pixels) :
    let context := { canvas := lowCanvas abi low, rowStart, rowEnd, frame, phase := .renderRows }
    let drawn := rowPass rowStart rowEnd
      (fun x y => Formula.pixel sins frame.toNat x y (which : Nat)) low
    renderLegacyScene sins context (which : Nat) = lowCanvas abi drawn ∧
      (0 ≤ rowStart ∧ rowEnd ≤ 180 →
        checkedRenderLegacyScene sins context (which : Nat) = some (lowCanvas abi drawn)) := by
  have formula : scenePixel sins mix (which : Nat) (legacyFramePhase frame) =
      fun x y => Formula.pixel sins frame.toNat x y (which : Nat) := by
    rw [scenePixel_phase]
    funext x y
    exact Formula.scenePixel_eq sins _ x y _
  refine ⟨?_, fun band => ?_⟩
  · rw [← formula]
    exact renderLegacyScene_rows sins (which_scene which) low rowStart rowEnd frame
  · rw [← formula]
    exact checkedRender_rows sins which frame band low

/-- Just after the phase has wrapped. -/
theorem frame_wrap_invisible_wrapped :
    checkedRenderLegacyScene highSines
        { canvas := lowCanvas .ilp32 fun _ => 0, rowStart := 0, rowEnd := 180, frame := 65536,
          phase := .renderRows } 0 =
      some (lowCanvas .ilp32
        (rowPass 0 180 (fun x y => Formula.pixel highSines (65536#64).toNat x y 0) fun _ => 0)) :=
  (frame_wrap_invisible highSines 0 65536 0 180 fun _ => 0).2 (by decide)

end VitaLinux.Cart
