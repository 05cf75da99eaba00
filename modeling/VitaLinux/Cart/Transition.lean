import VitaLinux.Cart.BandRendering

/-!
# cart/src/transition.c
-/

namespace VitaLinux.Cart

open VitaLinux.Base

def CART_TRANSITION_FRAMES : U64 := 15

def CART_TRANSITION_WEIGHT_MAX : U32 := 256

/-- The fixed-point scale of the eased curve. -/
def FIXED_ONE : U64 := 1024

/-- `struct cart_transition`. The `int` flags only ever hold 0 or 1. -/
structure CartTransition (abi : Abi) where
  fromScene : SizeT abi
  toScene : SizeT abi
  elapsedFrames : U64
  active : Bool
  sourcesReady : Bool
  deriving DecidableEq, Repr

namespace CartTransition

variable {abi : Abi}

/-- `cart_transition_begin`, which overwrites every field. -/
def begin (fromScene toScene : SizeT abi) : CartTransition abi :=
  { fromScene, toScene, elapsedFrames := 0, active := fromScene != toScene, sourcesReady := false }

def advance (transition : CartTransition abi) : CartTransition abi :=
  if !transition.active then transition
  else
    let transition := { transition with elapsedFrames := transition.elapsedFrames + 1 }
    if CART_TRANSITION_FRAMES ≤ transition.elapsedFrames then
      { transition with active := false }
    else transition

def sourcesNeedRender (transition : CartTransition abi) : Bool :=
  transition.active && !transition.sourcesReady

def markSourcesRendered (transition : CartTransition abi) : CartTransition abi :=
  if transition.active then { transition with sourcesReady := true } else transition

end CartTransition

/-- `cart_transition_weight`: smoothstep in 64-bit fixed point, rounded to nearest. -/
def transitionWeight (step : U64) : U32 :=
  if step = 0 then 0
  else if CART_TRANSITION_FRAMES ≤ step then CART_TRANSITION_WEIGHT_MAX
  else
    let t := step * FIXED_ONE / CART_TRANSITION_FRAMES
    let eased := (3 * t * t * FIXED_ONE - 2 * t * t * t) / (FIXED_ONE * FIXED_ONE)
    let eased :=
      (eased * CART_TRANSITION_WEIGHT_MAX.setWidth 64 + FIXED_ONE / 2) / FIXED_ONE
    let eased :=
      if CART_TRANSITION_WEIGHT_MAX.setWidth 64 < eased then
        CART_TRANSITION_WEIGHT_MAX.setWidth 64
      else eased
    eased.setWidth 32

/-- `memcpy` of `count` pixels -/
def copyPixels (destination source : Pixels) (count : Nat) : Pixels :=
  fun index => if index < count then source index else destination index

def transitionBlend (destination source target : Pixels) (count : Nat) (step : U64) : Pixels :=
  let amount := transitionWeight step
  if amount = 0 then copyPixels destination source count
  else if CART_TRANSITION_WEIGHT_MAX ≤ amount then copyPixels destination target count
  else
    (List.range count).foldl (fun destination index =>
      Function.update destination index (cartMix (source index) (target index) amount))
      destination

def blendPixel (source target : U32) (step : U64) : U32 :=
  let amount := transitionWeight step
  if amount = 0 then source
  else if CART_TRANSITION_WEIGHT_MAX ≤ amount then target
  else cartMix source target amount

def blendPicture (source target : Picture) (step : U64) : Picture :=
  fun i => blendPixel (source i) (target i) step

/-- Blending buffers blends the pictures they hold, and does not read the
destination. -/
theorem picture_transitionBlend (destination source target : Pixels) (step : U64) :
    picture (transitionBlend destination source target (320 * 180) step) =
      blendPicture (picture source) (picture target) step := by
  funext i
  simp only [picture, blendPicture, blendPixel, transitionBlend]
  split
  · exact if_pos i.isLt
  split
  · exact if_pos i.isLt
  · have turns := Fills.loop (List.range (320 * 180)) fun index _ =>
      Fills.update index fun i => cartMix (source i) (target i) (transitionWeight step)
    exact (turns destination i).1 ⟨i, List.mem_range.mpr i.isLt, rfl⟩

/-- The curve never falls and stays between the two endpoints. -/
theorem transitionWeight_monotone {step step' : U64} (h : step ≤ step') :
    transitionWeight step ≤ transitionWeight step' ∧
      transitionWeight step' ≤ CART_TRANSITION_WEIGHT_MAX := by
  have early : ∀ n < 15, ∀ m < 15, n ≤ m →
      transitionWeight (BitVec.ofNat 64 n) ≤ transitionWeight (BitVec.ofNat 64 m) ∧
        transitionWeight (BitVec.ofNat 64 m) ≤ CART_TRANSITION_WEIGHT_MAX := by decide +kernel
  have late {s : U64} (hs : CART_TRANSITION_FRAMES ≤ s) :
      transitionWeight s = CART_TRANSITION_WEIGHT_MAX := by
    have positive : s ≠ 0 := by
      rintro rfl
      exact absurd hs (by decide)
    rw [transitionWeight, if_neg positive, if_pos hs]
  have literal {s : U64} (hs : ¬ CART_TRANSITION_FRAMES ≤ s) :
      s.toNat < 15 ∧ s = BitVec.ofNat 64 s.toNat := by
    simp only [CART_TRANSITION_FRAMES, BitVec.le_def, Nat.not_le] at hs
    exact ⟨hs, (BitVec.ofNat_toNat 64 s ▸ by simp)⟩
  by_cases past' : CART_TRANSITION_FRAMES ≤ step'
  · rw [late past']
    refine ⟨?_, BitVec.le_refl _⟩
    by_cases past : CART_TRANSITION_FRAMES ≤ step
    · rw [late past]
      exact BitVec.le_refl _
    · obtain ⟨small, literal⟩ := literal past
      rw [literal]
      exact (early step.toNat small step.toNat small (Nat.le_refl _)).2
  · obtain ⟨small', literal'⟩ := literal past'
    have small : step.toNat < 15 := Nat.lt_of_le_of_lt (BitVec.le_def.mp h) small'
    have both := early step.toNat small step'.toNat small' (BitVec.le_def.mp h)
    rwa [BitVec.ofNat_toNat, BitVec.setWidth_eq, BitVec.ofNat_toNat, BitVec.setWidth_eq] at both

end VitaLinux.Cart
