import VitaLinux.Toolkit.Dashboard.Overdraw
import VitaLinux.Toolkit.Dashboard.Screens

/-!
# A blank shadow

On a geometry that does not wrap, of three bytes a pixel or more, the shadow that `render_init`
makes takes every screen, however much has been drawn on it.
-/

namespace VitaLinux.Toolkit.Dashboard

open VitaLinux.Base

variable {abi : Abi} {blank r : Renderer abi}

/-- A screen is composed from the frame's geometry, not from its content. -/
theorem drawScreen_geometry (same : r.frame = blank.frame)
    (screen : Nat) (status : DashboardStatus) (input : DashboardInput abi)
    (runtimeMs frames : SizeT abi) :
    drawScreen r screen status input runtimeMs frames =
      drawScreen blank screen status input runtimeMs frames := by
  have width : r.width = blank.width := congrArg Frame.width same
  have height : r.height = blank.height := congrArg Frame.height same
  have stride : r.stride = blank.stride := congrArg Frame.stride same
  simp only [drawScreen, screenRows, width, height, stride]

/-- A blank shadow on which every screen can be drawn. -/
structure Blank (blank : Renderer abi) : Prop where
  sound : blank.frame.Sound
  wide : blank.width.toNat ≤ 2 ^ 26
  high : blank.height.toNat ≤ 2 ^ 26
  zero : ∃ memory, blank.shadow = some memory ∧ ∀ k < blank.frameBytes.toNat, memory k = 0

theorem Blank.narrow (h : Blank blank) : blank.frame.Narrow :=
  ⟨Nat.lt_of_le_of_lt h.wide (by decide), Nat.lt_of_le_of_lt h.high (by decide)⟩

theorem Renderer.drawAll_frame {calls : List DrawCall} (drawn : blank.drawAll calls = some r) :
    r.frame = blank.frame :=
  congrArg Prod.fst (drawAll_kept drawn).1

/-- What is drawn stays in memory, at its size. -/
theorem Blank.holds (empty : Blank blank) {calls : List DrawCall}
    (drawn : blank.drawAll calls = some r) :
    (∃ picture, r.shadow = some picture) ∧ r.frameBytes = blank.frameBytes := by
  obtain ⟨memory, shadow, -⟩ := empty.zero
  obtain ⟨fixed, -⟩ := Renderer.drawAll_kept drawn
  have present : r.shadow.isSome :=
    (congrArg Prod.snd fixed).trans (congrArg Option.isSome shadow)
  exact ⟨Option.isSome_iff_exists.mp present, congrArg (fun fixed => fixed.1.frameBytes) fixed⟩

/-- A screen makes the same calls on the blank shadow and on one that has been drawn on, and
they start with a clear. -/
theorem Blank.calls (empty : Blank blank) {earlier : List DrawCall}
    (drawn : blank.drawAll earlier = some r) {input : DashboardInput abi}
    (bounded : input.Bounded) (screen : Nat) (status : DashboardStatus)
    (runtimeMs frames : SizeT abi) :
    ∃ calls, (∀ call ∈ DrawCall.clear COL_BG :: calls, call.Fits) ∧
      drawScreen blank screen status input runtimeMs frames = some (.clear COL_BG :: calls) ∧
      drawScreen r screen status input runtimeMs frames = some (.clear COL_BG :: calls) := by
  obtain ⟨calls, screen', fits⟩ := drawScreen_fits empty.wide empty.high bounded screen status
    runtimeMs frames
  exact ⟨calls, fits, screen',
    (drawScreen_geometry (Renderer.drawAll_frame drawn) ..).trans screen'⟩

/-- Every screen can be drawn. -/
theorem Blank.drawable (empty : Blank blank) {earlier : List DrawCall}
    (drawn : blank.drawAll earlier = some r) {input : DashboardInput abi}
    (bounded : input.Bounded) (screen : Nat) (status : DashboardStatus)
    (runtimeMs frames : SizeT abi) :
    (drawScreen r screen status input runtimeMs frames).bind r.drawAll ≠ none := by
  obtain ⟨calls, fits, -, screen'⟩ := empty.calls drawn bounded screen status runtimeMs frames
  have sound : r.frame.Sound := Renderer.drawAll_frame drawn ▸ empty.sound
  obtain ⟨after, ends, -⟩ := Renderer.drawAll_ends sound fits
  rw [screen']
  change r.drawAll _ ≠ none
  rw [ends]
  simp

/-- The memory that `render_init` takes is cleared. -/
theorem Renderer.init_zero {malloc : Option (Nat → UInt8)} {width height bpp given : U32}
    {r : Renderer abi} (accepted : Renderer.init malloc width height bpp given = (r, 0)) :
    ∃ memory, r.shadow = some memory ∧ ∀ k < r.frameBytes.toNat, memory k = 0 := by
  unfold Renderer.init at accepted
  dsimp only at accepted
  generalize (if given = 0 then width * (bpp / 8) else given) = stride at accepted
  split at accepted
  · cases accepted
  split at accepted
  · cases accepted
  split at accepted
  · cases accepted
  cases malloc with
  | none => cases accepted
  | some memory =>
    obtain ⟨rfl, -⟩ := Prod.mk.inj accepted
    exact ⟨_, rfl, fun k inside => if_pos inside⟩

theorem Renderer.init_blank {malloc : Option (Nat → UInt8)} {width height bpp given : U32}
    (made : Renderer.init malloc width height bpp given = (blank, 0)) (depth : 24 ≤ bpp.toNat)
    (unwrapped : Unwrapped abi width height bpp given) : Blank blank := by
  obtain ⟨checked, width_eq, height_eq, -⟩ := Renderer.init_checked made
  obtain ⟨row_le, frame_eq, frame_le⟩ := checked.consistent_iff.mpr unwrapped
  have positive : blank.frameBytes.toNat ≠ 0 := fun zero =>
    checked.frame_pos (BitVec.eq_of_toNat_eq zero)
  rw [frame_eq] at positive
  refine ⟨Renderer.init_sound made depth unwrapped, ?_, ?_, Renderer.init_zero made⟩
  · have inRow := (Nat.le_mul_of_pos_right width.toNat (by omega : 0 < bpp.toNat / 8)).trans row_le
    have inFrame := Nat.le_mul_of_pos_right blank.stride.toNat
      (Nat.pos_of_ne_zero (right_ne_zero_of_mul positive))
    rw [width_eq]
    exact inRow.trans (inFrame.trans (frame_eq ▸ frame_le))
  · have inFrame := Nat.le_mul_of_pos_left height.toNat
      (Nat.pos_of_ne_zero (left_ne_zero_of_mul positive))
    rw [height_eq]
    exact inFrame.trans (frame_eq ▸ frame_le)

end VitaLinux.Toolkit.Dashboard
