import VitaLinux.Cart.PpmFiles
import VitaLinux.Cart.Presentation
import VitaLinux.Toolkit.Fbserve

/-!
# Three views of a frame

The framebuffer, the PPM dump and the bitmap that is served are written by three programs
from one logical picture. They show the same pixels.
-/

namespace VitaLinux.Cart

open VitaLinux.Base Toolkit

/-- The bytes of a little-endian framebuffer. -/
def framebufferBytes (framebuffer : Pixels) : Fbserve.Memory :=
  fun i => byteOf (framebuffer (i / 4)) (8 * (i % 4))

/-- The dump repeats the pixels as the framebuffer does. -/
theorem dumpPpm_raster {low framebuffer : Pixels}
    (upscaled : ∀ y < 720, ∀ x < 1280,
      framebuffer (y * 1280 + x) = low (y / 4 * 320 + x / 4)) :
    dumpPpm low (some .empty) =
      (some { OutFile.empty with
        written := ppmHeader 1280 720 ++
          rasterOf 720 1280 fun y x => framebuffer (y * 1280 + x) }, 0) := by
  have pixels : ((List.range 180).flatMap fun y => (List.range 4).flatMap fun _ =>
      (List.range 320).flatMap fun x => (List.range 4).map fun _ =>
        rgb (low (y * 320 + x))).flatten =
      rasterOf 720 1280 fun y x => framebuffer (y * 1280 + x) := by
    have scaled := rowMajor_scale 180 320 4 fun y x => rgb (framebuffer (y * 1280 + x))
    rw [rasterOf, scaled, List.flatten_eq_flatMap, List.flatMap_assoc]
    refine flatMap_range_congr fun y high => ?_
    rw [List.flatMap_assoc]
    refine flatMap_range_congr fun ky small => ?_
    rw [List.flatMap_assoc]
    refine flatMap_range_congr fun x wide => ?_
    rw [List.flatMap_map]
    refine flatMap_range_congr fun kx narrow => ?_
    have line : (y * 4 + ky) / 4 = y := by omega
    have column : (x * 4 + kx) / 4 = x := by omega
    rw [upscaled _ (by omega) _ (by omega), line, column]
    rfl
  have opened : OutFile.empty.room = none := rfl
  have rows : Scene2dLegacy.LH.toNat = 180 := rfl
  have columns : Scene2dLegacy.LW.toNat = 320 := rfl
  unfold dumpPpm
  simp only
  rw [OutFile.writeEach_open opened, List.flatten_cons, rows, columns, SCALE, pixels]
  have blank : OutFile.empty.written = [] := rfl
  rw [blank, List.nil_append]

/-- The bitmap samples the framebuffer where the logical pixel is. -/
theorem bitmapFile_raster (bitmap : Fbserve.Memory) {low framebuffer : Pixels}
    (upscaled : ∀ y < 720, ∀ x < 1280,
      framebuffer (y * 1280 + x) = low (y / 4 * 320 + x / 4)) :
    Bitmap.raster (Fbserve.bitmapFile bitmap (framebufferBytes framebuffer)) =
      rasterOf 180 320 fun y x => low (y * 320 + x) := by
  obtain ⟨-, width, height, -⟩ :=
    Fbserve.bitmapFile_sizes bitmap (framebufferBytes framebuffer)
  unfold Bitmap.raster rasterOf
  rw [width, height]
  refine rowMajor_congr fun y high x wide => ?_
  rw [Fbserve.bitmapFile_pixel bitmap _ high wide]
  have sample : framebuffer ((y * 4) * 1280 + x * 4) = low (y * 320 + x) := by
    have line : y * 4 / 4 = y := by omega
    have column : x * 4 / 4 = x := by omega
    rw [upscaled _ (by omega) _ (by omega), line, column]
  have byte : ∀ c < 4, framebufferBytes framebuffer (((y * 4) * 1280 + x * 4) * 4 + c) =
      byteOf (low (y * 320 + x)) (8 * c) := by
    intro c small
    have cell : (((y * 4) * 1280 + x * 4) * 4 + c) / 4 = (y * 4) * 1280 + x * 4 := by omega
    have part : (((y * 4) * 1280 + x * 4) * 4 + c) % 4 = c := by omega
    rw [framebufferBytes, cell, part, sample]
  have red := byte 0 (by decide)
  have green := byte 1 (by decide)
  have blue := byte 2 (by decide)
  simp only [Fbserve.SCALE, Fbserve.FB_WIDTH, Fbserve.FB_BPP, rgb]
  rw [green, blue]
  exact congrArg₂ _ red rfl

/-- **All views of a frame agree**: the framebuffer repeats every logical pixel, whatever it
held before; the dump has the pixels of the framebuffer; and the bitmap read off the
framebuffer has those of the logical picture. -/
theorem views_agree (low framebuffer row : Pixels) (bitmap : Fbserve.Memory) :
    let shown := (cartPresentationUpscale framebuffer low row).1
    let served := Fbserve.bitmapFile bitmap (framebufferBytes shown)
    (∀ y < 720, ∀ x < 1280, shown (y * 1280 + x) = low (y / 4 * 320 + x / 4)) ∧
      (∃ file, dumpPpm low (some .empty) = (some file, 0) ∧
        FlashCheck.Ppm 1280 720 (rasterOf 720 1280 fun y x => shown (y * 1280 + x))
          file.written) ∧
      Bitmap.WellFormed served ∧ Bitmap.offset served = 54 ∧ Bitmap.width served = 320 ∧
      Bitmap.height served = 180 ∧
      Bitmap.raster served = rasterOf 180 320 fun y x => low (y * 320 + x) := by
  intro shown served
  have upscaled : ∀ y < 720, ∀ x < 1280, shown (y * 1280 + x) = low (y / 4 * 320 + x / 4) :=
    fun y high x wide => upscale_pixel framebuffer low row high wide
  obtain ⟨offset, width, height, -⟩ :=
    Fbserve.bitmapFile_sizes bitmap (framebufferBytes shown)
  refine ⟨upscaled, ⟨_, dumpPpm_raster upscaled, ?_⟩, Fbserve.bitmapFile_wellFormed _ _, offset,
    width, height, bitmapFile_raster bitmap upscaled⟩
  exact ppm_header (by decide) (by decide) _

end VitaLinux.Cart
