import VitaLinux.Cart.FlashCheck.FailClosed

/-!
# Do both modes of the flash checker enforce the same law?

The video mode passes only when neither the picture nor any cell of the grid has a flash
pair. The PPM mode never looks at cells, so a localized flash passes it unless the mean
of the whole picture flashes too.
-/

namespace VitaLinux.Cart.FlashCheck

open VitaLinux.Base

/-- The frames of a directory of PPM files, all of one size. -/
structure Footage (width height : Nat) where
  rasters : List (List UInt8)
  files : List (List UInt8)
  some : 2 ≤ rasters.length
  coded : List.Forall₂ (Ppm width height) rasters files

section ppm

variable {F : Type} [Zero F] [Add F] [Mul F] [Div F] [NatCast F] [OfScientific F] [LE F]
  [DecidableLE F] [Python F]

/-- The luminance of the whole picture in frame after frame. -/
def ppmSeries (rasters : List (List UInt8)) : List F := rasters.filterMap ppmLuminance

theorem ppmLuminance_some {width height : Nat} {raster data : List UInt8}
    (ppm : Ppm width height raster data) : ∃ luminance : F, ppmLuminance raster = some luminance := by
  cases ppm with
  | file wide high whole first second third blank =>
    have area : 0 < width * height := Nat.mul_pos wide high
    unfold ppmLuminance
    simp only
    rw [if_neg (by omega)]
    exact ⟨_, rfl⟩

/-- Well-formed files are read and analysed as the frames that they hold. -/
theorem mapM_ppmFrame {width height : Nat} {rasters files : List (List UInt8)}
    (coded : List.Forall₂ (Ppm width height) rasters files) :
    files.mapM ppmFrame = (.ok (ppmSeries rasters) : Except Stop (List F)) := by
  induction coded with
  | nil => rfl
  | @cons raster data rasters files ppm _ ih =>
    obtain ⟨luminance, shown⟩ := ppmLuminance_some (F := F) ppm
    have frame : ppmFrame data = (.ok luminance : Except Stop F) := by
      unfold ppmFrame
      simp only [readPpm_ppm ppm, bind, Except.bind, shown]
      rfl
    unfold ppmSeries
    rw [List.mapM_cons, frame, ih, List.filterMap_cons_some shown]
    rfl

variable [Sub F] [Neg F] [BEq F] [LT F] [DecidableLT F] [Rounds F]

/-- The PPM mode looks at the whole picture only. -/
theorem ppmRun_clean (o : Options F) {width height : Nat} (footage : Footage width height) :
    status (ppmRun o footage.files) = 0 ↔ Clean (ppmSeries footage.rasters : List F) := by
  have enough : ¬ footage.files.length < 2 := by
    rw [← footage.coded.length_eq]
    exact Nat.not_lt.mpr footage.some
  unfold ppmRun
  rw [if_neg enough, mapM_ppmFrame footage.coded]
  change verdict (worst (analyse (ppmSeries footage.rasters) (o.fpsOr 30.0) "global") []) = 0 ↔ _
  rw [verdict_eq_zero_iff, List.forall_mem_singleton, analyse_clean_iff]

/-- The PPM mode enforces the law of the video mode exactly when a flash in a cell is also one
of the whole picture. -/
theorem same_law_iff (decode : UInt8 → Nat) {o : Options F} (footage : Footage o.cols o.rows) :
    ((status (ppmRun o footage.files) = 0 →
        LocallyClean o (footage.rasters.map fun raster => raster.map decode)) ↔
      LocallyClean o (footage.rasters.map fun raster => raster.map decode) ∨
        ∃ p ∈ adjacent (ppmSeries footage.rasters : List F), isFlashPair p.1 p.2 = true) ∧
    ∀ c : Capture F, (readFrames o.frameBytes c.ffmpeg.stdout).map values16 =
        footage.rasters.map (fun raster => raster.map decode) →
      exitStatus (videoRun o c) = some 0 →
      LocallyClean o (footage.rasters.map fun raster => raster.map decode) := by
  constructor
  · rw [ppmRun_clean, imp_iff_not_or, or_comm]
    apply or_congr_right
    unfold Clean
    push Not
    simp only [ne_eq, Bool.not_eq_false]
  · intro c shown passed
    rw [← shown]
    obtain ⟨-, -, -, -, -, clean⟩ := (videoRun_passes o c).mp passed
    exact clean

end ppm

/-- Rationals with the powers of 0 and 1 only: enough for black and white. -/
@[reducible] def blackWhite : Python ℚ where
  power x _ := x
  walk := List.dedup

/-- A file of 4x4 pixels. -/
def file4 (raster : List UInt8) : List UInt8 :=
  [80, 54] ++ ([10, 52] ++ ([32, 52] ++ ([10, 50, 53, 53] ++ 10 :: raster)))

theorem file4_ppm {raster : List UInt8} (whole : raster.length = 48) :
    Ppm 4 4 raster (file4 raster) := by
  have four : Numeral 4 [52] := ⟨List.cons_ne_nil _ _, by decide +kernel, by decide +kernel⟩
  have most : Numeral 255 [50, 53, 53] :=
    ⟨List.cons_ne_nil _ _, by decide +kernel, by decide +kernel⟩
  exact .file (by decide) (by decide) whole (.field rfl .nil four) (.field rfl .nil four)
    (.field rfl .nil most) rfl

/-- Two frames of 4x4 pixels. -/
def footage4 (first second : List UInt8) (h : first.length = 48) (k : second.length = 48) :
    Footage 4 4 where
  rasters := [first, second]
  files := [file4 first, file4 second]
  some := le_refl 2
  coded := .cons (file4_ppm h) (.cons (file4_ppm k) .nil)

def options4 : Options ℚ := { fps := none, cols := 4, rows := 4, grid := 4 }

/-- Linear light of black and white, in 16 bits. -/
def decode16 (value : UInt8) : Nat := 257 * value.toNat

theorem same_law_iff_flash :
    let footage := footage4 (List.replicate 48 0) (List.replicate 48 255) rfl rfl
    letI := blackWhite
    status (ppmRun options4 footage.files) = 0 →
      LocallyClean options4 (footage.rasters.map fun raster => raster.map decode16) := by
  intro footage
  let _ := blackWhite
  have flash : ∃ p ∈ adjacent (ppmSeries footage.rasters : List ℚ),
      isFlashPair p.1 p.2 = true := by
    decide +kernel
  exact (same_law_iff decode16 (o := options4) footage).1.mpr (Or.inr flash)

/-- One pixel of sixteen turns from black to white, and the PPM mode passes. -/
theorem localized_flash_passes :
    let footage := footage4 (List.replicate 48 0) ([255, 255, 255] ++ List.replicate 45 0) rfl rfl
    letI := blackWhite
    status (ppmRun options4 footage.files) = 0 ∧
      ¬ LocallyClean options4 (footage.rasters.map fun raster => raster.map decode16) := by
  intro footage
  refine ⟨by decide +kernel, ?_⟩
  intro clean
  have cell := clean 0 (by decide)
  unfold Clean at cell
  revert cell
  decide +kernel

end VitaLinux.Cart.FlashCheck
