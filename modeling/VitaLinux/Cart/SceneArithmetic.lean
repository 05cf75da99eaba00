import VitaLinux.Cart.BandRendering
import VitaLinux.Cart.Scene2dChecked

/-!
# The arithmetic of the row passes stays defined

For a phase below 65536 and a position on the canvas, every expression of a row pass is
bounded, operator by operator, so that none of them is undefined; what is left is the
pixel of the scene.
-/

namespace VitaLinux.Cart

open VitaLinux.Base

theorem checkedChannel_has (color : U32) (shift : Nat) :
    (checkedChannel color shift).Has (channel color shift) 0 255 :=
  .ofInt (channel_range color shift).1 (channel_range color shift).2

theorem checkedCartMix_eq (source target amount : U32) :
    checkedCartMix source target amount = some (cartMix source target amount) := by
  have clipped : 0 ≤ (if 256#32 < amount then 256 else (amount.toNat : Int)) ∧
      (if 256#32 < amount then 256 else (amount.toNat : Int)) ≤ 256 := by
    split
    case isTrue => decide
    case isFalse small =>
      rw [BitVec.lt_def, show (256#32).toNat = 256 from rfl] at small
      omega
  have amount_has := Signed.Has.ofInt (w := 32) clipped.1 clipped.2
  have blend (shift : Nat) := (checkedChannel_has source shift).add
    ((((checkedChannel_has target shift).sub (checkedChannel_has source shift)).mul
      amount_has).shiftRight 8)
  simp only [checkedCartMix, (blend 0).value, (blend 8).value, (blend 16).value,
    Option.bind_eq_bind, Option.bind_some]
  rfl

namespace Scene2dLegacy

theorem checkedPAL_eq {i : CInt} {v : Int} (h : i.Has v 0 9) :
    checkedPAL i = some (PAL v) := by
  have length : (palette.length : Int) = 10 := rfl
  have inside := h.high
  exact Signed.lookup_eq h.value 0 h.low (by omega)

theorem checkedPAL_literal (n : Nat) (inside : n ≤ 9) :
    checkedPAL (OfNat.ofNat n) = some (PAL (OfNat.ofNat n)) := by
  have fits : FitsSigned 32 n := by
    rw [fitsSigned_32]
    omega
  have index := (Signed.Has.literal n).when (decide_eq_true ⟨fits, fits⟩)
  exact checkedPAL_eq (index.within (Int.natCast_nonneg n) (by exact Int.ofNat_le.mpr inside))

theorem PAL_literal {f : U32 → Option U32} (n : Nat) (inside : n ≤ 9) :
    (checkedPAL (OfNat.ofNat n) >>= f) = f (PAL (OfNat.ofNat n)) :=
  Signed.bind_of_some (checkedPAL_literal n inside)

theorem checkedMix_eq (a b : U32) {t : CInt} {v : Int} (h : t.value = some v) :
    checkedMix a b t = some (mix a b v) := by
  simp only [checkedMix, h, Option.bind_eq_bind, Option.bind_some, checkedCartMix_eq, mix]

section Rows

variable (sins : SineTable)

theorem checkedSi_has {x : CInt} {v lo hi : Int} (h : x.Has v lo hi) :
    (checkedSi sins x).Has (si sins v) (-1024) 1024 := by
  have index : (x &&& 2047).Has (Int.land v 2047) 0 2047 := .mask h.value 11 2047
  have low := index.low
  have high := index.high
  have length : (List.ofFn sins.value).length = 2048 := List.length_ofFn
  have inside : (Int.land v 2047).toNat < 2048 := by omega
  have bottom : FitsSigned 32 (-1024) := by decide
  have fits := bottom.between (by decide) (sins.lower (Fin.ofNat 2048 (Int.land v 2047).toNat))
    (sins.upper (Fin.ofNat 2048 (Int.land v 2047).toNat))
  refine ⟨fun _ => ⟨?_, fits, sins.lower _, sins.upper _⟩⟩
  change (x &&& 2047).lookup (List.ofFn sins.value) = _
  rw [Signed.lookup_eq index.value 0 low (by omega), si, List.getD_eq_getElem?_getD,
    List.getElem?_ofFn, dif_pos inside]
  have position : (⟨(Int.land v 2047).toNat, inside⟩ : Fin 2048) =
      Fin.ofNat 2048 (Int.land v 2047).toNat :=
    Fin.ext (Nat.mod_eq_of_lt inside).symm
  rw [← position]
  rfl

section Pixel

variable {t x y : CInt} {f u v : Int}

theorem checkedCandy_eq (ht : t.Has f 0 65535) (hx : x.Has u 0 319) (hy : y.Has v 0 179) :
    checkedCandy sins t x y = some (sceneCandy sins mix f u v) := by
  have dx := hx.sub (.literal 160)
  have dy := hy.sub (.literal 90)
  have d := ((dx.square 160).add (dy.square 90)).shiftRight 4
  have first := Signed.Has.mask ((hx.scale 9).add (ht.scale 11)).value 11 2047
  have second := Signed.Has.mask ((hy.scale 13).sub (ht.scale 7)).value 11 2047
  have warp := (checkedSi_has sins first).add (checkedSi_has sins second)
  have height := (d.add (warp.shiftRight 7)).sub (ht.scale 8)
  have band := Signed.Has.mask (height.shiftRight 4).value 3 7
  have a := checkedPAL_eq (band.rem (.literal 5)).mono
  have b := checkedPAL_eq ((band.add (.literal 1)).rem (.literal 5)).mono
  have shade := ((checkedSi_has sins ((d.scale 5).add (ht.scale 17))).add
    (.literal 1024)).shiftRight 3
  simp only [checkedCandy, Signed.eval_bind dx.value, Signed.eval_bind dy.value,
    Signed.eval_bind d.value, Signed.eval_bind warp.value, Signed.eval_bind band.value,
    Signed.bind_of_some a, Signed.bind_of_some b, checkedMix_eq _ _ shade.value]
  rfl

theorem checkedChecker_eq (ht : t.Has f 0 65535) (hx : x.Has u 0 319) (hy : y.Has v 0 179) :
    checkedChecker sins t x y = some (sceneChecker sins mix f u v) := by
  have yy := hy.add ((checkedSi_has sins
    ((hx.scale 10).add (ht.scale 14))).shiftRight 8)
  have xx := hx.add ((checkedSi_has sins
    ((hy.scale 13).sub (ht.scale 9))).shiftRight 8)
  have q := Signed.Has.mask
    (Signed.value_xor (xx.shiftRight 3).value (yy.shiftRight 3).value) 1 1
  have glow := ((checkedSi_has sins (((hx.scale 6).add (hy.scale 8)).add
    (ht.scale 12))).add (.literal 1024)).shiftRight 4
  have zero := Signed.Has.literal (w := 32) 0
  simp only [checkedChecker, Signed.eval_bind yy.value, Signed.eval_bind xx.value,
    Signed.eval_bind q.value, Signed.eval_bind glow.value, Signed.same_bind q.value zero.value,
    PAL_literal 0 (by decide), PAL_literal 2 (by decide), PAL_literal 4 (by decide),
    PAL_literal 5 (by decide), checkedMix_eq _ _ glow.value, decide_eq_true_eq]
  split
  case isTrue even =>
    rw [sceneChecker]
    simp only [if_neg (not_not.mpr even)]
  case isFalse odd =>
    rw [sceneChecker]
    simp only [if_pos odd]

theorem checkedBubble_has {i : CInt} {k : Int} (ht : t.Has f 0 65535) (hi : i.Has k 0 6) :
    (checkedBubbleX sins t i).Has (bubbleX sins f k) 85 235 ∧
      (checkedBubbleY sins t i).Has (bubbleY sins f k) 38 142 := by
  have first := (ht.mul ((Signed.Has.literal 7).add hi)).add (hi.scale 273)
  have second := (ht.mul ((Signed.Has.literal 9).add hi)).add (hi.scale 411)
  have wide := (Signed.Has.literal 45).add (hi.scale 5)
  have tall := (Signed.Has.literal 28).add (hi.scale 4)
  have column := ((checkedSi_has sins first).mul wide).shiftRight 10
  have row := ((checkedSi_has sins second).mul tall).shiftRight 10
  exact ⟨((Signed.Has.literal 160).add column).mono, ((Signed.Has.literal 90).add row).mono⟩

/-- The entries of `bx` and `by`. -/
def bubbleEntry (t : CInt) (i : Int) : CInt × CInt × CInt :=
  (.ofInt i, checkedBubbleX sins t (.ofInt i), checkedBubbleY sins t (.ofInt i))

theorem checkedBubbles_eq (ht : t.Has f 0 65535) :
    checkedBubbles sins t = some ((intRange 0 7).map (bubbleEntry sins t)) := by
  refine mapM_some fun i mem => ?_
  rw [mem_intRange] at mem
  have index : (Signed.ofInt i : CInt).Has i 0 6 := .ofInt mem.1 (by omega)
  obtain ⟨column, row⟩ := checkedBubble_has sins ht index
  simp only [Signed.eval_bind column.value, Signed.eval_bind row.value]
  rfl

/-- A bubble adds at most 13200 to the field. -/
theorem checkedFieldStep_has (ht : t.Has f 0 65535) (hx : x.Has u 0 319) (hy : y.Has v 0 179)
    {i : Int} (mem : i ∈ intRange 0 7) {e : CInt} {field hi : Int} (he : e.Has field 0 hi)
    (room : hi + 13200 ≤ 1000000) :
    ∃ e', checkedFieldStep x y e (bubbleEntry sins t i) = some e' ∧
      e'.Has (field + (9000 + i * 700).tdiv
        (18 + (u - bubbleX sins f i) * (u - bubbleX sins f i) +
          (v - bubbleY sins f i) * (v - bubbleY sins f i))) 0 (hi + 13200) := by
  rw [mem_intRange] at mem
  have index : (Signed.ofInt i : CInt).Has i 0 6 := .ofInt mem.1 (by omega)
  obtain ⟨column, row⟩ := checkedBubble_has sins ht index
  have dx := hx.sub column
  have dy := hy.sub row
  have distance := ((Signed.Has.literal 18).add (dx.square 235)).add (dy.square 142)
  have share : Signed.Has _ _ 0 13200 :=
    (((Signed.Has.literal 9000).add (index.scale 700)).div distance).mono
  have low := he.low
  have high := he.high
  have room : FitsSigned 32 (hi + 13200) := fitsSigned_32.mpr (by omega)
  have sum := (he.add share).when (decide_eq_true ⟨by decide, room⟩)
  refine ⟨_, ?_, sum⟩
  simp only [checkedFieldStep, bubbleEntry, Signed.eval_bind dx.value, Signed.eval_bind dy.value]
  exact Signed.eval_eq sum.value

theorem checkedBubblePixel_eq (ht : t.Has f 0 65535) (hx : x.Has u 0 319)
    (hy : y.Has v 0 179) :
    checkedBubblePixel sins ((intRange 0 7).map (bubbleEntry sins t)) t x y =
      some (sceneBubbles sins mix f u v) := by
  obtain ⟨e, computed, field⟩ := Signed.Has.accumulate 1000000 (intRange 0 7)
    (fun i mem e field hi he room => checkedFieldStep_has sins ht hx hy mem he room)
    (by decide) (show (0 : CInt).Has 0 0 0 from .literal 0) (by decide)
  have wave := ((checkedSi_has sins (((hx.scale 8).sub (hy.scale 6)).add (ht.scale 18))).add
    (.literal 1024)).shiftRight 5
  have shade := Signed.Has.mask ((field.scale 9).add wave).value 8 255
  have threshold := Signed.Has.literal (w := 32) 22
  rw [checkedBubblePixel, List.foldlM_map, Signed.bind_of_some computed]
  simp only [Signed.eval_bind wave.value, Signed.lt_bind threshold.value field.value,
    PAL_literal 1 (by decide), PAL_literal 5 (by decide), PAL_literal 6 (by decide),
    PAL_literal 8 (by decide), checkedMix_eq _ _ wave.value, checkedMix_eq _ _ shade.value,
    decide_eq_true_eq]
  split
  case isTrue inside => exact congrArg some (if_pos inside).symm
  case isFalse outside => exact congrArg some (if_neg outside).symm

theorem checkedRibbons_eq (ht : t.Has f 0 65535) (hx : x.Has u 0 319) (hy : y.Has v 0 179) :
    checkedRibbons sins t x y = some (sceneRibbons sins mix f u v) := by
  have wave := (Signed.Has.literal 90).add ((checkedSi_has sins
    ((hx.scale 12).add (ht.scale 13))).shiftRight 5)
  have wave2 := (Signed.Has.literal 90).add ((checkedSi_has sins
    (((hx.scale 9).sub (ht.scale 17)).add (.literal 500))).shiftRight 4)
  have d1 := (hy.sub wave).abs 1000
  have d2 := (hy.sub wave2).abs 1000
  have slope := (hy.scale 255).div (.literal 180)
  have first := d1.scale 30
  have second := d2.scale 45
  have eight := Signed.Has.literal (w := 32) 8
  have five := Signed.Has.literal (w := 32) 5
  simp only [checkedRibbons, Signed.eval_bind wave.value, Signed.eval_bind wave2.value,
    Signed.eval_bind d1.value, Signed.eval_bind d2.value, Signed.lt_bind d1.value eight.value,
    Signed.lt_bind d2.value five.value, PAL_literal 0 (by decide), PAL_literal 1 (by decide),
    PAL_literal 2 (by decide), PAL_literal 3 (by decide), PAL_literal 6 (by decide),
    checkedMix_eq _ _ slope.value, checkedMix_eq _ _ first.value, checkedMix_eq _ _ second.value,
    decide_eq_true_eq]
  split
  case isTrue near =>
    split
    case isTrue close => exact congrArg some (if_pos close).symm
    case isFalse apart => exact congrArg some ((if_neg apart).trans (if_pos near)).symm
  case isFalse far =>
    split
    case isTrue close => exact congrArg some (if_pos close).symm
    case isFalse apart => exact congrArg some ((if_neg apart).trans (if_neg far)).symm

theorem checkedSky_eq (hx : x.Has u 0 319) (hy : y.Has v 0 179) :
    checkedSky sins x y =
      some (mix (PAL 8) (PAL 0) ((si sins (u * 5 + v * 4) + 1024) >>> (4 : Nat))) := by
  have glow := ((checkedSi_has sins ((hx.scale 5).add (hy.scale 4))).add
    (.literal 1024)).shiftRight 4
  simp only [checkedSky, Signed.eval_bind glow.value, PAL_literal 8 (by decide),
    PAL_literal 0 (by decide), checkedMix_eq _ _ glow.value]

theorem checkedFloor_eq (hx : x.Has u 0 319) (hy : y.Has v 95 179) :
    checkedFloor x y = some
      (if Int.land ((v - 94) * 13) 31 < 2 ∨
          (abs (((u - 160) * 90).tdiv (v - 94 + 8))).tmod 42 < 2 then PAL 2
      else mix (PAL 6) (PAL 8) (v - 94)) := by
  have two := Signed.Has.literal (w := 32) 2
  have z := hy.sub (.literal 94)
  have horizon := Signed.Has.mask (z.scale 13).value 5 31
  have van := ((hx.sub (.literal 160)).scale 90).div (z.add (.literal 8))
  have vertical := (van.abs 100000).rem (.literal 42)
  simp only [checkedFloor, Signed.eval_bind z.value, Signed.eval_bind van.value,
    Signed.lt_bind horizon.value two.value, Signed.lt_bind vertical.value two.value,
    checkedPAL_literal 2 (by decide), PAL_literal 6 (by decide), PAL_literal 8 (by decide),
    checkedMix_eq _ _ z.value, Bool.or_eq_true, decide_eq_true_eq]
  split
  case isTrue line => exact congrArg some (if_pos line).symm
  case isFalse gap => exact congrArg some (if_neg gap).symm

theorem checkedChrome_eq (hx : x.Has u 0 319) (hy : y.Has v 0 179) :
    checkedChrome sins t x y = some (sceneChrome sins mix f u v) := by
  have sky := Signed.Has.literal (w := 32) 95
  rw [checkedChrome, sceneChrome, Signed.lt_bind hy.value sky.value]
  by_cases above : v < 95
  · rw [if_pos above, decide_eq_true above]
    exact checkedSky_eq sins hx hy
  · rw [if_neg above, decide_eq_false above]
    exact checkedFloor_eq hx (hy.within (by omega) hy.high)

theorem checkedSugar_eq (ht : t.Has f 0 65535) (hx : x.Has u 0 319) (hy : y.Has v 0 179) :
    checkedSugar sins t x y = some (sceneSugar sins mix f u v) := by
  have a := checkedSi_has sins ((hx.scale 10).add (ht.scale 13))
  have b := checkedSi_has sins ((hy.scale 14).sub (ht.scale 9))
  have c := checkedSi_has sins (((hx.add hy).scale 7).add (ht.scale 5))
  have level := (((a.add b).add c).add (.literal 3072)).div (.literal 12)
  have ripple := (checkedSi_has sins ((ht.scale 17).add (hx.scale 3))).shiftRight 7
  have stripe := Signed.Has.mask (((hx.add hy).add ripple).shiftRight 3).value 2 3
  have first := checkedPAL_eq ((stripe.add (.literal 0)).rem (.literal 5)).mono
  have second := checkedPAL_eq ((stripe.add (.literal 2)).rem (.literal 5)).mono
  have shade := Signed.Has.mask level.value 8 255
  simp only [checkedSugar, Signed.eval_bind a.value, Signed.eval_bind b.value,
    Signed.eval_bind c.value, Signed.eval_bind level.value, Signed.eval_bind stripe.value,
    Signed.bind_of_some first, Signed.bind_of_some second, checkedMix_eq _ _ shade.value]
  rfl

end Pixel

/-- A band of the canvas is stored inside its 57600 words. -/
theorem checkedRowPass_eq {y0 y1 : Int} (band : 0 ≤ y0 ∧ y1 ≤ 180)
    {pixel : CInt → CInt → Option U32} {g : Int → Int → U32}
    (each : ∀ x y u v, x.Has u 0 319 → y.Has v 0 179 → pixel x y = some (g u v))
    (low : Pixels) : checkedRowPass y0 y1 57600 pixel low = some (rowPass y0 y1 g low) := by
  refine foldlM_some (fun y hy low => foldlM_some (fun x hx low => ?_) low) low
  rw [mem_intRange, LW] at hx
  rw [mem_intRange] at hy
  have column : (Signed.ofInt x : CInt).Has x 0 319 := .ofInt hx.1 (by omega)
  have row : (Signed.ofInt y : CInt).Has y 0 179 := .ofInt (by omega) (by omega)
  have index := (row.scale 320).add column
  have inside : 0 ≤ y * 320 + x ∧ y * 320 + x < (57600 : Nat) := ⟨by omega, by omega⟩
  beta_reduce
  rw [Signed.bind_of_some (each _ _ x y column row), Signed.bind_of_some index.value]
  exact if_pos inside

/-- **A row pass is defined** for every phase and every band of the canvas. -/
theorem checkedRows_eq {f : Int} (phase : 0 ≤ f ∧ f < 65536) {y0 y1 : Int}
    (band : 0 ≤ y0 ∧ y1 ≤ 180) (which : Int) (low : Pixels) :
    checkedRows sins which (.ofInt f) y0 y1 57600 low =
      some (rowPass y0 y1 (scenePixel sins mix which f) low) := by
  have ht : (Signed.ofInt f : CInt).Has f 0 65535 := .ofInt phase.1 (by omega)
  simp only [checkedRows, scenePixel]
  split
  · exact checkedRowPass_eq band (fun x y u v hx hy => checkedCandy_eq sins ht hx hy) low
  split
  · exact checkedRowPass_eq band (fun x y u v hx hy => checkedChecker_eq sins ht hx hy) low
  split
  · rw [Signed.bind_of_some (checkedBubbles_eq sins ht)]
    exact checkedRowPass_eq band (fun x y u v hx hy => checkedBubblePixel_eq sins ht hx hy) low
  split
  · exact checkedRowPass_eq band (fun x y u v hx hy => checkedRibbons_eq sins ht hx hy) low
  split
  · exact checkedRowPass_eq band (fun x y u v hx hy => checkedChrome_eq sins hx hy) low
  · exact checkedRowPass_eq band (fun x y u v hx hy => checkedSugar_eq sins ht hx hy) low

end Rows

variable {abi : Abi}

theorem lowCanvas_size (low : Pixels) :
    (lowCanvas abi low).stride.toNat * (lowCanvas abi low).height.toNat = 57600 := by
  have stride : (lowCanvas abi low).stride.toNat = 320 := abi.toNat_ofNat (by decide)
  have height : (lowCanvas abi low).height.toNat = 180 := abi.toNat_ofNat (by decide)
  rw [stride, height]

theorem which_scene (which : Fin 6) :
    ¬(((which : Nat) : Int) < 0 ∨ SCENES ≤ ((which : Nat) : Int)) := by
  rw [SCENES]
  omega

/-- The row pass of a scene, over a band of the canvas. -/
theorem checkedRender_rows (sins : SineTable) (which : Fin 6) (frame : U64)
    {rowStart rowEnd : Int} (band : 0 ≤ rowStart ∧ rowEnd ≤ 180) (low : Pixels) :
    checkedRenderLegacyScene sins
        { canvas := lowCanvas abi low, rowStart, rowEnd, frame, phase := .renderRows }
        (which : Nat) =
      some (lowCanvas abi (rowPass rowStart rowEnd
        (scenePixel sins mix (which : Nat) (legacyFramePhase frame)) low)) := by
  have rows := checkedRows_eq sins (legacyFramePhase_range frame) band (which : Nat) low
  rw [checkedRenderLegacyScene, if_neg (which_scene which)]
  dsimp only
  rw [lowCanvas_size]
  exact Signed.bind_of_some rows

/-- The sine at its highest everywhere. -/
def highSines : SineTable := ⟨fun _ => 1024, fun _ => by decide, fun _ => by decide⟩

end Scene2dLegacy

end VitaLinux.Cart
