import VitaLinux.Cart.Overlay

/-!
# A frame does not depend on how it was split

The row pass colours every pixel of its rows as a function of the position
alone, the bands tile the picture, and the overlay runs after all of them. So
`render_frame` leaves the same picture for every pool size, every order of the
bands and every earlier content of the buffer.
-/

namespace VitaLinux.Cart

open VitaLinux.Base Scene2dLegacy

variable {abi : Abi}

/-- The visible part of a logical frame buffer. -/
abbrev Picture := Fin (320 * 180) → U32

def picture (pixels : Pixels) : Picture := fun i => pixels i

theorem lowCanvas_valid (p : Pixels) : (lowCanvas abi p).valid = true := by
  have blank : (lowCanvas abi fun _ => 0).valid = true := by cases abi <;> decide
  exact blank

theorem lowCanvas_visible {p : Pixels} {u v : Int} :
    (lowCanvas abi p).Visible u v ↔ 0 ≤ u ∧ u < 320 ∧ 0 ≤ v ∧ v < 180 := by
  have width : (lowCanvas abi p).width.toNat = 320 := abi.toNat_ofNat (by decide)
  have height : (lowCanvas abi p).height.toNat = 180 := abi.toNat_ofNat (by decide)
  simp only [CartCanvas.Visible, width, height]
  omega

theorem lowCanvas_index {p : Pixels} {u v : Int} (h : (lowCanvas abi p).Visible u v) :
    (lowCanvas abi p).index v u = v.toNat * 320 + u.toNat := by
  have stride : (lowCanvas abi p).stride.toNat = 320 := abi.toNat_ofNat (by decide)
  rw [CartCanvas.index_eq (lowCanvas_valid p) h, stride]

theorem lowCanvas_on (p q : Pixels) : (lowCanvas abi p).on q = lowCanvas abi q := rfl

/-- Drawing changes the pixels of a canvas and nothing else. -/
theorem draw_on (canvas : CartCanvas abi) (d : Draw) :
    canvas.draw d = canvas.on (canvas.draw d).pixels := by
  cases d with
  | px =>
    simp only [CartCanvas.draw, CartCanvas.px]
    split <;> rfl
  | rect =>
    simp only [CartCanvas.draw, CartCanvas.rect]
    repeat' split
    all_goals rfl
  | circle =>
    simp only [CartCanvas.draw, CartCanvas.circle]
    repeat' split
    all_goals rfl

/-- A routine run on the logical frame buffer. -/
def drawLow (abi : Abi) (routine : List Draw) (p : Pixels) : Pixels :=
  routine.foldl (fun p d => ((lowCanvas abi p).draw d).pixels) p

theorem foldl_draw (routine : List Draw) (p : Pixels) :
    routine.foldl CartCanvas.draw (lowCanvas abi p) = lowCanvas abi (drawLow abi routine p) := by
  induction routine generalizing p with
  | nil => rfl
  | cons d routine ih =>
    rw [List.foldl_cons, draw_on, lowCanvas_on, ih]
    rfl

theorem draw_low_fills {d : Draw} (h : d.InRange) :
    Fills (fun p => ((lowCanvas abi p).draw d).pixels)
      ((lowCanvas abi fun _ => 0).cells d.covers) (fun _ => d.color) :=
  CartCanvas.draw_fills (lowCanvas_valid fun _ => 0) d h

/-- A routine computes every pixel from the old content of that pixel. -/
theorem drawLow_agree {routine : List Draw} (fine : AllFine routine) {p q : Pixels} {i : Nat}
    (same : p i = q i) : drawLow abi routine p i = drawLow abi routine q i := by
  induction routine generalizing p q with
  | nil => exact same
  | cons d routine ih =>
    exact ih (fun e he => fine e (List.mem_cons_of_mem _ he))
      ((draw_low_fills (fine d (by simp)).1).agree same)

theorem drawLow_solid {routine : List Draw} (fine : AllFine routine) {p : Pixels} {i : Nat}
    (old : Solid (p i)) : Solid (drawLow abi routine p i) := by
  induction routine generalizing p with
  | nil => exact old
  | cons d routine ih =>
    have first := fine d (by simp)
    exact ih (fun e he => fine e (List.mem_cons_of_mem _ he))
      ((draw_low_fills first.1).preserves (fun _ _ => first.2) old)

/-- A row pass colours exactly the pixels of its rows, by position. -/
theorem rowPass_fills {y0 y1 : Int} (top : 0 ≤ y0) (pixel : Int → Int → U32) :
    Fills (rowPass y0 y1 pixel)
      (fun i => y0 ≤ ((i / 320 : Nat) : Int) ∧ ((i / 320 : Nat) : Int) < y1)
      (fun i => pixel ((i % 320 : Nat) : Int) ((i / 320 : Nat) : Int)) := by
  have cell (x y : Int) (hx : x ∈ intRange 0 LW) (hy : y ∈ intRange y0 y1) :
      Fills (fun low => Function.update low (y * LW + x).toNat (pixel x y))
        (fun i => (y * LW + x).toNat = i)
        (fun i => pixel ((i % 320 : Nat) : Int) ((i / 320 : Nat) : Int)) := by
    rw [mem_intRange, LW] at hx
    rw [mem_intRange] at hy
    have column : (((y * LW + x).toNat % 320 : Nat) : Int) = x := by
      rw [LW]
      omega
    have row : (((y * LW + x).toNat / 320 : Nat) : Int) = y := by
      rw [LW]
      omega
    have write := Fills.update (κ := U32) (y * LW + x).toNat
      fun i => pixel ((i % 320 : Nat) : Int) ((i / 320 : Nat) : Int)
    simpa only [column, row] using write
  refine (Fills.loop _ fun y hy => Fills.loop _ fun x hx => cell x y hx hy).congr fun i => ?_
  constructor
  · rintro ⟨low, high⟩
    refine ⟨((i / 320 : Nat) : Int), mem_intRange.mpr ⟨low, high⟩, ((i % 320 : Nat) : Int), ?_, ?_⟩
    · rw [mem_intRange, LW]
      omega
    · rw [LW]
      omega
  · rintro ⟨y, hy, x, hx, rfl⟩
    rw [mem_intRange, LW] at hx
    rw [mem_intRange] at hy
    rw [LW]
    omega

theorem renderLegacyScene_rows (sins : SineTable) {which : Int}
    (scene : ¬(which < 0 ∨ SCENES ≤ which)) (p : Pixels) (y0 y1 : Int) (frame : U64) :
    rowJob ⟨fun context => renderLegacyScene sins context which⟩ (lowCanvas abi p) y0 y1 frame =
      lowCanvas abi (rowPass y0 y1 (scenePixel sins mix which (legacyFramePhase frame)) p) := by
  simp only [rowJob, renderLegacyScene, scene, if_false]
  rfl

/-- The row pass over the whole frame, as the pool splits it. -/
def rowsLow (pool : RenderPool) (order : BandOrder pool.workerCount) (pixel : Int → Int → U32)
    (p : Pixels) : Pixels :=
  if 0 < pool.workerCount then
    order.order.foldl (fun p (index : Nat) =>
      rowPass (bandStart LH pool.workerCount index) (bandEnd LH pool.workerCount index) pixel p) p
  else rowPass 0 LH pixel p

theorem dispatchRows_eq (sins : SineTable) {which : Int} (scene : ¬(which < 0 ∨ SCENES ≤ which))
    (pool : RenderPool) (order : BandOrder pool.workerCount) (frame : U64) (p : Pixels) :
    dispatchRows pool order ⟨fun context => renderLegacyScene sins context which⟩
        (lowCanvas abi p) frame =
      lowCanvas abi
        (rowsLow pool order (scenePixel sins mix which (legacyFramePhase frame)) p) := by
  unfold dispatchRows rowsLow
  split
  · generalize order.order = indices
    induction indices generalizing p with
    | nil => rfl
    | cons index indices ih =>
      rw [List.foldl_cons, List.foldl_cons, renderLegacyScene_rows sins scene, ih]
  · exact renderLegacyScene_rows sins scene p 0 LH frame

/-- **The bands tile the frame**: whatever the pool, each pixel of the picture gets
its colour from its position. -/
theorem rowsLow_fills (pool : RenderPool) (order : BandOrder pool.workerCount)
    (pixel : Int → Int → U32) :
    Fills (rowsLow pool order pixel) (fun i => i < 320 * 180)
      (fun i => pixel ((i % 320 : Nat) : Int) ((i / 320 : Nat) : Int)) := by
  by_cases workers : 0 < pool.workerCount
  · have split : rowsLow pool order pixel = fun p =>
        order.order.foldl (fun p (index : Nat) =>
          rowPass (bandStart LH pool.workerCount index) (bandEnd LH pool.workerCount index)
            pixel p) p := by
      funext p
      rw [rowsLow, if_pos workers]
    have start (index : Nat) : bandStart LH pool.workerCount index =
        ((index * 180 / pool.workerCount : Nat) : Int) :=
      bandStart_ofNat 180 pool.workerCount index
    have stop (index : Nat) : bandEnd LH pool.workerCount index =
        (((index + 1) * 180 / pool.workerCount : Nat) : Int) :=
      bandEnd_ofNat 180 pool.workerCount index
    rw [split]
    have band (index : Nat) : 0 ≤ bandStart LH pool.workerCount index := by
      rw [start]
      exact Int.natCast_nonneg _
    refine (Fills.loop _ fun index _ => rowPass_fills (band index) pixel).congr fun i => ?_
    simp only [start, stop, order.mem]
    constructor
    · intro inside
      obtain ⟨index, hn, low, high⟩ := band_covers workers (show i / 320 < 180 by omega)
      exact ⟨index, hn, by omega, by omega⟩
    · rintro ⟨index, hn, low, high⟩
      have within : (index + 1) * 180 / pool.workerCount ≤ 180 := band_within hn
      omega
  · have whole : rowsLow pool order pixel = rowPass 0 LH pixel := by
      funext p
      rw [rowsLow, if_neg workers]
    rw [whole]
    refine (rowPass_fills (by decide) pixel).congr fun i => ?_
    rw [LH]
    omega

theorem cartSceneAt_eq (sins : SineTable) (which : Fin 6) :
    cartSceneAt sins (BitVec.ofInt abi.sizeBits (which : Nat)) =
      some ⟨fun context => renderLegacyScene sins context (which : Nat)⟩ := by
  obtain ⟨n, hn⟩ := which
  interval_cases n <;> cases abi <;> rfl

/-- `render_frame` on a built-in scene: all rows, then the overlay. -/
theorem renderFrame_eq (sins : SineTable) (pool : RenderPool)
    (order : BandOrder pool.workerCount) (which : Fin 6) (frame : U64) (p : Pixels) :
    (renderFrame sins pool order (which : Nat) frame (lowCanvas abi p)).pixels =
      drawLow abi (overlay sins (which : Nat) (legacyFramePhase frame))
        (rowsLow pool order (scenePixel sins mix (which : Nat) (legacyFramePhase frame)) p) := by
  have scene : ¬(((which : Nat) : Int) < 0 ∨ SCENES ≤ ((which : Nat) : Int)) := by
    rw [SCENES]
    omega
  simp only [renderFrame, cartSceneAt_eq, dispatchRows_eq sins scene]
  simp only [renderLegacyScene, scene, if_false, foldl_draw]
  rfl

theorem mix_solid (a b : U32) (t : Int) : Solid (mix a b t) := cartMix_solid _ _ _

/-- Each scene computes its pixels by `mix`, or takes white from the palette. -/
theorem scenePixel_solid (sins : SineTable) (which t x y : Int) :
    Solid (scenePixel sins mix which t x y) := by
  simp only [scenePixel]
  split
  · exact mix_solid _ _ _
  split
  · exact mix_solid _ _ _
  split
  · simp only [sceneBubbles]
    split <;> exact mix_solid _ _ _
  split
  · simp only [sceneRibbons]
    repeat' split
    all_goals exact mix_solid _ _ _
  split
  · simp only [sceneChrome]
    split
    · exact mix_solid _ _ _
    split
    · exact white_solid
    · exact mix_solid _ _ _
  · exact mix_solid _ _ _

theorem legacyFramePhase_range (frame : U64) :
    0 ≤ legacyFramePhase frame ∧ legacyFramePhase frame < 65536 := by
  have phase : (frame % 65536#64).toNat = frame.toNat % 65536 := BitVec.toNat_umod
  simp only [legacyFramePhase, phase]
  omega

/-- The picture of a scene at a frame number, by inline rendering on a clear
buffer. -/
def sceneImage (abi : Abi) (sins : SineTable) (which : Fin 6) (frame : U64) : Picture :=
  picture (renderFrame sins ⟨0, Nat.zero_le _⟩ (.inOrder 0) (which : Nat) frame
    (lowCanvas abi fun _ => 0)).pixels

/-- `render_frame` leaves the scene's picture, whatever was there before. -/
theorem renderFrame_picture (sins : SineTable) (which : Fin 6) (frame : U64)
    (pool : RenderPool) (order : BandOrder pool.workerCount) (before : Pixels) :
    picture (renderFrame sins pool order (which : Nat) frame (lowCanvas abi before)).pixels =
      sceneImage abi sins which frame := by
  have fine := overlay_fine sins (which : Nat) (legacyFramePhase_range frame).1
  simp only [sceneImage, renderFrame_eq]
  funext i
  refine drawLow_agree fine ?_
  rw [(rowsLow_fills pool order _ before i).1 i.isLt,
    (rowsLow_fills ⟨0, Nat.zero_le _⟩ (.inOrder 0) _ (fun _ => 0) i).1 i.isLt]

theorem sceneImage_solid (sins : SineTable) (which : Fin 6) (frame : U64)
    (i : Fin (320 * 180)) : Solid (sceneImage abi sins which frame i) := by
  simp only [sceneImage, renderFrame_eq]
  refine drawLow_solid (overlay_fine sins (which : Nat) (legacyFramePhase_range frame).1) ?_
  rw [(rowsLow_fills ⟨0, Nat.zero_le _⟩ (.inOrder 0) _ (fun _ => 0) i).1 i.isLt]
  exact scenePixel_solid sins _ _ _ _

/-- **Parallel rendering equals inline rendering.** For every scene, frame, sine
table and pool size, every order of the bands and any two earlier contents of
the buffer, `render_frame` leaves the same solid picture as inline rendering. -/
theorem parallel_eq_inline (sins : SineTable) (which : Fin 6) (frame : U64)
    (pool : RenderPool) (order : BandOrder pool.workerCount) (before before' : Pixels) :
    let parallel := picture
      (renderFrame sins pool order (which : Nat) frame (lowCanvas abi before)).pixels
    let inline := picture
      (renderFrame sins ⟨0, Nat.zero_le _⟩ (.inOrder 0) (which : Nat) frame
        (lowCanvas abi before')).pixels
    parallel = inline ∧ ∀ i, Solid (parallel i) := by
  intro parallel inline
  have left : parallel = sceneImage abi sins which frame := renderFrame_picture ..
  have right : inline = sceneImage abi sins which frame := renderFrame_picture ..
  exact ⟨left.trans right.symm, fun i => left ▸ sceneImage_solid sins which frame i⟩

end VitaLinux.Cart
