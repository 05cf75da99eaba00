import VitaLinux.Cart.BandRendering

/-!
# cart/provenance/v0.1/pstv-demo-cart.c

The v0.1 program has its own primitives over one global buffer. On the calls and
mix amounts the scenes really use they draw what the canvas primitives draw, so
the refactored renderer shows the v0.1 pictures.
-/

namespace VitaLinux.Cart.V01

open VitaLinux.Base Scene2dLegacy

def THREADS : Nat := 4

def rgba (r g b : Int) : U32 :=
  let r := if r < 0 then 0 else r
  let r := if 255 < r then 255 else r
  let g := if g < 0 then 0 else g
  let g := if 255 < g then 255 else g
  let b := if b < 0 then 0 else b
  let b := if 255 < b then 255 else b
  u32 r ||| (u32 g <<< 8) ||| (u32 b <<< 16) ||| 0xff000000

/-- `mix`: the amount is used as it comes. -/
def mix (a b : U32) (t : Int) : U32 :=
  let ar := channel a 0
  let ag := channel a 8
  let ab := channel a 16
  let br := channel b 0
  let bg := channel b 8
  let bb := channel b 16
  rgba (ar + (((br - ar) * t) >>> (8 : Nat))) (ag + (((bg - ag) * t) >>> (8 : Nat)))
    (ab + (((bb - ab) * t) >>> (8 : Nat)))

/-- `px`: one unsigned comparison for each coordinate. -/
def px (x y : Int) (c : U32) (low : Pixels) : Pixels :=
  if u32 x < u32 LW ∧ u32 y < u32 LH then Function.update low (y * LW + x).toNat c else low

def rect (x y w h : Int) (c : U32) (low : Pixels) : Pixels :=
  let x0 := if x < 0 then 0 else x
  let y0 := if y < 0 then 0 else y
  let x1 := if LW < x + w then LW else x + w
  let y1 := if LH < y + h then LH else y + h
  (intRange y0 y1).foldl (fun low yy =>
    (intRange x0 x1).foldl (fun low xx =>
      Function.update low (yy * LW + xx).toNat c) low) low

def circle (cx cy r : Int) (c : U32) (low : Pixels) : Pixels :=
  let rr := r * r
  (intRange (-r) (r + 1)).foldl (fun low y =>
    (intRange (-r) (r + 1)).foldl (fun low x =>
      if x * x + y * y ≤ rr then px (cx + x) (cy + y) c low else low) low) low

def draw (low : Pixels) : Draw → Pixels
  | .px x y c => px x y c low
  | .rect x y w h c => rect x y w h c low
  | .circle cx cy r c => circle cx cy r c low

/-- `worker` on job `i` of `render_frame`. -/
def worker (sins : SineTable) (which t : Int) (i : Nat) (low : Pixels) : Pixels :=
  rowPass ((i * LH).tdiv THREADS) (((i + 1) * LH).tdiv THREADS) (scenePixel sins mix which t) low

/-- `render_frame`: four threads, joined, then the overlay. -/
def renderFrame (sins : SineTable) (order : BandOrder THREADS) (which t : Int) (low : Pixels) :
    Pixels :=
  let low := order.order.foldl (fun low i => worker sins which t i low) low
  (overlay sins which t).foldl draw low

/-! ## The two sets of primitives agree -/

theorem clampChannel_eq (v : Int) :
    (if 255 < (if v < 0 then 0 else v) then 255 else (if v < 0 then 0 else v)) =
      clampChannel v := by
  unfold clampChannel
  split <;> split <;> omega

theorem rgba_eq (r g b : Int) : rgba r g b = cartRgba r g b := by
  simp only [rgba, clampChannel_eq]
  rfl

theorem mix_eq (a b : U32) {t : Int} (low : 0 ≤ t) (high : t ≤ 256) :
    mix a b t = Scene2dLegacy.mix a b t := by
  have amount : (u32 t).toNat = t.toNat :=
    CartCanvas.toNat_ofInt_of_lt low (by omega)
  have unclamped : ¬ (256#32 < u32 t) := by
    rw [BitVec.lt_def, amount, show (256#32).toNat = 256 from rfl]
    omega
  have value : ((t.toNat : Nat) : Int) = t := by omega
  simp only [mix, Scene2dLegacy.mix, cartMix, rgba_eq, show ¬ t < 0 by omega, if_false, unclamped,
    amount, value]

/-- The cells a call is meant to colour. -/
def cells (shape : Int → Int → Prop) (i : Nat) : Prop :=
  ∃ u v : Int, (0 ≤ u ∧ u < 320 ∧ 0 ≤ v ∧ v < 180) ∧ shape u v ∧ (v * LW + u).toNat = i

theorem u32_lt {x : Int} (bound : -2147483648 ≤ x ∧ x < 2147483648) {m : Int} (m0 : 0 ≤ m)
    (m1 : m ≤ 1000) : u32 x < u32 m ↔ 0 ≤ x ∧ x < m := by
  have limit : (u32 m).toNat = m.toNat := CartCanvas.toNat_ofInt_of_lt m0 (by omega)
  rw [BitVec.lt_def, limit, BitVec.toNat_ofInt]
  omega

theorem px_fills {x y : Int} (c : U32) (hx : -2147483648 ≤ x ∧ x < 2147483648)
    (hy : -2147483648 ≤ y ∧ y < 2147483648) :
    Fills (px x y c) (cells fun u v => u = x ∧ v = y) (fun _ => c) := by
  have test : (u32 x < u32 LW ∧ u32 y < u32 LH) ↔ (0 ≤ x ∧ x < 320) ∧ 0 ≤ y ∧ y < 180 := by
    rw [u32_lt hx (by decide) (by decide), u32_lt hy (by decide) (by decide), LW, LH]
  refine (Fills.ite _ (Fills.update (y * LW + x).toNat fun _ => c)).congr fun i => ?_
  rw [test, cells]
  constructor
  · rintro ⟨u, v, inside, ⟨rfl, rfl⟩, rfl⟩
    exact ⟨by omega, rfl⟩
  · rintro ⟨inside, rfl⟩
    exact ⟨x, y, by omega, ⟨rfl, rfl⟩, rfl⟩

theorem rect_fills (x y w h : Int) (c : U32) :
    Fills (rect x y w h c) (cells (Draw.rect x y w h c).covers) (fun _ => c) := by
  unfold rect
  refine (Fills.loop _ fun yy _ => Fills.loop _ fun xx _ =>
    Fills.update (yy * LW + xx).toNat fun _ => c).congr fun i => ?_
  simp only [cells, Draw.covers, mem_intRange]
  constructor
  · rintro ⟨u, v, inside, shape, rfl⟩
    refine ⟨v, ?_, u, ?_, rfl⟩
    · rw [LH]
      omega
    · rw [LW]
      omega
  · rintro ⟨v, hv, u, hu, rfl⟩
    rw [LH] at hv
    rw [LW] at hu
    exact ⟨u, v, by omega, by omega, rfl⟩

theorem circle_fills {cx cy r : Int} (c : U32) (hx : Small cx) (hy : Small cy) (hr : r ≤ 1024) :
    Fills (circle cx cy r c) (cells (Draw.circle cx cy r c).covers) (fun _ => c) := by
  simp only [Small] at hx hy
  unfold circle
  refine (Fills.loop _ fun y hy' => Fills.loop _ fun x hx' =>
    Fills.ite _ (px_fills c ?_ ?_)).congr fun i => ?_
  · rw [mem_intRange] at hx'
    omega
  · rw [mem_intRange] at hy'
    omega
  · simp only [cells, Draw.covers, mem_intRange]
    constructor
    · rintro ⟨u, v, inside, ⟨r0, disc⟩, rfl⟩
      have column := CartCanvas.disc_bound r0 disc
      have row := CartCanvas.disc_bound r0 (by rw [Int.add_comm]; exact disc)
      exact ⟨v - cy, by omega, u - cx, by omega, disc, u, v, inside, by omega, rfl⟩
    · rintro ⟨y, hy', x, hx', disc, u, v, inside, ⟨rfl, rfl⟩, rfl⟩
      refine ⟨cx + x, cy + y, inside, ⟨by omega, ?_⟩, rfl⟩
      rwa [show cx + x - cx = x by omega, show cy + y - cy = y by omega]

theorem draw_fills {d : Draw} (h : d.InRange) :
    Fills (fun low => draw low d) (cells d.covers) (fun _ => d.color) := by
  cases d with
  | px x y c =>
    obtain ⟨⟨_, _⟩, _, _⟩ := h
    exact px_fills c (by omega) (by omega)
  | rect x y width height c => exact rect_fills x y width height c
  | circle cx cy r c => exact circle_fills c h.1 h.2.1 h.2.2

theorem cells_eq {abi : Abi} (shape : Int → Int → Prop) (i : Nat) :
    (lowCanvas abi fun _ => 0).cells shape i ↔ cells shape i := by
  constructor
  · rintro ⟨u, v, visible, inside, rfl⟩
    have screen := lowCanvas_visible.mp visible
    refine ⟨u, v, screen, inside, ?_⟩
    rw [lowCanvas_index visible, LW]
    omega
  · rintro ⟨u, v, screen, inside, rfl⟩
    have visible : (lowCanvas abi fun _ => 0).Visible u v := lowCanvas_visible.mpr screen
    refine ⟨u, v, visible, inside, ?_⟩
    rw [lowCanvas_index visible, LW]
    omega

/-- On small arguments both programs draw the same. -/
theorem draw_eq (abi : Abi) {d : Draw} (h : d.InRange) (p : Pixels) :
    ((lowCanvas abi p).draw d).pixels = draw p d :=
  Fills.unique (draw_low_fills h) (draw_fills h) (cells_eq d.covers) p

theorem drawLow_eq (abi : Abi) {routine : List Draw} (fine : AllFine routine) (p : Pixels) :
    drawLow abi routine p = routine.foldl draw p := by
  induction routine generalizing p with
  | nil => rfl
  | cons d routine ih =>
    have first := draw_eq abi (fine d (by simp)).1 p
    exact (congrArg (drawLow abi routine) first).trans
      (ih (fun e he => fine e (List.mem_cons_of_mem _ he)) _)

/-! ## The amounts the scenes mix with -/

/-- A sine moved to `[0, 2048]` and shifted down. -/
theorem glow_range (sins : SineTable) (x : Int) {k : Nat} (hk : 3 ≤ k) :
    0 ≤ (si sins x + 1024) >>> k ∧ (si sins x + 1024) >>> k ≤ 256 := by
  have bounds := si_bounds sins x
  have scale : (8 : Int) ≤ 2 ^ k := by
    have := Nat.pow_le_pow_right (show 0 < 2 by decide) hk
    exact_mod_cast this
  rw [Int.shiftRight_eq_div_pow]
  push_cast
  constructor
  · exact Int.ediv_nonneg (by omega) (by omega)
  · have : (si sins x + 1024) / 2 ^ k < 257 := by
      rw [Int.ediv_lt_iff_lt_mul (by omega)]
      omega
    omega

theorem byte_range (x : Int) : 0 ≤ Int.land x 255 ∧ Int.land x 255 ≤ 256 := by
  have h := land_mask_range x 8
  have mask : (((2 ^ 8 - 1 : Nat)) : Int) = 255 := rfl
  rw [mask] at h
  omega

theorem abs_nonneg (x : Int) : 0 ≤ Scene2dLegacy.abs x := Int.natCast_nonneg _

/-- Every amount lies in the range where the two `mix` agree. -/
theorem scenePixel_eq (sins : SineTable) (which t x : Int) {y : Int} (y0 : 0 ≤ y) (y1 : y < 180) :
    scenePixel sins mix which t x y = scenePixel sins Scene2dLegacy.mix which t x y := by
  have glow (z : Int) {k : Nat} (hk : 3 ≤ k) (a b : U32) :
      mix a b ((si sins z + 1024) >>> k) =
        Scene2dLegacy.mix a b ((si sins z + 1024) >>> k) :=
    mix_eq a b (glow_range sins z hk).1 (glow_range sins z hk).2
  have byte (z : Int) (a b : U32) : mix a b (Int.land z 255) =
      Scene2dLegacy.mix a b (Int.land z 255) :=
    mix_eq a b (byte_range z).1 (byte_range z).2
  simp only [scenePixel]
  split
  · exact glow _ (by decide) _ _
  split
  · exact glow _ (by decide) _ _
  split
  · simp only [sceneBubbles, byte, glow _ (show 3 ≤ 5 by decide)]
  split
  · have slope : mix (PAL 3) (PAL 1) ((y * 255).tdiv LH) =
        Scene2dLegacy.mix (PAL 3) (PAL 1) ((y * 255).tdiv LH) := by
      have : (y * 255).tdiv LH = y * 255 / 180 := Int.tdiv_eq_ediv_of_nonneg (by omega)
      exact mix_eq _ _ (by omega) (by omega)
    have near (d k bound : Int) (d0 : 0 ≤ d) (hd : d < bound) (hk : 0 ≤ k)
        (small : bound * k ≤ 256) (a b : U32) : mix a b (d * k) =
          Scene2dLegacy.mix a b (d * k) :=
      mix_eq a b (Int.mul_nonneg d0 hk)
        (Int.le_trans (Int.mul_le_mul_of_nonneg_right (Int.le_of_lt hd) hk) small)
    simp only [sceneRibbons, slope]
    split
    · rename_i close
      exact near _ 45 5 (abs_nonneg _) close (by decide) (by decide) _ _
    · split
      · rename_i close
        exact near _ 30 8 (abs_nonneg _) close (by decide) (by decide) _ _
      · rfl
  split
  · simp only [sceneChrome]
    split
    · exact glow _ (by decide) _ _
    · split
      · rfl
      · exact mix_eq _ _ (by omega) (by omega)
  · exact byte _ _ _

/-! ## The pictures agree -/

theorem rows_fills (sins : SineTable) (order : BandOrder THREADS) (which t : Int) :
    Fills (fun low => order.order.foldl (fun low i => worker sins which t i low) low)
      (fun i => i < 320 * 180)
      (fun i => scenePixel sins mix which t ((i % 320 : Nat) : Int) ((i / 320 : Nat) : Int)) :=
  rowsLow_fills ⟨THREADS, by decide⟩ order (scenePixel sins mix which t)

/-- **The refactored renderer shows the v0.1 pictures**, for every scene, frame
number, sine table, pool, order of bands or threads, and earlier buffer content. -/
theorem renderFrame_eq_v01 (abi : Abi) (sins : SineTable) (which : Fin 6) (frame : U64)
    (pool : RenderPool) (order : BandOrder pool.workerCount) (order01 : BandOrder THREADS)
    (before before01 : Pixels) :
    picture (Cart.renderFrame sins pool order (which : Nat) frame (lowCanvas abi before)).pixels =
      picture (renderFrame sins order01 (which : Nat) ((frame.toNat % 65536 : Nat) : Int)
        before01) := by
  have phase : legacyFramePhase frame = ((frame.toNat % 65536 : Nat) : Int) := by
    simp only [legacyFramePhase, BitVec.toNat_umod]
    rfl
  have fine := overlay_fine sins (which : Nat) (legacyFramePhase_range frame).1
  rw [Cart.renderFrame_eq, ← phase, renderFrame, ← drawLow_eq abi fine]
  funext i
  refine drawLow_agree fine ?_
  have row : ((i.val / 320 : Nat) : Int) < 180 := by omega
  have current := (rowsLow_fills pool order
    (scenePixel sins Scene2dLegacy.mix (which : Nat) (legacyFramePhase frame)) before i).1 i.isLt
  have legacy := (rows_fills sins order01 (which : Nat) (legacyFramePhase frame) before01 i).1
    i.isLt
  have same := scenePixel_eq sins (which : Nat) (legacyFramePhase frame)
    ((i.val % 320 : Nat) : Int) (Int.natCast_nonneg _) row
  exact current.trans (same.symm.trans legacy.symm)

end VitaLinux.Cart.V01
