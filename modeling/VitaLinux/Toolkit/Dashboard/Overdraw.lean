import VitaLinux.Base.Lockstep
import VitaLinux.Toolkit.Dashboard.Clipping

/-!
# A cleared screen shows nothing of what was drawn before

Where a drawing call stores, and what, depends on the frame and on its arguments alone, and a
clear stores into every byte that any call can reach.
-/

namespace VitaLinux.Toolkit.Dashboard

open VitaLinux.Base

variable {abi : Abi}

namespace Frame

/-- The bytes that `put_pixel` stores at `x` and `y`. -/
def pixelBytes (f : Frame abi) (x y : Int) : List Nat :=
  if x < 0 ∨ y < 0 then []
  else if f.width ≤ BitVec.ofInt 32 x ∨ f.height ≤ BitVec.ofInt 32 y then []
  else
    let offset : SizeT abi :=
      BitVec.ofInt abi.sizeBits y * f.stride.setWidth abi.sizeBits +
        BitVec.ofInt abi.sizeBits x * f.bytesPerPixel.setWidth abi.sizeBits
    if f.frameBytes < offset + f.bytesPerPixel.setWidth abi.sizeBits then []
    else
      let pixel := offset.toNat
      [pixel] ++ ([pixel + 1] ++ ([pixel + 2] ++ if 4 ≤ f.bytesPerPixel then [pixel + 3] else []))

/-- A byte that some call can store. -/
def Reachable (f : Frame abi) (k : Nat) : Prop :=
  ∃ x y : Int, FitsSigned 32 x ∧ FitsSigned 32 y ∧ k ∈ f.pixelBytes x y

/-- A width and a height that are `int`s. -/
structure Narrow (f : Frame abi) : Prop where
  width_lt : f.width.toNat < 2 ^ 31
  height_lt : f.height.toNat < 2 ^ 31

end Frame

namespace Renderer

variable {r t r' t' : Renderer abi}

/-- The bytes from the shadow's address on, beside what no drawing call changes. -/
def canvas (abi : Abi) : Storage (Renderer abi) Nat (Option UInt8) (Frame abi × Bool) where
  cell r k := r.shadow.map fun shadow => shadow k
  log r := r.stores
  fixed r := (r.frame, r.shadow.isSome)

theorem canvas_ext (same : ∀ k, (canvas abi).cell r k = (canvas abi).cell t k) :
    r.shadow = t.shadow := by
  cases first : r.shadow with
  | none =>
    cases second : t.shadow with
    | none => rfl
    | some memory => simpa [canvas, first, second] using same 0
  | some memory =>
    cases second : t.shadow with
    | none => simpa [canvas, first, second] using same 0
    | some memory' =>
      refine congrArg some (funext fun k => ?_)
      simpa [canvas, first, second] using same k

theorem store_wrote (same : (canvas abi).fixed r = (canvas abi).fixed t) (k : Nat) (byte : U32) :
    (canvas abi).Wrote [k] r t (r.store k byte) (t.store k byte) := by
  have shadows : r.shadow.isSome = t.shadow.isSome := congrArg Prod.snd same
  have kept (r : Renderer abi) (i : Nat) (apart : i ∉ [k]) :
      (canvas abi).cell (r.store k byte) i = (canvas abi).cell r i := by
    rw [List.mem_singleton] at apart
    cases shadow : r.shadow <;> simp [canvas, store, shadow, Function.update_of_ne apart]
  refine ⟨?_, ?_, ?_, kept r, kept t⟩
  · simp [canvas, store, frame]
  · simp [canvas, store, frame]
  · intro i mem
    rw [List.mem_singleton.mp mem]
    cases first : r.shadow <;> cases second : t.shadow <;>
      simp [canvas, store, first, second] at shadows ⊢

/-- The stores of one pixel. -/
theorem pixel_wrote (same : (canvas abi).fixed r = (canvas abi).fixed t) (k : Nat)
    (red green blue alpha : U32) :
    let painted (r : Renderer abi) :=
      ((r.store k red).store (k + 1) green).store (k + 2) blue
    (canvas abi).Wrote
      ([k] ++ ([k + 1] ++ ([k + 2] ++ if 4 ≤ r.bytesPerPixel then [k + 3] else []))) r t
      (if 4 ≤ (painted r).bytesPerPixel then (painted r).store (k + 3) alpha else painted r)
      (if 4 ≤ (painted t).bytesPerPixel then (painted t).store (k + 3) alpha else painted t) := by
  have depth : r.bytesPerPixel = t.bytesPerPixel :=
    congrArg (fun fixed => fixed.1.bytesPerPixel) same
  intro painted
  have one := store_wrote same k red
  have same₁ := one.fixed.trans (same.trans one.fixed'.symm)
  have two := store_wrote same₁ (k + 1) green
  have same₂ := two.fixed.trans (same₁.trans two.fixed'.symm)
  have three := store_wrote same₂ (k + 2) blue
  have same₃ := three.fixed.trans (same₂.trans three.fixed'.symm)
  refine one.trans (two.trans (three.trans ?_))
  change (canvas abi).Wrote _ (painted r) (painted t)
    (if 4 ≤ r.bytesPerPixel then (painted r).store (k + 3) alpha else painted r)
    (if 4 ≤ t.bytesPerPixel then (painted t).store (k + 3) alpha else painted t)
  rw [← depth]
  split
  · exact store_wrote same₃ (k + 3) alpha
  · exact .refl ..

theorem putPixel_wrote (same : (canvas abi).fixed r = (canvas abi).fixed t) (x y : Int)
    (rgba : U32) :
    (canvas abi).Wrote (r.frame.pixelBytes x y) r t (r.putPixel x y rgba)
      (t.putPixel x y rgba) := by
  have frames : t.frame = r.frame := (congrArg Prod.fst same).symm
  have width : t.width = r.width := congrArg Frame.width frames
  have height : t.height = r.height := congrArg Frame.height frames
  have stride : t.stride = r.stride := congrArg Frame.stride frames
  have depth : t.bytesPerPixel = r.bytesPerPixel := congrArg Frame.bytesPerPixel frames
  have size : t.frameBytes = r.frameBytes := congrArg Frame.frameBytes frames
  by_cases negative : x < 0 ∨ y < 0
  · have none : r.frame.pixelBytes x y = [] := if_pos negative
    rw [none, putPixel, putPixel, if_pos negative, if_pos negative]
    exact .refl ..
  by_cases beyond : r.width ≤ BitVec.ofInt 32 x ∨ r.height ≤ BitVec.ofInt 32 y
  · have none : r.frame.pixelBytes x y = [] := (if_neg negative).trans (if_pos beyond)
    rw [none, putPixel, putPixel, width, height, if_neg negative, if_neg negative,
      if_pos beyond, if_pos beyond]
    exact .refl ..
  simp only [putPixel, width, height, stride, depth, size, if_neg negative, if_neg beyond]
  by_cases past : r.frameBytes < BitVec.ofInt abi.sizeBits y * r.stride.setWidth abi.sizeBits +
      BitVec.ofInt abi.sizeBits x * r.bytesPerPixel.setWidth abi.sizeBits +
        r.bytesPerPixel.setWidth abi.sizeBits
  · have none : r.frame.pixelBytes x y = [] :=
      (if_neg negative).trans ((if_neg beyond).trans (if_pos past))
    rw [none, if_pos past, if_pos past]
    exact .refl ..
  · have cells : r.frame.pixelBytes x y = _ :=
      (if_neg negative).trans ((if_neg beyond).trans (if_neg past))
    rw [cells, if_neg past, if_neg past]
    exact pixel_wrote same ..

variable {f : Frame abi}

theorem putPixel_together (same : (canvas abi).fixed r = (canvas abi).fixed t)
    (frame : r.frame = f) {x y : Int} (hx : FitsSigned 32 x) (hy : FitsSigned 32 y) (rgba : U32) :
    (canvas abi).Together f.Reachable r t (some (r.putPixel x y rgba))
      (some (t.putPixel x y rgba)) :=
  .inr ⟨_, _, _, rfl, rfl, putPixel_wrote same x y rgba,
    fun _ mem => ⟨x, y, hx, hy, frame ▸ mem⟩⟩

/-- The two loops of `render_rect`. -/
def paint (r : Renderer abi) (x y right bottom : Int) (rgba : U32) : Renderer abi :=
  (intRange y bottom).foldl (fun r row =>
    (intRange x right).foldl (fun r col => r.putPixel col row rgba) r) r

theorem paint_row_together (same : (canvas abi).fixed r = (canvas abi).fixed t)
    (frame : r.frame = f) {x right row : Int} (hx : FitsSigned 32 x) (hr : FitsSigned 32 right)
    (hy : FitsSigned 32 row) (rgba : U32) :
    (canvas abi).Together f.Reachable r t
      (some ((intRange x right).foldl (fun r col => r.putPixel col row rgba) r))
      (some ((intRange x right).foldl (fun r col => r.putPixel col row rgba) t)) := by
  refine .foldl fun col inCol r₁ t₁ same₁ same₁' => ?_
  rw [mem_intRange] at inCol
  rw [fitsSigned_32] at hx hr
  exact putPixel_together (same₁.trans (same.trans same₁'.symm))
    ((congrArg Prod.fst same₁).trans frame) (fitsSigned_32.mpr (by omega)) hy rgba

theorem paint_together (same : (canvas abi).fixed r = (canvas abi).fixed t)
    (frame : r.frame = f) {x y right bottom : Int} (hx : FitsSigned 32 x) (hy : FitsSigned 32 y)
    (hr : FitsSigned 32 right) (hb : FitsSigned 32 bottom) (rgba : U32) :
    (canvas abi).Together f.Reachable r t (some (r.paint x y right bottom rgba))
      (some (t.paint x y right bottom rgba)) := by
  refine .foldl fun row inRow r₁ t₁ same₁ same₁' => ?_
  rw [mem_intRange] at inRow
  rw [fitsSigned_32] at hy hb
  exact paint_row_together (same₁.trans (same.trans same₁'.symm))
    ((congrArg Prod.fst same₁).trans frame) hx hr (fitsSigned_32.mpr (by omega)) rgba

/-- `r->clipped_writes++`, for a rectangle that is clipped -/
def counted (r : Renderer abi) (clipped : Bool) : Renderer abi :=
  if clipped then { r with clippedWrites := r.clippedWrites + 1 } else r

theorem counted_wrote (r t : Renderer abi) (clipped : Bool) :
    (canvas abi).Wrote [] r t (r.counted clipped) (t.counted clipped) := by
  cases clipped with
  | true => exact ⟨rfl, rfl, by simp, fun _ _ => rfl, fun _ _ => rfl⟩
  | false => exact .refl ..

/-- A rectangle that is drawn at all counts what it clips, and then paints. -/
theorem rect_eq (r : Renderer abi) {x y w h : Int} (drawn : ¬(w ≤ 0 ∨ h ≤ 0)) (rgba : U32) :
    r.rect x y w h rgba =
      (r.clips x y w h).bind fun clipped =>
        (fitSigned 32 (y + h)).bind fun bottom =>
          (fitSigned 32 (x + w)).bind fun right =>
            some ((r.counted clipped).paint x y right bottom rgba) :=
  if_neg drawn

theorem clips_eq (same : (canvas abi).fixed r = (canvas abi).fixed t) (x y w h : Int) :
    t.clips x y w h = r.clips x y w h := by
  have frames : t.frame = r.frame := (congrArg Prod.fst same).symm
  have width : t.width = r.width := congrArg Frame.width frames
  have height : t.height = r.height := congrArg Frame.height frames
  simp only [clips, width, height]

theorem rect_together (same : (canvas abi).fixed r = (canvas abi).fixed t)
    (frame : r.frame = f) {x y w h : Int} (hx : FitsSigned 32 x) (hy : FitsSigned 32 y)
    (rgba : U32) :
    (canvas abi).Together f.Reachable r t (r.rect x y w h rgba) (t.rect x y w h rgba) := by
  by_cases drawn : w ≤ 0 ∨ h ≤ 0
  · rw [rect, rect, if_pos drawn, if_pos drawn]
    exact .refl ..
  rw [rect_eq r drawn, rect_eq t drawn, clips_eq same]
  cases r.clips x y w h with
  | none => exact .inl ⟨rfl, rfl⟩
  | some clipped =>
    by_cases hb : FitsSigned 32 (y + h)
    · by_cases hr : FitsSigned 32 (x + w)
      · rw [Signed.fitSigned_eq hb, Signed.fitSigned_eq hr]
        have counted := counted_wrote r t clipped
        refine .after counted (by simp) (paint_together ?_ ?_ hx hy hr hb rgba)
        · exact counted.fixed.trans (same.trans counted.fixed'.symm)
        · exact (congrArg Prod.fst counted.fixed).trans frame
      · rw [Signed.fitSigned_eq hb, fitSigned, if_neg hr]
        exact .inl ⟨rfl, rfl⟩
    · rw [fitSigned, if_neg hb]
      exact .inl ⟨rfl, rfl⟩

theorem glyph_together (same : (canvas abi).fixed r = (canvas abi).fixed t)
    (frame : r.frame = f) (pen y : Int) (ch : UInt8) (scale rgba : U32) :
    (canvas abi).Together f.Reachable r t (r.glyph pen y ch scale rgba)
      (t.glyph pen y ch scale rgba) := by
  refine .foldlM fun gy _ r₁ t₁ same₁ same₁' => .foldlM fun gx _ r₂ t₂ same₂ same₂' => ?_
  have frame₂ : r₂.frame = f := (congrArg Prod.fst (same₂.trans same₁)).trans frame
  have together := same₂.trans (same₁.trans (same.trans (same₂'.trans same₁').symm))
  by_cases on : lit ch gy gx
  · rw [if_pos on, if_pos on]
    by_cases hl : FitsSigned 32 (pen + (BitVec.ofNat 32 gx * scale).toInt)
    · by_cases ht : FitsSigned 32 (y + (BitVec.ofNat 32 gy * scale).toInt)
      · rw [Signed.fitSigned_eq hl, Signed.fitSigned_eq ht]
        exact rect_together together frame₂ hl ht rgba
      · rw [Signed.fitSigned_eq hl, fitSigned, if_neg ht]
        exact .inl ⟨rfl, rfl⟩
    · rw [fitSigned, if_neg hl]
      exact .inl ⟨rfl, rfl⟩
  · rw [if_neg on, if_neg on]
    exact .refl ..

/-- The loop over the characters, by induction on the text. The pen is the same in both. -/
theorem glyphs_together (same : (canvas abi).fixed r = (canvas abi).fixed t)
    (frame : r.frame = f) (pen y : Int) (text : List UInt8) (scale rgba : U32) :
    (canvas abi).Together f.Reachable r t ((glyphs y scale rgba r pen text).map Prod.fst)
        ((glyphs y scale rgba t pen text).map Prod.fst) ∧
      (glyphs y scale rgba t pen text).map Prod.snd =
        (glyphs y scale rgba r pen text).map Prod.snd := by
  induction text generalizing r t pen with
  | nil => exact ⟨.refl .., rfl⟩
  | cons ch text ih =>
    obtain ⟨first, second⟩ | ⟨r₁, t₁, cells, first, second, wrote, inside⟩ :=
      glyph_together same frame pen y ch scale rgba
    · rw [glyphs, glyphs, first, second]
      exact ⟨.inl ⟨rfl, rfl⟩, rfl⟩
    rw [glyphs, glyphs, first, second]
    change (canvas abi).Together _ r t
        (((fitSigned 32 (pen + ((GLYPH_W + 1) * scale).toInt)).bind fun pen =>
          glyphs y scale rgba r₁ pen text).map Prod.fst)
        (((fitSigned 32 (pen + ((GLYPH_W + 1) * scale).toInt)).bind fun pen =>
          glyphs y scale rgba t₁ pen text).map Prod.fst) ∧
      ((fitSigned 32 (pen + ((GLYPH_W + 1) * scale).toInt)).bind fun pen =>
          glyphs y scale rgba t₁ pen text).map Prod.snd =
        ((fitSigned 32 (pen + ((GLYPH_W + 1) * scale).toInt)).bind fun pen =>
          glyphs y scale rgba r₁ pen text).map Prod.snd
    cases fitSigned 32 (pen + ((GLYPH_W + 1) * scale).toInt) with
    | none => exact ⟨.inl ⟨rfl, rfl⟩, rfl⟩
    | some next =>
      obtain ⟨others, pens⟩ := ih (wrote.fixed.trans (same.trans wrote.fixed'.symm))
        ((congrArg Prod.fst wrote.fixed).trans frame) next
      exact ⟨.after wrote inside others, pens⟩

theorem text_together (same : (canvas abi).fixed r = (canvas abi).fixed t)
    (frame : r.frame = f) (x y : Int) (line : Option CText) (scale rgba : U32) :
    (canvas abi).Together f.Reachable r t ((r.text x y line scale rgba).map Prod.fst)
      ((t.text x y line scale rgba).map Prod.fst) := by
  cases line with
  | none => exact .refl ..
  | some line =>
    obtain ⟨drawn, pens⟩ := glyphs_together same frame x y line.val (atLeastOne scale) rgba
    rw [text, text]
    generalize glyphs y (atLeastOne scale) rgba r x line.val = first at drawn pens
    generalize glyphs y (atLeastOne scale) rgba t x line.val = second at drawn pens
    cases first with
    | none =>
      cases second with
      | none => exact .inl ⟨rfl, rfl⟩
      | some => cases pens
    | some first =>
      cases second with
      | none => cases pens
      | some second =>
        obtain ⟨r₁, pen⟩ := first
        obtain ⟨t₁, pen'⟩ := second
        obtain rfl : pen' = pen := Option.some.inj pens
        change (canvas abi).Together _ r t
          (((fitSigned 32 (pen' - x)).bind fun advance => some (r₁, advance)).map Prod.fst)
          (((fitSigned 32 (pen' - x)).bind fun advance => some (t₁, advance)).map Prod.fst)
        cases fitSigned 32 (pen' - x) with
        | none => exact .inl ⟨rfl, rfl⟩
        | some => exact drawn

/-- A row is its label and then its value, at the fixed column. -/
theorem row_eq (r : Renderer abi) (x y : Int) (label value : Option CText)
    (scale labelRgba valueRgba : U32) :
    r.row x y label value scale labelRgba valueRgba =
      ((r.text x y label (atLeastOne scale) labelRgba).map Prod.fst).bind fun r =>
        (fitSigned 32 (x + (18 * (GLYPH_W + 1) * atLeastOne scale).toInt)).bind fun column =>
          (r.text column y value (atLeastOne scale) valueRgba).map Prod.fst := by
  rw [row]
  cases r.text x y label (atLeastOne scale) labelRgba with
  | none => rfl
  | some drawn =>
    cases column : fitSigned 32 (x + (18 * (GLYPH_W + 1) * atLeastOne scale).toInt) with
    | none => simp
    | some column' =>
      cases second : drawn.1.text column' y value (atLeastOne scale) valueRgba with
      | none => simp [second]
      | some => simp [second]

theorem row_together (same : (canvas abi).fixed r = (canvas abi).fixed t)
    (frame : r.frame = f) (x y : Int) (label value : Option CText)
    (scale labelRgba valueRgba : U32) :
    (canvas abi).Together f.Reachable r t (r.row x y label value scale labelRgba valueRgba)
      (t.row x y label value scale labelRgba valueRgba) := by
  rw [row_eq, row_eq]
  refine (text_together same frame ..).bind fun r₁ t₁ same₁ same₁' => ?_
  cases fitSigned 32 (x + (18 * (GLYPH_W + 1) * atLeastOne scale).toInt) with
  | none => exact .inl ⟨rfl, rfl⟩
  | some column =>
    exact text_together (same₁.trans (same.trans same₁'.symm))
      ((congrArg Prod.fst same₁).trans frame) ..

/-- One case for each drawing call. -/
theorem draw_together (same : (canvas abi).fixed r = (canvas abi).fixed t)
    (frame : r.frame = f) (call : DrawCall) :
    (canvas abi).Together f.Reachable r t (r.draw call) (t.draw call) := by
  cases call with
  | rect x y w h rgba =>
    exact rect_together same frame (fitsSigned_int32 x) (fitsSigned_int32 y) rgba
  | clear rgba =>
    have frames : t.frame = r.frame := (congrArg Prod.fst same).symm
    have width : t.width = r.width := congrArg Frame.width frames
    have height : t.height = r.height := congrArg Frame.height frames
    rw [draw, draw, clear, clear, width, height]
    exact rect_together same frame (by decide) (by decide) rgba
  | text x y line scale rgba =>
    have first (r : Renderer abi) : r.draw (.text x y line scale rgba) =
        (r.text x.toInt y.toInt line scale rgba).map Prod.fst :=
      Option.map_eq_bind.symm
    rw [first, first]
    exact text_together same frame ..
  | row x y label value scale labelRgba valueRgba =>
    exact row_together same frame ..

theorem drawAll_together (same : (canvas abi).fixed r = (canvas abi).fixed t)
    (frame : r.frame = f) (calls : List DrawCall) :
    (canvas abi).Together f.Reachable r t (r.drawAll calls) (t.drawAll calls) :=
  .foldlM fun call _ _ _ same₁ same₁' =>
    draw_together (same₁.trans (same.trans same₁'.symm)) ((congrArg Prod.fst same₁).trans frame)
      call

/-! ## What a clear leaves -/

/-- Painting stores into each pixel of the rectangle. -/
theorem paint_writes (same : (canvas abi).fixed r = (canvas abi).fixed t) (frame : r.frame = f)
    {x y right bottom col row : Int} (hx : FitsSigned 32 x) (hy : FitsSigned 32 y)
    (hr : FitsSigned 32 right) (hb : FitsSigned 32 bottom) (inCol : x ≤ col ∧ col < right)
    (inRow : y ≤ row ∧ row < bottom) {k : Nat} (byte : k ∈ f.pixelBytes col row) (rgba : U32) :
    ∃ cells, (canvas abi).Wrote cells r t (r.paint x y right bottom rgba)
      (t.paint x y right bottom rgba) ∧ k ∈ cells := by
  refine Storage.Together.writes (mem_intRange.mpr inRow)
    (fun row' inRow' r₁ t₁ same₁ same₁' => (?_ : (canvas abi).Together f.Reachable ..))
    fun r₁ t₁ same₁ same₁' => ?_
  · rw [mem_intRange] at inRow'
    rw [fitsSigned_32] at hy hb
    exact paint_row_together (same₁.trans (same.trans same₁'.symm))
      ((congrArg Prod.fst same₁).trans frame) hx hr (fitsSigned_32.mpr (by omega)) rgba
  · have frame₁ : r₁.frame = f := (congrArg Prod.fst same₁).trans frame
    have together := same₁.trans (same.trans same₁'.symm)
    refine Storage.Together.writes (mem_intRange.mpr inCol)
      (fun col' inCol' r₂ t₂ same₂ same₂' => (?_ : (canvas abi).Together f.Reachable ..))
      fun r₂ t₂ same₂ same₂' => ?_
    · rw [mem_intRange] at inCol'
      rw [fitsSigned_32] at hx hy hr hb
      exact putPixel_together (same₂.trans (together.trans same₂'.symm))
        ((congrArg Prod.fst same₂).trans frame₁) (fitsSigned_32.mpr (by omega))
        (fitsSigned_32.mpr (by omega)) rgba
    · have frame₂ : r₂.frame = f := (congrArg Prod.fst same₂).trans frame₁
      exact ⟨_, putPixel_wrote (same₂.trans (together.trans same₂'.symm)) col row rgba,
        frame₂ ▸ byte⟩

/-- Only visible pixels can be reached. -/
theorem visible_of_reachable {x y : Int} (hx : FitsSigned 32 x) (hy : FitsSigned 32 y) {k : Nat}
    (byte : k ∈ f.pixelBytes x y) :
    (0 ≤ x ∧ x < f.width.toNat) ∧ 0 ≤ y ∧ y < f.height.toNat := by
  unfold Frame.pixelBytes at byte
  rw [fitsSigned_32] at hx hy
  split at byte
  · cases byte
  rename_i positive
  split at byte
  · cases byte
  rename_i inside
  obtain ⟨px, rfl⟩ : ∃ px : Nat, x = px := ⟨x.toNat, by omega⟩
  obtain ⟨py, rfl⟩ : ∃ py : Nat, y = py := ⟨y.toNat, by omega⟩
  simp only [BitVec.ofInt_natCast, not_or, BitVec.not_le, BitVec.lt_def, BitVec.toNat_ofNat]
    at inside
  rw [Nat.mod_eq_of_lt (by omega), Nat.mod_eq_of_lt (by omega)] at inside
  omega

/-- Two shadows that differ only where drawing reaches are the same once cleared. -/
theorem clear_levels (same : (canvas abi).fixed r = (canvas abi).fixed t)
    (narrow : r.frame.Narrow)
    (agreed : ∀ k, ¬r.frame.Reachable k → (canvas abi).cell r k = (canvas abi).cell t k)
    (rgba : U32) :
    ∃ r' t', r.clear rgba = some r' ∧ t.clear rgba = some t' ∧
      (canvas abi).fixed r' = (canvas abi).fixed t' ∧ r'.frame = r.frame ∧
      ∀ k, (canvas abi).cell r' k = (canvas abi).cell t' k := by
  have frames : t.frame = r.frame := (congrArg Prod.fst same).symm
  have width : t.width = r.width := congrArg Frame.width frames
  have height : t.height = r.height := congrArg Frame.height frames
  have width_eq : r.width.toInt = r.width.toNat :=
    BitVec.toInt_eq_toNat_of_lt (Nat.mul_lt_mul_of_pos_left narrow.width_lt (by decide))
  have height_eq : r.height.toInt = r.height.toNat :=
    BitVec.toInt_eq_toNat_of_lt (Nat.mul_lt_mul_of_pos_left narrow.height_lt (by decide))
  by_cases drawn : r.width.toInt ≤ 0 ∨ r.height.toInt ≤ 0
  · refine ⟨r, t, if_pos drawn, ?_, same, rfl, fun k => agreed k ?_⟩
    · rw [clear, width, height]
      exact if_pos drawn
    · rintro ⟨x, y, hx, hy, byte⟩
      have visible := visible_of_reachable hx hy byte
      change (0 ≤ x ∧ x < r.width.toNat) ∧ 0 ≤ y ∧ y < r.height.toNat at visible
      omega
  have hw : FitsSigned 32 (0 + r.width.toInt) := by
    have := narrow.width_lt
    change r.width.toNat < _ at this
    rw [fitsSigned_32, width_eq]
    omega
  have hh : FitsSigned 32 (0 + r.height.toInt) := by
    have := narrow.height_lt
    change r.height.toNat < _ at this
    rw [fitsSigned_32, height_eq]
    omega
  obtain ⟨clipped, counts⟩ := r.clips_defined hw hh
  have counted := counted_wrote r t clipped
  have same₁ := counted.fixed.trans (same.trans counted.fixed'.symm)
  have frame₁ := congrArg Prod.fst counted.fixed
  have cleared (u : Renderer abi) (like : u.clips 0 0 r.width.toInt r.height.toInt = some clipped) :
      u.rect 0 0 r.width.toInt r.height.toInt rgba =
        some ((u.counted clipped).paint 0 0 (0 + r.width.toInt) (0 + r.height.toInt) rgba) := by
    rw [rect_eq u drawn, like, Signed.fitSigned_eq hw, Signed.fitSigned_eq hh]
    rfl
  obtain ⟨none, -⟩ | ⟨r', t', cells, ends, ends', wrote, inside⟩ :=
    paint_together (x := 0) (y := 0) same₁ frame₁ (by decide) (by decide) hw hh rgba
  · cases none
  obtain rfl := Option.some.inj ends
  obtain rfl := Option.some.inj ends'
  have sameRect : t.clear rgba = t.rect 0 0 r.width.toInt r.height.toInt rgba := by
    rw [clear, width, height]
  refine ⟨_, _, cleared r counts, sameRect.trans (cleared t ((clips_eq same ..).trans counts)),
    ?_, ?_, fun k => ?_⟩
  · exact wrote.fixed.trans (same₁.trans wrote.fixed'.symm)
  · exact (congrArg Prod.fst wrote.fixed).trans frame₁
  · by_cases reached : r.frame.Reachable k
    · obtain ⟨x, y, hx, hy, byte⟩ := reached
      have visible := visible_of_reachable hx hy byte
      change (0 ≤ x ∧ x < r.width.toNat) ∧ 0 ≤ y ∧ y < r.height.toNat at visible
      have inCol : (0 : Int) ≤ x ∧ (x : Int) < 0 + r.width.toInt := by omega
      have inRow : (0 : Int) ≤ y ∧ (y : Int) < 0 + r.height.toInt := by omega
      have origin : FitsSigned 32 0 := by decide
      obtain ⟨_, painted, hit⟩ := paint_writes same₁ frame₁ origin origin hw hh inCol inRow byte
        rgba
      exact painted.same k hit
    · have out : k ∉ cells := fun mem => reached (inside k mem)
      rw [wrote.kept k out, wrote.kept' k out, counted.kept k (by simp),
        counted.kept' k (by simp)]
      exact agreed k reached

/-- Where the shadows are the same, they are the same after the same calls. -/
theorem drawAll_alike (same : (canvas abi).fixed r = (canvas abi).fixed t)
    (agreed : ∀ k, (canvas abi).cell r k = (canvas abi).cell t k) (calls : List DrawCall) :
    (r.drawAll calls).map shadow = (t.drawAll calls).map shadow := by
  obtain ⟨ends, ends'⟩ | ⟨r', t', cells, ends, ends', wrote, -⟩ :=
    drawAll_together same rfl calls
  · rw [ends, ends']
  · rw [ends, ends']
    exact congrArg some (canvas_ext fun k => wrote.agree (.inr (agreed k)))

/-- Drawing keeps the frame, and what it cannot reach. -/
theorem drawAll_kept {calls : List DrawCall} (drawn : r.drawAll calls = some t) :
    (canvas abi).fixed t = (canvas abi).fixed r ∧
      ∀ k, ¬r.frame.Reachable k → (canvas abi).cell t k = (canvas abi).cell r k := by
  obtain ⟨none, -⟩ | ⟨_, _, cells, ends, -, wrote, inside⟩ :=
    drawAll_together (r := r) (t := r) rfl rfl calls
  · rw [none] at drawn
    cases drawn
  obtain rfl := Option.some.inj (drawn.symm.trans ends)
  exact ⟨wrote.fixed, fun k out => wrote.kept k fun mem => out (inside k mem)⟩

theorem drawAll_append {earlier later : List DrawCall} (drawn : r.drawAll earlier = some t) :
    r.drawAll (earlier ++ later) = t.drawAll later := by
  unfold drawAll at drawn ⊢
  rw [List.foldlM_append, drawn]
  rfl

/-- **No trace of an earlier screen.** What is drawn from a clear on does not depend on what
was drawn before it. -/
theorem drawAll_fresh (narrow : r.frame.Narrow) {earlier : List DrawCall}
    (before : r.drawAll earlier = some t) (rgba : U32) (calls : List DrawCall) :
    (t.drawAll (.clear rgba :: calls)).map shadow =
      (r.drawAll (.clear rgba :: calls)).map shadow := by
  obtain ⟨fixed, kept⟩ := drawAll_kept before
  have frames : t.frame = r.frame := congrArg Prod.fst fixed
  obtain ⟨t', r', cleared, cleared', same, -, level⟩ := clear_levels (r := t) (t := r)
    fixed (frames ▸ narrow) (fun k out => kept k (frames ▸ out)) rgba
  rw [drawAll, drawAll, List.foldlM_cons, List.foldlM_cons, draw, draw, cleared, cleared']
  exact drawAll_alike same level calls

end Renderer

end VitaLinux.Toolkit.Dashboard
