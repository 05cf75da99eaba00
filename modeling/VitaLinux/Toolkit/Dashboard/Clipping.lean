import VitaLinux.Base.Footprint
import VitaLinux.Base.Grid
import VitaLinux.Toolkit.Dashboard.Geometry

/-!
# Drawing stays inside the covered pixels

A pixel is written as three bytes, or four. Where a pixel of the frame has room for them, a
drawing call changes the bytes of the visible pixels that it covers and no others.
-/

namespace VitaLinux.Toolkit.Dashboard

open VitaLinux.Base

variable {abi : Abi}

/-- What `render_init` fixes. -/
structure Frame (abi : Abi) where
  frameBytes : SizeT abi
  width : U32
  height : U32
  stride : U32
  bytesPerPixel : U32

namespace Frame

variable {f : Frame abi} {px py px' py' k : Nat} {covers covers' : Int → Int → Prop}

def Visible (f : Frame abi) (px py : Nat) : Prop := px < f.width.toNat ∧ py < f.height.toNat

def offset (f : Frame abi) (px py : Nat) : Nat :=
  py * f.stride.toNat + px * f.bytesPerPixel.toNat

/-- `k` is one of the `bytes_per_pixel` bytes of the pixel. -/
def Byte (f : Frame abi) (px py k : Nat) : Prop :=
  f.offset px py ≤ k ∧ k < f.offset px py + f.bytesPerPixel.toNat

/-- `k` is a byte of the frame and belongs to a visible pixel that is covered. -/
def Covered (f : Frame abi) (covers : Int → Int → Prop) (k : Nat) : Prop :=
  k < f.frameBytes.toNat ∧ ∃ px py : Nat, f.Visible px py ∧ covers px py ∧ f.Byte px py k

/-- The frame is its rows, and no row ends in the next one. -/
structure Apart (f : Frame abi) : Prop where
  row_le : f.width.toNat * f.bytesPerPixel.toNat ≤ f.stride.toNat
  frame_eq : f.frameBytes.toNat = f.stride.toNat * f.height.toNat

/-- Besides, a pixel has room for what `put_pixel` stores. -/
structure Sound (f : Frame abi) : Prop extends f.Apart where
  depth : 3 ≤ f.bytesPerPixel.toNat

theorem Covered.mono (h : f.Covered covers k)
    (larger : ∀ px py : Nat, covers px py → covers' px py) : f.Covered covers' k := by
  obtain ⟨inside, px, py, visible, covered, byte⟩ := h
  exact ⟨inside, px, py, visible, larger px py covered, byte⟩

theorem Apart.pixel_le (apart : f.Apart) (visible : f.Visible px py) :
    px * f.bytesPerPixel.toNat + f.bytesPerPixel.toNat ≤ f.stride.toNat := by
  have next : (px + 1) * f.bytesPerPixel.toNat ≤ f.width.toNat * f.bytesPerPixel.toNat :=
    Nat.mul_le_mul_right _ visible.1
  rw [Nat.succ_mul] at next
  exact next.trans apart.row_le

theorem Apart.offset_le (apart : f.Apart) (visible : f.Visible px py) :
    f.offset px py + f.bytesPerPixel.toNat ≤ f.frameBytes.toNat := by
  have row := apart.pixel_le visible
  have rows : (py + 1) * f.stride.toNat ≤ f.height.toNat * f.stride.toNat :=
    Nat.mul_le_mul_right _ visible.2
  rw [Nat.succ_mul] at rows
  rw [apart.frame_eq, Nat.mul_comm f.stride.toNat, offset]
  omega

/-- A byte belongs to one pixel. -/
theorem Apart.byte_unique (apart : f.Apart) (visible : f.Visible px py)
    (visible' : f.Visible px' py') (byte : f.Byte px py k) (byte' : f.Byte px' py' k) :
    px = px' ∧ py = py' := by
  obtain ⟨low, high⟩ := byte
  obtain ⟨low', high'⟩ := byte'
  have row := apart.pixel_le visible
  have row' := apart.pixel_le visible'
  unfold offset at low high low' high'
  obtain ⟨same_row, -⟩ : py = py' ∧ k - py * f.stride.toNat = k - py' * f.stride.toNat :=
    row_column_unique (show k - py * f.stride.toNat < f.stride.toNat by omega) (by omega)
      (by omega)
  subst same_row
  obtain ⟨same_column, -⟩ : px = px' ∧
      k - py * f.stride.toNat - px * f.bytesPerPixel.toNat =
        k - py * f.stride.toNat - px' * f.bytesPerPixel.toNat :=
    row_column_unique (show k - py * f.stride.toNat - px * f.bytesPerPixel.toNat <
      f.bytesPerPixel.toNat by omega) (by omega) (by omega)
  exact ⟨same_column, rfl⟩

/-- Padding belongs to no visible pixel. -/
theorem Apart.padding_apart (apart : f.Apart) (visible : f.Visible px py)
    (low : py' * f.stride.toNat + f.width.toNat * f.bytesPerPixel.toNat ≤ k)
    (high : k < (py' + 1) * f.stride.toNat) : ¬f.Byte px py k := by
  rintro ⟨below, above⟩
  have row := apart.pixel_le visible
  have next : (px + 1) * f.bytesPerPixel.toNat ≤ f.width.toNat * f.bytesPerPixel.toNat :=
    Nat.mul_le_mul_right _ visible.1
  rw [Nat.succ_mul] at next high
  unfold offset at below above
  obtain ⟨same_row, -⟩ : py = py' ∧ k - py * f.stride.toNat = k - py' * f.stride.toNat :=
    row_column_unique (show k - py * f.stride.toNat < f.stride.toNat by omega) (by omega)
      (by omega)
  subst same_row
  omega

end Frame

namespace Renderer

variable {r r' : Renderer abi} {covers : Int → Int → Prop}

def frame (r : Renderer abi) : Frame abi :=
  ⟨r.frameBytes, r.width, r.height, r.stride, r.bytesPerPixel⟩

/-- The bytes from the shadow's address on, and those that drawing has stored. -/
def storage (abi : Abi) : Storage (Renderer abi) Nat (Option UInt8) (Frame abi) where
  cell r k := r.shadow.map fun shadow => shadow k
  log r := r.stores
  fixed r := r.frame

theorem store_within {region : Nat → Prop} (r : Renderer abi) {k : Nat} (inside : region k)
    (byte : U32) : (storage abi).Within region r (r.store k byte) := by
  refine ⟨rfl, ⟨[k], rfl, by simpa using inside⟩, ?_⟩
  intro i out
  have apart : i ≠ k := fun same => out (same ▸ inside)
  cases shadow : r.shadow with
  | none => simp [storage, store, shadow]
  | some memory => simp [storage, store, shadow, Function.update_of_ne apart]

/-- The offset of `put_pixel`, where it does not wrap. -/
theorem toNat_offset {f : Frame abi} (apart : f.Apart) {px py : Nat} (visible : f.Visible px py) :
    (BitVec.ofNat abi.sizeBits py * f.stride.setWidth abi.sizeBits +
      BitVec.ofNat abi.sizeBits px * f.bytesPerPixel.setWidth abi.sizeBits).toNat =
      f.offset px py := by
  have inside := apart.offset_le visible
  have size := f.frameBytes.isLt
  rw [← BitVec.ofNat_toNat, ← BitVec.ofNat_toNat, ← BitVec.ofNat_mul, ← BitVec.ofNat_mul,
    ← BitVec.ofNat_add, BitVec.toNat_ofNat]
  exact Nat.mod_eq_of_lt (by unfold Frame.offset at inside; omega)

/-- The one pixel at `x` and `y`. -/
def At (x y : Int) (px py : Int) : Prop := px = x ∧ py = y

theorem putPixel_within (sound : r.frame.Sound) {x y : Int} (hx : FitsSigned 32 x)
    (hy : FitsSigned 32 y) (rgba : U32) :
    (storage abi).Within (r.frame.Covered (At x y)) r (r.putPixel x y rgba) := by
  unfold putPixel
  split
  · exact .refl ..
  rename_i positive
  split
  · exact .refl ..
  rename_i inside
  dsimp only
  split
  · exact .refl ..
  obtain ⟨px, rfl⟩ : ∃ px : Nat, x = px := ⟨x.toNat, by omega⟩
  obtain ⟨py, rfl⟩ : ∃ py : Nat, y = py := ⟨y.toNat, by omega⟩
  rw [fitsSigned_32] at hx hy
  simp only [BitVec.ofInt_natCast] at inside ⊢
  have visible : r.frame.Visible px py := by
    simp only [not_or, BitVec.not_le, BitVec.lt_def, BitVec.toNat_ofNat] at inside
    rw [Nat.mod_eq_of_lt (by omega), Nat.mod_eq_of_lt (by omega)] at inside
    exact inside
  have own : ∀ i < r.bytesPerPixel.toNat,
      r.frame.Covered (At px py) (r.frame.offset px py + i) := by
    intro i small
    have last := sound.offset_le visible
    have depth : r.frame.bytesPerPixel.toNat = r.bytesPerPixel.toNat := rfl
    exact ⟨by omega, px, py, visible, ⟨rfl, rfl⟩, by omega, by omega⟩
  have depth : 3 ≤ r.bytesPerPixel.toNat := sound.depth
  have offset := toNat_offset sound.toApart visible
  change (BitVec.ofNat abi.sizeBits py * r.stride.setWidth abi.sizeBits +
    BitVec.ofNat abi.sizeBits px * r.bytesPerPixel.setWidth abi.sizeBits).toNat = _ at offset
  rw [offset]
  have three (red green blue : U32) :
      (storage abi).Within (r.frame.Covered (At px py)) r
        (((r.store (r.frame.offset px py) red).store (r.frame.offset px py + 1) green).store
          (r.frame.offset px py + 2) blue) :=
    ((store_within r (own 0 (by omega)) red).trans
      (store_within _ (own 1 (by omega)) green)).trans (store_within _ (own 2 (by omega)) blue)
  split
  · rename_i fourth
    have four : 4 ≤ r.bytesPerPixel.toNat := fourth
    exact (three ..).trans (store_within _ (own 3 (by omega)) _)
  · exact three ..

/-- With one or two bytes a pixel, every visible pixel is written past its bytes. -/
theorem putPixel_escapes (apart : r.frame.Apart) (narrow : r.bytesPerPixel.toNat < 3)
    {px py : Nat} (visible : r.frame.Visible px py) (hx : px ≤ 2147483647)
    (hy : py ≤ 2147483647) (rgba : U32) :
    ∃ k ∈ (r.putPixel px py rgba).stores, ¬r.frame.Byte px py k := by
  have offset := toNat_offset apart visible
  change (BitVec.ofNat abi.sizeBits py * r.stride.setWidth abi.sizeBits +
    BitVec.ofNat abi.sizeBits px * r.bytesPerPixel.setWidth abi.sizeBits).toNat = _ at offset
  have last := apart.offset_le visible
  have inside : ¬(r.width ≤ BitVec.ofNat 32 px ∨ r.height ≤ BitVec.ofNat 32 py) := by
    simp only [not_or, BitVec.not_le, BitVec.lt_def, BitVec.toNat_ofNat]
    rw [Nat.mod_eq_of_lt (by omega), Nat.mod_eq_of_lt (by omega)]
    exact visible
  have fits : ¬r.frameBytes < BitVec.ofNat abi.sizeBits py * r.stride.setWidth abi.sizeBits +
      BitVec.ofNat abi.sizeBits px * r.bytesPerPixel.setWidth abi.sizeBits +
        r.bytesPerPixel.setWidth abi.sizeBits := by
    have size := r.frameBytes.isLt
    change r.frame.offset px py + r.bytesPerPixel.toNat ≤ r.frameBytes.toNat at last
    rw [BitVec.not_lt, BitVec.le_def, BitVec.toNat_add, offset, toNat_size,
      Nat.mod_eq_of_lt (by omega)]
    exact last
  refine ⟨r.frame.offset px py + 2, ?_, ?_⟩
  · simp only [putPixel, BitVec.ofInt_natCast]
    rw [if_neg (by omega), if_neg inside, if_neg fits, offset]
    split <;> simp [store]
  · rintro ⟨-, high⟩
    change _ < _ + r.bytesPerPixel.toNat at high
    omega

/-- The pixels of a rectangle. -/
def RectCovers (x y w h : Int) (px py : Int) : Prop := (x ≤ px ∧ px < x + w) ∧ y ≤ py ∧ py < y + h

/-- A rectangle that is drawn at all ends at `INT_MAX`. -/
def RectFits (x y w h : Int) : Prop :=
  w ≤ 0 ∨ h ≤ 0 ∨ (x + w ≤ 2147483647 ∧ y + h ≤ 2147483647)

theorem fitsSigned_size (abi : Abi) {v : Int} (fits : FitsSigned 32 v) :
    FitsSigned abi.sizeBits v := by
  rw [fitsSigned_32] at fits
  cases abi with
  | ilp32 => exact fitsSigned_32.mpr fits
  | lp64 => exact fitsSigned_64.mpr (by omega)

theorem clips_defined (r : Renderer abi) {x y w h : Int} (right : FitsSigned 32 (x + w))
    (bottom : FitsSigned 32 (y + h)) : ∃ clipped, r.clips x y w h = some clipped := by
  unfold clips
  split
  · exact ⟨true, rfl⟩
  rw [Signed.fitSigned_eq (fitsSigned_size abi right),
    Signed.fitSigned_eq (fitsSigned_size abi bottom)]
  by_cases wide : long abi r.width < x + w
  · exact ⟨true, if_pos wide⟩
  · exact ⟨long abi r.height < y + h, if_neg wide⟩

theorem rect_ends (sound : r.frame.Sound) {x y w h : Int} (hx : FitsSigned 32 x)
    (hy : FitsSigned 32 y) (fits : RectFits x y w h) (rgba : U32) :
    (storage abi).Ends (r.frame.Covered (RectCovers x y w h)) r (r.rect x y w h rgba) := by
  unfold rect
  split
  · exact ⟨r, rfl, .refl ..⟩
  rename_i drawn
  rw [fitsSigned_32] at hx hy
  have ends : x + w ≤ 2147483647 ∧ y + h ≤ 2147483647 := by
    unfold RectFits at fits
    omega
  have right : FitsSigned 32 (x + w) := fitsSigned_32.mpr (by omega)
  have bottom : FitsSigned 32 (y + h) := fitsSigned_32.mpr (by omega)
  obtain ⟨clipped, counts⟩ := r.clips_defined right bottom
  rw [counts, Signed.fitSigned_eq right, Signed.fitSigned_eq bottom]
  refine ⟨_, rfl, ?_⟩
  have counted : (storage abi).Within (r.frame.Covered (RectCovers x y w h)) r
      (if clipped then { r with clippedWrites := r.clippedWrites + 1 } else r) := by
    cases clipped with
    | true => exact ⟨rfl, ⟨[], by simp [storage]⟩, fun _ _ => rfl⟩
    | false => exact .refl ..
  refine counted.trans (.foldl fun row inRow r₁ same₁ => .foldl fun col inCol r₂ same₂ => ?_)
  have same : r₂.frame = r.frame := same₂.trans (same₁.trans counted.fixed)
  rw [mem_intRange] at inRow inCol
  rw [← same] at sound ⊢
  refine (r₂.putPixel_within sound (fitsSigned_32.mpr (by omega)) (fitsSigned_32.mpr (by omega))
    rgba).mono fun k covered => covered.mono ?_
  rintro px py ⟨rfl, rfl⟩
  exact ⟨inCol, inRow⟩

/-- `(int)(n * scale)` -/
theorem toInt_scaled {n : Nat} {scale : U32} (small : n < 2 ^ 32)
    (fits : n * scale.toNat ≤ 2147483647) :
    (BitVec.ofNat 32 n * scale).toInt = (n * scale.toNat : Nat) := by
  have value : (BitVec.ofNat 32 n * scale).toNat = n * scale.toNat := by
    rw [BitVec.toNat_mul, BitVec.toNat_ofNat, Nat.mod_eq_of_lt small]
    exact Nat.mod_eq_of_lt (by omega)
  rw [BitVec.toInt_eq_toNat_of_lt (by omega), value]

/-- The pixels of the lit cells of a character. -/
def GlyphCovers (x y : Int) (ch : UInt8) (scale : Nat) (px py : Int) : Prop :=
  ∃ gy gx : Fin 8, lit ch gy gx ∧
    RectCovers (x + (gx * scale : Nat)) (y + (gy * scale : Nat)) scale scale px py

/-- The pixels of a text: one character every nine cells. -/
def TextCovers (x y : Int) (text : List UInt8) (scale : Nat) (px py : Int) : Prop :=
  ∃ k ch, text[k]? = some ch ∧ GlyphCovers (x + (9 * scale * k : Nat)) y ch scale px py

/-- The lit cells and the advance of the pen stay `int`. -/
structure TextFits (x y : Int) (text : List UInt8) (scale : Nat) : Prop where
  advance : 9 * scale * text.length ≤ 2147483647
  right : x + (9 * scale * text.length : Nat) ≤ 2147483647
  bottom : ∀ ch ∈ text, ∀ gy gx : Fin 8, lit ch gy gx →
    y + ((gy.val + 1) * scale : Nat) ≤ 2147483647

theorem textCovers_cons {x y : Int} {ch : UInt8} {text : List UInt8} {scale : Nat} {px py : Int} :
    TextCovers x y (ch :: text) scale px py ↔
      GlyphCovers x y ch scale px py ∨
        TextCovers (x + (9 * scale : Nat)) y text scale px py := by
  have shift (k : Nat) : x + (9 * scale : Nat) + (9 * scale * k : Nat) =
      x + (9 * scale * (k + 1) : Nat) := by
    rw [Nat.mul_succ]
    omega
  constructor
  · rintro ⟨_ | k, c, at_k, covered⟩
    · obtain rfl : ch = c := by simpa using at_k
      exact .inl (by simpa using covered)
    · exact .inr ⟨k, c, by simpa using at_k, by rwa [shift]⟩
  · rintro (covered | ⟨k, c, at_k, covered⟩)
    · exact ⟨0, ch, rfl, by simpa using covered⟩
    · exact ⟨k + 1, c, by simpa using at_k, by rwa [← shift]⟩

theorem glyph_ends (sound : r.frame.Sound) {pen y : Int} {ch : UInt8} {scale : U32}
    (hpen : FitsSigned 32 pen) (hy : FitsSigned 32 y) (advance : 9 * scale.toNat ≤ 2147483647)
    (right : pen + (9 * scale.toNat : Nat) ≤ 2147483647)
    (bottom : ∀ gy gx : Fin 8, lit ch gy gx →
      y + ((gy.val + 1) * scale.toNat : Nat) ≤ 2147483647) (rgba : U32) :
    (storage abi).Ends (r.frame.Covered (GlyphCovers pen y ch scale.toNat)) r
      (r.glyph pen y ch scale rgba) := by
  rw [fitsSigned_32] at hpen hy
  refine .foldlM fun gy _ r₁ same₁ => .foldlM fun gx _ r₂ same₂ => ?_
  have same : r₂.frame = r.frame := same₂.trans same₁
  rw [← same] at sound ⊢
  by_cases on : lit ch gy gx
  · have across : (gx.val + 1) * scale.toNat ≤ 8 * scale.toNat :=
      Nat.mul_le_mul_right _ gx.isLt
    have down : (gy.val + 1) * scale.toNat ≤ 8 * scale.toNat :=
      Nat.mul_le_mul_right _ gy.isLt
    have low := bottom gy gx on
    rw [Nat.succ_mul] at across down low
    have left : FitsSigned 32 (pen + (gx.val * scale.toNat : Nat)) :=
      fitsSigned_32.mpr (by omega)
    have top : FitsSigned 32 (y + (gy.val * scale.toNat : Nat)) := fitsSigned_32.mpr (by omega)
    have size : scale.toInt = (scale.toNat : Nat) := BitVec.toInt_eq_toNat_of_lt (by omega)
    rw [if_pos on, toInt_scaled (by omega) (by omega), toInt_scaled (by omega) (by omega),
      Signed.fitSigned_eq left, Signed.fitSigned_eq top, size]
    refine (r₂.rect_ends sound left top (.inr (.inr (by omega))) rgba).mono
      fun k covered => covered.mono fun px py inside => ?_
    exact ⟨gy, gx, on, inside⟩
  · rw [if_neg on]
    exact ⟨r₂, rfl, .refl ..⟩

/-- The loop over the characters, by induction on the text. -/
theorem glyphs_ends (sound : r.frame.Sound) {pen y : Int} {text : List UInt8} {scale : U32}
    (hpen : FitsSigned 32 pen) (hy : FitsSigned 32 y) (fits : TextFits pen y text scale.toNat)
    (rgba : U32) :
    ∃ r', glyphs y scale rgba r pen text =
        some (r', pen + (9 * scale.toNat * text.length : Nat)) ∧
      (storage abi).Within (r.frame.Covered (TextCovers pen y text scale.toNat)) r r' := by
  induction text generalizing r pen with
  | nil => exact ⟨r, by simp [glyphs], .refl ..⟩
  | cons ch text ih =>
    have advance := fits.advance
    have right := fits.right
    rw [List.length_cons, Nat.mul_succ] at advance right
    rw [fitsSigned_32] at hpen
    obtain ⟨r₁, first, within⟩ := r.glyph_ends sound (fitsSigned_32.mpr hpen) hy (by omega)
      (by omega) (fits.bottom ch List.mem_cons_self) rgba
    have hnext : FitsSigned 32 (pen + (9 * scale.toNat : Nat)) := fitsSigned_32.mpr (by omega)
    have same : r₁.frame = r.frame := within.fixed
    obtain ⟨r₂, others, within'⟩ := ih (r := r₁) (same ▸ sound) hnext
      ⟨by omega, by omega, fun c mem => fits.bottom c (List.mem_cons_of_mem ch mem)⟩
    have step : ((GLYPH_W + 1) * scale).toInt = (9 * scale.toNat : Nat) :=
      toInt_scaled (n := 9) (by omega) (by omega)
    refine ⟨r₂, ?_, ?_⟩
    · rw [glyphs, first]
      change (do
        let pen ← fitSigned 32 (pen + ((GLYPH_W + 1) * scale).toInt)
        glyphs y scale rgba r₁ pen text) = _
      rw [step, Signed.fitSigned_eq hnext]
      refine others.trans ?_
      rw [List.length_cons, Nat.mul_succ, Int.add_assoc, Int.natCast_add (9 * _ * _),
        Int.add_comm ((9 * scale.toNat : Nat) : Int)]
    · rw [same] at within'
      refine (within.mono fun k covered => covered.mono fun px py h => ?_).trans
        (within'.mono fun k covered => covered.mono fun px py h => ?_)
      · exact textCovers_cons.mpr (.inl h)
      · exact textCovers_cons.mpr (.inr h)

/-- The pixels of a text argument; NULL has none. -/
def LineCovers (x y : Int) (text : Option CText) (scale : Nat) (px py : Int) : Prop :=
  ∃ bytes, text = some bytes ∧ TextCovers x y bytes.val scale px py

def LineFits (x y : Int) (text : Option CText) (scale : Nat) : Prop :=
  ∀ bytes, text = some bytes → TextFits x y bytes.val scale

theorem text_ends (sound : r.frame.Sound) {x y : Int} {line : Option CText} {scale : U32}
    (hx : FitsSigned 32 x) (hy : FitsSigned 32 y)
    (fits : LineFits x y line (atLeastOne scale).toNat) (rgba : U32) :
    ∃ r' advance, r.text x y line scale rgba = some (r', advance) ∧
      (storage abi).Within (r.frame.Covered (LineCovers x y line (atLeastOne scale).toNat)) r r' := by
  cases line with
  | none => exact ⟨r, 0, rfl, .refl ..⟩
  | some bytes =>
    have textFits := fits bytes rfl
    have advance := textFits.advance
    obtain ⟨r', drawn, within⟩ := glyphs_ends sound hx hy textFits rgba
    refine ⟨r', (9 * (atLeastOne scale).toNat * bytes.val.length : Nat), ?_, ?_⟩
    · rw [text, drawn]
      change (do
        let advance ← fitSigned 32
          (x + (9 * (atLeastOne scale).toNat * bytes.val.length : Nat) - x)
        some (r', advance)) = _
      have moved : x + (9 * (atLeastOne scale).toNat * bytes.val.length : Nat) - x =
          (9 * (atLeastOne scale).toNat * bytes.val.length : Nat) := by omega
      rw [moved, Signed.fitSigned_eq (fitsSigned_32.mpr (by omega))]
      rfl
    · exact within.mono fun k covered => covered.mono fun px py h => ⟨bytes, rfl, h⟩

end Renderer

namespace DrawCall

open Renderer (RectCovers RectFits LineCovers LineFits atLeastOne)

/-- The pixels that a call covers, in plain integers. The value of a row starts 18
characters after its label. -/
def Covers : DrawCall → Int → Int → Prop
  | .rect x y w h _ => RectCovers x.toInt y.toInt w.toInt h.toInt
  | .clear _ => fun _ _ => True
  | .text x y line scale _ => LineCovers x.toInt y.toInt line (atLeastOne scale).toNat
  | .row x y label value scale _ _ => fun px py =>
    LineCovers x.toInt y.toInt label (atLeastOne scale).toNat px py ∨
      LineCovers (x.toInt + (162 * (atLeastOne scale).toNat : Nat)) y.toInt value
        (atLeastOne scale).toNat px py

/-- The coordinates that a call computes stay `int`. -/
def Fits : DrawCall → Prop
  | .rect x y w h _ => RectFits x.toInt y.toInt w.toInt h.toInt
  | .clear _ => True
  | .text x y line scale _ => LineFits x.toInt y.toInt line (atLeastOne scale).toNat
  | .row x y label value scale _ _ =>
    LineFits x.toInt y.toInt label (atLeastOne scale).toNat ∧
      162 * (atLeastOne scale).toNat ≤ 2147483647 ∧
      x.toInt + (162 * (atLeastOne scale).toNat : Nat) ≤ 2147483647 ∧
      LineFits (x.toInt + (162 * (atLeastOne scale).toNat : Nat)) y.toInt value
        (atLeastOne scale).toNat

end DrawCall

namespace Renderer

variable {r r' : Renderer abi}

theorem atLeastOne_idem (scale : U32) : atLeastOne (atLeastOne scale) = atLeastOne scale := by
  unfold atLeastOne
  split <;> simp_all

theorem fitsSigned_int32 (v : Int32) : FitsSigned 32 v.toInt :=
  fitsSigned_32.mpr ⟨v.le_toInt, v.toInt_le⟩

theorem clear_ends (sound : r.frame.Sound) (rgba : U32) :
    (storage abi).Ends (r.frame.Covered fun _ _ => True) r (r.clear rgba) := by
  have wide := r.width.toInt_lt
  have high := r.height.toInt_lt
  refine (rect_ends sound (by decide) (by decide) (.inr (.inr ?_)) rgba).mono
    fun k covered => covered.mono fun _ _ _ => trivial
  omega

theorem row_ends (sound : r.frame.Sound) {x y : Int} {label value : Option CText} {scale : U32}
    (hx : FitsSigned 32 x) (hy : FitsSigned 32 y)
    (fits : LineFits x y label (atLeastOne scale).toNat)
    (column : 162 * (atLeastOne scale).toNat ≤ 2147483647)
    (right : x + (162 * (atLeastOne scale).toNat : Nat) ≤ 2147483647)
    (fits' : LineFits (x + (162 * (atLeastOne scale).toNat : Nat)) y value
      (atLeastOne scale).toNat) (labelRgba valueRgba : U32) :
    (storage abi).Ends
      (r.frame.Covered fun px py => LineCovers x y label (atLeastOne scale).toNat px py ∨
        LineCovers (x + (162 * (atLeastOne scale).toNat : Nat)) y value
          (atLeastOne scale).toNat px py) r
      (r.row x y label value scale labelRgba valueRgba) := by
  have idem := atLeastOne_idem scale
  obtain ⟨r₁, _, first, within⟩ := r.text_ends sound hx hy (idem.symm ▸ fits) labelRgba
  have same : r₁.frame = r.frame := within.fixed
  have fits₂ : LineFits (x + (162 * (atLeastOne scale).toNat : Nat)) y value
      (atLeastOne (atLeastOne scale)).toNat := idem.symm ▸ fits'
  have low := (fitsSigned_32.mp hx).1
  have shifted : FitsSigned 32 (x + (162 * (atLeastOne scale).toNat : Nat)) :=
    fitsSigned_32.mpr (by omega)
  obtain ⟨r₂, _, second, within'⟩ := r₁.text_ends (same ▸ sound) shifted hy fits₂ valueRgba
  have step : (18 * (GLYPH_W + 1) * atLeastOne scale).toInt =
      (162 * (atLeastOne scale).toNat : Nat) := toInt_scaled (n := 162) (by omega) column
  rw [idem] at within within'
  rw [same] at within'
  refine ⟨r₂, ?_, ?_⟩
  · rw [row, first]
    change ((fitSigned 32 (x + (18 * (GLYPH_W + 1) * atLeastOne scale).toInt)).bind fun column =>
      (r₁.text column y value (atLeastOne scale) valueRgba).bind fun drawn => some drawn.1) = _
    rw [step, Signed.fitSigned_eq shifted]
    change ((r₁.text _ y value (atLeastOne scale) valueRgba).bind fun drawn => some drawn.1) = _
    rw [second]
    rfl
  · exact (within.mono fun k covered => covered.mono fun _ _ h => .inl h).trans
      (within'.mono fun k covered => covered.mono fun _ _ h => .inr h)

/-- What one call writes. -/
theorem draw_ends (sound : r.frame.Sound) {call : DrawCall} (fits : call.Fits) :
    (storage abi).Ends (r.frame.Covered call.Covers) r (r.draw call) := by
  cases call with
  | rect x y w h rgba =>
    exact r.rect_ends sound (fitsSigned_int32 x) (fitsSigned_int32 y) fits rgba
  | clear rgba => exact r.clear_ends sound rgba
  | text x y text scale rgba =>
    obtain ⟨r', _, drawn, within⟩ :=
      r.text_ends sound (fitsSigned_int32 x) (fitsSigned_int32 y) fits rgba
    refine ⟨r', ?_, within⟩
    rw [draw, drawn]
    rfl
  | row x y label value scale labelRgba valueRgba =>
    obtain ⟨first, column, right, second⟩ := fits
    exact r.row_ends sound (fitsSigned_int32 x) (fitsSigned_int32 y) first column right second
      labelRgba valueRgba

/-- A run of calls is defined and keeps the frame. -/
theorem drawAll_ends (sound : r.frame.Sound) {calls : List DrawCall}
    (fits : ∀ call ∈ calls, call.Fits) :
    (storage abi).Ends (fun _ => True) r (r.drawAll calls) := by
  refine .foldlM fun call mem r' same => ?_
  have frame : r'.frame = r.frame := same
  exact (r'.draw_ends (frame ▸ sound) (fits call mem)).mono fun _ _ => trivial

/-- A drawing call stored only bytes of the visible pixels it covers, and all others kept their
values: those of other pixels, of the row padding, and past the frame. -/
structure Confined (covers : Int → Int → Prop) (before after : Renderer abi) : Prop where
  stored : ∃ offsets, after.stores = before.stores ++ offsets ∧
    ∀ k ∈ offsets, before.frame.Covered covers k
  others : ∀ px py : Nat, before.frame.Visible px py → ¬covers px py →
    ∀ k, before.frame.Byte px py k →
      (storage abi).cell after k = (storage abi).cell before k
  padding : ∀ py k : Nat,
    py * before.stride.toNat + before.width.toNat * before.bytesPerPixel.toNat ≤ k →
    k < (py + 1) * before.stride.toNat →
      (storage abi).cell after k = (storage abi).cell before k
  outside : ∀ k, before.frameBytes.toNat ≤ k →
    (storage abi).cell after k = (storage abi).cell before k

theorem confined_of_within (sound : r.frame.Sound) {covers : Int → Int → Prop}
    (within : (storage abi).Within (r.frame.Covered covers) r r') : Confined covers r r' where
  stored := within.written
  others px py visible uncovered k byte := by
    refine within.kept k ?_
    rintro ⟨-, px', py', visible', covered, byte'⟩
    obtain ⟨rfl, rfl⟩ := sound.byte_unique visible visible' byte byte'
    exact uncovered covered
  padding py k low high := by
    refine within.kept k ?_
    rintro ⟨-, px', py', visible', -, byte'⟩
    exact sound.padding_apart visible' low high byte'
  outside k past := within.kept k fun covered => absurd covered.1 (Nat.not_lt.mpr past)

/-- The frame of an accepted geometry without wrapping, of three bytes a pixel or more. -/
theorem init_sound {malloc : Option (Nat → UInt8)} {width height bpp stride : U32}
    (accepted : Renderer.init malloc width height bpp stride = (r, 0)) (depth : 24 ≤ bpp.toNat)
    (unwrapped : Unwrapped abi width height bpp stride) : r.frame.Sound := by
  obtain ⟨checked, sameWidth, sameHeight, bytes⟩ := Renderer.init_checked accepted
  obtain ⟨row_le, frame_eq, -⟩ := checked.consistent_iff.mpr unwrapped
  have quotient : r.frame.bytesPerPixel.toNat = bpp.toNat / 8 :=
    (congrArg BitVec.toNat bytes).trans BitVec.toNat_udiv
  refine ⟨⟨?_, ?_⟩, by omega⟩
  · rw [quotient]
    exact (congrArg (fun w : U32 => w.toNat * (bpp.toNat / 8)) sameWidth).trans_le row_le
  · exact frame_eq.trans (by rw [← sameHeight]; rfl)

/-- **Drawing stays inside the covered pixels.** -/
theorem drawing_confined {malloc : Option (Nat → UInt8)} {width height bpp stride : U32}
    (accepted : Renderer.init malloc width height bpp stride = (r, 0)) (depth : 24 ≤ bpp.toNat)
    (unwrapped : Unwrapped abi width height bpp stride) (calls : List DrawCall) (call : DrawCall)
    (fits : ∀ c ∈ calls ++ [call], c.Fits) :
    ∃ before after, r.drawAll calls = some before ∧ before.draw call = some after ∧
      Confined call.Covers before after := by
  have sound := init_sound accepted depth unwrapped
  obtain ⟨before, ran, kept⟩ := r.drawAll_ends sound fun c mem =>
    fits c (List.mem_append_left [call] mem)
  have same : before.frame = r.frame := kept.fixed
  rw [← same] at sound
  obtain ⟨after, drawn, within⟩ := before.draw_ends sound (fits call (by simp))
  exact ⟨before, after, ran, drawn, confined_of_within sound within⟩

/-- On a PSTV screen, after a rectangle that is clipped on two sides. -/
theorem pstv_text_confined :
    ∃ r before after : Renderer .ilp32,
      Renderer.init (some fun _ => 0) 1280 720 32 5120 = (r, 0) ∧
      r.drawAll [.clear 0x000000FF, .rect (-50) (-50) 100 100 0x00FF00FF] = some before ∧
      before.draw (.text 10 718 (some ⟨[0x41], by decide⟩) 3 0xFFFFFFFF) = some after ∧
      Confined (DrawCall.text 10 718 (some ⟨[0x41], by decide⟩) 3 0xFFFFFFFF).Covers
        before after := by
  have accepted : ∃ r : Renderer .ilp32,
      Renderer.init (some fun _ => 0) 1280 720 32 5120 = (r, 0) := ⟨_, rfl⟩
  obtain ⟨r, accepted⟩ := accepted
  have fits : ∀ c ∈ [DrawCall.clear 0x000000FF, .rect (-50) (-50) 100 100 0x00FF00FF] ++
      [.text 10 718 (some ⟨[0x41], by decide⟩) 3 0xFFFFFFFF], c.Fits := by
    intro c mem
    simp only [List.cons_append, List.nil_append, List.mem_cons, List.not_mem_nil,
      or_false] at mem
    obtain rfl | rfl | rfl := mem
    · trivial
    · exact .inr (.inr ⟨by decide, by decide⟩)
    · intro bytes same
      obtain rfl := Option.some.inj same
      refine ⟨by decide, by decide, fun ch _ gy gx _ => ?_⟩
      have scale : (atLeastOne 3).toNat = 3 := by decide
      have top : Int32.toInt 718 = 718 := by decide
      have row := gy.isLt
      rw [scale, top]
      omega
  obtain ⟨before, after, ran, drawn, confined⟩ :=
    drawing_confined accepted (by decide) ⟨by decide, by decide⟩ _ _ fits
  exact ⟨r, before, after, accepted, ran, drawn, confined⟩

/-- One byte a pixel: the only pixel of the frame is written as three. -/
theorem narrow_pixel_unconfined :
    ∃ r after : Renderer .ilp32, Renderer.init (some fun _ => 0) 1 1 8 0 = (r, 0) ∧
      r.draw (.rect 0 0 1 1 0xFFFFFFFF) = some after ∧
      ¬Confined (DrawCall.rect 0 0 1 1 0xFFFFFFFF).Covers r after := by
  refine ⟨_, _, rfl, rfl, fun confined => ?_⟩
  obtain ⟨offsets, same, inside⟩ := confined.stored
  have third : 2 ∈ offsets := by
    rw [← List.nil_append offsets]
    exact same ▸ (by decide : 2 ∈ [0, 1, 2])
  exact absurd (inside 2 third).1 (by decide)

end Renderer

end VitaLinux.Toolkit.Dashboard
