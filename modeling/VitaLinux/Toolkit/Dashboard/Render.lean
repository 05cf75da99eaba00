import Mathlib.Data.List.FinRange
import VitaLinux.Base.Fill
import VitaLinux.Base.Machine
import VitaLinux.Base.SignedArithmetic

/-!
# toolkit/examples/vita-dashboard/src/render.c

The drawing functions give a result only where all their signed arithmetic is defined. A
renderer remembers which bytes they have stored, whatever the values.
-/

namespace VitaLinux.Toolkit.Dashboard

open VitaLinux.Base

def FONT_FIRST : UInt8 := 0x20

def FONT_LAST : UInt8 := 0x7E

def GLYPH_W : U32 := 8

/-- Minimal 8x8 font covering ASCII 0x20-0x7E. -/
def font8x8 : Vector (Vector UInt8 8) 95 := ⟨#[
  ⟨#[0, 0, 0, 0, 0, 0, 0, 0], rfl⟩,
  ⟨#[0x18, 0x18, 0x18, 0x18, 0, 0, 0x18, 0], rfl⟩,
  ⟨#[0x6C, 0x6C, 0, 0, 0, 0, 0, 0], rfl⟩,
  ⟨#[0x6C, 0xFE, 0x6C, 0x6C, 0x6C, 0xFE, 0x6C, 0], rfl⟩,
  ⟨#[0x18, 0x7E, 0xC0, 0x7C, 0x06, 0xFC, 0x18, 0], rfl⟩,
  ⟨#[0, 0xC6, 0xCC, 0x18, 0x30, 0x66, 0xC6, 0], rfl⟩,
  ⟨#[0x38, 0x6C, 0x38, 0x76, 0xDC, 0xCC, 0x76, 0], rfl⟩,
  ⟨#[0x18, 0x18, 0x30, 0, 0, 0, 0, 0], rfl⟩,
  ⟨#[0x0C, 0x18, 0x30, 0x30, 0x30, 0x18, 0x0C, 0], rfl⟩,
  ⟨#[0x30, 0x18, 0x0C, 0x0C, 0x0C, 0x18, 0x30, 0], rfl⟩,
  ⟨#[0, 0x66, 0x3C, 0xFF, 0x3C, 0x66, 0, 0], rfl⟩,
  ⟨#[0, 0x18, 0x18, 0x7E, 0x18, 0x18, 0, 0], rfl⟩,
  ⟨#[0, 0, 0, 0, 0, 0x18, 0x18, 0x30], rfl⟩,
  ⟨#[0, 0, 0, 0x7E, 0, 0, 0, 0], rfl⟩,
  ⟨#[0, 0, 0, 0, 0, 0x18, 0x18, 0], rfl⟩,
  ⟨#[0x06, 0x0C, 0x18, 0x30, 0x60, 0xC0, 0x80, 0], rfl⟩,
  ⟨#[0x7C, 0xC6, 0xCE, 0xDE, 0xF6, 0xE6, 0x7C, 0], rfl⟩,
  ⟨#[0x18, 0x38, 0x18, 0x18, 0x18, 0x18, 0x7E, 0], rfl⟩,
  ⟨#[0x7C, 0xC6, 0x06, 0x1C, 0x30, 0x66, 0xFE, 0], rfl⟩,
  ⟨#[0x7C, 0xC6, 0x06, 0x3C, 0x06, 0xC6, 0x7C, 0], rfl⟩,
  ⟨#[0x1C, 0x3C, 0x6C, 0xCC, 0xFE, 0x0C, 0x1E, 0], rfl⟩,
  ⟨#[0xFE, 0xC0, 0xC0, 0xFC, 0x06, 0xC6, 0x7C, 0], rfl⟩,
  ⟨#[0x38, 0x60, 0xC0, 0xFC, 0xC6, 0xC6, 0x7C, 0], rfl⟩,
  ⟨#[0xFE, 0xC6, 0x0C, 0x18, 0x30, 0x30, 0x30, 0], rfl⟩,
  ⟨#[0x7C, 0xC6, 0xC6, 0x7C, 0xC6, 0xC6, 0x7C, 0], rfl⟩,
  ⟨#[0x7C, 0xC6, 0xC6, 0x7E, 0x06, 0x0C, 0x78, 0], rfl⟩,
  ⟨#[0, 0x18, 0x18, 0, 0, 0x18, 0x18, 0], rfl⟩,
  ⟨#[0, 0x18, 0x18, 0, 0, 0x18, 0x18, 0x30], rfl⟩,
  ⟨#[0x06, 0x0C, 0x18, 0x30, 0x18, 0x0C, 0x06, 0], rfl⟩,
  ⟨#[0, 0, 0x7E, 0, 0x7E, 0, 0, 0], rfl⟩,
  ⟨#[0x60, 0x30, 0x18, 0x0C, 0x18, 0x30, 0x60, 0], rfl⟩,
  ⟨#[0x7C, 0xC6, 0x0C, 0x18, 0x18, 0, 0x18, 0], rfl⟩,
  ⟨#[0x7C, 0xC6, 0xDE, 0xDE, 0xDE, 0xC0, 0x78, 0], rfl⟩,
  ⟨#[0x38, 0x6C, 0xC6, 0xC6, 0xFE, 0xC6, 0xC6, 0], rfl⟩,
  ⟨#[0xFC, 0x66, 0x66, 0x7C, 0x66, 0x66, 0xFC, 0], rfl⟩,
  ⟨#[0x3C, 0x66, 0xC0, 0xC0, 0xC0, 0x66, 0x3C, 0], rfl⟩,
  ⟨#[0xF8, 0x6C, 0x66, 0x66, 0x66, 0x6C, 0xF8, 0], rfl⟩,
  ⟨#[0xFE, 0x62, 0x68, 0x78, 0x68, 0x62, 0xFE, 0], rfl⟩,
  ⟨#[0xFE, 0x62, 0x68, 0x78, 0x68, 0x60, 0xF0, 0], rfl⟩,
  ⟨#[0x3C, 0x66, 0xC0, 0xC0, 0xCE, 0x66, 0x3A, 0], rfl⟩,
  ⟨#[0xC6, 0xC6, 0xC6, 0xFE, 0xC6, 0xC6, 0xC6, 0], rfl⟩,
  ⟨#[0x3C, 0x18, 0x18, 0x18, 0x18, 0x18, 0x3C, 0], rfl⟩,
  ⟨#[0x1E, 0x0C, 0x0C, 0x0C, 0xCC, 0xCC, 0x78, 0], rfl⟩,
  ⟨#[0xE6, 0x66, 0x6C, 0x78, 0x6C, 0x66, 0xE6, 0], rfl⟩,
  ⟨#[0xF0, 0x60, 0x60, 0x60, 0x62, 0x66, 0xFE, 0], rfl⟩,
  ⟨#[0xC6, 0xEE, 0xFE, 0xFE, 0xD6, 0xC6, 0xC6, 0], rfl⟩,
  ⟨#[0xC6, 0xE6, 0xF6, 0xDE, 0xCE, 0xC6, 0xC6, 0], rfl⟩,
  ⟨#[0x7C, 0xC6, 0xC6, 0xC6, 0xC6, 0xC6, 0x7C, 0], rfl⟩,
  ⟨#[0xFC, 0x66, 0x66, 0x7C, 0x60, 0x60, 0xF0, 0], rfl⟩,
  ⟨#[0x7C, 0xC6, 0xC6, 0xC6, 0xD6, 0xDE, 0x7C, 0x06], rfl⟩,
  ⟨#[0xFC, 0x66, 0x66, 0x7C, 0x6C, 0x66, 0xE6, 0], rfl⟩,
  ⟨#[0x7C, 0xC6, 0x60, 0x38, 0x0C, 0xC6, 0x7C, 0], rfl⟩,
  ⟨#[0x7E, 0x7E, 0x5A, 0x18, 0x18, 0x18, 0x3C, 0], rfl⟩,
  ⟨#[0xC6, 0xC6, 0xC6, 0xC6, 0xC6, 0xC6, 0x7C, 0], rfl⟩,
  ⟨#[0xC6, 0xC6, 0xC6, 0xC6, 0xC6, 0x6C, 0x38, 0], rfl⟩,
  ⟨#[0xC6, 0xC6, 0xC6, 0xD6, 0xFE, 0xEE, 0xC6, 0], rfl⟩,
  ⟨#[0xC6, 0xC6, 0x6C, 0x38, 0x6C, 0xC6, 0xC6, 0], rfl⟩,
  ⟨#[0x66, 0x66, 0x66, 0x3C, 0x18, 0x18, 0x3C, 0], rfl⟩,
  ⟨#[0xFE, 0xC6, 0x8C, 0x18, 0x32, 0x66, 0xFE, 0], rfl⟩,
  ⟨#[0x3C, 0x30, 0x30, 0x30, 0x30, 0x30, 0x3C, 0], rfl⟩,
  ⟨#[0xC0, 0x60, 0x30, 0x18, 0x0C, 0x06, 0x02, 0], rfl⟩,
  ⟨#[0x3C, 0x0C, 0x0C, 0x0C, 0x0C, 0x0C, 0x3C, 0], rfl⟩,
  ⟨#[0x10, 0x38, 0x6C, 0xC6, 0, 0, 0, 0], rfl⟩,
  ⟨#[0, 0, 0, 0, 0, 0, 0, 0xFF], rfl⟩,
  ⟨#[0x30, 0x18, 0x0C, 0, 0, 0, 0, 0], rfl⟩,
  ⟨#[0, 0, 0x78, 0x0C, 0x7C, 0xCC, 0x76, 0], rfl⟩,
  ⟨#[0xE0, 0x60, 0x7C, 0x66, 0x66, 0x66, 0xDC, 0], rfl⟩,
  ⟨#[0, 0, 0x7C, 0xC6, 0xC0, 0xC6, 0x7C, 0], rfl⟩,
  ⟨#[0x1C, 0x0C, 0x7C, 0xCC, 0xCC, 0xCC, 0x76, 0], rfl⟩,
  ⟨#[0, 0, 0x7C, 0xC6, 0xFE, 0xC0, 0x7C, 0], rfl⟩,
  ⟨#[0x3C, 0x66, 0x60, 0xF8, 0x60, 0x60, 0xF0, 0], rfl⟩,
  ⟨#[0, 0, 0x76, 0xCC, 0xCC, 0x7C, 0x0C, 0xF8], rfl⟩,
  ⟨#[0xE0, 0x60, 0x6C, 0x76, 0x66, 0x66, 0xE6, 0], rfl⟩,
  ⟨#[0x18, 0, 0x38, 0x18, 0x18, 0x18, 0x3C, 0], rfl⟩,
  ⟨#[0x06, 0, 0x0E, 0x06, 0x06, 0x66, 0x66, 0x3C], rfl⟩,
  ⟨#[0xE0, 0x60, 0x66, 0x6C, 0x78, 0x6C, 0xE6, 0], rfl⟩,
  ⟨#[0x38, 0x18, 0x18, 0x18, 0x18, 0x18, 0x3C, 0], rfl⟩,
  ⟨#[0, 0, 0xEC, 0xFE, 0xD6, 0xD6, 0xD6, 0], rfl⟩,
  ⟨#[0, 0, 0xDC, 0x66, 0x66, 0x66, 0x66, 0], rfl⟩,
  ⟨#[0, 0, 0x7C, 0xC6, 0xC6, 0xC6, 0x7C, 0], rfl⟩,
  ⟨#[0, 0, 0xDC, 0x66, 0x66, 0x7C, 0x60, 0xF0], rfl⟩,
  ⟨#[0, 0, 0x76, 0xCC, 0xCC, 0x7C, 0x0C, 0x1E], rfl⟩,
  ⟨#[0, 0, 0xDC, 0x76, 0x60, 0x60, 0xF0, 0], rfl⟩,
  ⟨#[0, 0, 0x7E, 0xC0, 0x7C, 0x06, 0xFC, 0], rfl⟩,
  ⟨#[0x30, 0x30, 0xFC, 0x30, 0x30, 0x36, 0x1C, 0], rfl⟩,
  ⟨#[0, 0, 0xCC, 0xCC, 0xCC, 0xCC, 0x76, 0], rfl⟩,
  ⟨#[0, 0, 0xC6, 0xC6, 0xC6, 0x6C, 0x38, 0], rfl⟩,
  ⟨#[0, 0, 0xC6, 0xD6, 0xD6, 0xFE, 0x6C, 0], rfl⟩,
  ⟨#[0, 0, 0xC6, 0x6C, 0x38, 0x6C, 0xC6, 0], rfl⟩,
  ⟨#[0, 0, 0xC6, 0xC6, 0xC6, 0x7E, 0x06, 0xFC], rfl⟩,
  ⟨#[0, 0, 0xFE, 0x8C, 0x18, 0x62, 0xFE, 0], rfl⟩,
  ⟨#[0x0E, 0x18, 0x18, 0x70, 0x18, 0x18, 0x0E, 0], rfl⟩,
  ⟨#[0x18, 0x18, 0x18, 0x18, 0x18, 0x18, 0x18, 0], rfl⟩,
  ⟨#[0x70, 0x18, 0x18, 0x0E, 0x18, 0x18, 0x70, 0], rfl⟩,
  ⟨#[0x76, 0xDC, 0, 0, 0, 0, 0, 0], rfl⟩], rfl⟩

/-- The character itself, or `?` where the font has none for it. -/
def printable (ch : UInt8) : UInt8 := if ch < FONT_FIRST ∨ FONT_LAST < ch then 0x3F else ch

theorem printable_index (ch : UInt8) : (printable ch - FONT_FIRST).toNat < 95 := by
  have all : ∀ code : Fin 256, (printable (UInt8.ofFin code) - FONT_FIRST).toNat < 95 := by
    decide +kernel
  exact all ch.toFin

/-- `font8x8[ch - FONT_FIRST]` -/
def glyphOf (ch : UInt8) : Vector UInt8 8 :=
  font8x8.get ⟨(printable ch - FONT_FIRST).toNat, printable_index ch⟩

/-- `bits & (0x80u >> gx)` in row `gy`. -/
def lit (ch : UInt8) (gy gx : Fin 8) : Bool :=
  (glyphOf ch)[gy] &&& (0x80 >>> UInt8.ofNat gx) ≠ 0

structure Renderer (abi : Abi) where
  /-- The memory from the shadow's address on, also past its end; `none` is NULL. -/
  shadow : Option (Nat → UInt8)
  frameBytes : SizeT abi
  width : U32
  height : U32
  stride : U32
  bytesPerPixel : U32
  /-- `unsigned long`, which is as wide as `size_t` -/
  clippedWrites : SizeT abi
  /-- Where drawing has stored a byte, in order, counted from the shadow's address. -/
  stores : List Nat

/-- A text argument: the bytes before its NUL. -/
abbrev CText := { bytes : List UInt8 // 0 ∉ bytes }

/-- The largest frame that `render_init` accepts: 64 MiB. -/
def MAX_SHADOW_BYTES : U32 := 67108864

namespace Renderer

variable {abi : Abi}

/-- `render_init`, with what malloc returns, and its status. -/
def init (malloc : Option (Nat → UInt8)) (width height bpp stride : U32) : Renderer abi × Int :=
  let r : Renderer abi :=
    { shadow := none, frameBytes := 0, width := 0, height := 0, stride := 0
      bytesPerPixel := 0, clippedWrites := 0, stores := [] }
  if width = 0 ∨ height = 0 ∨ bpp = 0 ∨ bpp % 8 ≠ 0 then (r, -1)
  else
    let stride := if stride = 0 then width * (bpp / 8) else stride
    if stride < width * (bpp / 8) then (r, -1)
    else
      let r := { r with frameBytes := stride.setWidth abi.sizeBits * height.setWidth abi.sizeBits }
      if r.frameBytes = 0 ∨ MAX_SHADOW_BYTES.setWidth abi.sizeBits < r.frameBytes then (r, -1)
      else
        match malloc with
        | none => ({ r with frameBytes := 0 }, -1)
        | some memory =>
          ({ r with
              shadow := some fun i => if i < r.frameBytes.toNat then 0 else memory i
              width := width, height := height, stride := stride, bytesPerPixel := bpp / 8 }, 0)

/-- `r->shadow[offset] = byte` -/
def store (r : Renderer abi) (offset : Nat) (byte : U32) : Renderer abi :=
  { r with
    shadow := r.shadow.map fun shadow =>
      Function.update shadow offset (UInt8.ofBitVec (byte.setWidth 8))
    stores := r.stores ++ [offset] }

def putPixel (r : Renderer abi) (x y : Int) (rgba : U32) : Renderer abi :=
  if x < 0 ∨ y < 0 then r
  else if r.width ≤ BitVec.ofInt 32 x ∨ r.height ≤ BitVec.ofInt 32 y then r
  else
    let offset : SizeT abi :=
      BitVec.ofInt abi.sizeBits y * r.stride.setWidth abi.sizeBits +
        BitVec.ofInt abi.sizeBits x * r.bytesPerPixel.setWidth abi.sizeBits
    if r.frameBytes < offset + r.bytesPerPixel.setWidth abi.sizeBits then r
    else
      let pixel := offset.toNat
      -- PSTV memory order is RGBA (a8b8g8r8 in DRM naming).
      let r := r.store pixel ((rgba >>> 24) &&& 0xFF)
      let r := r.store (pixel + 1) ((rgba >>> 16) &&& 0xFF)
      let r := r.store (pixel + 2) ((rgba >>> 8) &&& 0xFF)
      if 4 ≤ r.bytesPerPixel then r.store (pixel + 3) (rgba &&& 0xFF) else r

/-- `(long)size`, where `long` is as wide as `size_t` -/
def long (abi : Abi) (size : U32) : Int := (size.setWidth abi.sizeBits).toInt

/-- Whether `render_rect` counts a clipped write. `||` stops at the first side that holds. -/
def clips (r : Renderer abi) (x y w h : Int) : Option Bool :=
  if x < 0 ∨ y < 0 then some true
  else do
    let right ← fitSigned abi.sizeBits (x + w)
    if long abi r.width < right then some true
    else do
      let bottom ← fitSigned abi.sizeBits (y + h)
      some (long abi r.height < bottom)

def rect (r : Renderer abi) (x y w h : Int) (rgba : U32) : Option (Renderer abi) :=
  if w ≤ 0 ∨ h ≤ 0 then some r
  else do
    let r := if ← r.clips x y w h then { r with clippedWrites := r.clippedWrites + 1 } else r
    let bottom ← fitSigned 32 (y + h)
    let right ← fitSigned 32 (x + w)
    some <| (intRange y bottom).foldl (fun r row =>
      (intRange x right).foldl (fun r col => r.putPixel col row rgba) r) r

def clear (r : Renderer abi) (rgba : U32) : Option (Renderer abi) :=
  r.rect 0 0 r.width.toInt r.height.toInt rgba

/-- The loops over `gy` and `gx` in `render_text`. -/
def glyph (r : Renderer abi) (pen y : Int) (ch : UInt8) (scale rgba : U32) :
    Option (Renderer abi) :=
  (List.finRange 8).foldlM (fun r gy =>
    (List.finRange 8).foldlM (fun r gx =>
      if lit ch gy gx then do
        let left ← fitSigned 32 (pen + (BitVec.ofNat 32 gx * scale).toInt)
        let top ← fitSigned 32 (y + (BitVec.ofNat 32 gy * scale).toInt)
        r.rect left top scale.toInt scale.toInt rgba
      else some r) r) r

/-- The loop over the characters in `render_text`, with the pen. -/
def glyphs (y : Int) (scale rgba : U32) :
    Renderer abi → Int → List UInt8 → Option (Renderer abi × Int)
  | r, pen, [] => some (r, pen)
  | r, pen, ch :: text => do
    let r ← r.glyph pen y ch scale rgba
    let pen ← fitSigned 32 (pen + ((GLYPH_W + 1) * scale).toInt)
    glyphs y scale rgba r pen text

/-- `if (scale == 0) scale = 1;` -/
def atLeastOne (scale : U32) : U32 := if scale = 0 then 1 else scale

/-- `render_text`, with the advance in pixels. -/
def text (r : Renderer abi) (x y : Int) (text : Option CText) (scale rgba : U32) :
    Option (Renderer abi × Int) :=
  match text with
  | none => some (r, 0)
  | some text => do
    let (r, pen) ← glyphs y (atLeastOne scale) rgba r x text.val
    let advance ← fitSigned 32 (pen - x)
    some (r, advance)

def row (r : Renderer abi) (x y : Int) (label value : Option CText)
    (scale labelRgba valueRgba : U32) : Option (Renderer abi) := do
  let scale := atLeastOne scale
  let (r, _) ← r.text x y label scale labelRgba
  -- Fixed value column keeps rows aligned without measuring the label.
  let column ← fitSigned 32 (x + (18 * (GLYPH_W + 1) * scale).toInt)
  let (r, _) ← r.text column y value scale valueRgba
  some r

end Renderer

inductive DrawCall where
  | rect (x y w h : Int32) (rgba : U32)
  | clear (rgba : U32)
  | text (x y : Int32) (text : Option CText) (scale rgba : U32)
  | row (x y : Int32) (label value : Option CText) (scale labelRgba valueRgba : U32)

namespace Renderer

variable {abi : Abi}

def draw (r : Renderer abi) : DrawCall → Option (Renderer abi)
  | .rect x y w h rgba => r.rect x.toInt y.toInt w.toInt h.toInt rgba
  | .clear rgba => r.clear rgba
  | .text x y text scale rgba => do return (← r.text x.toInt y.toInt text scale rgba).1
  | .row x y label value scale labelRgba valueRgba =>
    r.row x.toInt y.toInt label value scale labelRgba valueRgba

def drawAll (r : Renderer abi) (calls : List DrawCall) : Option (Renderer abi) :=
  calls.foldlM draw r

end Renderer

end VitaLinux.Toolkit.Dashboard
