import VitaLinux.Base.Fill
import VitaLinux.Base.Machine

/-!
# cart/src/canvas.c

Pixels are the cells behind the canvas pointer, one 32-bit colour each, with
red in the low byte and alpha in the high byte.
-/

namespace VitaLinux.Cart

open VitaLinux.Base

/-- The memory a `uint32_t *` gives access to. -/
abbrev Pixels := Nat → U32

/-- `struct cart_canvas` with a non-NULL `pixels`. -/
structure CartCanvas (abi : Abi) where
  pixels : Pixels
  width : SizeT abi
  height : SizeT abi
  stride : SizeT abi

def clampChannel (value : Int) : Int :=
  if value < 0 then 0 else if 255 < value then 255 else value

def cartRgba (red green blue : Int) : U32 :=
  BitVec.ofInt 32 (clampChannel red) ||| (BitVec.ofInt 32 (clampChannel green) <<< 8) |||
    (BitVec.ofInt 32 (clampChannel blue) <<< 16) ||| 0xff000000#32

/-- `(color >> shift) & 0xff` as an `int` -/
def channel (color : U32) (shift : Nat) : Int :=
  (((color >>> shift) &&& 0xff#32).toNat : Int)

theorem channel_range (color : U32) (shift : Nat) :
    0 ≤ channel color shift ∧ channel color shift ≤ 255 := by
  have masked : ((color >>> shift) &&& 0xff#32).toNat ≤ 255 := by
    rw [BitVec.toNat_and]
    exact Nat.and_le_right
  simp only [channel]
  omega

/-- `cart_mix`. The product is shifted as a two's complement `int`. -/
def cartMix (source target : U32) (amount : U32) : U32 :=
  let amount : Int := if 256#32 < amount then 256 else (amount.toNat : Int)
  let blend (shift : Nat) : Int :=
    channel source shift +
      (((channel target shift - channel source shift) * amount) >>> (8 : Nat))
  cartRgba (blend 0) (blend 8) (blend 16)

namespace CartCanvas

variable {abi : Abi}

def valid (canvas : CartCanvas abi) : Bool :=
  if canvas.width = 0 ∨ canvas.height = 0 ∨ canvas.stride < canvas.width then false
  else if SIZE_MAX abi / canvas.stride < canvas.height then false
  else if SIZE_MAX abi / 4#_ < canvas.stride * canvas.height then false
  else true

/-- `(size_t)row * canvas->stride + (size_t)column` -/
def index (canvas : CartCanvas abi) (row column : Int) : Nat :=
  (BitVec.ofInt abi.sizeBits row * canvas.stride + BitVec.ofInt abi.sizeBits column).toNat

/-- `(int64_t)size` -/
def int64 (size : SizeT abi) : Int := (size.setWidth 64).toInt

def px (canvas : CartCanvas abi) (x y : Int) (color : U32) : CartCanvas abi :=
  if !canvas.valid ∨ x < 0 ∨ y < 0 ∨ canvas.width ≤ BitVec.ofInt abi.sizeBits x ∨
      canvas.height ≤ BitVec.ofInt abi.sizeBits y then
    canvas
  else
    { canvas with pixels := Function.update canvas.pixels (canvas.index y x) color }

/-- The two nested loops over `[y0, y1)` and `[x0, x1)`. -/
def fillRows (canvas : CartCanvas abi) (x0 y0 x1 y1 : Int) (inside : Int → Int → Bool)
    (color : U32) (pixels : Pixels) : Pixels :=
  (intRange y0 y1).foldl (fun pixels row =>
    (intRange x0 x1).foldl (fun pixels column =>
      if inside column row then Function.update pixels (canvas.index row column) color
      else pixels) pixels) pixels

/-- `cart_canvas_rect` -/
def rect (canvas : CartCanvas abi) (x y width height : Int) (color : U32) : CartCanvas abi :=
  if !canvas.valid ∨ width ≤ 0 ∨ height ≤ 0 then canvas
  else
    let x0 := if x < 0 then 0 else x
    let y0 := if y < 0 then 0 else y
    let x1 := if int64 canvas.width < x + width then int64 canvas.width else x + width
    let y1 := if int64 canvas.height < y + height then int64 canvas.height else y + height
    if x1 ≤ x0 ∨ y1 ≤ y0 then canvas
    else
      { canvas with
        pixels := canvas.fillRows x0 y0 x1 y1 (fun _ _ => true) color canvas.pixels }

def circle (canvas : CartCanvas abi) (centerX centerY radius : Int) (color : U32) :
    CartCanvas abi :=
  if !canvas.valid ∨ radius < 0 then canvas
  else
    let left := if centerX - radius < 0 then 0 else centerX - radius
    let top := if centerY - radius < 0 then 0 else centerY - radius
    let right :=
      if int64 canvas.width ≤ centerX + radius then int64 canvas.width - 1
      else centerX + radius
    let bottom :=
      if int64 canvas.height ≤ centerY + radius then int64 canvas.height - 1
      else centerY + radius
    if right < left ∨ bottom < top then canvas
    else
      { canvas with
        pixels := canvas.fillRows left top (right + 1) (bottom + 1)
          (fun column row =>
            (column - centerX) * (column - centerX) + (row - centerY) * (row - centerY) ≤
              radius * radius)
          color canvas.pixels }

end CartCanvas

end VitaLinux.Cart
