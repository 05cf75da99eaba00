import VitaLinux.Base.Grid

/-!
# Windows bitmaps

The reading of a bitmap file with 24 bits for each pixel and no compression: a header of
little-endian numbers, then the rows from the bottom to the top, each padded to a
multiple of four bytes, with the blue, green and red of its pixels.
-/

namespace VitaLinux.Base

namespace Bitmap

def byteAt (file : List UInt8) (i : Nat) : UInt8 := file.getD i 0

def u16At (file : List UInt8) (i : Nat) : Nat :=
  (byteAt file i).toNat + 256 * (byteAt file (i + 1)).toNat

def u32At (file : List UInt8) (i : Nat) : Nat := u16At file i + 65536 * u16At file (i + 2)

/-- The offset of the pixel data. -/
def offset (file : List UInt8) : Nat := u32At file 10

def width (file : List UInt8) : Nat := u32At file 18

/-- The height; as a signed number it is positive when the rows go from bottom to top. -/
def height (file : List UInt8) : Nat := u32At file 22

/-- The length of a row with its padding. -/
def stride (file : List UInt8) : Nat := (width file * 3 + 3) / 4 * 4

/-- A file with a header of the plain kind that holds all its rows. -/
structure WellFormed (file : List UInt8) : Prop where
  magic : byteAt file 0 = 66 ∧ byteAt file 1 = 77
  size : u32At file 2 = file.length
  header : u32At file 14 = 40
  planes : u16At file 26 = 1
  depth : u16At file 28 = 24
  compression : u32At file 30 = 0
  bottomUp : height file < 2147483648
  whole : offset file + stride file * height file ≤ file.length

/-- The red, green and blue bytes of the pixel in column `x` of row `y` from the top. -/
def pixel (file : List UInt8) (y x : Nat) : List UInt8 :=
  let cell := offset file + (height file - 1 - y) * stride file + 3 * x
  [byteAt file (cell + 2), byteAt file (cell + 1), byteAt file cell]

/-- The picture of a file, row by row from the top. -/
def raster (file : List UInt8) : List UInt8 :=
  rowMajor (height file) (width file) (pixel file)

end Bitmap

end VitaLinux.Base
