import VitaLinux.Base.Bitmap
import VitaLinux.Base.Fill
import VitaLinux.Base.Machine

/-!
# The bitmap of vita-fbserve.c

`build_bitmap` samples the framebuffer once for every logical pixel and puts the sample
into a Windows bitmap: a header of 54 bytes, the rows from the bottom to the top, and
blue, green and red in each pixel.
-/

namespace VitaLinux.Toolkit.Fbserve

open VitaLinux.Base

/-- The memory an `unsigned char *` gives access to. -/
abbrev Memory := Nat → UInt8

def FB_WIDTH : Nat := 1280
def FB_HEIGHT : Nat := 720
def FB_BPP : Nat := 4
def SCALE : Nat := 4
def IMAGE_WIDTH : Nat := FB_WIDTH / SCALE
def IMAGE_HEIGHT : Nat := FB_HEIGHT / SCALE
def BMP_ROW_BYTES : Nat := IMAGE_WIDTH * 3
def BMP_BYTES : Nat := 54 + BMP_ROW_BYTES * IMAGE_HEIGHT

def putU16 (memory : Memory) (destination : Nat) (value : BitVec 16) : Memory :=
  let memory := Function.update memory destination (UInt8.ofBitVec ((value &&& 0xff#16).setWidth 8))
  Function.update memory (destination + 1) (UInt8.ofBitVec ((value >>> 8).setWidth 8))

def putU32 (memory : Memory) (destination : Nat) (value : U32) : Memory :=
  let memory := Function.update memory destination (UInt8.ofBitVec ((value &&& 0xff#32).setWidth 8))
  let memory := Function.update memory (destination + 1)
    (UInt8.ofBitVec (((value >>> 8) &&& 0xff#32).setWidth 8))
  let memory := Function.update memory (destination + 2)
    (UInt8.ofBitVec (((value >>> 16) &&& 0xff#32).setWidth 8))
  Function.update memory (destination + 3) (UInt8.ofBitVec ((value >>> 24).setWidth 8))

/-- `build_bitmap` up to the loops. -/
def bitmapHeader (bitmap : Memory) : Memory :=
  let bitmap : Memory := fun i => if i < BMP_BYTES then 0 else bitmap i
  let bitmap := Function.update bitmap 0 66
  let bitmap := Function.update bitmap 1 77
  let bitmap := putU32 bitmap 2 (BitVec.ofNat 32 BMP_BYTES)
  let bitmap := putU32 bitmap 10 54
  let bitmap := putU32 bitmap 14 40
  let bitmap := putU32 bitmap 18 (BitVec.ofNat 32 IMAGE_WIDTH)
  let bitmap := putU32 bitmap 22 (BitVec.ofNat 32 IMAGE_HEIGHT)
  let bitmap := putU16 bitmap 26 1
  let bitmap := putU16 bitmap 28 24
  let bitmap := putU32 bitmap 34 (BitVec.ofNat 32 (BMP_ROW_BYTES * IMAGE_HEIGHT))
  let bitmap := putU32 bitmap 38 2835
  putU32 bitmap 42 2835

/-- The body of the inner loop: one pixel at `destination`, which moves on. -/
def putPixel (framebuffer : Memory) (sourceY : Nat) (cursor : Memory × Nat) (x : Nat) :
    Memory × Nat :=
  let source := (sourceY * SCALE * FB_WIDTH + x * SCALE) * FB_BPP
  let bitmap := Function.update cursor.1 cursor.2 (framebuffer (source + 2))
  let bitmap := Function.update bitmap (cursor.2 + 1) (framebuffer (source + 1))
  let bitmap := Function.update bitmap (cursor.2 + 2) (framebuffer source)
  (bitmap, cursor.2 + 3)

/-- The body of the outer loop. -/
def putRow (framebuffer : Memory) (bitmap : Memory) (y : Nat) : Memory :=
  ((List.range IMAGE_WIDTH).foldl (putPixel framebuffer (IMAGE_HEIGHT - 1 - y))
    (bitmap, 54 + y * BMP_ROW_BYTES)).1

def buildBitmap (bitmap framebuffer : Memory) : Memory :=
  (List.range IMAGE_HEIGHT).foldl (putRow framebuffer) (bitmapHeader bitmap)

/-- The bytes of the bitmap as they are sent. -/
def bitmapFile (bitmap framebuffer : Memory) : List UInt8 :=
  (List.range BMP_BYTES).map (buildBitmap bitmap framebuffer)

/-- The cell `i` of the pixel data: the sample that belongs there. -/
def sampled (framebuffer : Memory) (i : Nat) : UInt8 :=
  let y := (i - 54) / BMP_ROW_BYTES
  let x := (i - 54) % BMP_ROW_BYTES / 3
  framebuffer (((IMAGE_HEIGHT - 1 - y) * SCALE * FB_WIDTH + x * SCALE) * FB_BPP +
    (2 - (i - 54) % 3))

theorem sampled_cell (framebuffer : Memory) (y : Nat) {x c : Nat} (wide : x < IMAGE_WIDTH)
    (small : c < 3) :
    sampled framebuffer (54 + y * BMP_ROW_BYTES + 3 * x + c) =
      framebuffer (((IMAGE_HEIGHT - 1 - y) * SCALE * FB_WIDTH + x * SCALE) * FB_BPP +
        (2 - c)) := by
  have wide : x < 320 := wide
  have row : BMP_ROW_BYTES = 960 := rfl
  have line : (54 + y * 960 + 3 * x + c - 54) / 960 = y := by omega
  have column : (54 + y * 960 + 3 * x + c - 54) % 960 / 3 = x := by omega
  have sample : (54 + y * 960 + 3 * x + c - 54) % 3 = c := by omega
  simp only [sampled, row]
  rw [line, column, sample]

/-- A turn of the inner loop fills the three bytes of its pixel. -/
theorem putPixel_fills (framebuffer : Memory) (y : Nat) {x : Nat} (wide : x < IMAGE_WIDTH) :
    Fills (fun bitmap => (putPixel framebuffer (IMAGE_HEIGHT - 1 - y)
        (bitmap, 54 + y * BMP_ROW_BYTES + 3 * x) x).1)
      (fun i => 54 + y * BMP_ROW_BYTES + 3 * x ≤ i ∧ i < 54 + y * BMP_ROW_BYTES + 3 * x + 3)
      (sampled framebuffer) := by
  have blue := sampled_cell framebuffer y wide (show 0 < 3 by decide)
  have green := sampled_cell framebuffer y wide (show 1 < 3 by decide)
  have red := sampled_cell framebuffer y wide (show 2 < 3 by decide)
  generalize 54 + y * BMP_ROW_BYTES + 3 * x = cell at blue green red ⊢
  have first := Fills.update cell (sampled framebuffer)
  have second := Fills.update (cell + 1) (sampled framebuffer)
  have third := Fills.update (cell + 2) (sampled framebuffer)
  rw [Nat.add_zero] at blue
  rw [blue] at first
  rw [green] at second
  rw [red] at third
  refine ((first.comp second).comp third).congr fun i => ?_
  omega

theorem putRow_fills (framebuffer : Memory) (y : Nat) :
    Fills (fun bitmap => putRow framebuffer bitmap y)
      (fun i => 54 ≤ i ∧ (i - 54) / BMP_ROW_BYTES = y) (sampled framebuffer) := by
  have loop := Fills.loop (List.range IMAGE_WIDTH) fun x wide =>
    putPixel_fills framebuffer y (List.mem_range.mp wide)
  have cursor : (fun bitmap => putRow framebuffer bitmap y) = fun bitmap =>
      (List.range IMAGE_WIDTH).foldl (fun bitmap x => (putPixel framebuffer (IMAGE_HEIGHT - 1 - y)
        (bitmap, 54 + y * BMP_ROW_BYTES + 3 * x) x).1) bitmap := by
    funext bitmap
    exact congrArg Prod.fst (foldl_cursor (fun bitmap cell x =>
      (putPixel framebuffer (IMAGE_HEIGHT - 1 - y) (bitmap, cell) x).1) 3
        (54 + y * BMP_ROW_BYTES) IMAGE_WIDTH bitmap)
  rw [cursor]
  refine loop.congr fun i => ?_
  have width : IMAGE_WIDTH = 320 := rfl
  have row : BMP_ROW_BYTES = 960 := rfl
  simp only [List.mem_range, width, row]
  constructor
  · rintro ⟨late, line⟩
    exact ⟨(i - 54) % 960 / 3, by omega, by omega, by omega⟩
  · rintro ⟨x, wide, low, high⟩
    omega

theorem buildBitmap_fills (framebuffer : Memory) :
    Fills (fun bitmap => (List.range IMAGE_HEIGHT).foldl (putRow framebuffer) bitmap)
      (fun i => 54 ≤ i ∧ i < BMP_BYTES) (sampled framebuffer) := by
  refine (Fills.loop _ fun y _ => putRow_fills framebuffer y).congr fun i => ?_
  simp only [List.mem_range, BMP_BYTES, BMP_ROW_BYTES, IMAGE_WIDTH, IMAGE_HEIGHT, FB_WIDTH,
    FB_HEIGHT, SCALE]
  constructor
  · rintro ⟨low, high⟩
    exact ⟨_, by omega, low, rfl⟩
  · rintro ⟨y, high, low, same⟩
    omega

theorem byteAt_bitmapFile (bitmap framebuffer : Memory) {i : Nat} (inside : i < BMP_BYTES) :
    Bitmap.byteAt (bitmapFile bitmap framebuffer) i = buildBitmap bitmap framebuffer i := by
  unfold Bitmap.byteAt bitmapFile
  rw [List.getD_eq_getElem?_getD, List.getElem?_map, List.getElem?_range inside,
    Option.map_some, Option.getD_some]

/-- The header as it is in the file. -/
theorem byteAt_header (bitmap framebuffer : Memory) {i : Nat} (early : i < 54) :
    Bitmap.byteAt (bitmapFile bitmap framebuffer) i = bitmapHeader bitmap i := by
  have inside : i < BMP_BYTES := by
    simp only [BMP_BYTES]
    omega
  rw [byteAt_bitmapFile bitmap framebuffer inside]
  exact ((buildBitmap_fills framebuffer) (bitmapHeader bitmap) i).2 (by omega)

/-- The pixels as they are in the file. -/
theorem byteAt_pixels (bitmap framebuffer : Memory) {i : Nat} (late : 54 ≤ i)
    (inside : i < BMP_BYTES) :
    Bitmap.byteAt (bitmapFile bitmap framebuffer) i = sampled framebuffer i := by
  rw [byteAt_bitmapFile bitmap framebuffer inside]
  exact ((buildBitmap_fills framebuffer) (bitmapHeader bitmap) i).1 ⟨late, inside⟩

theorem u16At_header (bitmap framebuffer : Memory) {i : Nat} (early : i + 1 < 54) :
    Bitmap.u16At (bitmapFile bitmap framebuffer) i =
      (bitmapHeader bitmap i).toNat + 256 * (bitmapHeader bitmap (i + 1)).toNat := by
  unfold Bitmap.u16At
  rw [byteAt_header _ _ (by omega), byteAt_header _ _ early]

theorem u32At_header (bitmap framebuffer : Memory) {i : Nat} (early : i + 3 < 54) :
    Bitmap.u32At (bitmapFile bitmap framebuffer) i =
      (bitmapHeader bitmap i).toNat + 256 * (bitmapHeader bitmap (i + 1)).toNat +
        65536 * ((bitmapHeader bitmap (i + 2)).toNat +
          256 * (bitmapHeader bitmap (i + 3)).toNat) := by
  unfold Bitmap.u32At
  rw [u16At_header _ _ (by omega), u16At_header _ _ (by omega)]

theorem length_bitmapFile (bitmap framebuffer : Memory) :
    (bitmapFile bitmap framebuffer).length = 172854 := by
  unfold bitmapFile
  rw [List.length_map, List.length_range]
  rfl

theorem bitmapFile_sizes (bitmap framebuffer : Memory) :
    Bitmap.offset (bitmapFile bitmap framebuffer) = 54 ∧
      Bitmap.width (bitmapFile bitmap framebuffer) = 320 ∧
      Bitmap.height (bitmapFile bitmap framebuffer) = 180 ∧
      Bitmap.stride (bitmapFile bitmap framebuffer) = 960 := by
  have width : Bitmap.width (bitmapFile bitmap framebuffer) = 320 :=
    u32At_header bitmap framebuffer (by decide)
  refine ⟨u32At_header bitmap framebuffer (by decide), width,
    u32At_header bitmap framebuffer (by decide), ?_⟩
  rw [Bitmap.stride, width]

/-- What is sent is a bitmap. -/
theorem bitmapFile_wellFormed (bitmap framebuffer : Memory) :
    Bitmap.WellFormed (bitmapFile bitmap framebuffer) := by
  obtain ⟨offset, width, height, stride⟩ := bitmapFile_sizes bitmap framebuffer
  constructor
  · rw [byteAt_header _ _ (by decide), byteAt_header _ _ (by decide)]
    exact ⟨rfl, rfl⟩
  · have low : bitmapHeader bitmap 2 = 54 := rfl
    have middle : bitmapHeader bitmap 3 = 163 := rfl
    have high : bitmapHeader bitmap 4 = 2 := rfl
    have top : bitmapHeader bitmap 5 = 0 := rfl
    rw [length_bitmapFile, u32At_header _ _ (by decide), low, middle, high, top]
    decide
  · exact u32At_header bitmap framebuffer (by decide)
  · exact u16At_header bitmap framebuffer (by decide)
  · exact u16At_header bitmap framebuffer (by decide)
  · exact u32At_header bitmap framebuffer (by decide)
  · exact height ▸ by decide
  · have size : Bitmap.offset (bitmapFile bitmap framebuffer) +
        Bitmap.stride (bitmapFile bitmap framebuffer) *
          Bitmap.height (bitmapFile bitmap framebuffer) = 172854 := by
      rw [offset, stride, height]
    exact Nat.le_of_eq (size.trans (length_bitmapFile bitmap framebuffer).symm)

/-- A pixel of the bitmap is the upper left sample of its square. -/
theorem bitmapFile_pixel (bitmap framebuffer : Memory) {y x : Nat} (high : y < IMAGE_HEIGHT)
    (wide : x < IMAGE_WIDTH) :
    Bitmap.pixel (bitmapFile bitmap framebuffer) y x =
      [framebuffer ((y * SCALE * FB_WIDTH + x * SCALE) * FB_BPP),
        framebuffer ((y * SCALE * FB_WIDTH + x * SCALE) * FB_BPP + 1),
        framebuffer ((y * SCALE * FB_WIDTH + x * SCALE) * FB_BPP + 2)] := by
  obtain ⟨offset, width, height, stride⟩ := bitmapFile_sizes bitmap framebuffer
  have upright : IMAGE_HEIGHT - 1 - (180 - 1 - y) = y := by
    have rows : IMAGE_HEIGHT = 180 := rfl
    omega
  have inside : ∀ c < 3, Bitmap.byteAt (bitmapFile bitmap framebuffer)
      (54 + (180 - 1 - y) * 960 + 3 * x + c) =
        framebuffer ((y * SCALE * FB_WIDTH + x * SCALE) * FB_BPP + (2 - c)) := by
    intro c small
    have wide : x < 320 := wide
    have size : BMP_BYTES = 172854 := rfl
    rw [byteAt_pixels _ _ (by omega) (by omega)]
    have cell := sampled_cell framebuffer (180 - 1 - y) wide small
    rwa [upright] at cell
  have red := inside 2 (by decide)
  have green := inside 1 (by decide)
  have blue := inside 0 (by decide)
  simp only [Bitmap.pixel, offset, height, stride]
  rw [red, green]
  exact congrArg _ (congrArg _ (congrArg₂ _ blue rfl))

end VitaLinux.Toolkit.Fbserve
