import VitaLinux.Base.Grid
import VitaLinux.Cart.Draw
import VitaLinux.Cart.FlashCheck.Ppm
import VitaLinux.Cart.Scene2dLegacy

/-!
# The PPM files that the cart writes

`cart_canvas_write_ppm` stops at the first write that fails, `dump_ppm` checks none of
its writes. What both write is a header of decimal numbers and the pixels of the picture,
three bytes for each, and the flash checker reads it back.
-/

namespace VitaLinux.Cart

open VitaLinux.Base FlashCheck

/-- A `FILE *` opened for writing. -/
structure OutFile where
  written : List UInt8
  /-- How many writes the stream still takes, if it ever fails. -/
  room : Option Nat
  /-- `ferror` -/
  error : Bool

/-- `fprintf` and `fwrite`, and whether they wrote everything. -/
def OutFile.write (file : OutFile) (bytes : List UInt8) : OutFile × Bool :=
  match file.room with
  | some 0 => ({ file with error := true }, false)
  | some (n + 1) => ({ file with written := file.written ++ bytes, room := some n }, true)
  | none => ({ file with written := file.written ++ bytes }, true)

/-- Writes one after the other, up to the first that fails. -/
def OutFile.writeAll (file : OutFile) : List (List UInt8) → OutFile × Bool
  | [] => (file, true)
  | bytes :: rest =>
    match file.write bytes with
    | (file, true) => file.writeAll rest
    | (file, false) => (file, false)

/-- Writes one after the other, whether they fail or not. -/
def OutFile.writeEach (file : OutFile) (writes : List (List UInt8)) : OutFile :=
  writes.foldl (fun file bytes => (file.write bytes).1) file

/-- `(uint8_t)((color >> shift) & 0xff)` -/
def byteOf (color : U32) (shift : Nat) : UInt8 :=
  UInt8.ofBitVec (((color >>> shift) &&& 0xff#32).setWidth 8)

/-- The red, green and blue bytes of a pixel. -/
def rgb (color : U32) : List UInt8 := [byteOf color 0, byteOf color 8, byteOf color 16]

/-- `"P6\n%zu %zu\n255\n"` -/
def ppmHeader (width height : Nat) : List UInt8 :=
  [80, 54, 10] ++ decimal width ++ [32] ++ decimal height ++ [10, 50, 53, 53, 10]

/-- The bytes of a picture, row by row. -/
def rasterOf (height width : Nat) (pixel : Nat → Nat → U32) : List UInt8 :=
  rowMajor height width fun y x => rgb (pixel y x)

namespace CartCanvas

variable {abi : Abi}

/-- `cart_canvas_write_ppm` on a non-NULL stream. -/
def writePpm (canvas : CartCanvas abi) (file : OutFile) : OutFile × Int :=
  if !canvas.valid then (file, -1)
  else
    let pixels := (List.range canvas.height.toNat).flatMap fun (row : Nat) =>
      (List.range canvas.width.toNat).map fun (column : Nat) =>
        rgb (canvas.pixels (canvas.index row column))
    match file.writeAll (ppmHeader canvas.width.toNat canvas.height.toNat :: pixels) with
    | (file, true) => (file, if file.error then -1 else 0)
    | (file, false) => (file, -1)

end CartCanvas

def SCALE : Nat := 4

/-- `dump_ppm` of the picture `low`; the file is absent when it cannot be opened. -/
def dumpPpm (low : Pixels) (file : Option OutFile) : Option OutFile × Int :=
  match file with
  | none => (none, 1)
  | some file =>
    let pixels := (List.range Scene2dLegacy.LH.toNat).flatMap fun y =>
      (List.range SCALE).flatMap fun _ =>
        (List.range Scene2dLegacy.LW.toNat).flatMap fun x =>
          (List.range SCALE).map fun _ => rgb (low (y * Scene2dLegacy.LW.toNat + x))
    let header := ppmHeader (Scene2dLegacy.LW.toNat * SCALE) (Scene2dLegacy.LH.toNat * SCALE)
    (some (file.writeEach (header :: pixels)), 0)

/-- A new file whose writes all succeed. -/
def OutFile.empty : OutFile := { written := [], room := none, error := false }

theorem OutFile.write_open {file : OutFile} (opened : file.room = none) (bytes : List UInt8) :
    file.write bytes = ({ file with written := file.written ++ bytes }, true) := by
  unfold write
  rw [opened]

theorem OutFile.writeAll_open {file : OutFile} (opened : file.room = none)
    (writes : List (List UInt8)) :
    file.writeAll writes = ({ file with written := file.written ++ writes.flatten }, true) := by
  induction writes generalizing file with
  | nil => simp [writeAll]
  | cons bytes rest ih =>
    have later : ({ file with written := file.written ++ bytes } : OutFile).room = none := opened
    simp only [writeAll, write_open opened, ih later]
    simp

theorem OutFile.writeEach_open {file : OutFile} (opened : file.room = none)
    (writes : List (List UInt8)) :
    file.writeEach writes = { file with written := file.written ++ writes.flatten } := by
  unfold writeEach
  induction writes generalizing file with
  | nil => simp
  | cons bytes rest ih =>
    have later : ({ file with written := file.written ++ bytes } : OutFile).room = none := opened
    rw [List.foldl_cons, write_open opened, ih later]
    simp

theorem length_rasterOf (height width : Nat) (pixel : Nat → Nat → U32) :
    (rasterOf height width pixel).length = width * height * 3 :=
  length_rowMajor height width 3 fun _ _ => rfl

/-- A header and a raster of its size are a PPM file. -/
theorem ppm_header {width height : Nat} (wide : 0 < width) (high : 0 < height)
    (pixel : Nat → Nat → U32) :
    Ppm width height (rasterOf height width pixel)
      (ppmHeader width height ++ rasterOf height width pixel) := by
  have numeral : ∀ n, Numeral n (decimal n) := fun n =>
    ⟨decimal_ne_nil n, fun _ member => isDigit_decimal member, decimalValue_decimal n⟩
  have maximum : Numeral 255 [50, 53, 53] := ⟨by decide, List.all_eq_true.mp rfl, rfl⟩
  have file := Ppm.file wide high (length_rasterOf height width pixel)
    (.field (c := 10) rfl .nil (numeral width)) (.field (c := 32) rfl .nil (numeral height))
    (.field (c := 10) rfl .nil maximum) (c := 10) rfl
  simpa [ppmHeader] using file

namespace CartCanvas

variable {abi : Abi}

/-- The picture of a canvas without the padding of its rows. -/
def visible (canvas : CartCanvas abi) : List UInt8 :=
  rasterOf canvas.height.toNat canvas.width.toNat fun y x =>
    canvas.pixels (y * canvas.stride.toNat + x)

theorem writePpm_eq {canvas : CartCanvas abi} (h : canvas.valid = true) :
    canvas.writePpm .empty =
      ({ OutFile.empty with
        written := ppmHeader canvas.width.toNat canvas.height.toNat ++ canvas.visible }, 0) := by
  have pixels : ((List.range canvas.height.toNat).flatMap fun (row : Nat) =>
      (List.range canvas.width.toNat).map fun (column : Nat) =>
        rgb (canvas.pixels (canvas.index row column))).flatten = canvas.visible := by
    rw [List.flatten_eq_flatMap, List.flatMap_assoc]
    unfold visible rasterOf rowMajor
    refine flatMap_range_congr fun y high => ?_
    rw [List.flatMap_map]
    refine flatMap_range_congr fun x wide => ?_
    have inside : canvas.Visible (x : Int) (y : Int) := ⟨by omega, by omega, by omega, by omega⟩
    rw [index_eq h inside]
    rfl
  have opened : OutFile.empty.room = none := rfl
  unfold writePpm
  simp only [h, Bool.not_true, Bool.false_eq_true, if_false, OutFile.writeAll_open opened]
  rw [List.flatten_cons, pixels]
  rfl

/-- **What the cart writes, the flash checker reads**: of any valid canvas it gets the size
and the bytes of the visible pixels, whatever they are. -/
theorem readPpm_writePpm (canvas : CartCanvas abi) (h : canvas.valid = true) :
    (canvas.writePpm .empty).2 = 0 ∧
      readPpm (canvas.writePpm .empty).1.written =
        .ok ((canvas.width.toNat : Int), (canvas.height.toNat : Int), canvas.visible) := by
  obtain ⟨wide, high, -, -⟩ := valid_sizes h
  rw [writePpm_eq h]
  exact ⟨rfl, readPpm_ppm (ppm_header wide high _)⟩

/-- A canvas with padded rows whose first pixels look like a comment. -/
theorem readPpm_writePpm_comment : ∃ canvas : CartCanvas .ilp32, canvas.valid = true ∧
    canvas.visible.take 4 = [35, 10, 32, 35] ∧
    readPpm (canvas.writePpm .empty).1.written = .ok (2, 1, canvas.visible) := by
  have valid : (⟨fun _ => 0x00200a23, 2, 1, 3⟩ : CartCanvas .ilp32).valid = true := by
    decide
  exact ⟨_, valid, by decide, (readPpm_writePpm _ valid).2⟩

end CartCanvas

end VitaLinux.Cart
