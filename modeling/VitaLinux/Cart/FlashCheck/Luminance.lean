import Mathlib.Data.List.Basic
import Mathlib.Tactic.Ring

/-!
# Luminance of decoded frames

The mean relative luminance of a frame, of the cells of its grid, and of the raster of
a PPM file. Frames of a video are linear-light values of 16 bits, R, G, B after each
other; those of a PPM file are bytes in sRGB.
-/

namespace VitaLinux.Cart.FlashCheck

/-- Every third element from the first on. -/
def everyThird {α : Type} : List α → List α
  | x :: _ :: _ :: rest => x :: everyThird rest
  | x :: _ => [x]
  | [] => []

/-- `values[offset::3]` -/
def plane {α : Type} (offset : Nat) (values : List α) : List α := everyThird (values.drop offset)

/-- `sum(values)` -/
def total (values : List Nat) : Nat := values.foldl (· + ·) 0

/-- The cells of the grid, in reading order: row and column. -/
def cells (grid : Nat) : List (Nat × Nat) :=
  (List.range grid).flatMap fun gy => (List.range grid).map fun gx => (gy, gx)

/-- Where a cell begins and ends along one side of the frame. -/
def span (size grid g : Nat) : Nat × Nat :=
  let cell := max 1 (size / grid)
  (g * cell, if g = grid - 1 then size else (g + 1) * cell)

/-- The indices of the pixels of a cell. -/
def cellIndices (cols rows grid : Nat) (cell : Nat × Nat) : List Nat :=
  let y := span rows grid cell.1
  let x := span cols grid cell.2
  (List.range' y.1 (y.2 - y.1)).flatMap fun row =>
    (List.range' x.1 (x.2 - x.1)).map fun column => row * cols * 3 + column * 3

/-- Along one side, the pixel belongs to the cell. -/
def InSpan (size grid g p : Nat) : Prop := (span size grid g).1 ≤ p ∧ p < (span size grid g).2

theorem mem_cellIndices {cols rows grid index : Nat} {cell : Nat × Nat} :
    index ∈ cellIndices cols rows grid cell ↔ ∃ row column, InSpan rows grid cell.1 row ∧
      InSpan cols grid cell.2 column ∧ index = row * cols * 3 + column * 3 := by
  unfold cellIndices InSpan
  simp only [List.mem_flatMap, List.mem_map, List.mem_range'_1]
  constructor
  · rintro ⟨row, inRow, column, inColumn, rfl⟩
    exact ⟨row, column, by omega, by omega, rfl⟩
  · rintro ⟨row, column, inRow, inColumn, rfl⟩
    exact ⟨row, by omega, column, by omega, rfl⟩

theorem mem_cells {grid : Nat} {cell : Nat × Nat} :
    cell ∈ cells grid ↔ cell.1 < grid ∧ cell.2 < grid := by
  unfold cells
  simp only [List.mem_flatMap, List.mem_map, List.mem_range]
  constructor
  · rintro ⟨gy, inRows, gx, inColumns, rfl⟩
    exact ⟨inRows, inColumns⟩
  · rintro ⟨inRows, inColumns⟩
    exact ⟨cell.1, inRows, cell.2, inColumns, rfl⟩

/-- Every pixel of a side belongs to a cell. -/
theorem InSpan.cover {size grid p : Nat} (some : 0 < grid) (inside : p < size) :
    ∃ g < grid, InSpan size grid g p := by
  unfold InSpan span
  simp only
  generalize sized : max 1 (size / grid) = cell
  have positive : 0 < cell := by omega
  by_cases before : p / cell < grid - 1
  · refine ⟨p / cell, by omega, Nat.div_mul_le_self p cell, ?_⟩
    rw [if_neg (by omega)]
    exact Nat.lt_mul_of_div_lt (Nat.lt_succ_self _) positive
  · refine ⟨grid - 1, by omega, ?_, ?_⟩
    · exact (Nat.le_div_iff_mul_le positive).mp (Nat.not_lt.mp before)
    · rw [if_pos rfl]
      exact inside

/-- The cells stay inside a side that is at most one pixel too short. -/
theorem InSpan.lt {size grid g p : Nat} (fits : grid ≤ size + 1) (inGrid : g < grid)
    (h : InSpan size grid g p) : p < size := by
  unfold InSpan span at h
  simp only at h
  split at h
  · exact h.2
  · next inner =>
    have whole : (g + 1) * max 1 (size / grid) ≤ size := by
      by_cases small : size / grid ≤ 1
      · rw [Nat.max_eq_left small, Nat.mul_one]
        omega
      · rw [Nat.max_eq_right (by omega)]
        calc (g + 1) * (size / grid) ≤ grid * (size / grid) := Nat.mul_le_mul_right _ inGrid
          _ ≤ size := Nat.mul_div_le size grid
    exact Nat.lt_of_lt_of_le h.2 whole

/-- A longer grid has a cell that begins behind the side. -/
theorem InSpan.outside {size grid : Nat} (short : size + 2 ≤ grid) : InSpan size grid size size := by
  have none : size / grid = 0 := Nat.div_eq_of_lt (by omega)
  have small : max 1 (size / grid) = 1 := by rw [none, Nat.max_eq_left (Nat.zero_le 1)]
  unfold InSpan span
  simp only [small, Nat.mul_one]
  rw [if_neg (by omega)]
  omega

/-- What the interpreter computes beyond the arithmetic. -/
class Python (F : Type) where
  /-- `**` -/
  power : F → F → F
  /-- the order in which a set is walked -/
  walk : List UInt8 → List UInt8

/-- A loop of lookups does not raise when no lookup does. -/
theorem foldlM_isSome {α β : Type} {f : β → α → Option β} {P : α → Prop}
    (step : ∀ b a, (f b a).isSome = true ↔ P a) (l : List α) (b : β) :
    (l.foldlM f b).isSome = true ↔ ∀ a ∈ l, P a := by
  induction l generalizing b with
  | nil => simp
  | cons a l ih =>
    rw [List.foldlM_cons, List.forall_mem_cons, ← step b a]
    cases f b a with
    | none => simp
    | some c => simp [ih c]

theorem mapM_isSome {α β : Type} {f : α → Option β} {P : α → Prop}
    (step : ∀ a, (f a).isSome = true ↔ P a) (l : List α) :
    (l.mapM f).isSome = true ↔ ∀ a ∈ l, P a := by
  induction l with
  | nil => simp
  | cons a l ih =>
    rw [List.mapM_cons, List.forall_mem_cons, ← step a, ← ih]
    cases f a with
    | none => simp
    | some b => cases l.mapM f <;> simp

section luminance

variable {F : Type} [Add F] [Mul F] [NatCast F] [OfScientific F]

def LUMA_R : F := 0.2126

def LUMA_G : F := 0.7152

def LUMA_B : F := 0.0722

/-- The luminance of one pixel; `none` is an `IndexError`. -/
def pixelLuminance (values : List Nat) (index : Nat) : Option F := do
  let red ← values[index]?
  let green ← values[index + 1]?
  let blue ← values[index + 2]?
  return LUMA_R * (red : F) + LUMA_G * (green : F) + LUMA_B * (blue : F)

theorem pixelLuminance_isSome {values : List Nat} {index : Nat} :
    (pixelLuminance values index : Option F).isSome = true ↔ index + 2 < values.length := by
  unfold pixelLuminance
  by_cases inside : index + 2 < values.length
  · have red : index < values.length := by omega
    have green : index + 1 < values.length := by omega
    simp [inside, red, green]
  · have blue : values[index + 2]? = none := List.getElem?_eq_none (Nat.not_lt.mp inside)
    rw [blue]
    cases values[index]? <;> cases values[index + 1]? <;> simp [inside]

variable [Zero F] [Div F]

/-- Mean luminance of a frame. -/
def luminanceGlobal (values : List Nat) : F :=
  let red := total (plane 0 values)
  let green := total (plane 1 values)
  let blue := total (plane 2 values)
  let pixels := values.length / 3
  (LUMA_R * (red : F) + LUMA_G * (green : F) + LUMA_B * (blue : F)) / ((pixels : F) * 65535.0)

def cellLuminance (values : List Nat) (indices : List Nat) : Option F := do
  let total ← indices.foldlM (fun total index => do
    let pixel ← pixelLuminance values index
    return total + pixel) 0
  let count := indices.length
  return if count = 0 then 0 else total / ((count : F) * 65535.0)

/-- Mean luminance of every cell of the grid. -/
def luminanceCells (values : List Nat) (cols rows grid : Nat) : Option (List F) :=
  (cells grid).mapM fun cell => cellLuminance values (cellIndices cols rows grid cell)

theorem cellLuminance_isSome {values indices : List Nat} :
    (cellLuminance values indices : Option F).isSome = true ↔
      ∀ index ∈ indices, index + 2 < values.length := by
  unfold cellLuminance
  have step : ∀ (total : F) index, (do
      let pixel ← pixelLuminance values index
      return total + pixel : Option F).isSome = true ↔ index + 2 < values.length := by
    intro total index
    rw [← pixelLuminance_isSome (F := F)]
    cases (pixelLuminance values index : Option F) <;> simp
  rw [← foldlM_isSome step indices 0]
  cases indices.foldlM (fun total index => do
      let pixel ← pixelLuminance values index
      return total + pixel) (0 : F) <;> simp

/-- The cells of a frame can be summed when the grid is not two pixels longer than a side. -/
theorem luminanceCells_isSome {values : List Nat} {cols rows grid : Nat} (wide : 0 < cols)
    (high : 0 < rows) (some : 0 < grid) (whole : values.length = cols * rows * 3) :
    (luminanceCells values cols rows grid : Option (List F)).isSome = true ↔
      grid ≤ cols + 1 ∧ grid ≤ rows + 1 := by
  unfold luminanceCells
  rw [mapM_isSome fun cell => cellLuminance_isSome, whole]
  have corner : ∀ {gy gx row column : Nat}, gy < grid → gx < grid → InSpan rows grid gy row →
      InSpan cols grid gx column → row * cols * 3 + column * 3 = cols * rows * 3 →
      ¬ ∀ cell ∈ cells grid, ∀ index ∈ cellIndices cols rows grid cell,
        index + 2 < cols * rows * 3 := by
    intro gy gx row column inRows inColumns y x last inside
    have bound := inside (gy, gx) (mem_cells.mpr ⟨inRows, inColumns⟩) _
      (mem_cellIndices.mpr ⟨row, column, y, x, rfl⟩)
    omega
  constructor
  · intro inside
    constructor
    · by_contra long
      obtain ⟨gy, inRows, y⟩ := InSpan.cover some (Nat.sub_lt high Nat.one_pos)
      refine corner inRows (by omega) y (InSpan.outside (by omega)) ?_ inside
      obtain ⟨r, rfl⟩ := Nat.exists_eq_succ_of_ne_zero high.ne'
      simp only [Nat.succ_eq_add_one, Nat.add_sub_cancel]
      ring
    · by_contra long
      obtain ⟨gx, inColumns, x⟩ := InSpan.cover some wide
      refine corner (by omega) inColumns (InSpan.outside (by omega)) x ?_ inside
      ring
  · rintro ⟨fitsCols, fitsRows⟩ cell inGrid index member
    obtain ⟨inRows, inColumns⟩ := mem_cells.mp inGrid
    obtain ⟨row, column, y, x, rfl⟩ := mem_cellIndices.mp member
    have yBound := y.lt fitsRows inRows
    have xBound := x.lt fitsCols inColumns
    have rowsBound : (row + 1) * cols ≤ rows * cols := Nat.mul_le_mul_right cols yBound
    have row_pixels : (row + 1) * cols = row * cols + cols := Nat.succ_mul row cols
    have all_pixels : cols * rows = rows * cols := Nat.mul_comm cols rows
    omega

variable [LE F] [DecidableLE F] [Python F]

def srgbToLinear (value : UInt8) : F :=
  let c : F := (value.toNat : F) / 255.0
  if c ≤ 0.04045 then c / 12.92 else Python.power ((c + 0.055) / 1.055) 2.4

/-- Mean luminance of a raster, by a histogram of each channel; `none` if it has no pixel. -/
def ppmLuminance (pixels : List UInt8) : Option F :=
  let channel (offset : Nat) (weight : F) (total : F) : F :=
    let plane := plane offset pixels
    (Python.walk F plane).foldl (fun total value =>
      total + weight * srgbToLinear value * ((plane.count value : Nat) : F)) total
  let total := channel 2 LUMA_B (channel 1 LUMA_G (channel 0 LUMA_R 0))
  if pixels.length / 3 = 0 then none else some (total / ((pixels.length / 3 : Nat) : F))

end luminance

end VitaLinux.Cart.FlashCheck
