import Mathlib.Algebra.Field.Rat
import Mathlib.Tactic.FieldSimp
import Mathlib.Tactic.NormNum.OfScientific
import VitaLinux.Base.Fill
import VitaLinux.Base.Parts
import VitaLinux.Cart.FlashCheck.Luminance

/-!
# Grid cells cover the picture

The cells of a grid that is at most one longer than either side of the frame cut the frame
into parts, and their mean, weighted by their pixels, is the mean of the frame. A longer grid
leaves the frame.
-/

namespace VitaLinux.Cart.FlashCheck

open VitaLinux.Base

variable {cols rows grid size : Nat} {values : List Nat}

/-- Where cell `g` begins along one side, and the one before it ends. -/
def cut (size grid g : Nat) : Nat := if g = grid then size else g * max 1 (size / grid)

theorem span_eq {g : Nat} (inGrid : g < grid) :
    span size grid g = (cut size grid g, cut size grid (g + 1)) := by
  have final : g = grid - 1 ↔ g + 1 = grid := by omega
  simp only [span, cut, inGrid.ne, if_false, final]

theorem cut_le {g : Nat} (fits : grid ≤ size + 1) (inGrid : g < grid) :
    cut size grid g ≤ cut size grid (g + 1) := by
  unfold cut
  rw [if_neg inGrid.ne]
  split
  · next final =>
    by_cases small : size / grid ≤ 1
    · rw [Nat.max_eq_left small, Nat.mul_one]
      omega
    · rw [Nat.max_eq_right (by omega)]
      exact (Nat.mul_le_mul_right _ inGrid.le).trans (Nat.mul_div_le size grid)
  · exact Nat.mul_le_mul_right _ (Nat.le_succ g)

/-- The positions of a cell along one side. -/
def side (size grid g : Nat) : List Nat :=
  List.range' (span size grid g).1 ((span size grid g).2 - (span size grid g).1)

/-- The cells of one side make up the side. -/
theorem side_cover (some : 0 < grid) (fits : grid ≤ size + 1) :
    (List.range grid).flatMap (side size grid) = List.range size := by
  obtain ⟨-, joined⟩ := flatMap_consecutive (cut size grid) grid fun _ inGrid =>
    cut_le fits inGrid
  have first : cut size grid 0 = 0 := by simp [cut, some.ne]
  have last : cut size grid grid = size := if_pos rfl
  rw [first, last, Nat.sub_zero, ← List.range_eq_range'] at joined
  rw [← joined]
  refine flatMap_range_congr fun g inGrid => ?_
  rw [side, span_eq inGrid]

/-- The indices of the pixels, in reading order. -/
def pixelIndices (cols rows : Nat) : List Nat := (List.range (cols * rows)).map (3 * ·)

/-- Together the cells are all pixels, each of them once. -/
theorem cells_perm (some : 0 < grid) (fitsCols : grid ≤ cols + 1) (fitsRows : grid ≤ rows + 1) :
    ((cells grid).flatMap (cellIndices cols rows grid)).Perm (pixelIndices cols rows) := by
  have rowByRow : ∀ gy : Nat,
      ((List.range grid).flatMap fun gx => cellIndices cols rows grid (gy, gx)).Perm
        ((side rows grid gy).flatMap fun row =>
          (List.range cols).map fun column => row * cols * 3 + column * 3) := by
    intro gy
    refine (flatMap_swap _ (side rows grid gy) fun gx row =>
      (side cols grid gx).map fun column => row * cols * 3 + column * 3).trans ?_
    refine List.Perm.of_eq (List.flatMap_congr fun row _ => ?_)
    rw [← side_cover some fitsCols, List.map_flatMap]
  have reading : pixelIndices cols rows = (List.range rows).flatMap fun row =>
      (List.range cols).map fun column => row * cols * 3 + column * 3 := by
    rw [pixelIndices, List.map_eq_flatMap, Nat.mul_comm, flatMap_range_mul]
    refine List.flatMap_congr fun row _ => ?_
    rw [List.map_eq_flatMap]
    refine List.flatMap_congr fun column _ => ?_
    rw [show 3 * (row * cols + column) = row * cols * 3 + column * 3 by ring]
  rw [reading, ← side_cover some fitsRows, List.flatMap_assoc, cells, List.flatMap_assoc]
  refine List.Perm.flatMap_left _ fun gy _ => ?_
  rw [List.flatMap_map]
  exact rowByRow gy

theorem everyThird_drop {a b c : Nat} {rest : List Nat} {k : Nat} (small : k < 3) :
    plane k (a :: b :: c :: rest) = [a, b, c].getD k 0 :: plane k rest := by
  unfold plane
  match k, small with
  | 0, _ => rfl
  | 1, _ => cases rest <;> rfl
  | 2, _ =>
    match rest with
    | [] => rfl
    | [_] => rfl
    | _ :: _ :: _ => rfl

/-- The samples of one channel, pixel by pixel. -/
theorem plane_eq {k : Nat} (small : k < 3) (n : Nat) (whole : values.length = n * 3) :
    plane k values = (List.range n).map fun pixel => values.getD (3 * pixel + k) 0 := by
  induction n generalizing values with
  | zero =>
    obtain rfl : values = [] := List.eq_nil_of_length_eq_zero (by omega)
    match k, small with
    | 0, _ => rfl
    | 1, _ => rfl
    | 2, _ => rfl
  | succ n ih =>
    match values with
    | a :: b :: c :: rest =>
      have others : rest.length = n * 3 := by
        simp only [List.length_cons] at whole
        omega
      rw [everyThird_drop small, ih others, List.range_succ_eq_map, List.map_cons, List.map_map]
      match k, small with
      | 0, _ => rfl
      | 1, _ => rfl
      | 2, _ => rfl
    | [_, _] | [_] | [] =>
      simp only [List.length_cons, List.length_nil] at whole
      omega

/-- The luminance of a pixel inside the frame. -/
def pixelValue (values : List Nat) (index : Nat) : ℚ :=
  LUMA_R * (values.getD index 0 : Nat) + LUMA_G * (values.getD (index + 1) 0 : Nat) +
    LUMA_B * (values.getD (index + 2) 0 : Nat)

theorem pixelLuminance_eq {index : Nat} (inside : index + 2 < values.length) :
    pixelLuminance values index = some (pixelValue values index) := by
  have red : index < values.length := by omega
  have green : index + 1 < values.length := by omega
  simp [pixelLuminance, pixelValue, red, green, inside]

theorem total_eq (samples : List Nat) : total samples = samples.sum :=
  List.sum_eq_foldl_nat.symm

/-- The frame's mean is the sum over its pixels. -/
theorem luminanceGlobal_eq (whole : values.length = cols * rows * 3) :
    (luminanceGlobal values : ℚ) =
      ((pixelIndices cols rows).map (pixelValue values)).sum / ((cols * rows : Nat) * 65535) := by
  have pixels : values.length / 3 = cols * rows := by omega
  have sums : ((pixelIndices cols rows).map (pixelValue values)).sum =
      LUMA_R * ((plane 0 values).sum : Nat) + LUMA_G * ((plane 1 values).sum : Nat) +
        LUMA_B * ((plane 2 values).sum : Nat) := by
    rw [plane_eq (by decide) _ whole, plane_eq (by decide) _ whole, plane_eq (by decide) _ whole,
      pixelIndices]
    induction List.range (cols * rows) with
    | nil => simp
    | cons pixel pixels ih =>
      simp only [List.map_cons, List.sum_cons, Nat.cast_add, Nat.add_zero, pixelValue]
        at ih ⊢
      rw [ih]
      ring
  have unit : (65535.0 : ℚ) = 65535 := by norm_num
  rw [luminanceGlobal, total_eq, total_eq, total_eq, pixels, sums, unit]

/-- The mean of the pixels of a cell; an empty one has 0. -/
def cellMean (values indices : List Nat) : ℚ :=
  if indices.length = 0 then 0
  else (indices.map (pixelValue values)).sum / ((indices.length : ℚ) * 65535)

theorem cellLuminance_eq {indices : List Nat}
    (inside : ∀ index ∈ indices, index + 2 < values.length) :
    cellLuminance values indices = some (cellMean values indices) := by
  have turn : ∀ index ∈ indices, ∀ total : ℚ, (do
      let pixel ← pixelLuminance values index
      return total + pixel : Option ℚ) = some (total + pixelValue values index) := by
    intro index mem total
    rw [pixelLuminance_eq (inside index mem)]
    rfl
  have sum : indices.foldl (fun total index => total + pixelValue values index) (0 : ℚ) =
      (indices.map (pixelValue values)).sum := by
    rw [List.sum_eq_foldl, List.foldl_map]
  have unit : (65535.0 : ℚ) = 65535 := by norm_num
  unfold cellLuminance cellMean
  rw [foldlM_some turn, sum, unit]
  rfl

/-- A cell's mean weighs as much as the sum over its pixels. -/
theorem weight_cellMean (values indices : List Nat) :
    (indices.length : ℚ) * cellMean values indices =
      (indices.map (pixelValue values)).sum * (65535 : ℚ)⁻¹ := by
  unfold cellMean
  split
  · next empty =>
    obtain rfl := List.eq_nil_of_length_eq_zero empty
    simp
  · next filled =>
    have positive : (indices.length : ℚ) ≠ 0 := by exact_mod_cast filled
    field_simp

/-- The mean of the cells, each weighing as many pixels as it has. -/
def weightedMean (pixels : List Nat) (means : List ℚ) : ℚ :=
  (List.zipWith (fun (n : Nat) (mean : ℚ) => n * mean) pixels means).sum / (pixels.sum : Nat)

/-- What the grid is for: every pixel is in one cell and summed once, every index is inside
the frame, and the cells average to the frame. -/
structure CoversPicture (values : List Nat) (cols rows grid : Nat) : Prop where
  one_cell : ∀ pixel < cols * rows,
    ∃! cell, cell ∈ cells grid ∧ 3 * pixel ∈ cellIndices cols rows grid cell
  once : ((cells grid).flatMap (cellIndices cols rows grid)).Perm
    ((List.range (cols * rows)).map (3 * ·))
  inside : ∀ cell ∈ cells grid, ∀ index ∈ cellIndices cols rows grid cell,
    index + 2 < values.length
  mean : ∃ means : List ℚ, luminanceCells values cols rows grid = some means ∧
    weightedMean ((cells grid).map fun cell => (cellIndices cols rows grid cell).length) means =
      luminanceGlobal values

theorem pixelIndices_nodup (cols rows : Nat) : (pixelIndices cols rows).Nodup :=
  List.nodup_range.map fun _ _ same => by omega

theorem weightedMean_eq (some : 0 < grid) (fitsCols : grid ≤ cols + 1)
    (fitsRows : grid ≤ rows + 1) (whole : values.length = cols * rows * 3) :
    weightedMean ((cells grid).map fun cell => (cellIndices cols rows grid cell).length)
      ((cells grid).map fun cell => cellMean values (cellIndices cols rows grid cell)) =
      luminanceGlobal values := by
  have perm := cells_perm some fitsCols fitsRows
  have count : ((cells grid).map fun cell => (cellIndices cols rows grid cell).length).sum =
      cols * rows := by
    have lengths := perm.length_eq
    rw [List.length_flatMap] at lengths
    simpa [pixelIndices] using lengths
  have sum : ((cells grid).map fun cell =>
      ((cellIndices cols rows grid cell).map (pixelValue values)).sum).sum =
      ((pixelIndices cols rows).map (pixelValue values)).sum :=
    (sum_parts _ _ _).trans (perm.map _).sum_eq
  rw [weightedMean, count, luminanceGlobal_eq whole, List.zipWith_map, List.zipWith_self]
  simp only [weight_cellMean]
  rw [List.sum_map_mul_right, sum, div_mul_eq_div_div_swap, ← div_eq_mul_inv]

/-- **Which grids cover the picture.** -/
theorem covers_picture_iff (wide : 0 < cols) (high : 0 < rows) (some : 0 < grid)
    (whole : values.length = cols * rows * 3) :
    CoversPicture values cols rows grid ↔ grid ≤ cols + 1 ∧ grid ≤ rows + 1 := by
  constructor
  · rintro ⟨-, -, -, means, computed, -⟩
    refine (luminanceCells_isSome wide high some whole (F := ℚ)).mp ?_
    rw [computed]
    rfl
  · rintro ⟨fitsCols, fitsRows⟩
    have perm := cells_perm some fitsCols fitsRows
    have inside : ∀ cell ∈ cells grid, ∀ index ∈ cellIndices cols rows grid cell,
        index + 2 < values.length := by
      intro cell inGrid index mem
      have pixel := perm.mem_iff.mp (List.mem_flatMap.mpr ⟨cell, inGrid, mem⟩)
      obtain ⟨p, small, rfl⟩ := List.mem_map.mp pixel
      have bound := List.mem_range.mp small
      omega
    refine ⟨fun pixel small => ?_, perm, inside, _, ?_, weightedMean_eq some fitsCols fitsRows whole⟩
    · exact existsUnique_part perm (pixelIndices_nodup cols rows)
        (List.mem_map_of_mem (List.mem_range.mpr small))
    · exact mapM_some fun cell inGrid => cellLuminance_eq (inside cell inGrid)

/-- A grid that divides neither side. -/
theorem uneven_grid_covers : CoversPicture (List.range 105) 7 5 3 :=
  (covers_picture_iff (by decide) (by decide) (by decide) (by decide)).mpr
    ⟨by decide, by decide⟩

/-- With the default size, a grid of 20 has a row of cells below the frame. -/
theorem long_grid_uncovered : ¬CoversPicture (List.replicate 1728 0) 32 18 20 := by
  intro covers
  have below : 18 * 32 * 3 + 0 * 3 ∈ cellIndices 32 18 20 (18, 0) :=
    mem_cellIndices.mpr ⟨18, 0, ⟨by decide, by decide⟩, ⟨by decide, by decide⟩, rfl⟩
  have bound := covers.inside (18, 0) (mem_cells.mpr ⟨by decide, by decide⟩) _ below
  rw [List.length_replicate] at bound
  exact absurd bound (by decide)

end VitaLinux.Cart.FlashCheck
