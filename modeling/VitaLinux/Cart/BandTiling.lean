import Mathlib.Data.Nat.Basic
import Mathlib.Tactic.Positivity
import VitaLinux.Base.SignedArithmetic
import VitaLinux.Cart.Bands

/-!
# Do the bands tile the frame?

`worker_main` multiplies before it divides, in `int`. As long as the last worker's
product fits, the bands are those of `VitaLinux.Cart.Bands`: they meet without a gap and
differ by at most one row. `cart_worker_pool_init` accepts frames for which it does not.
-/

namespace VitaLinux.Cart

open Base

/-- The band as `worker_main` computes it, if it does not overflow. -/
def workerBand (rows workerCount workerIndex : Signed 32) : Option (Int × Int) := do
  let start ← (workerIndex * rows / workerCount).value
  let stop ← ((workerIndex + 1) * rows / workerCount).value
  return (start, stop)

/-- `n` bands that share out the rows of a frame evenly. -/
structure Tiles (rows n : Int) (band : Int → Int × Int) : Prop where
  cover : ∀ y, (∃ i, 0 ≤ i ∧ i < n ∧ (band i).1 ≤ y ∧ y < (band i).2) ↔ 0 ≤ y ∧ y < rows
  disjoint : ∀ i j, 0 ≤ i → i < n → 0 ≤ j → j < n → i ≠ j →
    ∀ y, (band i).1 ≤ y → y < (band i).2 → ¬ ((band j).1 ≤ y ∧ y < (band j).2)
  even : ∀ i j, 0 ≤ i → i < n → 0 ≤ j → j < n →
    (band i).2 - (band i).1 ≤ (band j).2 - (band j).1 + 1

def BandsTile (rows n : Int) : Prop :=
  ∃ band : Int → Int × Int,
    (∀ i, 0 ≤ i → i < n →
      workerBand (Signed.ofInt rows) (Signed.ofInt n) (Signed.ofInt i) = some (band i)) ∧
    Tiles rows n band

theorem band_size (rows n i : Nat) :
    i * rows / n + rows / n ≤ (i + 1) * rows / n ∧
      (i + 1) * rows / n ≤ i * rows / n + rows / n + 1 := by
  obtain rfl | positive := Nat.eq_zero_or_pos n
  · simp
  · have next := Nat.add_div (a := i * rows) (b := rows) positive
    rw [Nat.succ_mul, next]
    generalize i * rows / n = start, rows / n = size
    split <;> omega

theorem band_before {i j : Nat} (rows n : Nat) (before : i < j) :
    (i + 1) * rows / n ≤ j * rows / n :=
  Nat.div_le_div_right (Nat.mul_le_mul_right rows before)

theorem bands_tiles {rows n : Nat} (workers : 0 < n) :
    Tiles rows n fun i => (bandStart rows n i, bandEnd rows n i) := by
  have start (i : Nat) := bandStart_ofNat rows n i
  have stop (i : Nat) := bandEnd_ofNat rows n i
  constructor
  · intro y
    constructor
    · rintro ⟨i, index, below, low, high⟩
      lift i to Nat using index
      have within : (i + 1) * rows / n ≤ rows := band_within (Int.ofNat_lt.mp below)
      simp only [start, stop] at low high
      generalize i * rows / n = first, (i + 1) * rows / n = last at low high within
      omega
    · rintro ⟨index, inside⟩
      lift y to Nat using index
      obtain ⟨i, below, low, high⟩ := band_covers workers (Int.ofNat_lt.mp inside)
      refine ⟨i, Int.natCast_nonneg i, Int.ofNat_lt.mpr below, ?_, ?_⟩
      · rw [start]
        exact Int.ofNat_le.mpr low
      · rw [stop]
        exact Int.ofNat_lt.mpr high
  · intro i j first _ second _ other y low high
    lift i to Nat using first
    lift j to Nat using second
    simp only [start, stop] at low high ⊢
    obtain before | after := Nat.lt_or_gt_of_ne (fun same => other (congrArg Nat.cast same))
    · have apart := band_before rows n before
      omega
    · have apart := band_before rows n after
      omega
  · intro i j first _ second _
    lift i to Nat using first
    lift j to Nat using second
    have one := band_size rows n i
    have two := band_size rows n j
    simp only [start, stop]
    generalize i * rows / n = a, (i + 1) * rows / n = b, j * rows / n = c,
      (j + 1) * rows / n = d, rows / n = size at one two ⊢
    omega

/-- What `worker_main` computes while the last product fits. -/
theorem workerBand_eq {rows n i : Int} (workers : 1 ≤ n) (few : n ≤ CART_WORKER_POOL_MAX)
    (tall : 1 ≤ rows) (fits : n * rows ≤ 2147483647) (index : 0 ≤ i) (below : i < n) :
    workerBand (Signed.ofInt rows) (Signed.ofInt n) (Signed.ofInt i) =
      some (bandStart rows n i, bandEnd rows n i) := by
  have pool : (CART_WORKER_POOL_MAX : Int) = 8 := rfl
  have last : (i + 1) * rows ≤ 2147483647 :=
    (mul_le_mul_of_nonneg_right below (by omega)).trans fits
  have first : i * rows ≤ 2147483647 :=
    (mul_le_mul_of_nonneg_right (by omega) (by omega)).trans last
  have small : rows ≤ 2147483647 := (le_mul_of_one_le_left (by omega) workers).trans fits
  have height : Signed.Has (Signed.ofInt rows : Signed 32) rows 1 2147483647 :=
    (Signed.Has.ofInt tall small).when rfl
  have count : Signed.Has (Signed.ofInt n : Signed 32) n 1 8 :=
    (Signed.Has.ofInt workers (by omega)).when rfl
  have worker : Signed.Has (Signed.ofInt i : Signed 32) i 0 7 :=
    (Signed.Has.ofInt index (by omega)).when rfl
  have next : Signed.Has ((Signed.ofInt i : Signed 32) + 1) (i + 1) 1 8 :=
    (worker.add (Signed.Has.literal 1)).when rfl
  have quotient {v : Int} (nonneg : 0 ≤ v) (bound : v ≤ 2147483647) :
      0 ≤ v.tdiv n ∧ v.tdiv n ≤ 2147483647 :=
    ⟨Int.tdiv_nonneg nonneg (by omega), (Int.tdiv_le_self n nonneg).trans bound⟩
  have begins := quotient (by positivity : 0 ≤ i * rows) first
  have ends := quotient (by positivity : 0 ≤ (i + 1) * rows) last
  have start := ((worker.mul_of_bounds height (show 0 ≤ i * rows by positivity) first).div_of_bounds
    count (by omega) begins.1 begins.2).when rfl
  have stop := ((next.mul_of_bounds height (show 0 ≤ (i + 1) * rows by positivity) last).div_of_bounds
    count (by omega) ends.1 ends.2).when rfl
  rw [workerBand, start.value, stop.value]
  rfl

/-- The last worker multiplies the height by the number of workers. -/
theorem product_of_tile {rows n : Int} (workers : 1 ≤ n) (few : n ≤ CART_WORKER_POOL_MAX)
    (tall : 1 ≤ rows) (int : rows ≤ 2147483647) (tiled : BandsTile rows n) :
    n * rows ≤ 2147483647 := by
  obtain ⟨band, computed, _⟩ := tiled
  have last := computed (n - 1) (by omega) (by omega)
  obtain ⟨_, _, last⟩ := Option.bind_eq_some_iff.mp last
  obtain ⟨_, stop, _⟩ := Option.bind_eq_some_iff.mp last
  obtain ⟨product, dividend⟩ := Signed.dividend_of_value stop
  have pool : (CART_WORKER_POOL_MAX : Int) = 8 := rfl
  have height : (Signed.ofInt rows : Signed 32).value = some rows :=
    Signed.value_ofInt (fitsSigned_32.mpr ⟨by omega, int⟩)
  have worker : Signed.Has (Signed.ofInt (n - 1) : Signed 32) (n - 1) 0 7 :=
    (Signed.Has.ofInt (by omega) (by omega)).when rfl
  have next : Signed.Has ((Signed.ofInt (n - 1) : Signed 32) + 1) n 1 8 :=
    ((worker.add (Signed.Has.literal 1)).congr (sub_add_cancel n 1)).when rfl
  rw [Signed.value_mul next.value height] at dividend
  exact (fitsSigned_32.mp (Signed.fits_of_value dividend)).2

/-- For every pool that `cart_worker_pool_init` accepts, the bands tile the frame exactly
when the product of the frame's height and the number of workers is an `int`. -/
theorem bands_tile_iff {rows n : Int} (workers : 1 ≤ n) (few : n ≤ CART_WORKER_POOL_MAX)
    (tall : 1 ≤ rows) (int : rows ≤ 2147483647) :
    BandsTile rows n ↔ n * rows ≤ 2147483647 := by
  constructor
  · exact product_of_tile workers few tall int
  · intro fits
    refine ⟨fun i => (bandStart rows n i, bandEnd rows n i),
      fun i => workerBand_eq workers few tall fits, ?_⟩
    lift n to Nat using by omega
    lift rows to Nat using by omega
    exact bands_tiles (by omega)

theorem bands_tile_test : BandsTile 180 4 :=
  (bands_tile_iff (by decide) (by decide) (by decide) (by decide)).mpr (by decide)

/-- Eight workers cannot share 268435456 rows: the last product is 2147483648. -/
theorem accepted_rows_overflow :
    ¬ ∀ rows n : Int, 1 ≤ n → n ≤ CART_WORKER_POOL_MAX → 1 ≤ rows → rows ≤ 2147483647 →
      BandsTile rows n := by
  intro all
  have tiled := all 268435456 8 (by decide) (by decide) (by decide) (by decide)
  exact absurd (product_of_tile (by decide) (by decide) (by decide) (by decide) tiled) (by decide)

end VitaLinux.Cart
