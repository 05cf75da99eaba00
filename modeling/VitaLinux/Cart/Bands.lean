/-!
# Row bands

`worker_main` gives worker `index` the rows from `index * rows / worker_count`
to `(index + 1) * rows / worker_count`. Whatever the number of workers, every
row belongs to some band.
-/

namespace VitaLinux.Cart

def CART_WORKER_POOL_MAX : Nat := 8

/-- `worker_index * pool->rows / pool->worker_count` -/
def bandStart (rows workerCount workerIndex : Int) : Int :=
  (workerIndex * rows).tdiv workerCount

/-- `(worker_index + 1) * pool->rows / pool->worker_count` -/
def bandEnd (rows workerCount workerIndex : Int) : Int :=
  ((workerIndex + 1) * rows).tdiv workerCount

theorem bandStart_ofNat (rows n i : Nat) : bandStart rows n i = ((i * rows / n : Nat) : Int) := by
  rw [bandStart, ← Int.natCast_mul, Int.ofNat_tdiv]

theorem bandEnd_ofNat (rows n i : Nat) :
    bandEnd rows n i = (((i + 1) * rows / n : Nat) : Int) := by
  rw [bandEnd, ← Int.natCast_succ, ← Int.natCast_mul, Int.ofNat_tdiv]

/-- Row `y` lies in the band of worker `((y + 1) * n - 1) / rows`. -/
theorem band_covers {rows n y : Nat} (workers : 0 < n) (inside : y < rows) :
    ∃ i, i < n ∧ i * rows / n ≤ y ∧ y < (i + 1) * rows / n := by
  generalize hi : ((y + 1) * n - 1) / rows = i
  have total : (y + 1) * n ≤ rows * n := Nat.mul_le_mul_right n inside
  have some : n ≤ (y + 1) * n := Nat.le_mul_of_pos_left n (Nat.succ_pos y)
  have low : i * rows ≤ (y + 1) * n - 1 := hi ▸ Nat.div_mul_le_self _ _
  have high : (y + 1) * n - 1 < (i + 1) * rows := by
    have next := Nat.lt_mul_div_succ ((y + 1) * n - 1) (show 0 < rows by omega)
    rwa [hi, Nat.mul_comm rows] at next
  refine ⟨i, ?_, ?_, ?_⟩
  · subst hi
    rw [Nat.div_lt_iff_lt_mul (by omega), Nat.mul_comm n rows]
    omega
  · have : i * rows / n < y + 1 := by
      rw [Nat.div_lt_iff_lt_mul workers]
      omega
    omega
  · have : y + 1 ≤ (i + 1) * rows / n := by
      rw [Nat.le_div_iff_mul_le workers]
      omega
    omega

theorem band_within {rows n i : Nat} (index : i < n) : (i + 1) * rows / n ≤ rows :=
  Nat.div_le_of_le_mul (Nat.mul_le_mul_right rows index)

/-- An order in which `n` workers can take their turns. -/
structure BandOrder (n : Nat) where
  order : List Nat
  perm : order.Perm (List.range n)

theorem BandOrder.mem {n : Nat} (o : BandOrder n) (i : Nat) : i ∈ o.order ↔ i < n := by
  rw [o.perm.mem_iff, List.mem_range]

def BandOrder.inOrder (n : Nat) : BandOrder n := ⟨List.range n, .refl _⟩

end VitaLinux.Cart
