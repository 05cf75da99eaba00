/-!
# Lists of times that keep a distance

`Spaced m times`: every time is at least `m` after every earlier one. A spaced
list has few members in any window (`Spaced.window`), which is what a rate
limit is for.
-/

namespace VitaLinux.Base

def Spaced (m : Nat) (times : List Nat) : Prop :=
  times.Pairwise fun a b => a + m ≤ b

theorem Spaced.nil (m : Nat) : Spaced m [] := List.Pairwise.nil

theorem Spaced.cons {m a : Nat} {times : List Nat} (later : ∀ b ∈ times, a + m ≤ b)
    (h : Spaced m times) : Spaced m (a :: times) :=
  List.Pairwise.cons later h

theorem Spaced.filter {m : Nat} {times : List Nat} (h : Spaced m times) (p : Nat → Bool) :
    Spaced m (times.filter p) :=
  List.Pairwise.filter p h

/-- Each further member moves the last one by at least `m`. -/
theorem Spaced.span {m a bound : Nat} {times : List Nat} (h : Spaced m (a :: times))
    (below : ∀ b ∈ a :: times, b ≤ bound) : a + times.length * m ≤ bound := by
  induction times generalizing a with
  | nil => simpa using below a (by simp)
  | cons b times ih =>
    obtain ⟨later, rest⟩ := List.pairwise_cons.mp h
    have next := later b (by simp)
    have tail := ih rest (fun c hc => below c (List.mem_cons_of_mem _ hc))
    rw [List.length_cons, Nat.succ_mul]
    omega

/-- At most `W / m + 1` members of a spaced list lie in a window of width `W`. -/
theorem Spaced.window {m : Nat} {times : List Nat} (h : Spaced m times) (positive : 0 < m)
    (t W : Nat) :
    (times.filter fun a => decide (t ≤ a) && decide (a ≤ t + W)).length ≤ W / m + 1 := by
  generalize hl : (times.filter fun a => decide (t ≤ a) && decide (a ≤ t + W)) = inside
  have within : ∀ a ∈ inside, t ≤ a ∧ a ≤ t + W := by
    intro a ha
    subst hl
    simpa using (List.mem_filter.mp ha).2
  have spaced : Spaced m inside := hl ▸ h.filter _
  cases inside with
  | nil => exact Nat.zero_le _
  | cons a rest =>
    have span := spaced.span fun b hb => (within b hb).2
    have first := (within a (by simp)).1
    have fits : rest.length ≤ W / m := by
      rw [Nat.le_div_iff_mul_le positive]
      omega
    simpa using fits

end VitaLinux.Base
