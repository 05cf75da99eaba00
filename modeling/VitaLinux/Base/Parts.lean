import Mathlib.Algebra.BigOperators.Ring.List
import Mathlib.Data.List.Nodup
import Mathlib.Data.List.Range
import Mathlib.Tactic.Ring
import VitaLinux.Base.Grid

/-!
# A list cut into parts

What two nested loops give does not depend on which is the outer one, up to order. Parts that
together are a list without repetitions share no element. Their sums add up to the sum of
the list.
-/

namespace VitaLinux.Base

variable {α β γ : Type}

theorem flatMap_swap (l : List α) (l' : List β) (f : α → β → List γ) :
    (l.flatMap fun a => l'.flatMap fun b => f a b).Perm
      (l'.flatMap fun b => l.flatMap fun a => f a b) := by
  induction l with
  | nil => simp
  | cons a l ih =>
    simp only [List.flatMap_cons]
    exact (ih.append_left _).trans (List.flatMap_append_perm l' (f a) _)

/-- Consecutive ranges make up one. -/
theorem flatMap_consecutive (bound : Nat → Nat) (n : Nat)
    (rises : ∀ g < n, bound g ≤ bound (g + 1)) :
    bound 0 ≤ bound n ∧
      ((List.range n).flatMap fun g => List.range' (bound g) (bound (g + 1) - bound g)) =
        List.range' (bound 0) (bound n - bound 0) := by
  induction n with
  | zero => simp
  | succ n ih =>
    obtain ⟨below, joined⟩ := ih fun g small => rises g (Nat.lt_succ_of_lt small)
    have next := rises n (Nat.lt_succ_self n)
    refine ⟨below.trans next, ?_⟩
    have split : List.range' (bound 0) (bound n - bound 0) ++
        List.range' (bound 0 + (bound n - bound 0)) (bound (n + 1) - bound n) =
        List.range' (bound 0) (bound n - bound 0 + (bound (n + 1) - bound n)) := by
      simp
    rw [List.range_succ, List.flatMap_append, joined, List.flatMap_singleton,
      show bound (n + 1) - bound 0 = bound n - bound 0 + (bound (n + 1) - bound n) by omega,
      ← split, Nat.add_sub_cancel' below]

/-- An element of the list is in one part. -/
theorem existsUnique_part {l : List α} {part : α → List β} {whole : List β}
    (joined : (l.flatMap part).Perm whole) (distinct : whole.Nodup) {b : β} (mem : b ∈ whole) :
    ∃! a, a ∈ l ∧ b ∈ part a := by
  obtain ⟨a, inList, inPart⟩ := List.mem_flatMap.mp (joined.mem_iff.mpr mem)
  refine ⟨a, ⟨inList, inPart⟩, ?_⟩
  rintro a' ⟨inList', inPart'⟩
  obtain ⟨-, apart⟩ := List.nodup_flatMap.mp (joined.nodup_iff.mpr distinct)
  by_contra different
  have : Std.Symm (Function.onFun List.Disjoint part) :=
    ⟨fun _ _ disjoint _ second first => disjoint first second⟩
  have disjoint := apart.forall inList' inList different
  exact disjoint inPart' inPart

theorem sum_parts [AddCommMonoid γ] (l : List α) (part : α → List β) (value : β → γ) :
    (l.map fun a => ((part a).map value).sum).sum = ((l.flatMap part).map value).sum := by
  induction l with
  | nil => simp
  | cons a l ih => simp [ih]

end VitaLinux.Base
