import Mathlib.Data.List.Sort
import VitaLinux.Base.InsertionSort
import VitaLinux.Cart.Input.Discovery

/-!
# cart/src/input_evdev.c: the order of the candidates

`_cart_input_plan` is an insertion sort: higher ranks come first, lower numbers within a
rank, and what it is given decides nothing but the order of equals. It works in place
(`cartInputPlanInPlace`); what a discovery makes of its candidates is the same
(`cartInputPlanInPlace_eq`).
-/

namespace VitaLinux.Cart

namespace CartInputCandidate

/-- A higher rank, or the same rank and no higher number. -/
def Precedes (first second : CartInputCandidate) : Prop :=
  second.rank < first.rank ∨ (first.rank = second.rank ∧ first.number ≤ second.number)

instance (first second : CartInputCandidate) : Decidable (first.Precedes second) :=
  inferInstanceAs (Decidable (_ ∨ _))

theorem not_yields_iff {other key : CartInputCandidate} :
    ¬ other.yields key ↔ other.Precedes key := by
  simp only [yields, Precedes]
  omega

instance : IsTrans CartInputCandidate Precedes where
  trans first second third h h' := by
    simp only [Precedes] at *
    omega

instance : Std.Total Precedes where
  total first second := by
    simp only [Precedes]
    omega

theorem Precedes.rank_le {first second : CartInputCandidate} (h : first.Precedes second) :
    second.rank ≤ first.rank := by
  simp only [Precedes] at h
  omega

end CartInputCandidate

open CartInputCandidate VitaLinux.Base

/-- `_cart_input_plan` on the array itself; `none` is an access outside of it. -/
def cartInputPlanInPlace (candidates : List CartInputCandidate) (count : Nat) :
    Option (List CartInputCandidate × Nat) := do
  let candidates ← sortInPlace CartInputCandidate.yields candidates count
  return (candidates, if CANDIDATE_CAP < count then CANDIDATE_CAP else count)

theorem planInsert_eq (key : CartInputCandidate) (done : List CartInputCandidate) :
    planInsert key done = done.orderedInsert (Function.swap Precedes) key := by
  induction done with
  | nil => rfl
  | cons other rest ih =>
    rw [planInsert, List.orderedInsert_cons, ih]
    by_cases yields : other.yields key
    · rw [if_pos yields, if_neg fun precedes => not_yields_iff.mpr precedes yields]
    · rw [if_neg yields, if_pos (not_yields_iff.mp yields)]

/-- The rounds of the outer loop, last element first. -/
theorem planInserts_eq (keys : List CartInputCandidate) :
    keys.foldl (fun done key => planInsert key done) [] =
      keys.reverse.insertionSort (Function.swap Precedes) := by
  rw [List.insertionSort, List.foldr_reverse]
  congr
  funext done key
  exact planInsert_eq key done

/-- Planning only reorders the candidates. -/
theorem cartInputPlan_perm (candidates : List CartInputCandidate) (count : Nat) :
    (cartInputPlan candidates count).1.Perm candidates := by
  have sorted := List.perm_insertionSort (Function.swap Precedes) (candidates.take count).reverse
  rw [← planInserts_eq] at sorted
  have whole := (((List.reverse_perm _).trans sorted).trans (List.reverse_perm _)).append_right
    (candidates.drop count)
  rwa [List.take_append_drop] at whole

/-- A plan of all candidates is in order. -/
theorem cartInputPlan_ordered (candidates : List CartInputCandidate) :
    (cartInputPlan candidates candidates.length).1.Pairwise Precedes := by
  have sorted := List.pairwise_insertionSort (Function.swap Precedes) candidates.reverse
  rw [← planInserts_eq] at sorted
  rw [cartInputPlan, List.take_length, List.drop_length, List.append_nil, List.pairwise_reverse]
  exact sorted

theorem insertionSort_stays (candidates : List CartInputCandidate) :
    candidates.insertionSort (Stays yields) =
      candidates.insertionSort (Function.swap Precedes) := by
  have same : Stays yields = Function.swap Precedes :=
    funext fun _ => funext fun _ => propext not_yields_iff
  congr! 1

/-- The in-place plan of the first candidates, which leaves the others alone. -/
theorem cartInputPlanInPlace_append (candidates beyond : List CartInputCandidate) :
    cartInputPlanInPlace (candidates ++ beyond) candidates.length =
      some ((candidates.reverse.insertionSort (Stays yields)).reverse ++ beyond,
        if CANDIDATE_CAP < candidates.length then CANDIDATE_CAP else candidates.length) := by
  rw [cartInputPlanInPlace, sortInPlace_eq]
  rfl

/-- A discovery's plan is what the loops leave in the array. -/
theorem cartInputPlanInPlace_eq {candidates : List CartInputCandidate} {count : Nat}
    (inside : count ≤ candidates.length) :
    cartInputPlanInPlace candidates count = some (cartInputPlan candidates count) := by
  have planned := cartInputPlanInPlace_append (candidates.take count) (candidates.drop count)
  rw [List.take_append_drop, List.length_take_of_le inside] at planned
  rw [planned, insertionSort_stays, cartInputPlan, planInserts_eq]

/-- **The order of the candidates.** The planned part of the array is reordered so that ranks
fall, numbers rise within a rank, and candidates of the same rank and number keep their
order; nothing beyond it is touched. -/
theorem candidate_ordering (candidates beyond : List CartInputCandidate) :
    ∃ planned : List CartInputCandidate,
      cartInputPlanInPlace (candidates ++ beyond) candidates.length =
        some (planned ++ beyond, min candidates.length 16) ∧
      planned.Perm candidates ∧ planned.Pairwise Precedes ∧
      ∀ (rank : Int) (number : Nat),
        planned.filter (fun c => c.rank = rank ∧ c.number = number) =
          candidates.filter fun c => c.rank = rank ∧ c.number = number := by
  have count : (if CANDIDATE_CAP < candidates.length then CANDIDATE_CAP else candidates.length) =
      min candidates.length 16 := by
    by_cases long : CANDIDATE_CAP < candidates.length
    · rw [if_pos long]
      exact (Nat.min_eq_right long.le).symm
    · rw [if_neg long]
      exact (Nat.min_eq_left (Nat.not_lt.mp long)).symm
  have plan := cartInputPlanInPlace_append candidates beyond
  rw [count] at plan
  refine ⟨_, plan, ?_, ?_, ?_⟩
  · have sorted := List.perm_insertionSort (Stays yields) candidates.reverse
    exact ((List.reverse_perm _).trans sorted).trans (List.reverse_perm _)
  · have sorted := cartInputPlan_ordered candidates
    have same := cartInputPlanInPlace_eq (Nat.le_refl candidates.length)
    have alone := cartInputPlanInPlace_append candidates []
    rw [List.append_nil, List.append_nil, same, Option.some_inj] at alone
    rwa [alone] at sorted
  · intro rank number
    rw [List.filter_reverse, filter_insertionSort, List.filter_reverse, List.reverse_reverse]
    intro first second here there
    obtain ⟨rfl, rfl⟩ := of_decide_eq_true here
    have same := of_decide_eq_true there
    exact not_yields_iff.mpr (.inr ⟨same.1, same.2.le⟩)

end VitaLinux.Cart
