import Mathlib.Data.Fintype.Basic
import Mathlib.Data.Finset.Card

/-!
# Labels in slots

Slots that are filled one by one with labels. No label stands twice exactly when
every label that went in was new.
-/

namespace VitaLinux.Base

variable {ι α : Type*}

/-- No label stands in two slots. -/
def Distinct (slot : ι → Option α) : Prop :=
  ∀ i j label, slot i = some label → slot j = some label → i = j

/-- The labels differ from one another and from those in the slots. -/
def Fits (slot : ι → Option α) (labels : List α) : Prop :=
  labels.Nodup ∧ ∀ label ∈ labels, ∀ i, slot i ≠ some label

def freeCount [Fintype ι] (slot : ι → Option α) : Nat :=
  (Finset.univ.filter fun i => (slot i).isNone).card

theorem Distinct.of_sub {slot slot' : ι → Option α} (h : Distinct slot)
    (sub : ∀ i label, slot' i = some label → slot i = some label) : Distinct slot' :=
  fun i j label at_i at_j => h i j label (sub i label at_i) (sub j label at_j)

theorem Fits.nil (slot : ι → Option α) : Fits slot [] := ⟨List.nodup_nil, by simp⟩

theorem freeCount_eq_zero [Fintype ι] {slot : ι → Option α} (full : ∀ i, slot i ≠ none) :
    freeCount slot = 0 := by
  rw [freeCount, Finset.card_eq_zero, Finset.filter_eq_empty_iff]
  intro i _ none
  exact full i (Option.isNone_iff_eq_none.mp none)

variable [DecidableEq ι] {slot : ι → Option α} {i : ι} {label : α}

theorem distinct_update_iff (free : slot i = none) :
    Distinct (Function.update slot i (some label)) ↔
      Distinct slot ∧ ∀ j, slot j ≠ some label := by
  have taken (j : ι) (other : α) (h : slot j = some other) : j ≠ i := by
    rintro rfl
    rw [free] at h
    cases h
  constructor
  · intro h
    constructor
    · intro j k other at_j at_k
      apply h j k other
      · rwa [Function.update_of_ne (taken j other at_j)]
      · rwa [Function.update_of_ne (taken k other at_k)]
    · intro j at_j
      apply taken j label at_j
      apply h j i label
      · rwa [Function.update_of_ne (taken j label at_j)]
      · rw [Function.update_self]
  · rintro ⟨h, fresh⟩ j k other at_j at_k
    by_cases same_j : j = i
    · by_cases same_k : k = i
      · rw [same_j, same_k]
      · rw [same_j, Function.update_self] at at_j
        rw [Function.update_of_ne same_k, ← at_j] at at_k
        exact absurd at_k (fresh k)
    · rw [Function.update_of_ne same_j] at at_j
      by_cases same_k : k = i
      · rw [same_k, Function.update_self] at at_k
        rw [← at_k] at at_j
        exact absurd at_j (fresh j)
      · rw [Function.update_of_ne same_k] at at_k
        exact h j k other at_j at_k

/-- Filling a free slot moves the first label from the list into the slots. -/
theorem fits_cons_iff {labels : List α} (free : slot i = none) :
    (Distinct (Function.update slot i (some label)) ∧
        Fits (Function.update slot i (some label)) labels) ↔
      Distinct slot ∧ Fits slot (label :: labels) := by
  rw [distinct_update_iff free]
  simp only [Fits, List.nodup_cons, List.mem_cons, forall_eq_or_imp]
  constructor
  · rintro ⟨⟨distinct, fresh⟩, nodup, apart⟩
    refine ⟨distinct, ⟨?_, nodup⟩, fresh, ?_⟩
    · intro mem
      exact apart label mem i (Function.update_self ..)
    · intro other mem j at_j
      have different : j ≠ i := by
        rintro rfl
        rw [free] at at_j
        cases at_j
      exact apart other mem j (by rw [Function.update_of_ne different, at_j])
  · rintro ⟨distinct, ⟨notMem, nodup⟩, fresh, apart⟩
    refine ⟨⟨distinct, fresh⟩, nodup, ?_⟩
    intro other mem j at_j
    by_cases same : j = i
    · rw [same, Function.update_self, Option.some.injEq] at at_j
      rw [← at_j] at mem
      exact notMem mem
    · rw [Function.update_of_ne same] at at_j
      exact apart other mem j at_j

theorem freeCount_update [Fintype ι] (free : slot i = none) :
    freeCount slot = freeCount (Function.update slot i (some label)) + 1 := by
  have erased : (Finset.univ.filter fun j => (Function.update slot i (some label) j).isNone) =
      (Finset.univ.filter fun j => (slot j).isNone).erase i := by
    ext j
    by_cases same : j = i
    · subst same
      simp
    · simp [same]
  rw [freeCount, freeCount, erased, Finset.card_erase_add_one]
  simp [free]

end VitaLinux.Base
