import Mathlib.Data.List.FinRange
import Mathlib.Order.Basic
import VitaLinux.Base.Slots

/-!
# Placing labels in numbered slots

Every label goes into the lowest slot that is free. Slots that held descending labels
hold descending labels afterwards exactly when each new label lies between those below
and above its slot (`place_descending_iff`).
-/

namespace VitaLinux.Base

variable {n : Nat} {α : Type*}

/-- The free slots, lowest first. -/
def freeSlots (slot : Fin n → Option α) : List (Fin n) :=
  (List.finRange n).filter fun i => (slot i).isNone

/-- Puts each label into the lowest free slot, as long as there is one. -/
def place (slot : Fin n → Option α) : List α → Fin n → Option α
  | [] => slot
  | label :: labels =>
    match (freeSlots slot).head? with
    | none => slot
    | some i => place (Function.update slot i (some label)) labels

/-- The labels do not rise from one slot to a later one. -/
def Descending [LE α] (slot : Fin n → Option α) : Prop :=
  ∀ i j x y, i < j → slot i = some x → slot j = some y → y ≤ x

/-- The label is at most every label below slot `i` and at least every label above it. -/
def Between [LE α] (slot : Fin n → Option α) (i : Fin n) (label : α) : Prop :=
  ∀ j other, slot j = some other → (j < i → label ≤ other) ∧ (i < j → other ≤ label)

/-- Each label that finds a free slot lies between those below and above that slot. -/
def FitsOrder [LE α] (slot : Fin n → Option α) (labels : List α) : Prop :=
  ∀ i label, (i, label) ∈ (freeSlots slot).zip labels → Between slot i label

theorem mem_freeSlots {slot : Fin n → Option α} {i : Fin n} :
    i ∈ freeSlots slot ↔ slot i = none := by
  simp [freeSlots]

theorem freeSlots_pairwise (slot : Fin n → Option α) : (freeSlots slot).Pairwise (· < ·) :=
  (List.pairwise_lt_finRange n).filter _

theorem head_free {slot : Fin n → Option α} {i : Fin n} {rest : List (Fin n)}
    (free : freeSlots slot = i :: rest) : slot i = none :=
  mem_freeSlots.mp (free ▸ List.mem_cons_self)

theorem freeSlots_update {slot : Fin n → Option α} {i : Fin n} {rest : List (Fin n)}
    (free : freeSlots slot = i :: rest) (label : α) :
    freeSlots (Function.update slot i (some label)) = rest := by
  have apart : ∀ j ∈ rest, j ≠ i := by
    have sorted := freeSlots_pairwise slot
    rw [free, List.pairwise_cons] at sorted
    exact fun j mem => (sorted.1 j mem).ne'
  have others : freeSlots (Function.update slot i (some label)) =
      (freeSlots slot).filter (· ≠ i) := by
    rw [freeSlots, freeSlots, List.filter_filter]
    apply List.filter_congr
    intro j _
    by_cases same : j = i
    · subst same
      simp
    · simp [same]
  rw [others, free, List.filter_cons_of_neg (by simp), List.filter_eq_self]
  simpa using apart

theorem place_full {slot : Fin n → Option α} (full : freeSlots slot = []) (labels : List α) :
    place slot labels = slot := by
  cases labels with
  | nil => rfl
  | cons label labels => rw [place, full, List.head?_nil]

theorem place_cons {slot : Fin n → Option α} {i : Fin n} {rest : List (Fin n)}
    (free : freeSlots slot = i :: rest) (label : α) (labels : List α) :
    place slot (label :: labels) = place (Function.update slot i (some label)) labels := by
  rw [place, free, List.head?_cons]

theorem place_taken {i : Fin n} (labels : List α) :
    ∀ slot : Fin n → Option α, slot i ≠ none → place slot labels i = slot i := by
  induction labels with
  | nil => exact fun _ _ => rfl
  | cons label labels ih =>
    intro slot taken
    cases free : freeSlots slot with
    | nil => rw [place_full free]
    | cons j rest =>
      have different : i ≠ j := by
        rintro rfl
        exact taken (head_free free)
      have kept : Function.update slot j (some label) i = slot i :=
        Function.update_of_ne different ..
      rw [place_cons free, ih _ (kept ▸ taken), kept]

/-- The free slots get the labels in their order. -/
theorem place_free {i : Fin n} (labels : List α) :
    ∀ (slot : Fin n → Option α) (k : Nat), (freeSlots slot)[k]? = some i →
      place slot labels i = labels[k]? := by
  induction labels with
  | nil =>
    intro slot k found
    exact mem_freeSlots.mp (List.mem_of_getElem? found)
  | cons label labels ih =>
    intro slot k found
    cases free : freeSlots slot with
    | nil => simp [free] at found
    | cons j rest =>
      rw [free] at found
      rw [place_cons free]
      cases k with
      | zero =>
        obtain rfl : j = i := Option.some.inj found
        rw [place_taken _ _ (by simp), Function.update_self]
        rfl
      | succ k =>
        rw [ih _ k (by rwa [freeSlots_update free])]
        rfl

/-- Slots that are all free get the labels from the first on. -/
theorem place_empty (labels : List α) (i : Fin n) :
    place (fun _ => none) labels i = labels[i.val]? := by
  apply place_free
  simp [freeSlots]

/-- **The labels stay distinct** exactly when those that find a free slot are new. -/
theorem place_distinct_iff (labels : List α) :
    ∀ slot : Fin n → Option α,
      Distinct (place slot labels) ↔
        Distinct slot ∧ Fits slot (labels.take (freeCount slot)) := by
  induction labels with
  | nil =>
    intro slot
    simp [place, Fits.nil]
  | cons label labels ih =>
    intro slot
    cases free : freeSlots slot with
    | nil =>
      have full : freeCount slot = 0 := by
        apply freeCount_eq_zero
        intro i empty
        have mem := mem_freeSlots.mpr empty
        rw [free] at mem
        cases mem
      rw [place_full free, full, List.take_zero]
      exact (and_iff_left (Fits.nil slot)).symm
    | cons i rest =>
      have empty := head_free free
      rw [place_cons free, ih, freeCount_update empty, List.take_succ_cons]
      exact fits_cons_iff empty

theorem Descending.of_sub [LE α] {slot slot' : Fin n → Option α} (h : Descending slot)
    (sub : ∀ i label, slot' i = some label → slot i = some label) : Descending slot' :=
  fun i j x y before at_i at_j => h i j x y before (sub i x at_i) (sub j y at_j)

section Order

variable [Preorder α] {slot : Fin n → Option α} {i : Fin n} {label : α}

theorem descending_update_iff (free : slot i = none) :
    Descending (Function.update slot i (some label)) ↔ Descending slot ∧ Between slot i label := by
  have taken (j : Fin n) (other : α) (h : slot j = some other) : j ≠ i := by
    rintro rfl
    rw [free] at h
    cases h
  constructor
  · intro h
    constructor
    · intro j k x y before at_j at_k
      apply h j k x y before
      · rwa [Function.update_of_ne (taken j x at_j)]
      · rwa [Function.update_of_ne (taken k y at_k)]
    · intro j other at_j
      have kept : Function.update slot i (some label) j = some other := by
        rwa [Function.update_of_ne (taken j other at_j)]
      constructor
      · exact fun below => h j i other label below kept (Function.update_self ..)
      · exact fun above => h i j label other above (Function.update_self ..) kept
  · rintro ⟨h, between⟩ j k x y before at_j at_k
    by_cases same_j : j = i
    · subst same_j
      rw [Function.update_self, Option.some.injEq] at at_j
      rw [Function.update_of_ne before.ne'] at at_k
      rw [← at_j]
      exact (between k y at_k).2 before
    · rw [Function.update_of_ne same_j] at at_j
      by_cases same_k : k = i
      · subst same_k
        rw [Function.update_self, Option.some.injEq] at at_k
        rw [← at_k]
        exact (between j x at_j).1 before
      · rw [Function.update_of_ne same_k] at at_k
        exact h j k x y before at_j at_k

/-- A higher label in a lower slot asks nothing new of the labels that come later. -/
theorem between_update_iff (free : slot i = none) {j : Fin n} {other : α} (before : i < j)
    (below : other ≤ label) :
    Between (Function.update slot i (some label)) j other ↔ Between slot j other := by
  constructor
  · intro h k x at_k
    have different : k ≠ i := by
      rintro rfl
      rw [free] at at_k
      cases at_k
    exact h k x (by rwa [Function.update_of_ne different])
  · intro h k x at_k
    by_cases same : k = i
    · subst same
      rw [Function.update_self, Option.some.injEq] at at_k
      rw [← at_k]
      exact ⟨fun _ => below, fun after => absurd before after.not_gt⟩
    · rw [Function.update_of_ne same] at at_k
      exact h k x at_k

/-- **Descending labels stay descending** exactly when each one placed fits in. -/
theorem place_descending_iff {labels : List α} (sorted : labels.Pairwise (· ≥ ·)) :
    ∀ slot : Fin n → Option α,
      Descending (place slot labels) ↔ Descending slot ∧ FitsOrder slot labels := by
  induction labels with
  | nil =>
    intro slot
    simp [place, FitsOrder]
  | cons label labels ih =>
    intro slot
    rw [List.pairwise_cons] at sorted
    cases free : freeSlots slot with
    | nil =>
      rw [place_full free, FitsOrder, free]
      simp
    | cons i rest =>
      have empty := head_free free
      have above : ∀ j ∈ rest, i < j := by
        have ascending := freeSlots_pairwise slot
        rw [free, List.pairwise_cons] at ascending
        exact ascending.1
      rw [place_cons free, ih sorted.2, descending_update_iff empty, FitsOrder, FitsOrder,
        freeSlots_update free, free, List.zip_cons_cons, and_assoc]
      refine and_congr_right fun _ => ?_
      constructor
      · rintro ⟨first, later⟩ j other mem
        rcases List.mem_cons.mp mem with same | mem
        · obtain ⟨rfl, rfl⟩ := Prod.mk.inj same
          exact first
        · have inside := List.of_mem_zip mem
          exact (between_update_iff empty (above j inside.1) (sorted.1 other inside.2)).mp
            (later j other mem)
      · intro all
        refine ⟨all i label List.mem_cons_self, fun j other mem => ?_⟩
        have inside := List.of_mem_zip mem
        exact (between_update_iff empty (above j inside.1) (sorted.1 other inside.2)).mpr
          (all j other (List.mem_cons_of_mem _ mem))

end Order

end VitaLinux.Base
