import Mathlib.Data.List.Induction
import Mathlib.Data.List.Sort

/-!
# Insertion sort in place

The inner loop moves every element that yields to the key one place up and stores the key in
the place left over. The outer loop does so for each element in turn, and sorts the first
elements of an array without reading or writing the others (`sortInPlace_eq`).
-/

namespace VitaLinux.Base

variable {α : Type*}

/-- `xs[i] = x`, inside the array. -/
def store (xs : List α) (i : Nat) (x : α) : Option (List α) :=
  if i < xs.length then some (xs.set i x) else none

section Loops

variable (yields : α → α → Prop) [DecidableRel yields]

/-- The inner loop, with the place at `j` free, and the store after it. -/
def shiftInto (key : α) : Nat → List α → Option (List α)
  | 0, xs => store xs 0 key
  | j + 1, xs => do
    let before ← xs[j]?
    if yields before key then
      let xs ← store xs (j + 1) before
      shiftInto key j xs
    else store xs (j + 1) key

def insertAt (xs : List α) (i : Nat) : Option (List α) := do
  let key ← xs[i]?
  shiftInto yields key i xs

/-- `for (i = 1; i < count; i++)`. -/
def sortInPlace (xs : List α) (count : Nat) : Option (List α) :=
  (List.range' 1 (count - 1)).foldlM (insertAt yields) xs

def Stays (key other : α) : Prop := ¬ yields other key

instance : DecidableRel (Stays yields) := fun _ _ => inferInstanceAs (Decidable (¬ _))

end Loops

theorem store_append (front rest : List α) (old new : α) :
    store (front ++ old :: rest) front.length new = some (front ++ new :: rest) := by
  rw [store, if_pos (by simp), List.set_append_right _ _ (Nat.le_refl _), Nat.sub_self]
  rfl

variable {yields : α → α → Prop} [DecidableRel yields]

/-- By induction on what is sorted so far, last element first, as the loop walks it. -/
theorem shiftInto_eq (key : α) (done : List α) (hole : α) (rest : List α) :
    shiftInto yields key done.length (done.reverse ++ hole :: rest) =
      some ((done.orderedInsert (Stays yields) key).reverse ++ rest) := by
  induction done generalizing hole rest with
  | nil => rfl
  | cons other done ih =>
    have place : (other :: done).length = done.reverse.length + 1 := by simp
    have found : (done.reverse ++ other :: hole :: rest)[done.reverse.length]? = some other := by
      simp
    have behind (new : α) : store (done.reverse ++ other :: hole :: rest)
        (done.reverse.length + 1) new = some (done.reverse ++ other :: new :: rest) := by
      simpa using store_append (done.reverse ++ [other]) rest hole new
    rw [place, List.reverse_cons, List.append_assoc, List.singleton_append, shiftInto, found,
      List.orderedInsert_cons]
    simp only [Option.bind_eq_bind, Option.bind_some, behind]
    by_cases moves : yields other key
    · have passed : ¬ Stays yields key other := not_not_intro moves
      rw [if_pos moves, if_neg passed, List.length_reverse, ih]
      simp
    · have stays : Stays yields key other := moves
      rw [if_neg moves, if_pos stays]
      simp

/-- The first elements are sorted, last one first, and the others are left alone. -/
theorem sortInPlace_eq (xs beyond : List α) :
    sortInPlace yields (xs ++ beyond) xs.length =
      some ((xs.reverse.insertionSort (Stays yields)).reverse ++ beyond) := by
  induction xs using List.reverseRecOn generalizing beyond with
  | nil => rfl
  | append_singleton xs key ih =>
    cases xs with
    | nil => rfl
    | cons first xs =>
      have rounds : (first :: xs ++ [key]).length - 1 = xs.length + 1 := by simp
      have before := ih (key :: beyond)
      rw [sortInPlace, List.length_cons, Nat.add_sub_cancel] at before
      rw [sortInPlace, rounds, List.range'_1_concat, List.foldlM_append, List.append_assoc,
        List.singleton_append, before]
      generalize sorted : (first :: xs).reverse.insertionSort (Stays yields) = done
      have length : done.length = 1 + xs.length := by
        rw [← sorted, List.length_insertionSort, List.length_reverse, List.length_cons,
          Nat.add_comm]
      have found : (done.reverse ++ key :: beyond)[done.length]? = some key := by
        simp
      have round : insertAt yields (done.reverse ++ key :: beyond) done.length =
          some ((done.orderedInsert (Stays yields) key).reverse ++ beyond) := by
        rw [insertAt, found]
        exact shiftInto_eq key done key beyond
      rw [← length, List.reverse_concat, List.insertionSort_cons, sorted]
      simp [round]

/-- Insertion does not pass an element that is to stay behind the key. -/
theorem filter_orderedInsert {r : α → α → Prop} [DecidableRel r] {p : α → Bool}
    (alike : ∀ a b, p a = true → p b = true → r a b) (key : α) (xs : List α) :
    (xs.orderedInsert r key).filter p = (key :: xs).filter p := by
  induction xs with
  | nil => rfl
  | cons other xs ih =>
    rw [List.orderedInsert_cons]
    split
    · rfl
    · next moves =>
      rw [List.filter_cons, ih]
      by_cases left : p other
      · have right : ¬ p key = true := fun right => moves (alike key other right left)
        simp [left, right]
      · simp [left, List.filter_cons]

theorem filter_insertionSort {r : α → α → Prop} [DecidableRel r] {p : α → Bool}
    (alike : ∀ a b, p a = true → p b = true → r a b) (xs : List α) :
    (xs.insertionSort r).filter p = xs.filter p := by
  induction xs with
  | nil => rfl
  | cons key xs ih =>
    rw [List.insertionSort_cons, filter_orderedInsert alike, List.filter_cons, ih,
      List.filter_cons]

end VitaLinux.Base
