import Mathlib.Data.List.Induction

/-!
# Delimited text

A text whose lines end in a separator, line by line: cutting off the first line, changing
every line, and telling whether the last line is complete.
-/

namespace VitaLinux.Base

variable {α : Type*}

/-- Every line of the text is complete. -/
def Terminated (separator : α) (text : List α) : Prop :=
  text = [] ∨ text.getLast? = some separator

theorem Terminated.append {separator : α} {text rest : List α} (h : Terminated separator text) :
    Terminated separator (text ++ rest) ↔ Terminated separator rest := by
  cases rest using List.reverseRecOn with
  | nil => simpa using iff_of_true h (.inl rfl)
  | append_singleton rest last => simp [Terminated, ← List.append_assoc]

theorem terminated_concat (separator : α) (text : List α) :
    Terminated separator (text ++ [separator]) := by
  simp [Terminated]

/-- A text without a separator has no complete line. -/
theorem terminated_iff_nil {separator : α} {text : List α} (whole : separator ∉ text) :
    Terminated separator text ↔ text = [] :=
  or_iff_left fun last => whole (List.mem_of_getLast? last)

variable [DecidableEq α]

instance (separator : α) (text : List α) : Decidable (Terminated separator text) :=
  inferInstanceAs (Decidable (_ ∨ _))

/-- The first line and what follows its separator. -/
def partition (separator : α) (text : List α) : Option (List α × List α) :=
  if separator ∈ text then
    some (text.takeWhile (· ≠ separator), (text.dropWhile (· ≠ separator)).drop 1)
  else none

/-- The text with every line changed. -/
def mapLines (separator : α) (change : List α → List α) (text : List α) : List α :=
  [separator].intercalate ((text.splitOn separator).map change)

variable {separator : α} {change : List α → List α} {text line rest : List α}

theorem partition_eq_some (h : partition separator text = some (line, rest)) :
    separator ∉ line ∧ text = line ++ separator :: rest := by
  rw [partition] at h
  split at h
  case isFalse => cases h
  case isTrue inside =>
    obtain ⟨before, after, rfl, whole⟩ := List.eq_append_cons_of_mem inside
    have passes : ∀ c ∈ before, decide (c ≠ separator) = true :=
      fun c member => decide_eq_true fun same => whole (same ▸ member)
    rw [List.takeWhile_append_of_pos passes, List.dropWhile_append_of_pos passes,
      List.takeWhile_cons_of_neg (by simp), List.dropWhile_cons_of_neg (by simp)] at h
    simp only [List.append_nil, List.drop_one, List.tail_cons, Option.some.injEq,
      Prod.mk.injEq] at h
    obtain ⟨rfl, rfl⟩ := h
    exact ⟨whole, rfl⟩

theorem partition_eq_none : partition separator text = none ↔ separator ∉ text := by
  rw [partition]
  split <;> simp_all

/-- Without lines there is nothing to change. -/
theorem mapLines_nil (empty : change [] = []) : mapLines separator change [] = [] := by
  simp [mapLines, empty]

theorem mapLines_line (whole : separator ∉ line) :
    mapLines separator change (line ++ separator :: rest) =
      change line ++ separator :: mapLines separator change rest := by
  obtain ⟨first, others, split⟩ := List.exists_cons_of_ne_nil (List.splitOn_ne_nil separator rest)
  rw [mapLines, List.splitOn_append_cons_self, List.splitOn_eq_singleton whole, mapLines, split]
  simp [List.intercalate_cons_cons]

end VitaLinux.Base
