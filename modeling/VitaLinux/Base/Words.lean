import Mathlib.Data.List.TakeWhile

/-!
# Scanning words of bounded width

Words are what stands between blanks; a conversion takes at most its width of one. More
text after the last blank never takes a word away, and changes none that has been scanned.
-/

namespace VitaLinux.Base

variable {α : Type}

section Words

variable (blank : α → Bool)

def scanWord (width : Nat) (text : List α) : Option (List α × List α) :=
  let trimmed := text.dropWhile blank
  let word := (trimmed.takeWhile fun c => !blank c).take width
  if word.isEmpty then none else some (word, trimmed.drop word.length)

/-- The words for a list of widths, up to the first that is missing. -/
def scanWords : List Nat → List α → List (List α)
  | [], _ => []
  | width :: widths, text =>
    match scanWord blank width text with
    | none => []
    | some (word, rest) => word :: scanWords widths rest

variable {blank}

theorem scanWords_length_le (widths : List Nat) (text : List α) :
    (scanWords blank widths text).length ≤ widths.length := by
  induction widths generalizing text with
  | nil => exact Nat.le_refl _
  | cons width widths ih =>
    rw [scanWords]
    split
    · exact Nat.zero_le _
    · exact Nat.succ_le_succ (ih _)

theorem scanWord_eq_some {width : Nat} {text word rest : List α} :
    scanWord blank width text = some (word, rest) ↔ word ≠ [] ∧
      ((text.dropWhile blank).takeWhile fun c => !blank c).take width = word ∧
      (text.dropWhile blank).drop word.length = rest := by
  unfold scanWord
  simp only
  split
  · next empty =>
    rw [List.isEmpty_iff] at empty
    constructor
    · intro h
      cases h
    · rintro ⟨some, rfl, _⟩
      exact absurd empty some
  · next some =>
    rw [List.isEmpty_iff] at some
    constructor
    · intro h
      cases h
      exact ⟨some, rfl, rfl⟩
    · rintro ⟨_, rfl, rfl⟩
      rfl

theorem scanWord_append_isSome {width : Nat} {text word rest : List α} (more : List α)
    (h : scanWord blank width text = some (word, rest)) :
    ∃ word' rest', scanWord blank width (text ++ more) = some (word', rest') := by
  obtain ⟨some, taken, _⟩ := scanWord_eq_some.mp h
  refine ⟨_, _, scanWord_eq_some.mpr ⟨?_, rfl, rfl⟩⟩
  have trimmed : (text.dropWhile blank).isEmpty = false := by
    rw [← Bool.not_eq_true, List.isEmpty_iff]
    intro empty
    rw [empty] at taken
    exact some (by simpa using taken.symm)
  rw [List.dropWhile_append, trimmed]
  simp only [Bool.false_eq_true, if_false]
  rw [List.takeWhile_append]
  intro none
  rw [List.take_eq_nil_iff] at none
  apply some
  rw [← taken, List.take_eq_nil_iff]
  obtain zero | none := none
  · exact .inl zero
  · right
    split at none
    · rw [List.append_eq_nil_iff] at none
      rw [none.1]
      rfl
    · exact none

/-- A word that ends before the text does is the same in a longer text. -/
theorem scanWord_append {width : Nat} {text word rest : List α} (more : List α)
    (h : scanWord blank width text = some (word, rest)) (left : rest ≠ []) :
    scanWord blank width (text ++ more) = some (word, rest ++ more) := by
  obtain ⟨some, taken, rfl⟩ := scanWord_eq_some.mp h
  have shorter : word.length < (text.dropWhile blank).length := by
    by_contra long
    exact left (List.drop_eq_nil_of_le (Nat.not_lt.mp long))
  have trimmed : (text.dropWhile blank).isEmpty = false := by
    rw [← Bool.not_eq_true, List.isEmpty_iff]
    intro empty
    rw [empty] at shorter
    exact absurd shorter (Nat.not_lt_zero _)
  have longer : (text ++ more).dropWhile blank = text.dropWhile blank ++ more := by
    rw [List.dropWhile_append, trimmed]
    rfl
  refine scanWord_eq_some.mpr ⟨some, ?_, ?_⟩
  · rw [longer, List.takeWhile_append]
    split
    · next whole =>
      have all := (List.takeWhile_prefix (l := text.dropWhile blank)
        fun c => !blank c).eq_of_length whole
      rw [all] at taken
      have cut : width ≤ (text.dropWhile blank).length := by
        rw [← taken, List.length_take] at shorter
        omega
      rw [List.take_append_of_le_length cut, taken]
    · exact taken
  · rw [longer, List.drop_append_of_le_length (Nat.le_of_lt shorter)]

/-- The number of words only grows with the text. -/
theorem scanWords_length_mono (widths : List Nat) (text more : List α) :
    (scanWords blank widths text).length ≤ (scanWords blank widths (text ++ more)).length := by
  induction widths generalizing text with
  | nil => exact Nat.le_refl _
  | cons width widths ih =>
    rw [scanWords]
    cases h : scanWord blank width text with
    | none => exact Nat.zero_le _
    | some found =>
      obtain ⟨word, rest⟩ := found
      by_cases left : rest = []
      · obtain ⟨word', rest', h'⟩ := scanWord_append_isSome more h
        have nothing : scanWords blank widths rest = [] := by
          rw [left]
          cases widths <;> simp [scanWords, scanWord]
        rw [scanWords, h']
        simp [nothing]
      · rw [scanWords, scanWord_append more h left]
        exact Nat.succ_le_succ (ih rest)

def EndsBlank (blank : α → Bool) (text : List α) : Prop :=
  ∃ some : text ≠ [], blank (text.getLast some) = true

/-- After a word there is something left of a text that ends in a blank. -/
theorem EndsBlank.rest {width : Nat} {text word rest : List α} (ends : EndsBlank blank text)
    (h : scanWord blank width text = some (word, rest)) : EndsBlank blank rest := by
  obtain ⟨some, last⟩ := ends
  obtain ⟨filled, taken, rfl⟩ := scanWord_eq_some.mp h
  have trimmed : text.dropWhile blank ≠ [] := by
    intro empty
    rw [empty] at taken
    exact filled (by simpa using taken.symm)
  have suffix := List.dropWhile_suffix blank (l := text)
  have shorter : word.length < (text.dropWhile blank).length := by
    by_contra long
    have bound : word.length ≤ ((text.dropWhile blank).takeWhile fun c => !blank c).length := by
      rw [← taken, List.length_take]
      exact Nat.min_le_right _ _
    have whole := (List.takeWhile_prefix (l := text.dropWhile blank) fun c => !blank c)
    have all := List.takeWhile_eq_self_iff.mp (whole.eq_of_length
      (Nat.le_antisymm whole.length_le (by omega))) _ (List.getLast_mem trimmed)
    rw [suffix.getLast trimmed, last] at all
    cases all
  have left : (text.dropWhile blank).drop word.length ≠ [] := by
    intro empty
    rw [List.drop_eq_nil_iff] at empty
    omega
  refine ⟨left, ?_⟩
  rw [((List.drop_suffix _ _).trans suffix).getLast left]
  exact last

/-- Words that are complete before a blank stay what they are. -/
theorem EndsBlank.scanWords_append {widths : List Nat} {text : List α}
    (ends : EndsBlank blank text) (more : List α)
    (complete : (scanWords blank widths text).length = widths.length) :
    scanWords blank widths (text ++ more) = scanWords blank widths text := by
  induction widths generalizing text with
  | nil => rfl
  | cons width widths ih =>
    rw [scanWords] at complete ⊢
    cases h : scanWord blank width text with
    | none =>
      rw [h] at complete
      cases complete
    | some found =>
      obtain ⟨word, rest⟩ := found
      have after := ends.rest h
      rw [h] at complete
      rw [scanWord_append more h after.1]
      simp only [scanWords, h]
      rw [ih after (Nat.succ.inj complete)]

end Words

end VitaLinux.Base
