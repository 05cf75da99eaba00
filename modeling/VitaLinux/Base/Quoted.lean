import Mathlib.Data.List.Infix
import Mathlib.Data.List.TakeWhile

/-!
# The last quoted value after a key

A line whose quotes cut it into pieces is searched for the last place where the key stands
before a quote and another quote follows. The key is found in a piece that ends with it,
whether that piece stands outside the quotes or between them.
-/

namespace VitaLinux.Base

variable {α : Type}

theorem not_mem_intercalate {c separator : α} (other : c ≠ separator) {pieces : List (List α)}
    (plain : ∀ piece ∈ pieces, c ∉ piece) : c ∉ [separator].intercalate pieces := by
  induction pieces with
  | nil => exact List.not_mem_nil
  | cons piece pieces ih =>
    obtain ⟨first, others⟩ := List.forall_mem_cons.mp plain
    match pieces with
    | [] => simpa using first
    | next :: rest =>
      rw [List.intercalate_cons_cons]
      simp [first, other, ih others]

theorem infix_intercalate (separator : List α) {piece : List α} {pieces : List (List α)}
    (member : piece ∈ pieces) : piece <:+: separator.intercalate pieces := by
  induction pieces with
  | nil => exact absurd member List.not_mem_nil
  | cons first pieces ih =>
    match pieces with
    | [] => simpa using List.mem_singleton.mp member ▸ List.infix_rfl
    | next :: rest =>
      rw [List.intercalate_cons_cons]
      obtain rfl | later := List.mem_cons.mp member
      · exact ((List.prefix_append _ _).trans (List.prefix_append _ _)).isInfix
      · exact (ih later).trans (List.suffix_append _ _).isInfix

variable [DecidableEq α]

/-- What the greedy `s/.*key"\([^"]*\)".*/\1/` takes from a line: the text up to the next
quote, after the last place where `key"` stands and a quote follows. -/
def lastQuoted (quote : α) (key : List α) : List α → Option (List α)
  | [] => none
  | c :: rest =>
    match lastQuoted quote key rest with
    | some value => some value
    | none =>
      let tail := (c :: rest).drop (key.length + 1)
      if key ++ [quote] <+: c :: rest ∧ quote ∈ tail then some (tail.takeWhile (· ≠ quote))
      else none

/-- The pieces of a line that stand after a piece ending with the key, and before a quote. -/
def quotedAfter (key : List α) : List (List α) → List (List α)
  | piece :: value :: rest =>
    (if key <:+ piece ∧ rest ≠ [] then [value] else []) ++ quotedAfter key (value :: rest)
  | _ => []

variable {quote : α} {key : List α}

theorem lastQuoted_none {piece : List α} (whole : quote ∉ piece) :
    lastQuoted quote key piece = none := by
  induction piece with
  | nil => rfl
  | cons c piece ih =>
    rw [lastQuoted, ih fun mem => whole (List.mem_cons_of_mem c mem)]
    refine if_neg ?_
    rintro ⟨⟨rest, same⟩, -⟩
    exact whole (same ▸ by simp)

theorem takeWhile_whole {piece tail : List α} (whole : quote ∉ piece) :
    (piece ++ quote :: tail).takeWhile (· ≠ quote) = piece := by
  have passes : ∀ c ∈ piece, decide (c ≠ quote) = true :=
    fun c mem => decide_eq_true fun same => whole (same ▸ mem)
  rw [List.takeWhile_append_of_pos passes, List.takeWhile_cons_of_neg (by simp),
    List.append_nil]

/-- The key and its quote stand at the start of a text exactly if the text up to its first
quote is the key. -/
theorem key_prefix_iff (plain : quote ∉ key) {piece tail : List α} (whole : quote ∉ piece) :
    key ++ [quote] <+: piece ++ quote :: tail ↔ key = piece := by
  constructor
  · rintro ⟨rest, same⟩
    rw [List.append_assoc, List.singleton_append] at same
    have first := congrArg (List.takeWhile (· ≠ quote)) same
    rwa [takeWhile_whole plain, takeWhile_whole whole] at first
  · rintro rfl
    exact ⟨tail, by simp⟩

/-- By induction on the piece: what a later place gives goes before what this piece gives. -/
theorem lastQuoted_piece (plain : quote ∉ key) (nonempty : key ≠ []) {piece tail : List α}
    (whole : quote ∉ piece) :
    lastQuoted quote key (piece ++ quote :: tail) = (lastQuoted quote key tail).or
      (if key <:+ piece ∧ quote ∈ tail then some (tail.takeWhile (· ≠ quote)) else none) := by
  induction piece with
  | nil =>
    have start : ¬key ++ [quote] <+: quote :: tail :=
      fun h => nonempty ((key_prefix_iff plain List.not_mem_nil).mp h)
    rw [List.nil_append, lastQuoted, if_neg fun h => start h.1,
      if_neg fun h => nonempty (List.suffix_nil.mp h.1)]
    cases lastQuoted quote key tail <;> rfl
  | cons c piece ih =>
    have inner := ih fun mem => whole (List.mem_cons_of_mem c mem)
    have start : key ++ [quote] <+: c :: (piece ++ quote :: tail) ↔ key = c :: piece :=
      key_prefix_iff plain whole
    rw [List.cons_append, lastQuoted, inner]
    cases lastQuoted quote key tail with
    | some value => rfl
    | none =>
      simp only [Option.none_or, start]
      by_cases later : key <:+ piece ∧ quote ∈ tail
      · have here : key <:+ c :: piece := List.suffix_cons_iff.mpr (.inr later.1)
        rw [if_pos later]
        exact (if_pos ⟨here, later.2⟩).symm
      · rw [if_neg later]
        by_cases same : key = c :: piece
        · subst same
          simp
        · have here : key <:+ c :: piece ↔ key <:+ piece := by
            simp [List.suffix_cons_iff, same]
          rw [if_neg fun h => same h.1]
          exact (if_neg fun h => later ⟨here.mp h.1, h.2⟩).symm

/-- The last value of a line is the last piece after a piece that ends with the key. -/
theorem lastQuoted_intercalate (plain : quote ∉ key) (nonempty : key ≠ [])
    {pieces : List (List α)} (whole : ∀ piece ∈ pieces, quote ∉ piece) :
    lastQuoted quote key ([quote].intercalate pieces) = (quotedAfter key pieces).getLast? := by
  induction pieces with
  | nil => rfl
  | cons piece pieces ih =>
    obtain ⟨first, others⟩ := List.forall_mem_cons.mp whole
    match pieces with
    | [] => simpa [quotedAfter] using lastQuoted_none first
    | value :: rest =>
      rw [List.intercalate_cons_cons, List.append_assoc, List.singleton_append,
        lastQuoted_piece plain nonempty first, ih others, quotedAfter, List.getLast?_append]
      congr 1
      have valueWhole := others value List.mem_cons_self
      match rest with
      | [] => simp [valueWhole]
      | next :: rest =>
        rw [List.intercalate_cons_cons, List.append_assoc, List.singleton_append,
          takeWhile_whole valueWhole]
        by_cases ends : key <:+ piece
        · simp [ends]
        · simp [ends]

/-- What is found stands between two cuts of the line. -/
theorem quotedAfter_subset (key : List α) (pieces : List (List α)) :
    quotedAfter key pieces ⊆ pieces := by
  induction pieces with
  | nil => exact List.Subset.refl []
  | cons piece pieces ih =>
    match pieces with
    | [] => exact List.nil_subset _
    | value :: rest =>
      rw [quotedAfter]
      refine List.append_subset.mpr ⟨?_, List.Subset.trans ih (List.subset_cons_self _ _)⟩
      split
      · simp
      · simp

/-- A piece is without the character at which the text is cut. -/
theorem not_mem_of_mem_splitOn {c : α} {text piece : List α} (member : piece ∈ text.splitOn c) :
    c ∉ piece := by
  induction text generalizing piece with
  | nil =>
    obtain rfl := List.mem_singleton.mp member
    exact List.not_mem_nil
  | cons first text ih =>
    rw [List.splitOn_cons_eq_if_modifyHead] at member
    split at member
    case isTrue cut =>
      obtain rfl | later := List.mem_cons.mp member
      · exact List.not_mem_nil
      · exact ih later
    case isFalse other =>
      obtain ⟨head, rest, split⟩ := List.exists_cons_of_ne_nil (List.splitOn_ne_nil c text)
      rw [split] at member ih
      obtain rfl | later := List.mem_cons.mp member
      · have whole : c ∉ head := ih List.mem_cons_self
        exact List.not_mem_cons_of_ne_of_not_mem (fun same => other (by simp [same])) whole
      · exact ih (List.mem_cons_of_mem _ later)

end VitaLinux.Base
