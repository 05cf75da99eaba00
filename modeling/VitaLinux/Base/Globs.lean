import VitaLinux.Base.Lines

/-!
# Patterns of pieces

The pattern `*piece*piece*` of a `case`: the pieces stand in a text in this order, and nothing
is shared between two of them. A list of words is searched with the pattern `*" word "*`.
-/

namespace VitaLinux.Base

variable {α : Type}

/-- The pieces stand in the text, one after the other. -/
inductive Spread : List (List α) → List α → Prop
  | nil (text : List α) : Spread [] text
  | cons (gap piece : List α) {pieces : List (List α)} {rest : List α}
      (others : Spread pieces rest) : Spread (piece :: pieces) (gap ++ (piece ++ rest))

theorem Spread.prepend {pieces : List (List α)} {text : List α} (h : Spread pieces text)
    (front : List α) : Spread pieces (front ++ text) := by
  cases h with
  | nil => exact .nil _
  | cons gap piece others =>
    rw [← List.append_assoc]
    exact .cons (front ++ gap) piece others

theorem spread_singleton {piece text : List α} : Spread [piece] text ↔ piece <:+: text := by
  constructor
  · rintro ⟨⟩
    exact ⟨_, _, List.append_assoc ..⟩
  · rintro ⟨gap, rest, rfl⟩
    rw [List.append_assoc]
    exact .cons gap piece (.nil rest)

section matching

variable [DecidableEq α]

/-- What is left of a text after the first occurrence of a piece. -/
def afterFirst (piece : List α) : List α → Option (List α)
  | [] => if piece = [] then some [] else none
  | c :: text =>
    if piece <+: c :: text then some ((c :: text).drop piece.length) else afterFirst piece text

/-- The text matches `*piece*piece*`. -/
def globMatches : List (List α) → List α → Bool
  | [], _ => true
  | piece :: pieces, text =>
    match afterFirst piece text with
    | none => false
    | some rest => globMatches pieces rest

theorem afterFirst_prefix {piece text : List α} (h : piece <+: text) :
    afterFirst piece text = some (text.drop piece.length) := by
  cases text with
  | nil => rw [afterFirst, if_pos (List.prefix_nil.mp h), List.drop_nil]
  | cons c text => rw [afterFirst, if_pos h]

theorem afterFirst_eq_some {piece text rest : List α} (h : afterFirst piece text = some rest) :
    ∃ gap, text = gap ++ (piece ++ rest) := by
  induction text with
  | nil =>
    rw [afterFirst] at h
    split at h
    · rename_i empty
      obtain rfl := Option.some.inj h
      exact ⟨[], by rw [empty]; rfl⟩
    · cases h
  | cons c text ih =>
    rw [afterFirst] at h
    split at h
    · rename_i starts
      obtain ⟨after, same⟩ := starts
      obtain rfl := Option.some.inj h
      rw [← same, List.drop_left]
      exact ⟨[], rfl⟩
    · obtain ⟨gap, rfl⟩ := ih h
      exact ⟨c :: gap, rfl⟩

/-- Where a piece stands, the first occurrence leaves at least as much. -/
theorem afterFirst_of_append (gap piece rest : List α) :
    ∃ front, afterFirst piece (gap ++ (piece ++ rest)) = some (front ++ rest) := by
  induction gap with
  | nil =>
    refine ⟨[], ?_⟩
    rw [List.nil_append, afterFirst_prefix (List.prefix_append ..), List.drop_left]
    rfl
  | cons c gap ih =>
    rw [List.cons_append, afterFirst]
    split
    · rename_i starts
      obtain ⟨after, same⟩ := starts
      rw [← same, List.drop_left]
      -- the first occurrence starts here, so it ends no later than the one that is known
      have whole : piece ++ after = (c :: gap ++ piece) ++ rest := by
        rw [same, List.append_assoc]
        rfl
      obtain ⟨front, shared⟩ : rest <:+ after := by
        refine List.suffix_of_suffix_length_le (whole ▸ List.suffix_append ..)
          (List.suffix_append piece after) ?_
        have lengths := congrArg List.length whole
        simp only [List.length_append, List.length_cons] at lengths
        omega
      exact ⟨front, congrArg some shared.symm⟩
    · exact ih

theorem globMatches_iff {pieces : List (List α)} {text : List α} :
    globMatches pieces text = true ↔ Spread pieces text := by
  induction pieces generalizing text with
  | nil => exact ⟨fun _ => .nil text, fun _ => rfl⟩
  | cons piece pieces ih =>
    rw [globMatches]
    constructor
    · intro h
      split at h
      · cases h
      · rename_i rest found
        obtain ⟨gap, rfl⟩ := afterFirst_eq_some found
        exact .cons gap piece (ih.mp h)
    · intro h
      cases h with
      | cons gap _ others =>
        obtain ⟨front, found⟩ := afterFirst_of_append gap piece _
        rw [found]
        exact ih.mpr (others.prepend front)

end matching

/-! ## Lists of words -/

/-- The words with the separator around each of them. -/
def spaced (separator : α) : List (List α) → List α
  | [] => [separator]
  | word :: others => separator :: (word ++ spaced separator others)

theorem spaced_eq (separator : α) (words : List (List α)) :
    ∃ rest, spaced separator words = separator :: rest := by
  cases words <;> exact ⟨_, rfl⟩

/-- Two pieces that end at the first separator are the same. -/
theorem eq_of_append_separator {separator : α} {first second rest other : List α}
    (whole : separator ∉ first) (whole' : separator ∉ second)
    (same : first ++ separator :: rest = second ++ separator :: other) : first = second := by
  induction first generalizing second with
  | nil =>
    cases second with
    | nil => rfl
    | cons c second =>
      obtain ⟨rfl, -⟩ := List.cons_eq_cons.mp same
      exact absurd List.mem_cons_self whole'
  | cons c first ih =>
    cases second with
    | nil =>
      obtain ⟨rfl, -⟩ := List.cons_eq_cons.mp same
      exact absurd List.mem_cons_self whole
    | cons d second =>
      obtain ⟨rfl, tails⟩ := List.cons_eq_cons.mp same
      rw [ih (List.not_mem_of_not_mem_cons whole) (List.not_mem_of_not_mem_cons whole') tails]

/-- A word with separators around it is found where it is one of the words. -/
theorem infix_spaced_iff {separator : α} {word : List α} (whole : separator ∉ word)
    {words : List (List α)} (wholes : ∀ other ∈ words, separator ∉ other) :
    separator :: (word ++ [separator]) <:+: spaced separator words ↔ word ∈ words := by
  induction words with
  | nil =>
    refine iff_of_false (fun found => ?_) List.not_mem_nil
    have length := found.length_le
    rw [spaced, List.length_cons, List.length_append, List.length_singleton] at length
    simp at length
  | cons first others ih =>
    obtain ⟨plain, wholes⟩ := List.forall_mem_cons.mp wholes
    obtain ⟨tail, starts⟩ := spaced_eq separator others
    rw [List.mem_cons, ← ih wholes, spaced]
    constructor
    · rintro ⟨before, after, same⟩
      cases before with
      | nil =>
        left
        rw [List.nil_append, List.cons_append, List.append_assoc, starts] at same
        exact eq_of_append_separator whole plain (List.cons_eq_cons.mp same).2
      | cons c before =>
        right
        rw [List.cons_append, List.cons_append] at same
        rw [List.append_assoc] at same
        obtain ⟨middle, inside, rest⟩ | ⟨middle, -, rest⟩ :=
          List.append_eq_append_iff.mp (List.cons_eq_cons.mp same).2
        · cases middle with
          | nil => exact ⟨[], after, rest⟩
          | cons d middle =>
            -- the separator before the word would be in the first one
            obtain ⟨rfl, -⟩ := List.cons_eq_cons.mp rest
            exact absurd (inside ▸ List.mem_append_right before List.mem_cons_self) plain
        · exact ⟨middle, after, (List.append_assoc ..).trans rest.symm⟩
    · rintro (rfl | ⟨before, after, same⟩)
      · exact ⟨[], tail, by rw [starts]; simp⟩
      · exact ⟨separator :: (first ++ before), after, by rw [← same]; simp⟩

end VitaLinux.Base
