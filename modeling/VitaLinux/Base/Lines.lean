import Mathlib.Data.List.DropRight

/-!
# Texts, lines and words

A text file is read line by line, whether or not its last line ends in a newline, and the
output of a command is used without its trailing newlines.
-/

namespace VitaLinux.Base

abbrev Text := List Char

/-- The lines of a text. -/
def lines : Text → List Text
  | [] => []
  | c :: rest =>
    if c = '\n' then [] :: lines rest
    else
      match lines rest with
      | [] => [[c]]
      | line :: others => (c :: line) :: others

/-- The lines that end in a newline, as a loop over `read` goes through them. -/
def readLines (text : Text) : List Text := (text.splitOn '\n').dropLast

/-- What comes after the last newline. -/
def incompleteLine (text : Text) : Text := (text.splitOn '\n').getLastD []

/-- The text with these lines. -/
def unlines (ls : List Text) : Text := ls.flatMap (· ++ ['\n'])

/-- A text without its trailing newlines. -/
def chomp (text : Text) : Text := text.rdropWhile (· = '\n')

/-- `${path##*/}` -/
def basename (path : Text) : Text := path.rtakeWhile (· ≠ '/')

/-- The maximal pieces of a text without blanks. -/
def words (text : Text) : List Text :=
  (text.splitOnP fun c => c = ' ' ∨ c = '\t' ∨ c = '\n').filter (· ≠ [])

theorem lines_line {line : Text} (whole : '\n' ∉ line) (rest : Text) :
    lines (line ++ '\n' :: rest) = line :: lines rest := by
  induction line with
  | nil => rfl
  | cons c line ih =>
    have different : c ≠ '\n' := (List.ne_of_not_mem_cons whole).symm
    rw [List.cons_append, lines, if_neg different, ih (List.not_mem_of_not_mem_cons whole)]

theorem not_mem_of_mem_lines {text line : Text} (member : line ∈ lines text) : '\n' ∉ line := by
  induction text generalizing line with
  | nil => exact absurd member List.not_mem_nil
  | cons c rest ih =>
    rw [lines] at member
    split at member
    case isTrue newline =>
      obtain rfl | later := List.mem_cons.mp member
      · exact List.not_mem_nil
      · exact ih later
    case isFalse other =>
      split at member
      case h_1 empty =>
        obtain rfl := List.mem_singleton.mp member
        exact fun newline => other (List.mem_singleton.mp newline).symm
      case h_2 first others found =>
        obtain rfl | later := List.mem_cons.mp member
        · have whole : '\n' ∉ first := ih (found ▸ List.mem_cons_self)
          exact List.not_mem_cons_of_ne_of_not_mem (Ne.symm other) whole
        · exact ih (found ▸ List.mem_cons_of_mem _ later)

/-- Lines are read back as they were written. -/
theorem lines_unlines {ls : List Text} (whole : ∀ line ∈ ls, '\n' ∉ line) :
    lines (unlines ls) = ls := by
  induction ls with
  | nil => rfl
  | cons line ls ih =>
    obtain ⟨first, others⟩ := List.forall_mem_cons.mp whole
    rw [unlines, List.flatMap_cons, List.append_assoc, List.singleton_append, lines_line first]
    exact congrArg (line :: ·) (ih others)

theorem lines_whole {line : Text} (whole : '\n' ∉ line) (nonempty : line ≠ []) :
    lines line = [line] := by
  induction line with
  | nil => exact absurd rfl nonempty
  | cons c line ih =>
    have different : c ≠ '\n' := (List.ne_of_not_mem_cons whole).symm
    rw [lines, if_neg different]
    by_cases last : line = []
    · rw [last, lines]
    · rw [ih (List.not_mem_of_not_mem_cons whole) last]

/-- A text is without the mark, or has a first one. -/
theorem cut_induction {P : Text → Prop} (mark : Char) (whole : ∀ text, mark ∉ text → P text)
    (cut : ∀ first rest, mark ∉ first → P rest → P (first ++ mark :: rest)) (text : Text) :
    P text := by
  induction hn : text.length using Nat.strongRecOn generalizing text with
  | ind n ih =>
    by_cases found : mark ∈ text
    · obtain ⟨first, rest, rfl, plain⟩ := List.eq_append_cons_of_mem found
      refine cut first rest plain (ih rest.length ?_ rest rfl)
      rw [List.length_append, List.length_cons] at hn
      omega
    · exact whole text found

/-- The lines of a text that goes on behind a newline. -/
theorem lines_append (text rest : Text) : ∃ more : List Text, (∀ line ∈ more, line = []) ∧
    lines (text ++ '\n' :: rest) = lines text ++ (more ++ lines rest) := by
  induction text using cut_induction '\n' with
  | whole text whole =>
    rw [lines_line whole]
    by_cases empty : text = []
    · exact ⟨[[]], fun line => List.eq_of_mem_singleton, by rw [empty]; rfl⟩
    · refine ⟨[], fun line member => absurd member List.not_mem_nil, ?_⟩
      rw [lines_whole whole empty]
      rfl
  | cut line others whole ih =>
    obtain ⟨more, empty, split⟩ := ih
    refine ⟨more, empty, ?_⟩
    rw [List.append_assoc, List.cons_append, lines_line whole, lines_line whole, split]
    rfl

theorem splitOn_line {line : Text} (whole : '\n' ∉ line) (rest : Text) :
    (line ++ '\n' :: rest).splitOn '\n' = line :: rest.splitOn '\n' := by
  rw [List.splitOn_append_cons_self, List.splitOn_eq_singleton whole]
  rfl

/-- The lines are those that are read, and an incomplete one that is not empty. -/
theorem lines_eq (text : Text) :
    lines text = readLines text ++ if incompleteLine text = [] then [] else [incompleteLine text] := by
  induction text using cut_induction '\n' with
  | whole text whole =>
    rw [readLines, incompleteLine, List.splitOn_eq_singleton whole]
    by_cases empty : text = []
    · rw [empty]
      rfl
    · simp [lines_whole whole empty, empty]
  | cut line rest whole ih =>
    obtain ⟨piece, others, split⟩ := List.exists_cons_of_ne_nil (List.splitOn_ne_nil '\n' rest)
    have read : readLines (line ++ '\n' :: rest) = line :: readLines rest := by
      rw [readLines, splitOn_line whole, List.dropLast_cons_of_ne_nil (List.splitOn_ne_nil _ _)]
      rfl
    have left : incompleteLine (line ++ '\n' :: rest) = incompleteLine rest := by
      rw [incompleteLine, splitOn_line whole, incompleteLine, split]
      rfl
    rw [lines_line whole, ih, read, left]
    rfl

theorem chomp_of_not_mem {text : Text} (whole : '\n' ∉ text) : chomp text = text := by
  rw [chomp, List.rdropWhile_eq_self_iff]
  intro nonempty ends
  exact whole (of_decide_eq_true ends ▸ List.getLast_mem nonempty)

/-- A line that a command has printed. -/
theorem chomp_unlines_singleton {line : Text} (whole : '\n' ∉ line) :
    chomp (unlines [line]) = line := by
  have printed : unlines [line] = line ++ ['\n'] := by simp [unlines]
  rw [printed, chomp, List.rdropWhile_concat_pos _ _ _ (by simp)]
  exact chomp_of_not_mem whole

end VitaLinux.Base
