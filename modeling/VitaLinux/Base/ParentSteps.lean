import Mathlib.Data.List.Induction
import VitaLinux.Base.LexicalPaths

/-!
# Parent directory components

Where an absolute path with `..` components leads, and when a path that begins with a root
leads into that root (`strictlyInside_iff`). A name and the `..` after it cancel; what is left
of a list of components is a number of steps up and the names that follow them.
-/

namespace VitaLinux.Base

def parent : Text := ['.', '.']

/-- One component from the directory with these names; the root is its own parent. -/
def enter (names : List Text) (c : Text) : List Text :=
  if c = parent then names.dropLast else names ++ [c]

/-- The names of the place that an absolute path leads to. -/
def resolved (path : Text) : List Text := (components path).foldl enter []

/-- An absolute path leads to a place below the root. -/
def StrictlyInside (root path : Text) : Prop :=
  isAbsolute path = true ∧ ∃ more, more ≠ [] ∧ resolved path = resolved root ++ more

/-- What is left of some components: steps up, and then names. -/
structure Climb where
  up : Nat
  names : List Text
  deriving DecidableEq, Repr

/-- A `..` takes the last name away, or is a step up. -/
def Climb.enter (r : Climb) (c : Text) : Climb :=
  if c = parent then
    if r.names = [] then { r with up := r.up + 1 } else { r with names := r.names.dropLast }
  else { r with names := r.names ++ [c] }

def climb (cs : List Text) : Climb := cs.foldl Climb.enter ⟨0, []⟩

/-- Where a climb leads from the directory with these names. -/
def Climb.from (r : Climb) (names : List Text) : List Text :=
  names.take (names.length - r.up) ++ r.names

/-- From a directory with these names: the names that the steps up have left are named again,
and another one after them. -/
def Climb.Returns (r : Climb) (names : List Text) : Prop :=
  ∃ more, more ≠ [] ∧ r.names = names.drop (names.length - r.up) ++ more

theorem Climb.from_enter (r : Climb) (names : List Text) (c : Text) :
    (r.enter c).from names = Base.enter (r.from names) c := by
  unfold Climb.enter Base.enter Climb.from
  by_cases up : c = parent
  · by_cases none : r.names = []
    · have above : names.take (names.length - (r.up + 1)) =
          (names.take (names.length - r.up)).dropLast := by
        rw [List.dropLast_eq_take, List.take_take, List.length_take]
        congr 1
        omega
      simp [up, none, above]
    · simp [up, none, List.dropLast_append_of_ne_nil]
  · simp [up]

/-- Components are followed as what is left of them is. -/
theorem foldl_enter (names cs : List Text) : cs.foldl enter names = (climb cs).from names := by
  induction cs using List.reverseRecOn with
  | nil => simp [climb, Climb.from]
  | append_singleton cs c ih =>
    have step : climb (cs ++ [c]) = (climb cs).enter c := List.foldl_append
    rw [List.foldl_append, ih, step, Climb.from_enter]
    rfl

theorem take_append_eq_iff {α : Type} (k : Nat) (l rest more : List α) :
    l.take k ++ rest = l ++ more ↔ rest = l.drop k ++ more := by
  have whole : l ++ more = l.take k ++ (l.drop k ++ more) := by
    rw [← List.append_assoc, List.take_append_drop]
  rw [whole, List.append_cancel_left_eq]

/-- A path behind a root leads into the root exactly when it names its way back. -/
theorem strictlyInside_iff {root : Text} (absolute : isAbsolute root = true) (behind : Text) :
    StrictlyInside root (root ++ '/' :: behind) ↔
      (climb (components behind)).Returns (resolved root) := by
  have starts : isAbsolute (root ++ '/' :: behind) = true := by
    rw [isAbsolute, beq_iff_eq] at absolute ⊢
    rw [List.head?_append, absolute, Option.some_or]
  have leads : resolved (root ++ '/' :: behind) =
      (climb (components behind)).from (resolved root) := by
    rw [resolved, components_slash, List.foldl_append, foldl_enter, resolved]
  simp only [StrictlyInside, starts, leads, Climb.Returns, Climb.from, take_append_eq_iff,
    true_and]

/-- A single name stays inside. -/
theorem returns_singleton {c : Text} (other : c ≠ parent) (names : List Text) :
    (climb [c]).Returns names := by
  refine ⟨[c], List.cons_ne_nil _ _, ?_⟩
  simp [climb, Climb.enter, other]

end VitaLinux.Base
