import Mathlib.Algebra.Order.Field.Rat
import Mathlib.Data.Prod.Lex
import Mathlib.Data.Rat.Floor

/-!
# The flash analysis of `capture-flash-check.py`

A luminance series is searched for flash pairs, and the verdict is that of the worst
region. The numbers are any type with the arithmetic that the checker uses: Python's
floats with their rounding, or the rationals.
-/

namespace VitaLinux.Cart.FlashCheck

/-- `int(round(x))` -/
class Rounds (F : Type) where
  round : F → Int

/-- To the nearest integer, and to the even one of two. -/
instance : Rounds ℚ where
  round x :=
    let low := ⌊x⌋
    let above := x - low
    if above < 1 / 2 ∨ above = 1 / 2 ∧ low % 2 = 0 then low else low + 1

def FLASHES_PER_SECOND : Nat := 3

/-- What is reported of one region of the picture. -/
structure Region (F : Type) where
  label : String
  frames : Nat
  flash_pairs : Nat
  worst_delta : F
  worst_delta_frame : Int
  worst_rate_per_second : Nat
  worst_rate_at_frame : Int
  rate_exceeded : Bool
  flash_frames : List Nat

section rates

/-- The flags of the window from `start` on. -/
def rateAt (flags : List Bool) (window start : Nat) : Nat :=
  ((flags.drop start).take window).count true

def worseRate (flags : List Bool) (window : Nat) (worst : Nat × Int) (start : Nat) : Nat × Int :=
  let count := rateAt flags window start
  if worst.1 < count then (count, start) else worst

/-- The largest number of flags in a window, and where it starts. -/
def worstRate (flags : List Bool) (window : Nat) : Nat × Int :=
  (List.range (max 1 (flags.length + 1 - window))).foldl (worseRate flags window) (0, -1)

theorem rateAt_le (flags : List Bool) (window start : Nat) :
    rateAt flags window start ≤ flags.count true :=
  ((List.take_sublist _ _).trans (List.drop_sublist _ _)).count_le true

/-- The worst rate exceeds what the rate of some window exceeds. -/
theorem lt_worstRate {flags : List Bool} {window n : Nat} :
    n < (worstRate flags window).1 ↔
      ∃ start < max 1 (flags.length + 1 - window), n < rateAt flags window start := by
  have steps : ∀ (starts : List Nat) (worst : Nat × Int),
      n < (starts.foldl (worseRate flags window) worst).1 ↔
        n < worst.1 ∨ ∃ start ∈ starts, n < rateAt flags window start := by
    intro starts
    induction starts with
    | nil => simp
    | cons start starts ih =>
      intro worst
      rw [List.foldl_cons, ih, List.exists_mem_cons_iff, ← or_assoc]
      apply or_congr_left
      unfold worseRate
      simp only
      split
      · omega
      · omega
  unfold worstRate
  rw [steps]
  simp

end rates

section regions

variable {F : Type}

/-- The exit status of the verdict. -/
def verdict (worst : Region F) : Nat :=
  if worst.rate_exceeded then 2 else if worst.flash_pairs ≠ 0 then 1 else 0

/-- What decides between regions before their deltas do. -/
def Region.severity (r : Region F) : Bool ×ₗ Nat := toLex (r.rate_exceeded, r.flash_pairs)

theorem verdict_eq_zero_iff_severity (r : Region F) :
    verdict r = 0 ↔ r.severity = toLex (false, 0) := by
  unfold verdict Region.severity
  cases r.rate_exceeded <;> simp

variable [LT F] [DecidableLT F]

/-- Whether the key of the first region is greater than that of the second. -/
def Region.above (r s : Region F) : Bool :=
  if r.rate_exceeded ≠ s.rate_exceeded then r.rate_exceeded
  else if r.flash_pairs ≠ s.flash_pairs then decide (s.flash_pairs < r.flash_pairs)
  else decide (s.worst_delta < r.worst_delta)

def worse (r s : Region F) : Region F := if s.above r then s else r

/-- `max` over the regions. -/
def worst (first : Region F) (rest : List (Region F)) : Region F := rest.foldl worse first

/-- The region that `max` keeps is as severe as both. -/
theorem severity_worse (r s : Region F) :
    r.severity ≤ (worse r s).severity ∧ s.severity ≤ (worse r s).severity := by
  have strict : false < true := by decide
  have above : s.above r = true → r.severity ≤ s.severity := by
    unfold Region.above Region.severity
    rw [Prod.Lex.toLex_le_toLex]
    cases r.rate_exceeded <;> cases s.rate_exceeded <;> grind
  have below : s.above r = false → s.severity ≤ r.severity := by
    unfold Region.above Region.severity
    rw [Prod.Lex.toLex_le_toLex]
    cases r.rate_exceeded <;> cases s.rate_exceeded <;> grind
  unfold worse
  split
  · next yes => exact ⟨above yes, le_refl _⟩
  · next no => exact ⟨le_refl _, below (Bool.eq_false_iff.mpr no)⟩

theorem le_worst (first : Region F) (rest : List (Region F)) :
    ∀ r ∈ first :: rest, r.severity ≤ (worst first rest).severity := by
  unfold worst
  induction rest generalizing first with
  | nil => simp
  | cons next rest ih =>
    intro r member
    have later := ih (worse first next)
    have kept := later _ List.mem_cons_self
    obtain ⟨old, new⟩ := severity_worse first next
    obtain rfl | rfl | other := List.mem_cons.mp member |>.imp_right List.mem_cons.mp
    · exact old.trans kept
    · exact new.trans kept
    · exact later r (List.mem_cons_of_mem _ other)

theorem worst_mem (first : Region F) (rest : List (Region F)) :
    worst first rest ∈ first :: rest := by
  unfold worst
  induction rest generalizing first with
  | nil => exact List.mem_singleton_self first
  | cons next rest ih =>
    have kept : worse first next = first ∨ worse first next = next := by
      unfold worse
      split
      · exact Or.inr rfl
      · exact Or.inl rfl
    obtain same | later := List.mem_cons.mp (ih (worse first next))
    · rw [List.foldl_cons, same]
      obtain old | new := kept
      · rw [old]
        exact List.mem_cons_self
      · rw [new]
        exact List.mem_cons_of_mem _ List.mem_cons_self
    · exact List.mem_cons_of_mem _ (List.mem_cons_of_mem _ later)

/-- The verdict is a pass when no region has a flash pair. -/
theorem verdict_eq_zero_iff (first : Region F) (rest : List (Region F)) :
    verdict (worst first rest) = 0 ↔ ∀ r ∈ first :: rest, r.severity = toLex (false, 0) := by
  rw [verdict_eq_zero_iff_severity]
  constructor
  · intro clean r member
    have bound := le_worst first rest r member
    rw [clean] at bound
    have least : toLex (false, 0) ≤ r.severity := by
      unfold Region.severity
      rw [Prod.Lex.toLex_le_toLex]
      cases r.rate_exceeded <;> simp
    exact le_antisymm bound least
  · intro clean
    exact clean _ (worst_mem first rest)

end regions

section analysis

variable {F : Type} [Zero F] [Sub F] [Neg F] [OfScientific F] [LT F] [LE F] [DecidableLT F]
  [DecidableLE F]

def FLASH_DELTA : F := 0.10

def DARK_LIMIT : F := 0.80

/-- `abs(x)` -/
def absolute (x : F) : F := if x < 0 then -x else x

/-- `min(first, second)` -/
def minimum (first second : F) : F := if second < first then second else first

def isFlashPair (first second : F) : Bool :=
  decide (FLASH_DELTA ≤ absolute (second - first)) && decide (minimum first second < DARK_LIMIT)

/-- The adjacent pairs of a series. -/
def adjacent {α : Type} (series : List α) : List (α × α) := series.zip series.tail

def flags (series : List F) : List Bool := (adjacent series).map fun p => isFlashPair p.1 p.2

/-- The largest delta, and the frame after it. -/
def worstDelta (series : List F) : F × Int :=
  (adjacent series).zipIdx.foldl (fun worst p =>
    let delta := absolute (p.1.2 - p.1.1)
    if worst.1 < delta then (delta, p.2 + 1) else worst) (0, -1)

def window [Rounds F] (fps : F) : Nat := (max 1 (Rounds.round fps)).toNat

def analyse [Rounds F] (series : List F) (fps : F) (label : String) : Region F :=
  let flags := flags series
  let delta := worstDelta series
  let rate := worstRate flags (window fps)
  { label
    frames := series.length
    flash_pairs := flags.count true
    worst_delta := delta.1
    worst_delta_frame := delta.2
    worst_rate_per_second := rate.1
    worst_rate_at_frame := rate.2
    rate_exceeded := decide (FLASHES_PER_SECOND < rate.1)
    flash_frames := (((List.range flags.length).filter fun i => flags[i]? = some true).map
      (· + 1)).take 50 }

/-- No two adjacent frames are a flash pair. -/
def Clean (series : List F) : Prop := ∀ p ∈ adjacent series, isFlashPair p.1 p.2 = false

theorem count_flags_eq_zero {series : List F} : (flags series).count true = 0 ↔ Clean series := by
  unfold flags Clean
  rw [List.count_eq_zero, List.mem_map]
  push Not
  simp

/-- Without flash pairs there is no rate to exceed either. -/
theorem analyse_clean_iff [Rounds F] (series : List F) (fps : F) (label : String) :
    (analyse series fps label).severity = toLex (false, 0) ↔ Clean series := by
  unfold Region.severity analyse
  simp only [EmbeddingLike.apply_eq_iff_eq, Prod.mk.injEq, decide_eq_false_iff_not]
  rw [count_flags_eq_zero]
  constructor
  · exact fun h => h.2
  · intro clean
    refine ⟨?_, clean⟩
    rw [lt_worstRate]
    rintro ⟨start, _, exceeds⟩
    have none := count_flags_eq_zero.mpr clean
    have bound := rateAt_le (flags series) (window fps) start
    omega

end analysis

end VitaLinux.Cart.FlashCheck
