import VitaLinux.Cart.FlashCheck.Analysis
import Mathlib.Data.List.Infix
import Mathlib.Tactic.NormNum

/-!
# What the exit status of the flash checker says

The status comes from one region, which `max` picks by its severity. The most severe
region has a rate violation whenever any region has one, and a flash pair whenever any
region has one (`le_worst`), so looking at one region loses nothing.
-/

namespace VitaLinux.Cart.FlashCheck

/-- A change of luminance by at least 0.10 whose darker side is below 0.80. -/
def Flash (first second : ℚ) : Prop := 1 / 10 ≤ |second - first| ∧ min first second < 4 / 5

instance (first second : ℚ) : Decidable (Flash first second) := inferInstanceAs (Decidable (_ ∧ _))

/-- More than three flashes among some `w` consecutive pairs, or among all of fewer. -/
def Exceeds (w : Nat) (series : List ℚ) : Prop :=
  ∃ pairs, pairs <:+: adjacent series ∧ pairs.length = min w (adjacent series).length ∧
    3 < pairs.countP fun p => Flash p.1 p.2

/-- Some adjacent pair is a flash. -/
def Flashes (series : List ℚ) : Prop := ∃ p ∈ adjacent series, Flash p.1 p.2

theorem isFlashPair_iff (first second : ℚ) :
    isFlashPair first second = true ↔ Flash first second := by
  have size : absolute (second - first) = |second - first| := by
    unfold absolute
    split
    · next negative => exact (abs_of_neg negative).symm
    · next positive => exact (abs_of_nonneg (not_lt.mp positive)).symm
  have darker : minimum first second = min first second := by
    unfold minimum
    split
    · next below => exact (min_eq_right below.le).symm
    · next above => exact (min_eq_left (not_lt.mp above)).symm
  unfold isFlashPair Flash
  rw [size, darker, Bool.and_eq_true, decide_eq_true_eq, decide_eq_true_eq]
  unfold FLASH_DELTA DARK_LIMIT
  norm_num

/-- The rate of a window is the number of flashes among its pairs. -/
theorem rateAt_flags (series : List ℚ) (w start : Nat) :
    rateAt (flags series) w start =
      (((adjacent series).drop start).take w).countP fun p => Flash p.1 p.2 := by
  unfold rateAt flags
  rw [← List.map_drop, ← List.map_take, List.count_eq_countP, List.countP_map]
  apply List.countP_congr
  intro p _
  simp [isFlashPair_iff]

/-- The windows that start at some place of a list are the pieces of their length. -/
theorem windows {α : Type} (list piece : List α) {w : Nat} (positive : 0 < w) :
    (∃ start < max 1 (list.length + 1 - w), piece = (list.drop start).take w) ↔
      piece <:+: list ∧ piece.length = min w list.length := by
  constructor
  · rintro ⟨start, early, rfl⟩
    refine ⟨(List.take_prefix _ _).isInfix.trans (List.drop_suffix _ _).isInfix, ?_⟩
    rw [List.length_take, List.length_drop]
    omega
  · rintro ⟨⟨before, after, rfl⟩, length⟩
    simp only [List.length_append] at length ⊢
    refine ⟨before.length, by omega, ?_⟩
    rw [List.append_assoc, List.drop_left]
    by_cases short : before.length + piece.length + after.length < w
    · have all : after = [] := List.length_eq_zero_iff.mp (by omega)
      rw [all, List.append_nil, List.take_of_length_le (by omega)]
    · rw [List.take_append_of_le_length (by omega), List.take_of_length_le (by omega)]

/-- Some window is above the limit when some piece of the series is. -/
theorem rate_exceeded_iff (series : List ℚ) (fps : ℚ) (label : String) :
    (analyse series fps label).rate_exceeded = true ↔ Exceeds (window fps) series := by
  have positive : 0 < window fps := by
    unfold window
    omega
  have lengths : (flags series).length = (adjacent series).length := by
    unfold flags
    rw [List.length_map]
  unfold analyse Exceeds FLASHES_PER_SECOND
  simp only
  rw [decide_eq_true_eq, lt_worstRate, lengths]
  constructor
  · rintro ⟨start, early, many⟩
    have piece := (windows (adjacent series) _ positive).mp ⟨start, early, rfl⟩
    rw [rateAt_flags] at many
    exact ⟨_, piece.1, piece.2, many⟩
  · rintro ⟨pairs, infixed, length, many⟩
    obtain ⟨start, early, rfl⟩ := (windows (adjacent series) pairs positive).mpr ⟨infixed, length⟩
    exact ⟨start, early, by rwa [rateAt_flags]⟩

theorem Exceeds.flashes {w : Nat} {series : List ℚ} (h : Exceeds w series) : Flashes series := by
  obtain ⟨pairs, infixed, -, many⟩ := h
  obtain ⟨p, member, flash⟩ := List.countP_pos_iff.mp (Nat.zero_lt_of_lt many)
  exact ⟨p, infixed.subset member, of_decide_eq_true flash⟩

theorem flash_pairs_iff (series : List ℚ) (fps : ℚ) (label : String) :
    (analyse series fps label).flash_pairs ≠ 0 ↔ Flashes series := by
  change (flags series).count true ≠ 0 ↔ _
  rw [ne_eq, count_flags_eq_zero]
  unfold Clean Flashes
  push Not
  simp only [← isFlashPair_iff, ne_eq, Bool.not_eq_false]

section verdict

variable {F : Type} [LT F] [DecidableLT F]

/-- The worst region has a violation when any region has. -/
theorem worst_rate_exceeded_iff (first : Region F) (rest : List (Region F)) :
    (worst first rest).rate_exceeded = true ↔ ∃ r ∈ first :: rest, r.rate_exceeded = true := by
  constructor
  · exact fun exceeded => ⟨_, worst_mem first rest, exceeded⟩
  · rintro ⟨r, member, exceeded⟩
    have bound := le_worst first rest r member
    unfold Region.severity at bound
    rw [Prod.Lex.toLex_le_toLex, exceeded] at bound
    cases h : (worst first rest).rate_exceeded with
    | true => rfl
    | false => exact absurd bound (by simp [h])

/-- The worst region has a flash pair when any region has, if none has a violation. -/
theorem worst_flash_pairs_iff (first : Region F) (rest : List (Region F))
    (slow : (worst first rest).rate_exceeded = false) :
    (worst first rest).flash_pairs ≠ 0 ↔ ∃ r ∈ first :: rest, r.flash_pairs ≠ 0 := by
  constructor
  · exact fun some => ⟨_, worst_mem first rest, some⟩
  · rintro ⟨r, member, some⟩
    have bound := le_worst first rest r member
    unfold Region.severity at bound
    rw [Prod.Lex.toLex_le_toLex, slow] at bound
    simp only at bound
    obtain less | ⟨_, pairs⟩ := bound
    · exact absurd less (by simp)
    · omega

end verdict

/-- The exit status for regions with these names and series. -/
def regionsStatus (fps : ℚ) (first : String × List ℚ) (rest : List (String × List ℚ)) : Nat :=
  verdict (worst (analyse first.2 fps first.1)
    (rest.map fun region => analyse region.2 fps region.1))

/-- The status is 2 for a rate violation anywhere, 1 for a flash anywhere but no violation,
and 0 without any flash. -/
theorem status_iff (fps : ℚ) (first : String × List ℚ) (rest : List (String × List ℚ)) :
    (regionsStatus fps first rest = 2 ↔
        ∃ region ∈ first :: rest, Exceeds (window fps) region.2) ∧
      (regionsStatus fps first rest = 1 ↔
        (¬ ∃ region ∈ first :: rest, Exceeds (window fps) region.2) ∧
          ∃ region ∈ first :: rest, Flashes region.2) ∧
      (regionsStatus fps first rest = 0 ↔ ¬ ∃ region ∈ first :: rest, Flashes region.2) := by
  let analysed := fun region : String × List ℚ => analyse region.2 fps region.1
  have violation : (worst (analysed first) (rest.map analysed)).rate_exceeded = true ↔
      ∃ region ∈ first :: rest, Exceeds (window fps) region.2 := by
    rw [worst_rate_exceeded_iff, ← List.map_cons]
    simp only [List.mem_map, exists_exists_and_eq_and, analysed, rate_exceeded_iff]
  have flashes : (∃ r ∈ analysed first :: rest.map analysed, r.flash_pairs ≠ 0) ↔
      ∃ region ∈ first :: rest, Flashes region.2 := by
    rw [← List.map_cons]
    simp only [List.mem_map, exists_exists_and_eq_and, analysed, flash_pairs_iff]
  have either : (∃ region ∈ first :: rest, Exceeds (window fps) region.2) →
      ∃ region ∈ first :: rest, Flashes region.2 := by
    rintro ⟨region, member, exceeds⟩
    exact ⟨region, member, exceeds.flashes⟩
  have pairs := worst_flash_pairs_iff (analysed first) (rest.map analysed)
  rw [flashes] at pairs
  rw [← violation] at either ⊢
  generalize (∃ region ∈ first :: rest, Flashes region.2) = anywhere at pairs either ⊢
  have status : regionsStatus fps first rest =
      verdict (worst (analysed first) (rest.map analysed)) := rfl
  rw [status]
  unfold verdict
  cases exceeded : (worst (analysed first) (rest.map analysed)).rate_exceeded with
  | true => simp [either exceeded]
  | false =>
    rw [← pairs exceeded]
    by_cases none : (worst (analysed first) (rest.map analysed)).flash_pairs = 0
    · simp [none]
    · simp [none]

end VitaLinux.Cart.FlashCheck
