import Mathlib.Algebra.Group.Nat.Defs
import VitaLinux.Cart.ScenePolicy

/-!
# Stepping forwards and backwards

A request for the next scene adds one to an index below the scene count, which never wraps.
A request for the previous scene adds the scene count before it subtracts one, and that sum
wraps where the index and the count do not fit `size_t` together.
-/

namespace VitaLinux.Cart.CartRuntime

variable {abi : Abi}

/-- The requests rotate through the scenes, and each undoes the other. -/
structure Rotates (r : CartRuntime abi) : Prop where
  selected : r.sceneIndex < r.sceneCount
  held : r.manualHoldActive = true → r.manualSceneIndex < r.sceneCount
  next : r.minChangeNs = 0 → ∀ nowNs holdNs,
    ((r.requestNext nowNs holdNs).sceneIndex.toNat : Int) =
      (r.sceneIndex.toNat + 1) % r.sceneCount.toNat
  previous : r.minChangeNs = 0 → ∀ nowNs holdNs,
    ((r.requestPrevious nowNs holdNs).sceneIndex.toNat : Int) =
      (r.sceneIndex.toNat - 1) % r.sceneCount.toNat
  nextPrevious : r.minChangeNs = 0 → ∀ nowNs holdNs laterNs laterHoldNs,
    ((r.requestNext nowNs holdNs).requestPrevious laterNs laterHoldNs).sceneIndex = r.sceneIndex
  previousNext : r.minChangeNs = 0 → ∀ nowNs holdNs laterNs laterHoldNs,
    ((r.requestPrevious nowNs holdNs).requestNext laterNs laterHoldNs).sceneIndex = r.sceneIndex

/-- The index and the count fit `size_t` together. -/
def Spacious (r : CartRuntime abi) : Prop :=
  r.sceneIndex.toNat + r.sceneCount.toNat < 2 ^ abi.sizeBits

theorem toNat_one : (1 : SizeT abi).toNat = 1 := abi.toNat_ofNat (by decide)

theorem Sound.index_lt {r : CartRuntime abi} (h : r.Sound) :
    r.sceneIndex.toNat < r.sceneCount.toNat := h.selected

section Steps

variable {r : CartRuntime abi} (h : r.Sound) (unlimited : r.minChangeNs = 0)
include h unlimited

theorem requestNext_index (nowNs holdNs : U64) :
    (r.requestNext nowNs holdNs).sceneIndex.toNat =
      if r.sceneIndex.toNat + 1 = r.sceneCount.toNat then 0 else r.sceneIndex.toNat + 1 := by
  have allowed : ¬ (!r.changeAllowed nowNs) = true := by simp [changeAllowed, unlimited]
  have below := h.index_lt
  have sum : (r.sceneIndex + 1).toNat = r.sceneIndex.toNat + 1 := by
    rw [BitVec.toNat_add, toNat_one]
    exact Nat.mod_eq_of_lt (Nat.lt_of_le_of_lt below r.sceneCount.isLt)
  rw [requestNext, if_neg h.nonempty, if_neg allowed, selectManual_scene, BitVec.toNat_umod, sum]
  split
  · next last => rw [last, Nat.mod_self]
  · exact Nat.mod_eq_of_lt (by omega)

/-- The sum of the index and the count has wrapped in the last case. -/
theorem requestPrevious_index (nowNs holdNs : U64) :
    (r.requestPrevious nowNs holdNs).sceneIndex.toNat =
      if r.sceneIndex.toNat = 0 then r.sceneCount.toNat - 1
      else if r.sceneIndex.toNat + r.sceneCount.toNat ≤ 2 ^ abi.sizeBits then
        r.sceneIndex.toNat - 1
      else r.sceneIndex.toNat + r.sceneCount.toNat - 1 - 2 ^ abi.sizeBits := by
  have allowed : ¬ (!r.changeAllowed nowNs) = true := by simp [changeAllowed, unlimited]
  have below := h.index_lt
  have fits := r.sceneCount.isLt
  have sum : (r.sceneIndex + r.sceneCount - 1).toNat =
      (r.sceneIndex.toNat + r.sceneCount.toNat - 1) % 2 ^ abi.sizeBits := by
    have one : 1 ≤ r.sceneCount := by
      rw [BitVec.le_def, toNat_one]
      omega
    rw [BitVec.sub_eq_add_neg, BitVec.add_assoc, ← BitVec.sub_eq_add_neg, BitVec.toNat_add,
      BitVec.toNat_sub_of_le one, toNat_one, Nat.add_sub_assoc (by omega)]
  rw [requestPrevious, if_neg h.nonempty, if_neg allowed, selectManual_scene, BitVec.toNat_umod,
    sum]
  split
  · next first =>
    rw [first, Nat.zero_add, Nat.mod_eq_of_lt (Nat.lt_of_le_of_lt (Nat.sub_le _ 1) fits)]
    exact Nat.mod_eq_of_lt (by omega)
  · split
    · have round : r.sceneIndex.toNat + r.sceneCount.toNat - 1 =
          r.sceneIndex.toNat - 1 + r.sceneCount.toNat := by
        omega
      have sum : r.sceneIndex.toNat + r.sceneCount.toNat - 1 < 2 ^ abi.sizeBits := by
        omega
      rw [Nat.mod_eq_of_lt sum, round, Nat.add_mod_right]
      exact Nat.mod_eq_of_lt (by omega)
    · have wrapped : r.sceneIndex.toNat + r.sceneCount.toNat - 1 - 2 ^ abi.sizeBits <
          r.sceneCount.toNat := by
        omega
      have past : (r.sceneIndex.toNat + r.sceneCount.toNat - 1) % 2 ^ abi.sizeBits =
          r.sceneIndex.toNat + r.sceneCount.toNat - 1 - 2 ^ abi.sizeBits := by
        rw [Nat.mod_eq_sub_mod (by omega), Nat.mod_eq_of_lt (by omega)]
      rw [past, Nat.mod_eq_of_lt wrapped]

end Steps

theorem Outcome.unlimited {r s : CartRuntime abi} {nowNs : U64} (step : Outcome nowNs r s)
    (unlimited : r.minChangeNs = 0) :
    s.Sound ∧ s.minChangeNs = 0 ∧ s.sceneCount = r.sceneCount :=
  ⟨step.2.1, step.1.minChangeNs.trans unlimited, step.1.sceneCount⟩

/-- **One state**: the requests rotate exactly when the index and the count fit together. -/
theorem rotates_iff {r : CartRuntime abi} (h : r.Sound) :
    r.Rotates ↔ (r.minChangeNs = 0 → r.Spacious) := by
  have below := h.index_lt
  have fits := r.sceneCount.isLt
  constructor
  · intro rotates unlimited
    have back := congrArg BitVec.toNat (rotates.nextPrevious unlimited 0 0 0 0)
    have forth := congrArg BitVec.toNat (rotates.previousNext unlimited 0 0 0 0)
    obtain ⟨next, limit, count⟩ := (requestNext_outcome h 0 0).unlimited unlimited
    rw [requestPrevious_index next limit, requestNext_index h unlimited, count] at back
    obtain ⟨previous, limit, count⟩ := (requestPrevious_outcome h 0 0).unlimited unlimited
    rw [requestNext_index previous limit, requestPrevious_index h unlimited, count] at forth
    unfold Spacious
    have even : 2 ^ abi.sizeBits % 2 = 0 := by cases abi <;> decide
    grind
  · intro spacious
    refine ⟨h.selected, ?_, ?_, ?_, ?_, ?_⟩
    · intro active
      rw [h.held active]
      exact h.selected
    · intro unlimited nowNs holdNs
      rw [requestNext_index h unlimited]
      split
      · next last =>
        have sum : (r.sceneIndex.toNat + 1 : Int) = r.sceneCount.toNat := by omega
        rw [sum, Int.emod_self]
        rfl
      · rw [Int.emod_eq_of_lt (by omega) (by omega)]
        rfl
    · intro unlimited nowNs holdNs
      have space : r.sceneIndex.toNat + r.sceneCount.toNat < 2 ^ abi.sizeBits :=
        spacious unlimited
      rw [requestPrevious_index h unlimited]
      split
      · rw [← Int.add_emod_right, Int.emod_eq_of_lt (by omega) (by omega)]
        omega
      · rw [if_pos (Nat.le_of_lt space), Int.emod_eq_of_lt (by omega) (by omega)]
        omega
    · intro unlimited nowNs holdNs laterNs laterHoldNs
      have space : r.sceneIndex.toNat + r.sceneCount.toNat < 2 ^ abi.sizeBits :=
        spacious unlimited
      obtain ⟨next, limit, count⟩ := (requestNext_outcome h nowNs holdNs).unlimited unlimited
      apply BitVec.eq_of_toNat_eq
      rw [requestPrevious_index next limit, requestNext_index h unlimited, count]
      grind
    · intro unlimited nowNs holdNs laterNs laterHoldNs
      have space : r.sceneIndex.toNat + r.sceneCount.toNat < 2 ^ abi.sizeBits :=
        spacious unlimited
      obtain ⟨previous, limit, count⟩ :=
        (requestPrevious_outcome h nowNs holdNs).unlimited unlimited
      apply BitVec.eq_of_toNat_eq
      rw [requestNext_index previous limit, requestPrevious_index h unlimited, count]
      grind

theorem calls_requestNext {r : CartRuntime abi} (h : r.Sound) (unlimited : r.minChangeNs = 0)
    {n : Nat} (inside : r.sceneIndex.toNat + n < r.sceneCount.toNat) :
    (r.calls (List.replicate n (.requestNext 0 0))).sceneIndex.toNat =
      r.sceneIndex.toNat + n := by
  induction n generalizing r with
  | zero => rfl
  | succ n ih =>
    obtain ⟨sound, limit, count⟩ := (requestNext_outcome h 0 0).unlimited unlimited
    have step := requestNext_index h unlimited 0 0
    rw [if_neg (by omega)] at step
    rw [List.replicate_succ, calls_cons, call, ih sound limit (by rw [step, count]; omega), step]
    omega

/-- **Next and previous are inverse rotations** in a state exactly when its index and the
count fit `size_t` together, and in every state exactly when twice the count does. -/
theorem rotations_inverse_iff {count : SizeT abi}
    {origin framePeriod scenePeriod minChange : U64} {r : CartRuntime abi}
    (start : init count origin framePeriod scenePeriod minChange = some r) :
    (∀ cs, (r.calls cs).Rotates ↔
      (minChange = 0 → (r.calls cs).sceneIndex.toNat + count.toNat < 2 ^ abi.sizeBits)) ∧
    ((∀ cs, (r.calls cs).Rotates) ↔
      (minChange = 0 → 2 * count.toNat ≤ 2 ^ abi.sizeBits)) := by
  obtain ⟨sound, -, rfl, -, rfl, first⟩ := init_sound start
  have each (cs : List Call) : (r.calls cs).Rotates ↔ (r.minChangeNs = 0 →
      (r.calls cs).sceneIndex.toNat + r.sceneCount.toNat < 2 ^ abi.sizeBits) := by
    obtain ⟨setup, sound⟩ := calls_setup sound cs
    rw [rotates_iff sound, setup.minChangeNs, Spacious, setup.sceneCount]
  refine ⟨each, ?_, ?_⟩
  · intro always unlimited
    have nonempty : 0 < r.sceneCount.toNat := Nat.lt_of_le_of_lt (Nat.zero_le _) sound.index_lt
    have zero : r.sceneIndex.toNat = 0 := by
      rw [first]
      rfl
    have inside : r.sceneIndex.toNat + (r.sceneCount.toNat - 1) < r.sceneCount.toNat := by
      omega
    have last := calls_requestNext sound unlimited inside
    let cs : List Call := List.replicate (r.sceneCount.toNat - 1) (.requestNext 0 0)
    have space := (each cs).mp (always cs) unlimited
    rw [last] at space
    omega
  · intro small cs
    obtain ⟨setup, sound⟩ := calls_setup sound cs
    refine (each cs).mpr fun unlimited => ?_
    have below := sound.index_lt
    rw [setup.sceneCount] at below
    have half := small unlimited
    omega

/-- Six scenes, stepped back from the first to the last and forth again. -/
theorem rotations_inverse_iff_six : ∃ r : CartRuntime .ilp32,
    init 6 0 33333333 8000000000 0 = some r ∧
      (r.calls [.requestPrevious 5 0, .requestNext 6 100]).sceneIndex = 0 ∧
      (r.calls [.requestPrevious 5 0]).Rotates := by
  have start : init (6 : SizeT .ilp32) 0 33333333 8000000000 0 = some _ := rfl
  exact ⟨_, start, by decide, (rotations_inverse_iff start).2.mpr (fun _ => by decide) _⟩

/-- With as many scenes as `size_t` can count, a step back from the third one reaches the
first. -/
theorem previous_wraps : ∃ r : CartRuntime .ilp32,
    init 4294967295 0 33333333 8000000000 0 = some r ∧
      (r.calls [.requestNext 1 0, .requestNext 2 0]).sceneIndex = 2 ∧
      (r.calls [.requestNext 1 0, .requestNext 2 0, .requestPrevious 3 0]).sceneIndex = 0 ∧
      ¬ (r.calls [.requestNext 1 0, .requestNext 2 0]).Rotates := by
  have start : init (4294967295 : SizeT .ilp32) 0 33333333 8000000000 0 = some _ := rfl
  refine ⟨_, start, by decide, by decide, fun rotates => ?_⟩
  have back := rotates.previous rfl 3 0
  revert back
  decide

end VitaLinux.Cart.CartRuntime
