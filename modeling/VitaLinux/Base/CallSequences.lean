import Mathlib.Logic.Basic
import Mathlib.Tactic.TypeStar

/-!
# Sequences of calls

A machine takes calls one by one, and a call that does not return is the last.
-/

namespace VitaLinux.Base

variable {σ κ : Type*} (call : σ → κ → σ × Bool)

/-- The states that some calls pass through. -/
def callStates (state : σ) : List κ → List σ
  | [] => [state]
  | first :: calls =>
    let (next, returned) := call state first
    state :: if returned then callStates next calls else [next]

/-- Every call made is allowed in the state it finds. -/
def AlwaysAllowed (allowed : σ → κ → Prop) (state : σ) : List κ → Prop
  | [] => True
  | first :: calls =>
    let (next, returned) := call state first
    allowed state first ∧ if returned then AlwaysAllowed allowed next calls else True

variable {call}

theorem callStates_head (state : σ) (calls : List κ) : state ∈ callStates call state calls := by
  cases calls with
  | nil => exact List.mem_cons_self
  | cons first calls => exact List.mem_cons_self

/-- A property that a call keeps exactly if it is allowed holds all the way exactly if every
call made is allowed. -/
theorem callStates_iff (good : σ → Prop) {P : σ → Prop} {allowed : σ → κ → Prop}
    (keeps : ∀ state first, good state → good (call state first).1)
    (step : ∀ state first, good state → P state →
      (P (call state first).1 ↔ allowed state first)) (calls : List κ) :
    ∀ state, good state → P state →
      ((∀ passed ∈ callStates call state calls, P passed) ↔
        AlwaysAllowed call allowed state calls) := by
  induction calls with
  | nil =>
    intro state _ h
    simpa [callStates, AlwaysAllowed] using h
  | cons first calls ih =>
    intro state sound h
    have sound' := keeps state first sound
    have once := step state first sound h
    simp only [callStates, AlwaysAllowed, List.mem_cons, forall_eq_or_imp, h, true_and]
    split
    · constructor
      · intro all
        have next := all _ (callStates_head _ calls)
        exact ⟨once.mp next, (ih _ sound' next).mp all⟩
      · rintro ⟨may, later⟩
        exact (ih _ sound' (once.mpr may)).mpr later
    · simpa using once

/-- A machine that does what another does, and keeps a note beside it, passes through the
same states. -/
theorem callStates_map {τ : Type*} {noting : τ → κ → τ × Bool} (seen : τ → σ)
    (step : ∀ state first, seen (noting state first).1 = (call (seen state) first).1 ∧
      (noting state first).2 = (call (seen state) first).2) (calls : List κ) :
    ∀ state, (callStates noting state calls).map seen = callStates call (seen state) calls := by
  induction calls with
  | nil => exact fun _ => rfl
  | cons first calls ih =>
    intro state
    obtain ⟨next, returned⟩ := step state first
    simp only [callStates, List.map_cons, returned]
    split
    · rw [ih, next]
    · rw [List.map_singleton, next]

end VitaLinux.Base
