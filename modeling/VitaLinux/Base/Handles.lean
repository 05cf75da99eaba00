import Mathlib.Data.List.Nodup
import Mathlib.Logic.Function.Basic

/-!
# Handles held by slots

A log of what was done with handles that an environment gives out and takes
back. A handle may be given out again after it was closed, so what is owned is
the time between one opening and its closing.
-/

namespace VitaLinux.Base

/-- One use of a handle. -/
inductive HandleUse (α : Type*) where
  | opened (handle : α)
  | used (handle : α)
  | closed (handle : α)
  deriving DecidableEq

variable {α ι : Type*} [DecidableEq α]

/-- The handles open after a log, which has the newest use first. -/
def openHandles : List (HandleUse α) → List α
  | [] => []
  | .opened handle :: log => handle :: openHandles log
  | .used _ :: log => openHandles log
  | .closed handle :: log => (openHandles log).erase handle

/-- Only an open handle is used or closed, and no open handle is given out. -/
def Disciplined : List (HandleUse α) → Prop
  | [] => True
  | .opened handle :: log => handle ∉ openHandles log ∧ Disciplined log
  | .used handle :: log => handle ∈ openHandles log ∧ Disciplined log
  | .closed handle :: log => handle ∈ openHandles log ∧ Disciplined log

theorem Disciplined.tail {use : HandleUse α} {log : List (HandleUse α)}
    (h : Disciplined (use :: log)) : Disciplined log := by
  cases use with
  | opened handle => exact h.2
  | used handle => exact h.2
  | closed handle => exact h.2

theorem Disciplined.of_append {later earlier : List (HandleUse α)}
    (h : Disciplined (later ++ earlier)) : Disciplined earlier := by
  induction later with
  | nil => exact h
  | cons use later ih => exact ih h.tail

theorem Disciplined.nodup {log : List (HandleUse α)} (h : Disciplined log) :
    (openHandles log).Nodup := by
  induction log with
  | nil => exact List.nodup_nil
  | cons use log ih =>
    cases use with
    | opened handle => exact List.nodup_cons.mpr ⟨h.1, ih h.2⟩
    | used handle => exact ih h.2
    | closed handle => exact (ih h.2).erase handle

/-- How often a handle is closed in a log with the oldest use first, up to the
next time it is given out. -/
def closings (handle : α) : List (HandleUse α) → Nat
  | [] => 0
  | .opened other :: log => if other = handle then 0 else closings handle log
  | .used _ :: log => closings handle log
  | .closed other :: log => (if other = handle then 1 else 0) + closings handle log

theorem closings_append (handle : α) (log : List (HandleUse α)) (use : HandleUse α) :
    closings handle (log ++ [use]) =
      closings handle log + if .opened handle ∈ log then 0 else closings handle [use] := by
  induction log with
  | nil => simp [closings]
  | cons first log ih =>
    cases first with
    | opened other =>
      by_cases same : other = handle
      · simp [closings, same]
      · have different : handle ≠ other := fun e => same e.symm
        simp [closings, same, different, ih]
    | used other => simp [closings, ih]
    | closed other => simp [closings, ih, Nat.add_assoc]

/-- A handle given out is closed exactly once before it is given out again, or it
has been neither closed nor given out again and is still open. -/
theorem Disciplined.closed_once_or_open {later earlier : List (HandleUse α)} {handle : α}
    (h : Disciplined (later ++ .opened handle :: earlier)) :
    (closings handle later.reverse = 1 ∧
      (.opened handle ∈ later ∨ handle ∉ openHandles (later ++ .opened handle :: earlier))) ∨
    (closings handle later.reverse = 0 ∧ .opened handle ∉ later ∧
      handle ∈ openHandles (later ++ .opened handle :: earlier)) := by
  induction later with
  | nil => exact Or.inr ⟨rfl, by simp, by simp [openHandles]⟩
  | cons use later ih =>
    have nodup := h.tail.nodup
    rw [List.reverse_cons, closings_append]
    simp only [List.mem_reverse, List.mem_cons, List.cons_append] at h ⊢
    rcases ih h.tail with ⟨once, reopened⟩ | ⟨zero, fresh, still⟩
    · by_cases again : .opened handle ∈ later
      · exact Or.inl ⟨by simp [once, again], Or.inl (Or.inr again)⟩
      · have gone := reopened.resolve_left again
        cases use with
        | opened other =>
          by_cases same : other = handle
          · exact Or.inl ⟨by simp [once, again, closings, same], by simp [same]⟩
          · have different : handle ≠ other := fun e => same e.symm
            exact Or.inl ⟨by simp [once, again, closings, same],
              Or.inr (by simp [openHandles, different, gone])⟩
        | used other =>
          exact Or.inl ⟨by simp [once, again, closings], Or.inr (by simpa [openHandles] using gone)⟩
        | closed other =>
          have different : other ≠ handle := by
            rintro rfl
            exact gone h.1
          exact Or.inl ⟨by simp [once, again, closings, different],
            Or.inr fun mem => gone (List.mem_of_mem_erase mem)⟩
    · cases use with
      | opened other =>
        have different : handle ≠ other := by
          rintro rfl
          exact h.1 still
        exact Or.inr ⟨by simp [zero, fresh, closings, different.symm],
          by simp [different, fresh], by simp [openHandles, still]⟩
      | used other =>
        exact Or.inr ⟨by simp [zero, fresh, closings], by simp [fresh],
          by simpa [openHandles] using still⟩
      | closed other =>
        by_cases same : other = handle
        · refine Or.inl ⟨by simp [zero, fresh, closings, same], Or.inr ?_⟩
          rw [openHandles, same]
          exact nodup.not_mem_erase
        · have different : handle ≠ other := fun e => same e.symm
          exact Or.inr ⟨by simp [zero, fresh, closings, same], by simp [fresh],
            (List.mem_erase_of_ne different).mpr still⟩

/-- The open handles are those in the slots and the loose ones, each held once. -/
structure Held (log : List (HandleUse α)) (slot : ι → Option α) (loose : List α) : Prop where
  disciplined : Disciplined log
  mem_iff : ∀ handle, handle ∈ openHandles log ↔ (∃ i, slot i = some handle) ∨ handle ∈ loose
  distinct : ∀ i j handle, slot i = some handle → slot j = some handle → i = j
  nodup : loose.Nodup
  apart : ∀ i handle, slot i = some handle → handle ∉ loose

namespace Held

variable {log : List (HandleUse α)} {slot : ι → Option α} {loose : List α} {handle : α}

/-- Nothing is open before anything was done. -/
theorem start : Held ([] : List (HandleUse α)) (fun _ : ι => none) [] where
  disciplined := trivial
  mem_iff := by simp [openHandles]
  distinct := by simp
  nodup := List.nodup_nil
  apart := by simp

theorem mem_slot (h : Held log slot loose) {i : ι} (at_ : slot i = some handle) :
    handle ∈ openHandles log :=
  (h.mem_iff handle).mpr (Or.inl ⟨i, at_⟩)

/-- The holder of a handle that is open and not loose is one slot. -/
theorem unique (h : Held log slot []) (still : handle ∈ openHandles log) :
    ∃ i, slot i = some handle ∧ ∀ j, slot j = some handle → j = i := by
  rcases (h.mem_iff handle).mp still with ⟨i, holds⟩ | mem
  · exact ⟨i, holds, fun j also => h.distinct j i handle also holds⟩
  · cases mem

theorem opened (h : Held log slot loose) (fresh : handle ∉ openHandles log) :
    Held (.opened handle :: log) slot (handle :: loose) where
  disciplined := ⟨fresh, h.disciplined⟩
  mem_iff := by
    intro other
    simp only [openHandles, List.mem_cons, h.mem_iff]
    tauto
  distinct := h.distinct
  nodup := List.nodup_cons.mpr ⟨fun mem => fresh ((h.mem_iff handle).mpr (Or.inr mem)), h.nodup⟩
  apart := by
    intro i other holds mem
    rcases List.mem_cons.mp mem with rfl | mem
    · exact fresh (h.mem_slot holds)
    · exact h.apart i other holds mem

theorem used (h : Held log slot loose) (still : handle ∈ openHandles log) :
    Held (.used handle :: log) slot loose where
  disciplined := ⟨still, h.disciplined⟩
  mem_iff := h.mem_iff
  distinct := h.distinct
  nodup := h.nodup
  apart := h.apart

theorem openHandles_replicate_used (n : Nat) :
    openHandles (List.replicate n (.used handle) ++ log) = openHandles log := by
  induction n with
  | zero => rfl
  | succ n ih => simpa [List.replicate_succ, openHandles] using ih

theorem usedMany (h : Held log slot loose) (still : handle ∈ openHandles log) (n : Nat) :
    Held (List.replicate n (.used handle) ++ log) slot loose := by
  induction n with
  | zero => exact h
  | succ n ih =>
    apply ih.used
    rwa [openHandles_replicate_used]

theorem closeLoose (h : Held log slot (handle :: loose)) :
    Held (.closed handle :: log) slot loose := by
  have nodup := List.nodup_cons.mp h.nodup
  have still : handle ∈ openHandles log := (h.mem_iff handle).mpr (Or.inr List.mem_cons_self)
  constructor
  · exact ⟨still, h.disciplined⟩
  · intro other
    rw [openHandles, h.disciplined.nodup.mem_erase_iff, h.mem_iff, List.mem_cons]
    constructor
    · tauto
    · rintro (⟨i, holds⟩ | mem)
      · refine ⟨?_, Or.inl ⟨i, holds⟩⟩
        rintro rfl
        exact h.apart i other holds List.mem_cons_self
      · refine ⟨?_, Or.inr (Or.inr mem)⟩
        rintro rfl
        exact nodup.1 mem
  · exact h.distinct
  · exact nodup.2
  · intro i other holds mem
    exact h.apart i other holds (List.mem_cons_of_mem _ mem)

theorem perm {loose' : List α} (h : Held log slot loose) (same : loose.Perm loose') :
    Held log slot loose' where
  disciplined := h.disciplined
  mem_iff := by
    intro other
    rw [h.mem_iff, same.mem_iff]
  distinct := h.distinct
  nodup := same.nodup_iff.mp h.nodup
  apart := by
    intro i other holds mem
    exact h.apart i other holds (same.mem_iff.mpr mem)

variable [DecidableEq ι]

/-- An empty slot takes a loose handle. -/
theorem claim (h : Held log slot (handle :: loose)) {i : ι} (free : slot i = none) :
    Held log (Function.update slot i (some handle)) loose := by
  have nodup := List.nodup_cons.mp h.nodup
  have keep (j : ι) (other : α) (holds : Function.update slot i (some handle) j = some other) :
      (j = i ∧ other = handle) ∨ (j ≠ i ∧ slot j = some other) := by
    by_cases same : j = i
    · subst same
      rw [Function.update_self] at holds
      exact Or.inl ⟨rfl, (Option.some.inj holds).symm⟩
    · rw [Function.update_of_ne same] at holds
      exact Or.inr ⟨same, holds⟩
  constructor
  · exact h.disciplined
  · intro other
    rw [h.mem_iff, List.mem_cons]
    constructor
    · rintro (⟨j, holds⟩ | rfl | mem)
      · have different : j ≠ i := by
          rintro rfl
          rw [free] at holds
          cases holds
        exact Or.inl ⟨j, by rw [Function.update_of_ne different, holds]⟩
      · exact Or.inl ⟨i, Function.update_self ..⟩
      · exact Or.inr mem
    · rintro (⟨j, holds⟩ | mem)
      · rcases keep j other holds with ⟨_, rfl⟩ | ⟨_, holds⟩
        · exact Or.inr (Or.inl rfl)
        · exact Or.inl ⟨j, holds⟩
      · exact Or.inr (Or.inr mem)
  · intro j k other at_j at_k
    rcases keep j other at_j with ⟨rfl, rfl⟩ | ⟨_, held_j⟩
    · rcases keep k other at_k with ⟨rfl, _⟩ | ⟨_, held_k⟩
      · rfl
      · exact absurd List.mem_cons_self (h.apart k other held_k)
    · rcases keep k other at_k with ⟨_, rfl⟩ | ⟨_, held_k⟩
      · exact absurd List.mem_cons_self (h.apart j other held_j)
      · exact h.distinct j k other held_j held_k
  · exact nodup.2
  · intro j other holds mem
    rcases keep j other holds with ⟨_, rfl⟩ | ⟨_, holds⟩
    · exact nodup.1 mem
    · exact h.apart j other holds (List.mem_cons_of_mem _ mem)

/-- A slot gives its handle back to be closed. -/
theorem yield (h : Held log slot loose) {i : ι} (holds : slot i = some handle) :
    Held log (Function.update slot i none) (handle :: loose) := by
  have keep (j : ι) (other : α) (at_j : Function.update slot i none j = some other) :
      j ≠ i ∧ slot j = some other := by
    by_cases same : j = i
    · subst same
      rw [Function.update_self] at at_j
      cases at_j
    · rw [Function.update_of_ne same] at at_j
      exact ⟨same, at_j⟩
  constructor
  · exact h.disciplined
  · intro other
    rw [h.mem_iff, List.mem_cons]
    constructor
    · rintro (⟨j, at_j⟩ | mem)
      · by_cases same : j = i
        · subst same
          exact Or.inr (Or.inl (Option.some.inj (at_j.symm.trans holds)))
        · exact Or.inl ⟨j, by rw [Function.update_of_ne same, at_j]⟩
      · exact Or.inr (Or.inr mem)
    · rintro (⟨j, at_j⟩ | rfl | mem)
      · exact Or.inl ⟨j, (keep j other at_j).2⟩
      · exact Or.inl ⟨i, holds⟩
      · exact Or.inr mem
  · intro j k other at_j at_k
    exact h.distinct j k other (keep j other at_j).2 (keep k other at_k).2
  · exact List.nodup_cons.mpr ⟨h.apart i handle holds, h.nodup⟩
  · intro j other at_j mem
    obtain ⟨different, at_j⟩ := keep j other at_j
    rcases List.mem_cons.mp mem with rfl | mem
    · exact different (h.distinct j i other at_j holds)
    · exact h.apart j other at_j mem

end Held

end VitaLinux.Base
