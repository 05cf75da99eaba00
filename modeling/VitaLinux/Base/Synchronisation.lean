import Mathlib.Data.Finset.Card
import Mathlib.Data.Fintype.Card

/-!
# Mutexes and barriers

`Excludes` ties a mutex to the threads that hold it. A barrier for a fixed set
of threads behaves as POSIX specifies it: the last arrival of a round opens it
for all, and the next round begins at once, also while threads of the round
before have not left yet. `Barrier.Good` relates the barrier to what each thread
has been through.
-/

namespace VitaLinux.Base

/-- The threads that hold the mutex are its owner, if it has one. -/
def Excludes {T : Type} (holds : T → Bool) (owner : Option T) : Prop :=
  ∀ t, holds t = true ↔ owner = some t

/-- A thread that keeps what it has changes nothing. -/
theorem Excludes.stay {T : Type} [DecidableEq T] {holds : T → Bool} {owner : Option T}
    (h : Excludes holds owner) {t : T} {held : Bool} (same : holds t = held) :
    Excludes (Function.update holds t held) owner := by
  rwa [← same, Function.update_eq_self]

theorem Excludes.acquire {T : Type} [DecidableEq T] {holds : T → Bool}
    (h : Excludes holds none) (t : T) : Excludes (Function.update holds t true) (some t) := by
  refine (Function.forall_update_iff holds fun u held => held = true ↔ some t = some u).mpr
    ⟨by simp, fun u hu => ?_⟩
  constructor
  · intro held
    cases (h u).mp held
  · intro owns
    exact absurd (Option.some.inj owns).symm hu

theorem Excludes.release {T : Type} [DecidableEq T] {holds : T → Bool} {owner : Option T}
    (h : Excludes holds owner) {t : T} (held : holds t = true) :
    Excludes (Function.update holds t false) none := by
  refine (Function.forall_update_iff holds fun u held => held = true ↔ none = some u).mpr
    ⟨by simp, fun u hu => ?_⟩
  constructor
  · intro held'
    exact absurd (Option.some.inj (((h u).mp held').symm.trans ((h t).mp held))) hu
  · intro owns
    cases owns

/-- How many threads have arrived in the current round, and how many rounds opened. -/
structure Barrier where
  arrived : Nat
  round : Nat
  deriving DecidableEq, Repr

/-- One more thread arrives; the last of `count` opens the round. -/
def Barrier.arrive (barrier : Barrier) (count : Nat) : Barrier :=
  if barrier.arrived + 1 = count then { arrived := 0, round := barrier.round + 1 }
  else { barrier with arrived := barrier.arrived + 1 }

/-- Where a thread is with respect to one barrier. -/
inductive Seat where
  /-- It has left the barrier this many times. -/
  | away (left : Nat)
  /-- It has arrived, after leaving this many times. -/
  | waiting (left : Nat)
  deriving DecidableEq, Repr

namespace Barrier

variable {T : Type} [Fintype T]

structure Good (barrier : Barrier) (seats : T → Seat) : Prop where
  away : ∀ t left, seats t = .away left → barrier.round = left
  waiting : ∀ t left, seats t = .waiting left →
    barrier.round = left ∨ barrier.round = left + 1
  arrived : barrier.arrived = (Finset.univ.filter fun t => seats t = .waiting barrier.round).card
  room : barrier.arrived < Fintype.card T

theorem Good.start [Nonempty T] : Good { arrived := 0, round := 0 } fun _ : T => .away 0 where
  away := by
    rintro _ left ⟨⟩
    rfl
  waiting := nofun
  arrived := by simp
  room := Fintype.card_pos

/-- A thread that keeps its seat changes nothing. -/
theorem Good.stay [DecidableEq T] {barrier : Barrier} {seats : T → Seat}
    (h : barrier.Good seats) {t : T} {seat : Seat} (same : seats t = seat) :
    barrier.Good (Function.update seats t seat) := by
  rwa [← same, Function.update_eq_self]

theorem Good.arrive [DecidableEq T] {barrier : Barrier} {seats : T → Seat}
    (h : barrier.Good seats) {t : T} {left : Nat} (seat : seats t = .away left) :
    (barrier.arrive (Fintype.card T)).Good (Function.update seats t (.waiting left)) := by
  have round := h.away t left seat
  have entered : (Finset.univ.filter fun u =>
      Function.update seats t (.waiting left) u = .waiting barrier.round) =
        insert t (Finset.univ.filter fun u => seats u = .waiting barrier.round) := by
    ext u
    by_cases hu : u = t
    · subst hu
      simp [round]
    · simp [hu]
  have fresh : t ∉ Finset.univ.filter fun u => seats u = .waiting barrier.round := by
    simp [seat]
  have count := congrArg Finset.card entered
  rw [Finset.card_insert_of_notMem fresh, ← h.arrived] at count
  unfold Barrier.arrive
  split
  · rename_i last
    -- everybody is waiting for this round
    have all : ∀ u, Function.update seats t (.waiting left) u = .waiting barrier.round := by
      have full := Finset.eq_univ_of_card _ (count.trans last)
      intro u
      have hu := Finset.mem_univ u
      rw [← full, Finset.mem_filter] at hu
      exact hu.2
    refine ⟨?_, ?_, ?_, Nat.lt_of_lt_of_eq (Nat.zero_lt_succ _) last⟩
    · intro u k away
      cases (all u).symm.trans away
    · intro u k wait
      cases (all u).symm.trans wait
      exact .inr rfl
    · refine (Finset.card_eq_zero.mpr (Finset.filter_eq_empty_iff.mpr ?_)).symm
      intro u _ wait
      have same := Seat.waiting.inj ((all u).symm.trans wait)
      simp at same
  · rename_i more
    refine ⟨?_, ?_, count.symm, ?_⟩
    · refine (Function.forall_update_iff seats fun _ seat =>
        ∀ k, seat = .away k → barrier.round = k).mpr ⟨?_, fun u _ => h.away u⟩
      intro k away
      cases away
    · refine (Function.forall_update_iff seats fun _ seat =>
        ∀ k, seat = .waiting k → barrier.round = k ∨ barrier.round = k + 1).mpr
          ⟨?_, fun u _ => h.waiting u⟩
      rintro k ⟨⟩
      exact .inl round
    · exact Nat.lt_of_le_of_ne (Nat.succ_le_of_lt h.room) more

/-- A thread may leave once the round it waits for has opened. -/
theorem Good.leave [DecidableEq T] {barrier : Barrier} {seats : T → Seat}
    (h : barrier.Good seats) {t : T} {left : Nat} (seat : seats t = .waiting left)
    (opened : barrier.round ≠ left) :
    barrier.Good (Function.update seats t (.away (left + 1))) := by
  have round := (h.waiting t left seat).resolve_left opened
  have same : (Finset.univ.filter fun u =>
      Function.update seats t (.away (left + 1)) u = .waiting barrier.round) =
        Finset.univ.filter fun u => seats u = .waiting barrier.round := by
    ext u
    by_cases hu : u = t
    · subst hu
      simp [seat, Ne.symm opened]
    · simp [Function.update_of_ne hu]
  refine ⟨?_, ?_, ?_, h.room⟩
  · refine (Function.forall_update_iff seats fun _ seat =>
      ∀ k, seat = .away k → barrier.round = k).mpr ⟨?_, fun u _ => h.away u⟩
    rintro k ⟨⟩
    exact round
  · refine (Function.forall_update_iff seats fun _ seat =>
      ∀ k, seat = .waiting k → barrier.round = k ∨ barrier.round = k + 1).mpr
        ⟨?_, fun u _ => h.waiting u⟩
    intro k wait
    cases wait
  · rw [same]
    exact h.arrived

end Barrier

end VitaLinux.Base
