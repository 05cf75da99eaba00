import Mathlib.Data.List.Basic

/-!
# Receiving until there is enough

A loop takes in a stream in pieces of any size, up to the capacity of its buffer, and looks
at what it has after each piece. How much it has at the end depends on the pieces; which
ends are possible does not.
-/

namespace VitaLinux.Base

variable {α β : Type}

/-- The pieces: how much is offered at each offset, or a failure. -/
abbrev Cuts := Nat → Option Nat

section Receive

variable (enough : List α → Bool) (capacity : Nat) (sent : List α)

/-- The loop. It gives up when the stream ends or fails, and ends with so many elements when
they are enough or the buffer is full. -/
def receive (cuts : Cuts) : Nat → Nat → Option Nat
  | 0, used => some used
  | fuel + 1, used =>
    if used < capacity then
      match cuts used with
      | none => none
      | some offered =>
        let result := min (max 1 offered) (min (capacity - used) (sent.length - used))
        if result = 0 then none
        else if enough (sent.take (used + result)) then some (used + result)
        else receive cuts fuel (used + result)
    else some used

def Ending (used : Nat) : Prop :=
  0 < used ∧ used ≤ capacity ∧ used ≤ sent.length ∧
    (enough (sent.take used) = true ∨ used = capacity)

variable {enough capacity sent}

theorem receive_ending {cuts : Cuts} {fuel used final : Nat} (room : capacity ≤ used + fuel)
    (fits : used ≤ capacity) (here : used ≤ sent.length) (start : 0 < capacity)
    (h : receive enough capacity sent cuts fuel used = some final) :
    Ending enough capacity sent final := by
  induction fuel generalizing used with
  | zero =>
    obtain rfl : used = final := Option.some.inj h
    exact ⟨by omega, fits, here, .inr (by omega)⟩
  | succ fuel ih =>
    unfold receive at h
    split at h
    · split at h
      · cases h
      · simp only at h
        split at h
        · cases h
        · split at h
          · next found =>
            cases h
            exact ⟨by omega, by omega, by omega, .inl found⟩
          · exact ih (by omega) (by omega) (by omega) h
    · next full =>
      obtain rfl : used = final := Option.some.inj h
      exact ⟨by omega, fits, here, .inr (by omega)⟩

/-- While nothing fails the loop gives up only if there is not enough in the whole stream. -/
theorem receive_gives_up {cuts : Nat → Nat} {fuel used : Nat} (fits : used ≤ sent.length)
    (missing : enough (sent.take used) = false)
    (h : receive enough capacity sent (fun offset => some (cuts offset)) fuel used = none) :
    sent.length < capacity ∧ enough sent = false := by
  induction fuel generalizing used with
  | zero => cases h
  | succ fuel ih =>
    unfold receive at h
    split at h
    · simp only at h
      split at h
      · have all : used = sent.length := by omega
        rw [all, List.take_length] at missing
        exact ⟨by omega, missing⟩
      · split at h
        · cases h
        · next short => exact ih (by omega) (by simpa using short) h
    · cases h

theorem Ending.reached {final : Nat} (h : Ending enough capacity sent final) (fuel : Nat)
    (full : capacity ≤ fuel + 1) :
    receive enough capacity sent (fun _ => some final) (fuel + 1) 0 = some final := by
  obtain ⟨positive, fits, here, ended⟩ := h
  have piece : min (max 1 final) (min (capacity - 0) (sent.length - 0)) = final := by omega
  have some : 0 < capacity := by omega
  unfold receive
  rw [if_pos some]
  simp only [piece, Nat.zero_add]
  rw [if_neg (by omega)]
  obtain found | filled := ended
  · rw [if_pos found]
  · split
    · rfl
    · cases fuel with
      | zero => rfl
      | succ fuel =>
        unfold receive
        rw [if_neg (by omega)]

/-- An answer does not depend on the pieces exactly when it is the same at all ends. -/
theorem receive_agree_iff (answer : Option Nat → β) (start : 0 < capacity)
    (nothing : enough [] = false)
    (grows : ∀ used, enough (sent.take used) = true → enough sent = true) :
    (∀ cuts cuts' : Nat → Nat,
      answer (receive enough capacity sent (fun offset => some (cuts offset)) capacity 0) =
        answer (receive enough capacity sent (fun offset => some (cuts' offset)) capacity 0)) ↔
      ∀ final final', Ending enough capacity sent final → Ending enough capacity sent final' →
        answer (some final) = answer (some final') := by
  obtain ⟨fuel, rfl⟩ : ∃ fuel, capacity = fuel + 1 := ⟨capacity - 1, by omega⟩
  constructor
  · intro agree final final' ends ends'
    have same := agree (fun _ => final) (fun _ => final')
    rwa [ends.reached fuel (Nat.le_refl _), ends'.reached fuel (Nat.le_refl _)] at same
  · intro agree cuts cuts'
    have ends {cuts : Nat → Nat} {final : Nat}
        (h : receive enough (fuel + 1) sent (fun offset => some (cuts offset)) (fuel + 1) 0 =
          some final) : Ending enough (fuel + 1) sent final :=
      receive_ending (by omega) (Nat.zero_le _) (Nat.zero_le _) start h
    have stuck {cuts : Nat → Nat} {final : Nat} (possible : Ending enough (fuel + 1) sent final) :
        receive enough (fuel + 1) sent (fun offset => some (cuts offset)) (fuel + 1) 0 ≠ none := by
      intro h
      obtain ⟨short, missing⟩ := receive_gives_up (Nat.zero_le _) (by simpa using nothing) h
      obtain ⟨_, _, here, found | filled⟩ := possible
      · rw [grows final found] at missing
        cases missing
      · omega
    cases first : receive enough (fuel + 1) sent (fun offset => some (cuts offset)) (fuel + 1) 0 with
    | some final =>
      cases second : receive enough (fuel + 1) sent (fun offset => some (cuts' offset))
          (fuel + 1) 0 with
      | some final' => exact agree final final' (ends first) (ends second)
      | none => exact absurd second (stuck (ends first))
    | none =>
      cases second : receive enough (fuel + 1) sent (fun offset => some (cuts' offset))
          (fuel + 1) 0 with
      | some final' => exact absurd first (stuck (ends second))
      | none => rfl

end Receive

end VitaLinux.Base
