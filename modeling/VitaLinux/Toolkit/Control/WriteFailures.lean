import VitaLinux.Base.Spacing
import VitaLinux.Toolkit.Control.Sequential

/-!
# Failing writes of the state file

A write that fails may leave the file empty, or with the first digits of the clock reading.
Only an invocation that the check has let through gets that far, so all that have signalled
before are already an interval old.
-/

namespace VitaLinux.Toolkit.Control

open VitaLinux.Base

variable {interval : MinInterval}

/-- What keeps the signals apart at the clock reading `time`: the file names the last one, or
all of them are an interval old. -/
def Covered (interval : MinInterval) (history : History) (time : Nat) : Prop :=
  (∃ last, parseUnsigned (previousText history.file) = some last ∧ last.toNat ≤ time ∧
    ∀ a ∈ history.signalled, a.toNat ≤ last.toNat) ∨
  ∀ a ∈ history.signalled, a.toNat + interval.ms.toNat * 1000000 ≤ time

structure Limited (interval : MinInterval) (history : History) (time : Nat) : Prop where
  spaced : Spaced (interval.ms.toNat * 1000000) (history.signalled.map BitVec.toNat)
  covered : Covered interval history time

theorem Covered.later {history : History} {time time' : Nat} (h : Covered interval history time)
    (later : time ≤ time') : Covered interval history time' := by
  obtain ⟨last, readback, past, latest⟩ | old := h
  · exact .inl ⟨last, readback, past.trans later, latest⟩
  · exact .inr fun a member => (old a member).trans later

/-- Where the check lets an invocation through, all signals are an interval old. -/
theorem Covered.granted {history : History} {now_ns : U64}
    (h : Covered interval history now_ns.toNat)
    (check : rateLimited interval now_ns history.file = none) :
    ∀ a ∈ history.signalled, a.toNat + interval.ms.toNat * 1000000 ≤ now_ns.toNat := by
  obtain ⟨last, readback, past, latest⟩ | old := h
  · intro a member
    have bound := latest a member
    obtain early | apart := rateLimited_none readback check
    · exact absurd past (Nat.not_le.mpr early)
    · omega
  · exact old

/-- Whatever fails, an invocation changes the file only after the check, and signals only
after the whole reading has been written. -/
theorem next_cases (interval : MinInterval) (invocation : Invocation) (file : List UInt8) :
    ((next interval invocation file).2 = file ∧ (next interval invocation file).1 ≠ .triggered) ∨
    (rateLimited interval invocation.now_ns file = none ∧
      ((next interval invocation file).1 = .triggered →
        (next interval invocation file).2 = nowText invocation.now_ns)) := by
  cases target : invocation.target with
  | false => exact .inl (by simp [next, target])
  | true =>
    cases check : rateLimited interval invocation.now_ns file with
    | some retry_ms => exact .inl (by simp [next, updateRateState, target, check])
    | none =>
      refine .inr ⟨rfl, ?_⟩
      simp only [next, updateRateState, target, check, Bool.not_true, Bool.false_eq_true,
        if_false]
      split_ifs <;> simp

theorem Limited.invoke {history : History} {time : Nat} (h : Limited interval history time)
    {invocation : Invocation} (later : time ≤ invocation.now_ns.toNat) :
    Limited interval (history.invoke interval invocation) invocation.now_ns.toNat := by
  have covered := h.covered.later later
  have signals := history.signalled_invoke interval invocation
  obtain ⟨kept, silent⟩ | ⟨check, noted⟩ := next_cases interval invocation history.file
  · rw [if_neg silent, List.append_nil] at signals
    constructor
    · rw [signals]
      exact h.spaced
    · unfold Covered
      rw [signals]
      change (∃ last, parseUnsigned (previousText (next interval invocation history.file).2) =
        some last ∧ _) ∨ _
      rw [kept]
      exact covered
  · have old := covered.granted check
    by_cases sent : (next interval invocation history.file).1 = .triggered
    · rw [if_pos sent] at signals
      constructor
      · rw [signals, List.map_append, Spaced, List.pairwise_append]
        refine ⟨h.spaced, List.pairwise_singleton _ _, fun a earlier b now => ?_⟩
        obtain ⟨a, member, rfl⟩ := List.mem_map.mp earlier
        obtain rfl := List.mem_singleton.mp now
        exact old a member
      · refine .inl ⟨invocation.now_ns, ?_, Nat.le_refl _, fun a member => ?_⟩
        · change parseUnsigned (previousText (next interval invocation history.file).2) = _
          rw [noted sent]
          exact parseUnsigned_nowText _
        · rw [signals] at member
          obtain before | now := List.mem_append.mp member
          · have bound := old a before
            omega
          · rw [List.mem_singleton.mp now]
    · rw [if_neg sent, List.append_nil] at signals
      constructor
      · rw [signals]
        exact h.spaced
      · refine .inr ?_
        rw [signals]
        exact old

theorem limited_run {history : History} {time : Nat} (h : Limited interval history time)
    {invocations : List Invocation} (ordered : Ordered invocations)
    (later : ∀ invocation ∈ invocations, time ≤ invocation.now_ns.toNat) :
    ∃ last, Limited interval (history.run interval invocations) last := by
  induction invocations generalizing history time with
  | nil => exact ⟨time, h⟩
  | cons invocation invocations ih =>
    obtain ⟨after, rest⟩ := List.pairwise_cons.mp ordered
    exact ih (h.invoke (later invocation List.mem_cons_self)) rest after

/-- Whichever calls fail, any two signals are at least the interval apart. -/
theorem write_failures_keep_limit (interval : MinInterval) (file : List UInt8)
    (invocations : List Invocation) (ordered : Ordered invocations) :
    Spaced (interval.ms.toNat * 1000000)
      (((History.fresh file).run interval invocations).signalled.map BitVec.toNat) := by
  have nobody : Limited interval (.fresh file) 0 :=
    ⟨Spaced.nil _, .inr fun a member => by cases member⟩
  obtain ⟨last, limited⟩ := limited_run nobody ordered fun _ _ => Nat.zero_le _
  exact limited.spaced

/-- The second write is cut short after three digits. -/
theorem torn_write_keeps_limit :
    Spaced (500 * 1000000)
      (((History.fresh []).run ⟨500, by decide⟩
        [smoothAt 1000000000,
          { smoothAt 1500000000 with calls := { truncates := true, seeks := true, written := 3 } },
          smoothAt 1600000000]).signalled.map BitVec.toNat) :=
  write_failures_keep_limit ⟨500, by decide⟩ [] _ (by unfold Ordered; decide)

end VitaLinux.Toolkit.Control
