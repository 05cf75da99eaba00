import Mathlib.Logic.Function.Basic
import Mathlib.Logic.Relation
import VitaLinux.Toolkit.Control.RateState

/-!
# Concurrent `vita-control next`

Any number of invocations share the state file, its lock and the monotonic clock.
Each invocation is at one point of `main` and `update_rate_state`; a step moves one
of them past its next call, in any order. No call on the state file fails here.
-/

namespace VitaLinux.Toolkit.Control

variable {ι : Type*} [DecidableEq ι] {interval : MinInterval}

/-- How far an invocation has come, with its `now_ns` from the moment it is read. -/
inductive Phase where
  /-- before `monotonic_ns` -/
  | start
  /-- before `open` -/
  | clocked (now_ns : U64)
  /-- before `flock(fd, LOCK_EX)` returns -/
  | opened (now_ns : U64)
  /-- before `read` and the check -/
  | locked (now_ns : U64)
  /-- `goto unlock` with `result = -1` -/
  | limited (retry_ms : U64)
  /-- before `ftruncate` -/
  | granted (now_ns : U64)
  /-- before `write` -/
  | truncated (now_ns : U64)
  /-- before `flock(fd, LOCK_UN)` with `result = 0` -/
  | written (now_ns : U64)
  /-- before `kill(pid, SIGUSR1)` -/
  | allowed (now_ns : U64)
  /-- `kill` succeeded -/
  | signalled (now_ns : U64)
  /-- `kill` failed -/
  | unsignalled (now_ns : U64)
  /-- the exits without a signal before `kill` -/
  | exited
  deriving DecidableEq

/-- Between `flock(fd, LOCK_EX)` and `flock(fd, LOCK_UN)`. -/
def Phase.Holds : Phase → Prop
  | .locked _ | .limited _ | .granted _ | .truncated _ | .written _ => True
  | _ => False

/-- The clock reading of an invocation that holds the lock and has not yet decided. -/
def Phase.deciding : Phase → Option U64
  | .locked now_ns => some now_ns
  | _ => none

/-- The clock reading of an invocation that the check has let through. -/
def Phase.letThrough : Phase → Option U64
  | .granted now_ns | .truncated now_ns | .written now_ns | .allowed now_ns
  | .signalled now_ns | .unsignalled now_ns => some now_ns
  | _ => none

/-- The clock reading of an invocation that has been let through and has not yet written it. -/
def Phase.pending : Phase → Option U64
  | .granted now_ns | .truncated now_ns => some now_ns
  | _ => none

/-- The state file's contents (empty also while it does not exist), its lock, the clock
and every invocation. -/
structure System (ι : Type*) where
  clock : U64
  state : List UInt8
  lock : Option ι
  phase : ι → Phase

def System.move (s : System ι) (i : ι) (p : Phase) : System ι :=
  { s with phase := Function.update s.phase i p }

inductive Step (interval : MinInterval) : System ι → System ι → Prop
  | tick (s : System ι) (now : U64) (later : s.clock ≤ now) :
      Step interval s { s with clock := now }
  -- the target or the interval is not accepted, or the clock cannot be read
  | refuse (s : System ι) (i : ι) (here : s.phase i = .start) :
      Step interval s (s.move i .exited)
  | readClock (s : System ι) (i : ι) (here : s.phase i = .start) :
      Step interval s (s.move i (.clocked s.clock))
  -- `O_CREAT` leaves the contents of an existing file alone
  | openState (s : System ι) (i : ι) (now_ns : U64) (here : s.phase i = .clocked now_ns) :
      Step interval s (s.move i (.opened now_ns))
  | takeLock (s : System ι) (i : ι) (now_ns : U64) (here : s.phase i = .opened now_ns)
      (free : s.lock = none) :
      Step interval s { s.move i (.locked now_ns) with lock := some i }
  | limit (s : System ι) (i : ι) (now_ns retry_ms : U64) (here : s.phase i = .locked now_ns)
      (check : rateLimited interval now_ns s.state = some retry_ms) :
      Step interval s (s.move i (.limited retry_ms))
  | grant (s : System ι) (i : ι) (now_ns : U64) (here : s.phase i = .locked now_ns)
      (check : rateLimited interval now_ns s.state = none) :
      Step interval s (s.move i (.granted now_ns))
  | truncate (s : System ι) (i : ι) (now_ns : U64) (here : s.phase i = .granted now_ns) :
      Step interval s { s.move i (.truncated now_ns) with state := [] }
  | write (s : System ι) (i : ι) (now_ns : U64) (here : s.phase i = .truncated now_ns) :
      Step interval s { s.move i (.written now_ns) with state := nowText now_ns }
  | unlockLimited (s : System ι) (i : ι) (retry_ms : U64) (here : s.phase i = .limited retry_ms) :
      Step interval s { s.move i .exited with lock := none }
  | unlockWritten (s : System ι) (i : ι) (now_ns : U64) (here : s.phase i = .written now_ns) :
      Step interval s { s.move i (.allowed now_ns) with lock := none }
  | signal (s : System ι) (i : ι) (now_ns : U64) (here : s.phase i = .allowed now_ns) :
      Step interval s (s.move i (.signalled now_ns))
  | signalFailed (s : System ι) (i : ι) (now_ns : U64) (here : s.phase i = .allowed now_ns) :
      Step interval s (s.move i (.unsignalled now_ns))

/-- Every invocation is still to come; the file may hold anything. -/
structure System.Initial (s : System ι) : Prop where
  unlocked : s.lock = none
  waiting : ∀ i, s.phase i = .start

/-- The readings of the invocations that the check has let through so far. -/
def System.admitted (s : System ι) (i : ι) : Option U64 := (s.phase i).letThrough

/-- An invocation is about to decide with a clock reading from before that of an invocation
which has already been let through: it read the clock first and got the lock second. -/
def System.Overtaken (s : System ι) : Prop :=
  ∃ i j now_ns later, (s.phase i).deciding = some now_ns ∧ s.admitted j = some later ∧
    now_ns < later

def Apart (interval : MinInterval) (a b : U64) : Prop :=
  a.toNat + interval.ms.toNat * 1000000 ≤ b.toNat ∨
    b.toNat + interval.ms.toNat * 1000000 ≤ a.toNat

/-- `a` is the last reading let through. -/
def System.Latest (s : System ι) (a : U64) : Prop :=
  (∃ i, s.admitted i = some a) ∧ ∀ j b, s.admitted j = some b → b.toNat ≤ a.toNat

/-- The file names the last reading let through, if there is one. -/
def System.Recorded (s : System ι) : Prop :=
  (∀ i, s.admitted i = none) ∨ ∃ a, s.Latest a ∧ parseUnsigned (previousText s.state) = some a

/-- What holds while nobody has been overtaken. -/
structure Limiting (interval : MinInterval) (s : System ι) : Prop where
  holder : ∀ i, (s.phase i).Holds → s.lock = some i
  apart : ∀ i j, i ≠ j → ∀ a b, s.admitted i = some a → s.admitted j = some b →
    Apart interval a b
  pending : ∀ i a, (s.phase i).pending = some a → s.Latest a
  recorded : (∀ i, (s.phase i).pending = none) → s.Recorded

theorem Apart.symm {a b : U64} (h : Apart interval a b) : Apart interval b a := Or.symm h

theorem Phase.Holds.of_pending {p : Phase} {a : U64} (h : p.pending = some a) : p.Holds := by
  cases p <;> trivial

@[simp] theorem System.move_self (s : System ι) (i : ι) (p : Phase) :
    (s.move i p).phase i = p := Function.update_self ..

theorem System.move_of_ne (s : System ι) {i j : ι} (p : Phase) (other : j ≠ i) :
    (s.move i p).phase j = s.phase j := Function.update_of_ne other ..

omit [DecidableEq ι] in
theorem System.Initial.limiting {s : System ι} (h : s.Initial) : Limiting interval s where
  holder i holds := by
    rw [h.waiting i] at holds
    exact holds.elim
  apart i j _ a b first := by
    rw [System.admitted, h.waiting i] at first
    cases first
  pending i a waits := by
    rw [h.waiting i] at waits
    cases waits
  recorded _ := by
    left
    intro i
    rw [System.admitted, h.waiting i]
    rfl

theorem System.admitted_move {s : System ι} {i : ι} {p : Phase} (j : ι) :
    (s.move i p).admitted j = if j = i then p.letThrough else s.admitted j := by
  unfold System.admitted
  by_cases here : j = i
  · rw [here, System.move_self, if_pos rfl]
  · rw [System.move_of_ne s p here, if_neg here]

theorem Limiting.holder_move {s : System ι} (h : Limiting interval s) {i : ι} {p : Phase}
    (held : p.Holds → (s.phase i).Holds) (j : ι) (holds : ((s.move i p).phase j).Holds) :
    s.lock = some j := by
  by_cases here : j = i
  · subst here
    rw [System.move_self] at holds
    exact h.holder j (held holds)
  · rw [System.move_of_ne s p here] at holds
    exact h.holder j holds

omit [DecidableEq ι] in
theorem Limiting.alone {s : System ι} (h : Limiting interval s) {i j : ι}
    (mine : (s.phase i).Holds) (other : j ≠ i) : ¬ (s.phase j).Holds := by
  intro theirs
  have lock := (h.holder i mine).symm.trans (h.holder j theirs)
  exact other (Option.some.inj lock).symm

theorem System.admitted_kept {s : System ι} {i : ι} {p : Phase}
    (through : p.letThrough = (s.phase i).letThrough) : (s.move i p).admitted = s.admitted := by
  funext j
  rw [System.admitted_move, through]
  split
  · next here => rw [here]; rfl
  · rfl

/-- A move that lets nobody through: what is left to show is who holds the lock, and what the
file says once nobody is about to write it. -/
theorem Limiting.keep {s : System ι} (h : Limiting interval s) {i : ι} {p : Phase}
    {file : List UInt8} {lock : Option ι} (through : p.letThrough = (s.phase i).letThrough)
    (still : ∀ a, p.pending = some a → (s.phase i).pending = some a)
    (holder : ∀ j, ((s.move i p).phase j).Holds → lock = some j)
    (recorded : (∀ j, ((s.move i p).phase j).pending = none) →
      (∀ j, s.admitted j = none) ∨
        ∃ a, s.Latest a ∧ parseUnsigned (previousText file) = some a) :
    Limiting interval { s.move i p with state := file, lock := lock } := by
  have same : (s.move i p).admitted = s.admitted := System.admitted_kept through
  refine ⟨holder, ?_, ?_, ?_⟩
  · change ∀ j k, j ≠ k → ∀ a b, (s.move i p).admitted j = _ → (s.move i p).admitted k = _ → _
    rw [same]
    exact h.apart
  · intro j a pending
    change (∃ k, (s.move i p).admitted k = _) ∧ ∀ k b, (s.move i p).admitted k = _ → _
    rw [same]
    by_cases here : j = i
    · subst here
      simp only [System.move_self] at pending
      exact h.pending j a (still a pending)
    · simp only [System.move_of_ne s p here] at pending
      exact h.pending j a pending
  · intro settled
    change (∀ k, (s.move i p).admitted k = _) ∨
      ∃ a, ((∃ k, (s.move i p).admitted k = _) ∧ ∀ k b, (s.move i p).admitted k = _ → _) ∧ _
    rw [same]
    exact recorded settled

/-- A move of an invocation that has nothing to write, away from the file. -/
theorem Limiting.quiet {s : System ι} (h : Limiting interval s) {i : ι} {p : Phase}
    {lock : Option ι} (through : p.letThrough = (s.phase i).letThrough)
    (before : (s.phase i).pending = none) (after : p.pending = none)
    (holder : ∀ j, ((s.move i p).phase j).Holds → lock = some j) :
    Limiting interval { s.move i p with lock := lock } := by
  apply h.keep through (fun a pending => by rw [after] at pending; cases pending) holder
  intro settled
  apply h.recorded
  intro j
  have now := settled j
  by_cases here : j = i
  · rw [here, before]
  · rwa [System.move_of_ne s p here] at now

/-- The check lets an invocation through that has not been overtaken: it is an interval after
all the others. -/
theorem Limiting.grant {s : System ι} (h : Limiting interval s) (fair : ¬ s.Overtaken) {i : ι}
    {now_ns : U64} (here : s.phase i = .locked now_ns)
    (check : rateLimited interval now_ns s.state = none) :
    Limiting interval (s.move i (.granted now_ns)) := by
  have mine : (s.phase i).Holds := by rw [here]; trivial
  have unseen : s.admitted i = none := by rw [System.admitted, here]; rfl
  have nobody : ∀ j, (s.phase j).pending = none := by
    intro j
    by_cases me : j = i
    · rw [me, here]
      rfl
    · rw [Option.eq_none_iff_forall_ne_some]
      intro a pending
      exact h.alone mine me (.of_pending pending)
  have order : ∀ j b, s.admitted j = some b → b.toNat ≤ now_ns.toNat := by
    intro j b through
    apply Nat.le_of_not_lt
    intro late
    exact fair ⟨i, j, now_ns, b, by rw [here]; rfl, through, late⟩
  -- the last reading let through is the one in the file, so the check is about it
  have after : ∀ j b, s.admitted j = some b →
      b.toNat + interval.ms.toNat * 1000000 ≤ now_ns.toNat := by
    intro j b through
    obtain none_yet | ⟨a, ⟨⟨k, last⟩, latest⟩, readback⟩ := h.recorded nobody
    · rw [none_yet j] at through
      cases through
    · have bound := latest j b through
      have past := order k a last
      obtain early | spaced := rateLimited_none readback check
      · exact absurd past (Nat.not_le.mpr early)
      · omega
  refine ⟨h.holder_move fun _ => mine, ?_, ?_, ?_⟩
  · intro j k different a b first second
    rw [System.admitted_move] at first second
    by_cases me : j = i
    · subst me
      rw [if_pos rfl] at first
      rw [if_neg (Ne.symm different)] at second
      cases first
      exact Or.inr (after k b second)
    · rw [if_neg me] at first
      by_cases it : k = i
      · subst it
        rw [if_pos rfl] at second
        cases second
        exact Or.inl (after j a first)
      · rw [if_neg it] at second
        exact h.apart j k different a b first second
  · intro j a pending
    have me : j = i := by
      by_contra other
      rw [System.move_of_ne s _ other, nobody j] at pending
      cases pending
    subst me
    rw [System.move_self] at pending
    cases pending
    refine ⟨⟨j, by rw [System.admitted_move, if_pos rfl]; rfl⟩, ?_⟩
    intro k b through
    rw [System.admitted_move] at through
    split at through
    · cases through
      exact Nat.le_refl _
    · exact order k b through
  · intro settled
    have mine := settled i
    rw [System.move_self] at mine
    cases mine

theorem Limiting.truncate {s : System ι} (h : Limiting interval s) {i : ι} {now_ns : U64}
    (here : s.phase i = .granted now_ns) :
    Limiting interval { s.move i (.truncated now_ns) with state := [] } := by
  have mine : (s.phase i).Holds := by rw [here]; trivial
  apply h.keep
  · rw [here]
    rfl
  · intro a pending
    rw [here]
    exact pending
  · exact h.holder_move fun _ => mine
  · intro settled
    have waits := settled i
    rw [System.move_self] at waits
    cases waits

/-- `write` under the lock: the file names the last reading let through. -/
theorem Limiting.write {s : System ι} (h : Limiting interval s) {i : ι} {now_ns : U64}
    (here : s.phase i = .truncated now_ns) :
    Limiting interval { s.move i (.written now_ns) with state := nowText now_ns } := by
  have mine : (s.phase i).Holds := by rw [here]; trivial
  apply h.keep
  · rw [here]
    rfl
  · intro a pending
    cases pending
  · exact h.holder_move fun _ => mine
  · intro _
    have latest : s.Latest now_ns := h.pending i now_ns (by rw [here]; rfl)
    exact Or.inr ⟨now_ns, latest, parseUnsigned_nowText now_ns⟩

theorem Limiting.unlocked {s : System ι} (h : Limiting interval s) {i : ι} {p : Phase}
    (mine : (s.phase i).Holds) (left : ¬ p.Holds) (j : ι) : ¬ ((s.move i p).phase j).Holds := by
  by_cases here : j = i
  · rw [here, System.move_self]
    exact left
  · rw [System.move_of_ne s p here]
    exact h.alone mine here

theorem Limiting.locked {s : System ι} (h : Limiting interval s) {i : ι} {p : Phase}
    (free : s.lock = none) (j : ι) (holds : ((s.move i p).phase j).Holds) : some i = some j := by
  by_cases here : j = i
  · rw [here]
  · rw [System.move_of_ne s p here] at holds
    have theirs := h.holder j holds
    rw [free] at theirs
    cases theirs

/-- One step of any invocation keeps the limit, unless it was overtaken. -/
theorem step_limiting {s t : System ι} (h : Limiting interval s) (fair : ¬ s.Overtaken)
    (step : Step interval s t) : Limiting interval t := by
  cases step with
  | tick now later => exact ⟨h.holder, h.apart, h.pending, h.recorded⟩
  | refuse i here =>
    exact h.quiet (by rw [here]; rfl) (by rw [here]; rfl) rfl (h.holder_move False.elim)
  | readClock i here =>
    exact h.quiet (by rw [here]; rfl) (by rw [here]; rfl) rfl (h.holder_move False.elim)
  | openState i now_ns here =>
    exact h.quiet (by rw [here]; rfl) (by rw [here]; rfl) rfl (h.holder_move False.elim)
  | takeLock i now_ns here free =>
    exact h.quiet (by rw [here]; rfl) (by rw [here]; rfl) rfl (h.locked free)
  | limit i now_ns retry_ms here check =>
    have mine : (s.phase i).Holds := by rw [here]; trivial
    exact h.quiet (by rw [here]; rfl) (by rw [here]; rfl) rfl (h.holder_move fun _ => mine)
  | grant i now_ns here check => exact h.grant fair here check
  | truncate i now_ns here => exact h.truncate here
  | write i now_ns here => exact h.write here
  | unlockLimited i retry_ms here =>
    have mine : (s.phase i).Holds := by rw [here]; trivial
    apply h.quiet (by rw [here]; rfl) (by rw [here]; rfl) rfl
    exact fun j holds => absurd holds (h.unlocked mine id j)
  | unlockWritten i now_ns here =>
    have mine : (s.phase i).Holds := by rw [here]; trivial
    apply h.quiet (by rw [here]; rfl) (by rw [here]; rfl) rfl
    exact fun j holds => absurd holds (h.unlocked mine id j)
  | signal i now_ns here =>
    exact h.quiet (by rw [here]; rfl) (by rw [here]; rfl) rfl (h.holder_move False.elim)
  | signalFailed i now_ns here =>
    exact h.quiet (by rw [here]; rfl) (by rw [here]; rfl) rfl (h.holder_move False.elim)

def FairStep (interval : MinInterval) (s t : System ι) : Prop :=
  ¬ s.Overtaken ∧ Step interval s t

theorem reachable_limiting {s t : System ι} (initial : s.Initial)
    (run : Relation.ReflTransGen (FairStep interval) s t) : Limiting interval t := by
  induction run with
  | refl => exact initial.limiting
  | tail _ step ih => exact step_limiting ih step.1 step.2

end VitaLinux.Toolkit.Control
