import Mathlib.Data.List.Induction
import Mathlib.Order.Bounds.Defs
import VitaLinux.Toolkit.Control.Next

/-!
# `vita-control next`, one invocation after the other

`update_rate_state` with everything the calls on the state file can return, and `main`
around it. The state file is all that one invocation leaves to the next.
-/

namespace VitaLinux.Toolkit.Control

open VitaLinux.Base

/-- What the calls that change the state file do: whether `ftruncate` and `lseek` succeed,
and how many bytes `write` has written when it returns or fails. -/
structure FileCalls where
  truncates : Bool
  seeks : Bool
  written : Nat

/-- No call fails: `write` writes whatever it is given. -/
def FileCalls.working : FileCalls :=
  { truncates := true, seeks := true, written := PID_BUFFER }

inductive Update where
  /-- `rate_limited`, with `retry_ms` -/
  | limited (retry_ms : U64)
  /-- `rate_state_write_failed` -/
  | failed
  | allowed
  deriving DecidableEq

/-- `update_rate_state` on the file's contents, which it may change. -/
def updateRateState (interval : MinInterval) (now_ns : U64) (calls : FileCalls)
    (file : List UInt8) : Update × List UInt8 :=
  match rateLimited interval now_ns file with
  | some retry_ms => (.limited retry_ms, file)
  | none =>
    let text := nowText now_ns
    if PID_BUFFER ≤ text.length then (.failed, file)
    else if !calls.truncates then (.failed, file)
    else if !calls.seeks then (.failed, [])
    else if calls.written < text.length then (.failed, text.take calls.written)
    else (.allowed, text)

structure Invocation where
  /-- `load_target` accepts the pid file -/
  target : Bool
  now_ns : U64
  calls : FileCalls
  /-- `kill(pid, SIGUSR1)` succeeds -/
  delivered : Bool

inductive Outcome where
  | badTarget
  | limited (retry_ms : U64)
  | writeFailed
  | signalFailed
  | triggered
  deriving DecidableEq

/-- The part of `main` for `next`. -/
def next (interval : MinInterval) (invocation : Invocation) (file : List UInt8) :
    Outcome × List UInt8 :=
  if !invocation.target then (.badTarget, file)
  else
    match updateRateState interval invocation.now_ns invocation.calls file with
    | (.limited retry_ms, after) => (.limited retry_ms, after)
    | (.failed, after) => (.writeFailed, after)
    | (.allowed, after) => (if invocation.delivered then .triggered else .signalFailed, after)

/-- The check has let the invocation through, whether or not the signal arrived. -/
def Outcome.admitted : Outcome → Bool
  | .triggered | .signalFailed => true
  | _ => false

/-- The state file, and the invocations so far with what came of each. -/
structure History where
  file : List UInt8
  past : List (Invocation × Outcome)

def History.invoke (interval : MinInterval) (history : History) (invocation : Invocation) :
    History :=
  let ended := next interval invocation history.file
  { file := ended.2, past := history.past ++ [(invocation, ended.1)] }

def History.run (interval : MinInterval) (history : History) (invocations : List Invocation) :
    History :=
  invocations.foldl (History.invoke interval) history

/-- The clock readings of the invocations that the check has let through. -/
def History.admitted (history : History) : List U64 :=
  (history.past.filter fun entry => entry.2.admitted).map fun entry => entry.1.now_ns

def History.signalled (history : History) : List U64 :=
  (history.past.filter fun entry => entry.2 = .triggered).map fun entry => entry.1.now_ns

def History.fresh (file : List UInt8) : History := { file, past := [] }

theorem History.run_append (interval : MinInterval) (history : History)
    (first second : List Invocation) :
    history.run interval (first ++ second) = (history.run interval first).run interval second :=
  List.foldl_append

theorem History.admitted_invoke (interval : MinInterval) (history : History)
    (invocation : Invocation) :
    (history.invoke interval invocation).admitted = history.admitted ++
      if (next interval invocation history.file).1.admitted then [invocation.now_ns] else [] := by
  unfold invoke admitted
  rw [List.filter_append, List.map_append]
  cases h : (next interval invocation history.file).1.admitted <;> simp [h]

theorem History.signalled_invoke (interval : MinInterval) (history : History)
    (invocation : Invocation) :
    (history.invoke interval invocation).signalled = history.signalled ++
      if (next interval invocation history.file).1 = .triggered then [invocation.now_ns]
      else [] := by
  unfold invoke signalled
  rw [List.filter_append, List.map_append]
  by_cases h : (next interval invocation history.file).1 = .triggered <;> simp [h]

/-- The check, when the file names a reading that is not in the future. -/
theorem rateLimited_eq (interval : MinInterval) {now_ns previous_ns : U64} {file : List UInt8}
    (readback : parseUnsigned (previousText file) = some previous_ns)
    (order : previous_ns.toNat ≤ now_ns.toNat) :
    (now_ns.toNat < previous_ns.toNat + interval.ms.toNat * 1000000 →
      ∃ retry_ms, rateLimited interval now_ns file = some retry_ms ∧
        retry_ms.toNat = (previous_ns.toNat + interval.ms.toNat * 1000000 - now_ns.toNat
          + 999999) / 1000000) ∧
    (previous_ns.toNat + interval.ms.toNat * 1000000 ≤ now_ns.toNat →
      rateLimited interval now_ns file = none) := by
  have later : now_ns ≥ previous_ns := order
  have elapsed : (now_ns - previous_ns).toNat = now_ns.toNat - previous_ns.toNat :=
    BitVec.toNat_sub_of_le later
  have bounded : interval.ms.toNat ≤ 3600000 := interval.bounded
  have check : rateLimited interval now_ns file =
      if now_ns - previous_ns < interval.ns then
        some ((interval.ns - (now_ns - previous_ns) + 999999) / 1000000) else none := by
    unfold rateLimited
    simp [readback, later]
  have short : now_ns - previous_ns < interval.ns ↔
      now_ns.toNat < previous_ns.toNat + interval.ms.toNat * 1000000 := by
    rw [BitVec.lt_def, elapsed, interval.ns_toNat]
    omega
  rw [check]
  constructor
  · intro early
    rw [if_pos (short.mpr early)]
    refine ⟨_, rfl, ?_⟩
    have left : (interval.ns - (now_ns - previous_ns)).toNat =
        previous_ns.toNat + interval.ms.toNat * 1000000 - now_ns.toNat := by
      rw [BitVec.toNat_sub_of_le (BitVec.le_of_lt (short.mpr early)), elapsed, interval.ns_toNat]
      omega
    have round : (999999 : U64).toNat = 999999 := rfl
    have unit : (1000000 : U64).toNat = 1000000 := rfl
    rw [BitVec.toNat_udiv, BitVec.toNat_add, left, round, unit, Nat.mod_eq_of_lt]
    omega
  · intro late
    rw [if_neg fun recent => Nat.not_le.mpr (short.mp recent) late]

def Recent (interval : MinInterval) (time : Nat) (reading : U64) : Prop :=
  reading.toNat ≤ time ∧ time < reading.toNat + interval.ms.toNat * 1000000

/-- The file says when the last invocation was let through. -/
def Noted (admitted : List U64) (file : List UInt8) : Prop :=
  (admitted = [] ∧ file = []) ∨
    ∃ last ∈ admitted, (∀ a ∈ admitted, a.toNat ≤ last.toNat) ∧ file = nowText last

/-- No call fails, and the target is there. -/
def Invocation.Smooth (invocation : Invocation) : Prop :=
  invocation.target = true ∧ invocation.calls.truncates = true ∧ invocation.calls.seeks = true ∧
    PID_BUFFER ≤ invocation.calls.written

/-- Without failures an invocation is refused and changes nothing, or is let through and notes
its reading. -/
theorem next_smooth (interval : MinInterval) {invocation : Invocation} (file : List UInt8)
    (smooth : invocation.Smooth) :
    (∃ retry_ms, rateLimited interval invocation.now_ns file = some retry_ms ∧
      next interval invocation file = (.limited retry_ms, file)) ∨
    (rateLimited interval invocation.now_ns file = none ∧
      (next interval invocation file).1.admitted = true ∧
      (next interval invocation file).2 = nowText invocation.now_ns) := by
  obtain ⟨target, truncates, seeks, written⟩ := smooth
  have fits := nowText_length invocation.now_ns
  cases check : rateLimited interval invocation.now_ns file with
  | some retry_ms => exact .inl ⟨retry_ms, rfl, by simp [next, updateRateState, target, check]⟩
  | none =>
    have whole : ¬ invocation.calls.written < (nowText invocation.now_ns).length := by omega
    have short : ¬ PID_BUFFER ≤ (nowText invocation.now_ns).length := by omega
    refine .inr ⟨rfl, ?_, ?_⟩
    · cases delivered : invocation.delivered <;>
        simp [next, updateRateState, target, check, truncates, seeks, whole, short, delivered,
          Outcome.admitted]
    · simp [next, updateRateState, target, check, truncates, seeks, whole, short]

/-- The check against what the file says is the law about all readings let through. -/
theorem Noted.check {admitted : List U64} {file : List UInt8} {now_ns : U64}
    (noted : Noted admitted file) (interval : MinInterval)
    (order : ∀ a ∈ admitted, a.toNat ≤ now_ns.toNat) :
    (rateLimited interval now_ns file = none ∧
      ∀ a ∈ admitted, ¬ Recent interval now_ns.toNat a) ∨
    ∃ retry_ms, rateLimited interval now_ns file = some retry_ms ∧ 0 < retry_ms.toNat ∧
      ∀ r : Nat, (∀ a ∈ admitted, ¬ Recent interval (now_ns.toNat + r * 1000000) a) ↔
        retry_ms.toNat ≤ r := by
  obtain ⟨rfl, rfl⟩ | ⟨last, member, latest, rfl⟩ := noted
  · exact .inl ⟨rfl, by simp⟩
  · have past := order last member
    obtain ⟨early, late⟩ := rateLimited_eq interval (parseUnsigned_nowText last) past
    by_cases recent : now_ns.toNat < last.toNat + interval.ms.toNat * 1000000
    · obtain ⟨retry_ms, check, wait⟩ := early recent
      refine .inr ⟨retry_ms, check, by omega, fun r => ?_⟩
      constructor
      · intro free
        have := free last member
        unfold Recent at this
        omega
      · intro waited a mem
        have := latest a mem
        unfold Recent
        omega
    · refine .inl ⟨late (Nat.not_lt.mp recent), fun a mem => ?_⟩
      have := latest a mem
      unfold Recent
      omega

def Ordered (invocations : List Invocation) : Prop :=
  invocations.Pairwise fun a b => a.now_ns.toNat ≤ b.now_ns.toNat

theorem Ordered.init {past : List Invocation} {invocation : Invocation}
    (h : Ordered (past ++ [invocation])) : Ordered past :=
  (List.pairwise_append.mp h).1

theorem Ordered.last {past : List Invocation} {invocation : Invocation}
    (h : Ordered (past ++ [invocation])) :
    ∀ earlier ∈ past, earlier.now_ns.toNat ≤ invocation.now_ns.toNat :=
  fun _ member => (List.pairwise_append.mp h).2.2 _ member _ List.mem_cons_self

/-- Only invocations of the run have been let through. -/
theorem admitted_run {interval : MinInterval} {file : List UInt8} {past : List Invocation}
    {a : U64} (member : a ∈ ((History.fresh file).run interval past).admitted) :
    ∃ earlier ∈ past, earlier.now_ns = a := by
  induction past using List.reverseRecOn with
  | nil => cases member
  | append_singleton past invocation ih =>
    rw [History.run_append, History.run, List.foldl_cons, List.foldl_nil,
      History.admitted_invoke, List.mem_append] at member
    obtain before | now := member
    · obtain ⟨earlier, mem, reading⟩ := ih before
      exact ⟨earlier, List.mem_append_left _ mem, reading⟩
    · split at now
      · rw [List.mem_singleton] at now
        exact ⟨invocation, by simp, now.symm⟩
      · cases now

/-- Over a run without failures the file says when the last invocation was let through. -/
theorem noted_run {interval : MinInterval} {past : List Invocation} (ordered : Ordered past)
    (smooth : ∀ invocation ∈ past, invocation.Smooth) :
    Noted ((History.fresh []).run interval past).admitted
      ((History.fresh []).run interval past).file := by
  induction past using List.reverseRecOn with
  | nil => exact .inl ⟨rfl, rfl⟩
  | append_singleton past invocation ih =>
    have noted := ih ordered.init fun i member => smooth i (List.mem_append_left _ member)
    have order : ∀ a ∈ ((History.fresh []).run interval past).admitted,
        a.toNat ≤ invocation.now_ns.toNat := by
      intro a member
      obtain ⟨earlier, mem, rfl⟩ := admitted_run member
      exact ordered.last earlier mem
    rw [History.run_append, History.run, List.foldl_cons, List.foldl_nil,
      History.admitted_invoke]
    generalize (History.fresh []).run interval past = history at noted order ⊢
    have fine := smooth invocation (by simp)
    change Noted _ (next interval invocation history.file).2
    obtain ⟨retry_ms, _, refused⟩ | ⟨_, through, written⟩ :=
      next_smooth interval history.file fine
    · rw [refused]
      simpa [Outcome.admitted] using noted
    · rw [written, if_pos through]
      refine .inr ⟨invocation.now_ns, by simp, ?_, rfl⟩
      intro a member
      obtain before | now := List.mem_append.mp member
      · exact order a before
      · rw [List.mem_singleton.mp now]

/-- The law of one invocation after others: it is let through exactly when nobody else has
been within the interval before. Otherwise it changes nothing and reports the least number
of milliseconds after which an invocation is let through. -/
structure Lawful (interval : MinInterval) (history : History) (invocation : Invocation) :
    Prop where
  admits : (next interval invocation history.file).1.admitted = true ↔
    ∀ a ∈ history.admitted, ¬ Recent interval invocation.now_ns.toNat a
  refuses : (next interval invocation history.file).1.admitted = false →
    (next interval invocation history.file).2 = history.file ∧
    ∃ retry_ms, (next interval invocation history.file).1 = .limited retry_ms ∧
      IsLeast {r : Nat | ∀ a ∈ history.admitted,
        ¬ Recent interval (invocation.now_ns.toNat + r * 1000000) a} retry_ms.toNat ∧
      ∀ later : Invocation, later.Smooth → ∀ r : Nat,
        later.now_ns.toNat = invocation.now_ns.toNat + r * 1000000 →
        ((next interval later history.file).1.admitted = true ↔ retry_ms.toNat ≤ r)

theorem Noted.lawful {interval : MinInterval} {history : History} {invocation : Invocation}
    (noted : Noted history.admitted history.file)
    (order : ∀ a ∈ history.admitted, a.toNat ≤ invocation.now_ns.toNat)
    (smooth : invocation.Smooth) : Lawful interval history invocation := by
  have law {i : Invocation} (fine : i.Smooth)
      (order : ∀ a ∈ history.admitted, a.toNat ≤ i.now_ns.toNat) :
      (next interval i history.file).1.admitted = true ↔
        ∀ a ∈ history.admitted, ¬ Recent interval i.now_ns.toNat a := by
    obtain ⟨retry, limited, refused⟩ | ⟨granted, through, _⟩ :=
      next_smooth interval history.file fine <;>
      obtain ⟨check, free⟩ | ⟨retry', check, wait, least⟩ :=
        noted.check interval order
    · rw [check] at limited
      cases limited
    · have early : ¬ ∀ a ∈ history.admitted, ¬ Recent interval i.now_ns.toNat a := by
        have now := least 0
        simp only [Nat.zero_mul, Nat.add_zero] at now
        rw [now]
        omega
      simp [refused, Outcome.admitted, early]
    · exact ⟨fun _ => free, fun _ => through⟩
    · rw [check] at granted
      cases granted
  refine ⟨law smooth order, fun kept_out => ?_⟩
  obtain ⟨retry_ms, limited, refused⟩ | ⟨_, through, _⟩ :=
    next_smooth interval history.file smooth
  · obtain ⟨check, _⟩ | ⟨retry', check, _, least⟩ := noted.check interval order
    · rw [check] at limited
      cases limited
    · rw [check] at limited
      cases limited
      refine ⟨by rw [refused], _, by rw [refused], ⟨(least _).mpr (Nat.le_refl _), ?_⟩, ?_⟩
      · exact fun r free => (least r).mp free
      · intro later fine r reading
        have order (a : U64) (member : a ∈ history.admitted) : a.toNat ≤ later.now_ns.toNat := by
          have := order a member
          omega
        rw [law fine order, reading, least r]
  · rw [through] at kept_out
    cases kept_out

/-- `vita-control next` one invocation after the other, over a file that was empty. -/
theorem next_sequential (interval : MinInterval) (past : List Invocation) (invocation : Invocation)
    (ordered : Ordered (past ++ [invocation]))
    (smooth : ∀ i ∈ past ++ [invocation], i.Smooth) :
    Lawful interval ((History.fresh []).run interval past) invocation ∧
      ∀ timestamp : U64, parseUnsigned (previousText (nowText timestamp)) = some timestamp := by
  have before : ∀ i ∈ past, i.Smooth := fun i member => smooth i (List.mem_append_left _ member)
  refine ⟨(noted_run ordered.init before).lawful ?_ (smooth invocation (by simp)),
    parseUnsigned_nowText⟩
  intro a member
  obtain ⟨earlier, mem, rfl⟩ := admitted_run member
  exact ordered.last earlier mem

def smoothAt (now_ns : U64) : Invocation :=
  { target := true, now_ns, calls := .working, delivered := true }

theorem next_sequential_twice :
    Lawful ⟨500, by decide⟩
      ((History.fresh []).run ⟨500, by decide⟩ [smoothAt 1000000000]) (smoothAt 1200000000) ∧
      ∀ timestamp : U64, parseUnsigned (previousText (nowText timestamp)) = some timestamp :=
  next_sequential _ [smoothAt 1000000000] (smoothAt 1200000000)
    (by unfold Ordered; decide)
    (List.forall_mem_cons.mpr ⟨⟨rfl, rfl, rfl, Nat.le_refl _⟩,
      List.forall_mem_cons.mpr ⟨⟨rfl, rfl, rfl, Nat.le_refl _⟩, by simp⟩⟩)

/-! ## The same invocation among concurrent ones -/

/-- Where an invocation stands when it has come to this. -/
def Outcome.phase (now_ns : U64) : Outcome → Phase
  | .triggered => .signalled now_ns
  | .signalFailed => .unsignalled now_ns
  | _ => .exited

section Alone

variable {ι : Type*} [DecidableEq ι] {interval : MinInterval}

/-- The system with one invocation moved, and what it does to the file and the lock. -/
def System.place (s : System ι) (i : ι) (p : Phase) (file : List UInt8) (lock : Option ι) :
    System ι :=
  { s.move i p with state := file, lock := lock }

theorem System.place_place (s : System ι) (i : ι) (p q : Phase) (file file' : List UInt8)
    (lock lock' : Option ι) :
    (s.place i p file lock).place i q file' lock' = s.place i q file' lock' := by
  unfold System.place System.move
  simp

/-- A step of an invocation takes it from one place to the next. -/
theorem Step.places {s : System ι} {i : ι} {p q : Phase} {file file' : List UInt8}
    {lock lock' : Option ι}
    (step : Step interval (s.place i p file lock) ((s.place i p file lock).place i q file' lock')) :
    Step interval (s.place i p file lock) (s.place i q file' lock') := by
  rwa [System.place_place] at step

@[simp] theorem System.place_phase (s : System ι) (i : ι) (p : Phase) (file : List UInt8)
    (lock : Option ι) : (s.place i p file lock).phase i = p := Function.update_self ..

/-- While nobody holds the lock, an invocation that runs by itself does what `next` says. -/
theorem next_steps {s : System ι} {i : ι} {invocation : Invocation} (waits : s.phase i = .start)
    (free : s.lock = none) (clock : s.clock = invocation.now_ns) (smooth : invocation.Smooth) :
    Relation.ReflTransGen (Step interval) s
      (s.place i ((next interval invocation s.state).1.phase invocation.now_ns)
        (next interval invocation s.state).2 none) := by
  generalize now : invocation.now_ns = now_ns at clock
  have read : Step interval s (s.place i (.clocked now_ns) s.state none) := by
    have step : Step interval s _ := .readClock s i waits
    rw [clock] at step
    rwa [System.place, ← free]
  have opened : Step interval (s.place i (.clocked now_ns) s.state none)
      (s.place i (.opened now_ns) s.state none) := .places (.openState _ i now_ns (by simp))
  have locked : Step interval (s.place i (.opened now_ns) s.state none)
      (s.place i (.locked now_ns) s.state (some i)) :=
    .places (.takeLock _ i now_ns (by simp) rfl)
  have before := ((Relation.ReflTransGen.single read).tail opened).tail locked
  obtain ⟨retry_ms, check, refused⟩ | ⟨check, through, written⟩ :=
    next_smooth interval s.state smooth
  · have limited : Step interval (s.place i (.locked now_ns) s.state (some i))
        (s.place i (.limited retry_ms) s.state (some i)) :=
      .places (.limit _ i now_ns retry_ms (by simp) (now ▸ check))
    have unlocked : Step interval (s.place i (.limited retry_ms) s.state (some i))
        (s.place i .exited s.state none) := .places (.unlockLimited _ i retry_ms (by simp))
    rw [refused]
    exact (before.tail limited).tail unlocked
  · have granted : Step interval (s.place i (.locked now_ns) s.state (some i))
        (s.place i (.granted now_ns) s.state (some i)) :=
      .places (.grant _ i now_ns (by simp) (now ▸ check))
    have truncated : Step interval (s.place i (.granted now_ns) s.state (some i))
        (s.place i (.truncated now_ns) [] (some i)) := .places (.truncate _ i now_ns (by simp))
    have noted : Step interval (s.place i (.truncated now_ns) [] (some i))
        (s.place i (.written now_ns) (nowText now_ns) (some i)) :=
      .places (.write _ i now_ns (by simp))
    have unlocked : Step interval (s.place i (.written now_ns) (nowText now_ns) (some i))
        (s.place i (.allowed now_ns) (nowText now_ns) none) :=
      .places (.unlockWritten _ i now_ns (by simp))
    have allowed := (((before.tail granted).tail truncated).tail noted).tail unlocked
    rw [written, now]
    generalize (next interval invocation s.state).1 = outcome at through
    cases outcome with
    | triggered => exact allowed.tail (.places (.signal _ i now_ns (by simp)))
    | signalFailed => exact allowed.tail (.places (.signalFailed _ i now_ns (by simp)))
    | badTarget | limited | writeFailed => cases through

end Alone

end VitaLinux.Toolkit.Control
