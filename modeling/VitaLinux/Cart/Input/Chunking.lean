import Mathlib.Data.Finset.Lattice.Fold
import Mathlib.Data.Fintype.Basic
import VitaLinux.Cart.Input.PollRounds

/-!
# Does it matter how a stream is cut?

Two schedules for the same devices lead to the same sources unless one of them
lets a read find nothing while a SYN_DROPPED is open: that source is never read
again.
-/

namespace VitaLinux.Cart

open Base

/-- The engine after some polls, all of which returned. -/
def pollTimes (abi : Abi) (ops : CartInputOps) (fuel : Nat) :
    Nat → InputEngine → Option InputEngine
  | 0, engine => some engine
  | count + 1, engine =>
    match cartInputPoll abi ops fuel engine with
    | (engine, some _) => pollTimes abi ops fuel count engine
    | (_, none) => none

def DeviceSet.begin (devices : DeviceSet) : InputEngine := ⟨devices.input, []⟩

/-- Polls lead to this engine, and further polls change nothing in its memory. -/
def Settles (abi : Abi) (devices : DeviceSet) (next : ReadSchedule) (final : InputEngine) : Prop :=
  ∃ fuel count, pollTimes abi (devices.ops next) fuel count devices.begin = some final ∧
    ∀ more, ∃ engine,
      pollTimes abi (devices.ops next) fuel (count + more) devices.begin = some engine ∧
        engine.input = final.input

/-- The source has received every byte of its stream, consumed every complete record
and noticed the end if there is one. -/
structure ConsumedAll (abi : Abi) (devices : DeviceSet) (index : SourceIndex)
    (engine : InputEngine) : Prop where
  received : bytesReceived (devices.fd index) engine.trace = (devices.device index).bytes.length
  consumed : recordsConsumed (devices.fd index) engine.trace =
    (devices.device index).bytes.length / inputEventSize abi
  ended : (devices.device index).ends.isSome = true → (engine.source index).state = .absent

/-- Both schedules settle, with all streams consumed and the same sources, partial
buffers and emitted actions. -/
def SameOutcome (abi : Abi) (devices : DeviceSet) (next next' : ReadSchedule) : Prop :=
  ∃ engine engine', Settles abi devices next engine ∧ Settles abi devices next' engine' ∧
    (∀ index, 0 ≤ devices.fd index →
      ConsumedAll abi devices index engine ∧ ConsumedAll abi devices index engine') ∧
    ∀ index, engine.source index = engine'.source index ∧
      engine.buffer index = engine'.buffer index ∧
      emittedBy index engine.trace = emittedBy index engine'.trace

/-- The schedule lets no read of a connected source stall it. -/
def NeverStalls (abi : Abi) (devices : DeviceSet) (next : ReadSchedule) : Prop :=
  ∀ index, 0 ≤ devices.fd index →
    ¬ (devices.device index).Stalls abi (next (devices.fd index))

/-- Before its stream is exhausted each connected source finds EAGAIN only finitely
often. -/
def FairSchedule (abi : Abi) (devices : DeviceSet) (next : ReadSchedule) : Prop :=
  ∀ index, 0 ≤ devices.fd index →
    (devices.device index).Fair abi (next (devices.fd index))

variable {abi : Abi} {devices : DeviceSet} {next : ReadSchedule}

/-! ## Runs of polls -/

def DeviceSet.initialStatus (devices : DeviceSet) (index : SourceIndex) : SourceStatus :=
  if 0 ≤ devices.fd index then .waits 0 else .free

theorem begin_stands (index : SourceIndex) :
    Stands abi devices next index devices.begin (devices.initialStatus index) := by
  simp only [DeviceSet.initialStatus]
  split
  case isTrue present =>
    have nothing : leftover (inputEventSize abi) ([] : List UInt8) = [] :=
      leftover_of_short (inputEventSize_pos abi)
    have noEvents : eventsIn abi [] = [] := eventsIn_of_short (inputEventSize_pos abi)
    refine ⟨?_, present⟩
    constructor
    · simp only [DeviceSet.viewAt, DeviceSet.sent, DeviceStream.sent, List.take_zero, noEvents]
      rfl
    · simp only [DeviceSet.sent, DeviceStream.sent, List.take_zero, nothing]
      exact devices.empty index present
    · rfl
    · rfl
    · exact Nat.zero_le _
  case isFalse free => exact ⟨⟨rfl, rfl, rfl⟩, Int.not_le.mp free⟩

/-- What every poll preserves holds of the sources after a run of polls. -/
theorem pollTimes_invariant {Q : Nat → SourceIndex → SourceStatus → Prop}
    (step : ∀ count index status status', Q count index status →
      Polled abi devices next index status status' → Q (count + 1) index status')
    (fuel count : Nat) :
    ∀ (before : Nat) (engine final : InputEngine) (status : SourceIndex → SourceStatus),
      (∀ index, Stands abi devices next index engine (status index)) →
      (∀ index, Q before index (status index)) →
      pollTimes abi (devices.ops next) fuel count engine = some final →
      ∃ status' : SourceIndex → SourceStatus, ∀ index,
        Stands abi devices next index final (status' index) ∧
          Q (before + count) index (status' index) := by
  induction count with
  | zero =>
    intro before engine final status stands holds run
    obtain rfl := Option.some.inj run
    exact ⟨status, fun index => ⟨stands index, holds index⟩⟩
  | succ count ih =>
    intro before engine final status stands holds run
    have moves := (cartInputPoll_spec abi next fuel stands).2
    simp only [pollTimes] at run
    generalize cartInputPoll abi (devices.ops next) fuel engine = polled at run moves
    obtain ⟨after, action⟩ := polled
    cases action with
    | none => cases run
    | some action =>
      obtain ⟨status', each⟩ := moves rfl
      obtain ⟨status'', final'⟩ := ih (before + 1) after final status'
        (fun index => (each index).1)
        (fun index => step before index _ _ (holds index) (each index).2) run
      refine ⟨status'', fun index => ⟨(final' index).1, ?_⟩⟩
      have counted := (final' index).2
      rwa [Nat.add_right_comm, Nat.add_assoc] at counted

/-- With fuel for the longest stream any number of polls returns. -/
theorem pollTimes_returns (abi : Abi) (next : ReadSchedule) {fuel : Nat}
    (enough : ∀ index, (devices.device index).bytes.length < fuel) (count : Nat) :
    ∀ (engine : InputEngine) (status : SourceIndex → SourceStatus),
      (∀ index, Stands abi devices next index engine (status index)) →
      ∃ final, pollTimes abi (devices.ops next) fuel count engine = some final := by
  induction count with
  | zero => exact fun engine _ _ => ⟨engine, rfl⟩
  | succ count ih =>
    intro engine status stands
    obtain ⟨returns, moves⟩ := cartInputPoll_spec abi next fuel stands
    have returned := returns enough
    obtain ⟨status', each⟩ := moves returned
    obtain ⟨action, some_⟩ := Option.isSome_iff_exists.mp returned
    obtain ⟨final, run⟩ := ih (cartInputPoll abi (devices.ops next) fuel engine).1 status'
      fun index => (each index).1
    refine ⟨final, ?_⟩
    simp only [pollTimes]
    generalize cartInputPoll abi (devices.ops next) fuel engine = polled at some_ run ⊢
    obtain ⟨after, _⟩ := polled
    obtain rfl := some_
    exact run

theorem pollTimes_add (ops : CartInputOps) (fuel first second : Nat) :
    ∀ engine, pollTimes abi ops fuel (first + second) engine =
      (pollTimes abi ops fuel first engine).bind (pollTimes abi ops fuel second) := by
  induction first with
  | zero =>
    intro engine
    rw [Nat.zero_add]
    rfl
  | succ first ih =>
    intro engine
    rw [Nat.succ_add]
    simp only [pollTimes]
    generalize cartInputPoll abi ops fuel engine = polled
    obtain ⟨after, action⟩ := polled
    cases action with
    | none => rfl
    | some action => exact ih after

/-! ## A stalled source -/

/-- A source that will stall has not read past that point. -/
def NotPast (index : SourceIndex) (stall : Nat) (other : SourceIndex) :
    SourceStatus → Prop
  | .free => other ≠ index
  | .waits reads => other = index → reads ≤ stall + 1
  | .gone => other ≠ index

theorem sent_mono (abi : Abi) (devices : DeviceSet) (next : ReadSchedule) (index : SourceIndex)
    {read read' : Nat} (h : read ≤ read') :
    devices.sent abi next index read ≤ devices.sent abi next index read' :=
  DeviceStream.sent_mono h

theorem sent_le_total (index : SourceIndex) (read : Nat) :
    devices.sent abi next index read ≤ (devices.device index).total :=
  DeviceStream.sent_le_total read

/-- Where a pump stops it has not passed a read that finds EAGAIN. -/
theorem last_le_stall {index : SourceIndex} {stall reads last : Nat}
    (none : next (devices.fd index) stall = none) (from_ : reads ≤ stall)
    (delivered : ∀ k, reads ≤ k → k < last → Delivers abi devices next index k) :
    last ≤ stall := by
  apply Nat.not_lt.mp
  intro past
  exact (delivered stall from_ past).1 none

theorem Polled.notPast {index : SourceIndex} {stall : Nat}
    (none : next (devices.fd index) stall = none)
    (short : devices.sent abi next index stall < (devices.device index).total)
    (dropped : DropOpen abi devices next index stall) {other : SourceIndex}
    {status status' : SourceStatus} (h : NotPast index stall other status)
    (polled : Polled abi devices next other status status') :
    NotPast index stall other status' := by
  have stuck : DropOpen abi devices next index (stall + 1) := by
    rw [DropOpen, sent_of_pause (Or.inl none)]
    exact dropped
  have before {reads : Nat} (bound : reads ≤ stall + 1)
      (synced : ¬ DropOpen abi devices next index reads) : reads ≤ stall := by
    apply Nat.le_of_lt_succ
    apply Nat.lt_of_le_of_ne bound
    rintro rfl
    exact synced stuck
  cases polled with
  | free => exact h
  | gone => exact h
  | skipped => exact h
  | @paused reads last synced from_ delivered pause =>
    rintro rfl
    exact Nat.succ_le_succ (last_le_stall none (before (h rfl) synced) delivered)
  | @ended reads last synced from_ delivered ends =>
    rintro rfl
    have stop := last_le_stall none (before (h rfl) synced) delivered
    rcases Nat.lt_or_ge last stall with earlier | here
    · have all := sent_mono abi devices next other earlier
      rw [sent_of_end ends] at all
      omega
    · rw [Nat.le_antisymm stop here] at ends
      exact ends.1 none

/-- A schedule that stalls a source keeps it from consuming its whole stream. -/
theorem Settles.not_stalled {final : InputEngine} (h : Settles abi devices next final)
    {index : SourceIndex} (present : 0 ≤ devices.fd index)
    (consumed : ConsumedAll abi devices index final) :
    ¬ (devices.device index).Stalls abi (next (devices.fd index)) := by
  rintro ⟨stall, none, short, dropped⟩
  obtain ⟨fuel, count, run, _⟩ := h
  have start (other : SourceIndex) : NotPast index stall other (devices.initialStatus other) := by
    simp only [DeviceSet.initialStatus]
    split
    · exact fun _ => Nat.zero_le _
    case isFalse free =>
      rintro rfl
      exact free present
  obtain ⟨status, each⟩ := pollTimes_invariant (Q := fun _ => NotPast index stall)
    (fun _ other _ _ holds polled => polled.notPast none short dropped holds)
    fuel count 0 devices.begin final devices.initialStatus begin_stands start run
  obtain ⟨stands, past⟩ := each index
  generalize status index = here at stands past
  cases here with
  | free => exact past rfl
  | gone => exact past rfl
  | waits reads =>
    obtain ⟨waits, _⟩ := stands
    have sent : devices.sent abi next index reads ≤ devices.sent abi next index stall := by
      have still : devices.sent abi next index (stall + 1) = devices.sent abi next index stall :=
        sent_of_pause (Or.inl none)
      rw [← still]
      exact sent_mono abi devices next index (past rfl)
    have all : devices.sent abi next index reads = (devices.device index).bytes.length :=
      waits.received.symm.trans consumed.received
    have short : devices.sent abi next index stall < (devices.device index).total := short
    have ends : (devices.device index).ends.isSome = true := by
      cases e : (devices.device index).ends with
      | some how => rfl
      | none =>
        simp only [DeviceStream.total, e] at short
        simp only [Option.isSome_none, Bool.false_eq_true, if_false, Nat.add_zero] at short
        omega
    have absent := consumed.ended ends
    rw [waits.state present] at absent
    simp only [syncState] at absent
    split at absent
    · cases absent
    · cases absent

/-! ## Sources that do not stall -/

/-- After so many polls a source has read as often, unless its stream is exhausted. -/
def KeepsUp (abi : Abi) (devices : DeviceSet) (next : ReadSchedule) (count : Nat)
    (index : SourceIndex) : SourceStatus → Prop
  | .free => True
  | .waits reads =>
    (reads = 0 ∨ Pauses abi devices next index (reads - 1)) ∧
      (devices.sent abi next index reads = (devices.device index).total ∨ count ≤ reads)
  | .gone => True

/-- A source stopped at a read that found nothing has a SYN_DROPPED open only when
its stream is exhausted. -/
theorem exhausted_of_drop {index : SourceIndex}
    (never : ¬ (devices.device index).Stalls abi (next (devices.fd index))) {reads : Nat}
    (stopped : reads = 0 ∨ Pauses abi devices next index (reads - 1))
    (dropped : DropOpen abi devices next index reads) :
    devices.sent abi next index reads = (devices.device index).total := by
  cases reads with
  | zero =>
    have noEvents : eventsIn abi ([] : List UInt8) = [] :=
      eventsIn_of_short (inputEventSize_pos abi)
    simp only [DropOpen, DeviceSet.sent, DeviceStream.sent, List.take_zero, noEvents] at dropped
    cases dropped
  | succ last =>
    have pause : Pauses abi devices next index last := stopped.resolve_left (Nat.succ_ne_zero last)
    have still := sent_of_pause pause
    rw [DropOpen, still] at dropped
    rw [still]
    rcases pause with none | ⟨all, noEnd⟩
    · apply Nat.le_antisymm (sent_le_total index last)
      apply Nat.not_lt.mp
      intro short
      exact never ⟨last, none, short, dropped⟩
    · rw [all, DeviceStream.total, noEnd]
      rfl

theorem Polled.keepsUp {index : SourceIndex}
    (never : ¬ (devices.device index).Stalls abi (next (devices.fd index))) {count : Nat}
    {status status' : SourceStatus} (h : KeepsUp abi devices next count index status)
    (polled : Polled abi devices next index status status') :
    KeepsUp abi devices next (count + 1) index status' := by
  cases polled with
  | free => trivial
  | gone => trivial
  | skipped dropped => exact ⟨h.1, Or.inl (exhausted_of_drop never h.1 dropped)⟩
  | @paused reads last synced from_ delivered pause =>
    refine ⟨Or.inr pause, ?_⟩
    rcases h.2 with all | behind
    · left
      apply Nat.le_antisymm (sent_le_total index _)
      rw [← all]
      exact sent_mono abi devices next index (by omega)
    · exact Or.inr (by omega)
  | ended => trivial

/-- The whole stream has been delivered, and its end if there is one. -/
def Exhausted (abi : Abi) (devices : DeviceSet) (next : ReadSchedule) (index : SourceIndex) :
    SourceStatus → Prop
  | .free => True
  | .waits reads => devices.sent abi next index reads = (devices.device index).total
  | .gone => True

theorem KeepsUp.exhausted {index : SourceIndex} {bound count : Nat}
    (fair : ∀ k, bound ≤ k →
      devices.sent abi next index k < (devices.device index).total →
        next (devices.fd index) k ≠ none)
    (late : bound < count) {status : SourceStatus}
    (h : KeepsUp abi devices next count index status) :
    Exhausted abi devices next index status := by
  cases status with
  | free => trivial
  | gone => trivial
  | waits reads =>
    obtain ⟨stopped, all | behind⟩ := h
    · exact all
    · cases reads with
      | zero => omega
      | succ last =>
        have pause : Pauses abi devices next index last :=
          stopped.resolve_left (Nat.succ_ne_zero last)
        have still := sent_of_pause pause
        rw [Exhausted, still]
        rcases pause with none | ⟨all, noEnd⟩
        · apply Nat.le_antisymm (sent_le_total index last)
          apply Nat.not_lt.mp
          intro short
          exact fair last (by omega) short none
        · rw [all, DeviceStream.total, noEnd]
          rfl

/-! ## When all streams are exhausted -/

/-- No source has anything more to read. -/
def Quiet (abi : Abi) (devices : DeviceSet) (next : ReadSchedule) (engine : InputEngine) : Prop :=
  ∀ index, ∃ status, Stands abi devices next index engine status ∧
    Exhausted abi devices next index status

theorem drainRecords_short {ops : CartInputOps} {engine : InputEngine} {index : SourceIndex}
    (short : (engine.buffer index).length < inputEventSize abi) (rounds : Nat) :
    drainRecords abi ops index rounds engine = engine := by
  cases rounds with
  | zero => rfl
  | succ rounds =>
    rw [drainRecords]
    exact if_neg (Nat.not_le.mpr short)

/-- A pump of an exhausted source finds nothing. -/
theorem pumpSource_exhausted (fuel : Nat) {index : SourceIndex} {engine : InputEngine}
    {reads : Nat}
    (h : Waits abi devices next index engine reads)
    (all : devices.sent abi next index reads = (devices.device index).total) :
    pumpSource abi (devices.ops next) index (fuel + 1) engine =
        (engine.record [.read (devices.fd index) .again], true) ∧
      Pauses abi devices next index reads := by
  have short : (engine.buffer index).length < inputEventSize abi := by
    rw [h.buffer]
    exact leftover_short (inputEventSize_pos abi) _
  have total : (devices.device index).bytes.length ≤ (devices.device index).total :=
    Nat.le_add_right _ _
  have cases_ := h.read_cases
  simp only [pumpSource, drainRecords_short short, h.fd]
  rcases cases_ with ⟨pause, e⟩ | ⟨⟨_, whole, ends⟩, _⟩ | ⟨_, _, less, _⟩
  · rw [e]
    exact ⟨rfl, pause⟩
  · rw [whole, DeviceStream.total, ends] at all
    simp at all
  · omega

/-- A quiet source's turn finds nothing more to read. -/
theorem pollTurn_quiet (fuel : Nat) (first : SourceIndex) {engine : InputEngine}
    (quiet : Quiet abi devices next engine) :
    (pollTurn abi (devices.ops next) (fuel + 1) first engine).2 = true ∧
      (pollTurn abi (devices.ops next) (fuel + 1) first engine).1.input = engine.input ∧
      Quiet abi devices next (pollTurn abi (devices.ops next) (fuel + 1) first engine).1 := by
  rw [pollTurn]
  split
  case isTrue => exact ⟨rfl, rfl, quiet⟩
  case isFalse served =>
    have connected := Int.not_lt.mp (not_or.mp served).1
    obtain ⟨status, stands, exhausted⟩ := quiet first
    obtain ⟨reads, rfl⟩ := stands.fd_nonneg_iff.mp connected
    obtain ⟨waits, present⟩ := stands
    obtain ⟨pumped, pause⟩ := pumpSource_exhausted fuel waits exhausted
    rw [pumped]
    refine ⟨rfl, rfl, ?_⟩
    intro index
    by_cases same : index = first
    · subst same
      refine ⟨.waits (reads + 1), ⟨waits.paused pause, present⟩, ?_⟩
      rw [Exhausted, sent_of_pause pause]
      exact exhausted
    · obtain ⟨status, stands, exhausted⟩ := quiet index
      have apart : devices.fd index ≠ (engine.source first).fd := by
        rw [waits.fd]
        intro clash
        exact same (devices.distinct first index present clash.symm).symm
      have unmoved : Unmoved index (devices.fd index) engine
          (pumpSource abi (devices.ops next) first (fuel + 1) engine).1 :=
        pumpSource_unmoved same apart (fuel + 1)
      rw [pumped] at unmoved
      exact ⟨status, stands.unmoved unmoved, exhausted⟩

theorem pollSources_quiet (fuel : Nat) (indices : List SourceIndex) :
    ∀ engine : InputEngine, Quiet abi devices next engine →
      (pollSources abi (devices.ops next) (fuel + 1) indices engine).2 = true ∧
      (pollSources abi (devices.ops next) (fuel + 1) indices engine).1.input = engine.input ∧
      Quiet abi devices next
        (pollSources abi (devices.ops next) (fuel + 1) indices engine).1 := by
  induction indices with
  | nil => exact fun engine quiet => ⟨rfl, rfl, quiet⟩
  | cons first indices ih =>
    intro engine quiet
    obtain ⟨returned, same, quiet'⟩ := pollTurn_quiet fuel first quiet
    obtain ⟨all, kept, quiet''⟩ := ih _ quiet'
    rw [pollSources_cons, if_pos returned]
    exact ⟨all, kept.trans same, quiet''⟩

theorem cartInputPoll_quiet (fuel : Nat) {engine : InputEngine}
    (quiet : Quiet abi devices next engine) :
    ∃ after action, cartInputPoll abi (devices.ops next) (fuel + 1) engine =
        (after, some action) ∧
      after.input = { engine.input with pending := engine.input.pending.tail } ∧
      Quiet abi devices next after := by
  obtain ⟨returned, same, quiet'⟩ := pollSources_quiet fuel (List.finRange 4) engine quiet
  simp only [cartInputPoll, if_pos returned]
  generalize pollSources abi (devices.ops next) (fuel + 1) (List.finRange 4) engine = polled
    at same quiet' ⊢
  obtain ⟨after, _⟩ := polled
  dsimp only at same quiet' ⊢
  rw [same]
  cases pending : engine.input.pending with
  | nil =>
    refine ⟨after, .none, rfl, ?_, quiet'⟩
    rw [same, List.tail_nil, ← pending]
  | cons action rest =>
    refine ⟨after.setPending rest, action, rfl, ?_, ?_⟩
    · rw [InputEngine.setPending, same]
      rfl
    · intro index
      obtain ⟨status, stands, exhausted⟩ := quiet' index
      exact ⟨status, stands.setPending rest, exhausted⟩

/-- Further polls only empty the queue. -/
theorem pollTimes_quiet (fuel count : Nat) :
    ∀ engine : InputEngine, Quiet abi devices next engine →
      ∃ final, pollTimes abi (devices.ops next) (fuel + 1) count engine = some final ∧
        final.input = { engine.input with pending := engine.input.pending.drop count } ∧
        Quiet abi devices next final := by
  induction count with
  | zero => exact fun engine quiet => ⟨engine, rfl, rfl, quiet⟩
  | succ count ih =>
    intro engine quiet
    obtain ⟨after, action, polled, input, quiet'⟩ := cartInputPoll_quiet fuel quiet
    obtain ⟨final, run, input', quiet''⟩ := ih after quiet'
    refine ⟨final, ?_, ?_, quiet''⟩
    · simp only [pollTimes, polled]
      exact run
    · rw [input', input, List.drop_tail]

/-- Once it is quiet, a run settles as soon as its queue is empty. -/
theorem Quiet.settles {first : InputEngine} (quiet : Quiet abi devices next first)
    {fuel count : Nat}
    (run : pollTimes abi (devices.ops next) (fuel + 1) count devices.begin = some first) :
    ∃ final, Settles abi devices next final ∧ Quiet abi devices next final := by
  obtain ⟨final, run', input, quiet'⟩ :=
    pollTimes_quiet fuel first.input.pending.length first quiet
  refine ⟨final, ⟨fuel + 1, count + first.input.pending.length, ?_, ?_⟩, quiet'⟩
  · rw [pollTimes_add, run]
    exact run'
  · intro more
    obtain ⟨further, run'', input', _⟩ := pollTimes_quiet fuel more final quiet'
    refine ⟨further, ?_, ?_⟩
    · rw [pollTimes_add, pollTimes_add, run, Option.bind_some, run']
      exact run''
    · rw [input', input, List.drop_drop, List.drop_length, List.drop_eq_nil_of_le (by omega)]

/-- A fair schedule delays each device a bounded number of times. -/
theorem FairSchedule.bounded (fair : FairSchedule abi devices next) :
    ∃ bound : SourceIndex → Nat, ∀ index, 0 ≤ devices.fd index → ∀ k, bound index ≤ k →
      devices.sent abi next index k < (devices.device index).total →
        next (devices.fd index) k ≠ none := by
  have each (index : SourceIndex) : ∃ bound, 0 ≤ devices.fd index → ∀ k, bound ≤ k →
      devices.sent abi next index k < (devices.device index).total →
        next (devices.fd index) k ≠ none := by
    by_cases present : 0 ≤ devices.fd index
    · obtain ⟨bound, h⟩ := fair index present
      exact ⟨bound, fun _ => h⟩
    · exact ⟨0, fun h => absurd h present⟩
  exact ⟨fun index => (each index).choose, fun index => (each index).choose_spec⟩

/-- A fair schedule that never stalls a source settles with all streams exhausted. -/
theorem settles_quiet (never : NeverStalls abi devices next)
    (fair : FairSchedule abi devices next) :
    ∃ final, Settles abi devices next final ∧ Quiet abi devices next final := by
  obtain ⟨bound, fair⟩ := fair.bounded
  let fuel := Finset.univ.sup fun index => (devices.device index).bytes.length
  let late := Finset.univ.sup bound + 1
  have enough (index : SourceIndex) : (devices.device index).bytes.length < fuel + 1 :=
    Nat.lt_succ_of_le (Finset.le_sup (f := fun index => (devices.device index).bytes.length)
      (Finset.mem_univ index))
  obtain ⟨first, run⟩ := pollTimes_returns abi next enough late devices.begin
    devices.initialStatus begin_stands
  have start (index : SourceIndex) :
      0 ≤ devices.fd index → KeepsUp abi devices next 0 index (devices.initialStatus index) := by
    intro present
    rw [DeviceSet.initialStatus, if_pos present]
    exact ⟨Or.inl rfl, Or.inr le_rfl⟩
  obtain ⟨status, each⟩ := pollTimes_invariant
    (Q := fun count index status => 0 ≤ devices.fd index →
      KeepsUp abi devices next count index status)
    (fun _ index _ _ holds polled present =>
      polled.keepsUp (never index present) (holds present))
    (fuel + 1) late 0 devices.begin first devices.initialStatus begin_stands start run
  have quiet : Quiet abi devices next first := by
    intro index
    obtain ⟨stands, keeps⟩ := each index
    refine ⟨status index, stands, ?_⟩
    by_cases present : 0 ≤ devices.fd index
    · apply (keeps present).exhausted (fair index present)
      have le : bound index ≤ Finset.univ.sup bound := Finset.le_sup (Finset.mem_univ index)
      omega
    · cases here : status index with
      | free => trivial
      | gone => trivial
      | waits reads =>
        rw [here] at stands
        exact absurd stands.2 present
  exact quiet.settles run

/-! ## The outcome -/

/-- The source once its whole stream was consumed; no schedule is involved. -/
def DeviceSet.finalSource (devices : DeviceSet) (abi : Abi) (index : SourceIndex) :
    CartInputSource :=
  let last := (devices.viewAt abi index (devices.device index).bytes.length).source
  if devices.fd index < 0 then devices.input.source index
  else if (devices.device index).ends.isSome then last.disconnected
  else last

def DeviceSet.finalBuffer (devices : DeviceSet) (abi : Abi) (index : SourceIndex) : List UInt8 :=
  if devices.fd index < 0 then devices.input.partials index
  else if (devices.device index).ends.isSome then []
  else leftover (inputEventSize abi) (devices.device index).bytes

def DeviceSet.finalEmitted (devices : DeviceSet) (abi : Abi) (index : SourceIndex) :
    List CartInputAction :=
  if devices.fd index < 0 then []
  else (devices.viewAt abi index (devices.device index).bytes.length).emitted

/-- An exhausted source that still waits has met no end. -/
theorem Waits.no_end {index : SourceIndex} {engine : InputEngine} {reads : Nat}
    (h : Waits abi devices next index engine reads)
    (all : devices.sent abi next index reads = (devices.device index).total) :
    devices.sent abi next index reads = (devices.device index).bytes.length ∧
      (devices.device index).ends = none := by
  have within := h.within
  rw [all, DeviceStream.total] at within
  cases ends : (devices.device index).ends with
  | none =>
    rw [all, DeviceStream.total, ends]
    exact ⟨rfl, rfl⟩
  | some how =>
    rw [ends] at within
    simp only [Option.isSome_some, if_true] at within
    omega

theorem viewAt_consumed (index : SourceIndex) :
    (devices.viewAt abi index (devices.device index).bytes.length).consumed =
      (devices.device index).bytes.length / inputEventSize abi := by
  rw [DeviceSet.viewAt, SourceView.consumeAll_consumed, List.take_length, eventsIn,
    List.length_map, records_length, Nat.zero_add]

/-- In a quiet engine every source is as its stream alone determines. -/
theorem Quiet.final {engine : InputEngine} (quiet : Quiet abi devices next engine)
    (index : SourceIndex) :
    engine.source index = devices.finalSource abi index ∧
      engine.buffer index = devices.finalBuffer abi index ∧
      emittedBy index engine.trace = devices.finalEmitted abi index ∧
      (0 ≤ devices.fd index → ConsumedAll abi devices index engine) := by
  obtain ⟨status, stands, exhausted⟩ := quiet index
  simp only [DeviceSet.finalSource, DeviceSet.finalBuffer, DeviceSet.finalEmitted]
  cases status with
  | free =>
    obtain ⟨h, free⟩ := stands
    simp only [if_pos free]
    exact ⟨h.source, h.buffer, h.emitted, fun present => absurd free (Int.not_lt.mpr present)⟩
  | waits reads =>
    obtain ⟨h, present⟩ := stands
    obtain ⟨all, noEnd⟩ := h.no_end exhausted
    have view := h.view
    have buffer := h.buffer
    rw [all] at view buffer
    rw [List.take_length] at buffer
    have consumed : recordsConsumed (engine.source index).fd engine.trace = _ :=
      congrArg SourceView.consumed view
    rw [h.fd, viewAt_consumed] at consumed
    simp only [if_neg (Int.not_lt.mpr present), noEnd, Option.isSome_none, Bool.false_eq_true,
      if_false]
    refine ⟨congrArg SourceView.source view, buffer, congrArg SourceView.emitted view, ?_⟩
    intro _
    constructor
    · exact h.received.trans all
    · exact consumed
    · intro ends
      rw [noEnd] at ends
      cases ends
  | gone =>
    obtain ⟨h, present⟩ := stands
    simp only [if_neg (Int.not_lt.mpr present), h.ends, if_true]
    refine ⟨h.source, h.buffer, h.emitted, ?_⟩
    intro _
    constructor
    · exact h.received
    · exact h.consumed.trans (viewAt_consumed index)
    · intro _
      rw [h.source]
      rfl

theorem sameOutcome_of_never_stalls {next' : ReadSchedule} (fair : FairSchedule abi devices next)
    (fair' : FairSchedule abi devices next') (never : NeverStalls abi devices next)
    (never' : NeverStalls abi devices next') : SameOutcome abi devices next next' := by
  obtain ⟨final, settles, quiet⟩ := settles_quiet never fair
  obtain ⟨final', settles', quiet'⟩ := settles_quiet never' fair'
  refine ⟨final, final', settles, settles', ?_, ?_⟩
  · intro index present
    exact ⟨(quiet.final index).2.2.2 present, (quiet'.final index).2.2.2 present⟩
  · intro index
    obtain ⟨source, buffer, emitted, _⟩ := quiet.final index
    obtain ⟨source', buffer', emitted', _⟩ := quiet'.final index
    exact ⟨source.trans source'.symm, buffer.trans buffer'.symm, emitted.trans emitted'.symm⟩

theorem SameOutcome.never_stalls {next' : ReadSchedule}
    (h : SameOutcome abi devices next next') :
    NeverStalls abi devices next ∧ NeverStalls abi devices next' := by
  obtain ⟨final, final', settles, settles', consumed, _⟩ := h
  constructor
  · intro index present
    exact settles.not_stalled present (consumed index present).1
  · intro index present
    exact settles'.not_stalled present (consumed index present).2

/-- Two schedules have the same outcome exactly when neither lets a source find
EAGAIN, before its stream is exhausted, with a SYN_DROPPED open. -/
theorem chunking_insensitive_iff (abi : Abi) (devices : DeviceSet) (next next' : ReadSchedule)
    (fair : FairSchedule abi devices next) (fair' : FairSchedule abi devices next') :
    SameOutcome abi devices next next' ↔
      NeverStalls abi devices next ∧ NeverStalls abi devices next' := by
  constructor
  · exact SameOutcome.never_stalls
  · rintro ⟨never, never'⟩
    exact sameOutcome_of_never_stalls fair fair' never never'

/-- One connected source that sends these bytes and then goes away. -/
def lonePad (bytes : List UInt8) : DeviceSet where
  stream := fun _ => ⟨bytes, some .endOfFile, fun _ => none, fun _ _ => none⟩
  input :=
    { source := fun index =>
        if index.val = 0 then { resetSource with fd := 3, state := .connected } else resetSource
      pending := []
      partials := fun _ => [] }
  connected := by decide
  empty := by decide
  distinct := by decide

/-- A 16-byte record of this type, code and value. -/
def shortRecord (type code value : UInt8) : List UInt8 :=
  [0, 0, 0, 0, 0, 0, 0, 0, type, 0, code, 0, value, 0, 0, 0]

/-- A key press read seven bytes at a time after one EAGAIN, or all at once. -/
theorem chunking_insensitive_press :
    SameOutcome .ilp32 (lonePad (shortRecord 1 16 1)) (fun _ _ => some 255)
      fun _ k => if k = 0 then none else some 6 := by
  apply (chunking_insensitive_iff .ilp32 (lonePad (shortRecord 1 16 1)) (fun _ _ => some 255)
    (fun _ k => if k = 0 then none else some 6) ?_ ?_).mpr
  · constructor
    · rintro index _ ⟨k, none, _⟩
      cases none
    · rintro index _ ⟨k, none, _, dropped⟩
      have first : k = 0 := by
        by_contra later
        simp [later] at none
      subst first
      have clear : openDrop (eventsIn .ilp32 (List.take 0 (shortRecord 1 16 1))) = false := by
        decide
      exact Bool.false_ne_true (clear.symm.trans dropped)
  · intro index _
    exact ⟨0, fun k _ _ none => by cases none⟩
  · intro index _
    refine ⟨1, fun k late _ => ?_⟩
    have later : k ≠ 0 := by omega
    simp [later]

/-- When the second read finds EAGAIN between a SYN_DROPPED and its SYN_REPORT, the
rest of the stream and its end are never read. -/
theorem stalled_after_drop :
    let devices := lonePad (shortRecord 0 3 0 ++ shortRecord 0 0 0 ++ shortRecord 1 16 1)
    let whole : ReadSchedule := fun _ _ => some 255
    let cut : ReadSchedule := fun _ k => if k = 1 then none else some 15
    FairSchedule .ilp32 devices whole ∧ FairSchedule .ilp32 devices cut ∧
      ¬ SameOutcome .ilp32 devices whole cut := by
  intro devices whole cut
  refine ⟨?_, ?_, ?_⟩
  · intro index _
    exact ⟨0, fun k _ _ none => by cases none⟩
  · intro index _
    refine ⟨2, fun k late _ => ?_⟩
    have later : k ≠ 1 := by omega
    simp [cut, later]
  · intro same
    have present : 0 ≤ devices.fd 0 := by decide
    exact same.never_stalls.2 0 present ⟨1, rfl, by decide +kernel, by decide +kernel⟩

end VitaLinux.Cart
