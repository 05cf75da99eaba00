import VitaLinux.Base.Following
import VitaLinux.Toolkit.Inputwatch

/-!
# What vita-inputwatch reports

The report is about the complete records of what has been read, whatever the reads were: each
is printed once, in order and with its number, and the counts are those of what was printed.
-/

namespace VitaLinux.Toolkit.Inputwatch

open VitaLinux.Base
open VitaLinux.Cart (InputEvent inputEventSize EV_SYN EV_KEY EV_ABS SYN_REPORT eventsIn)
open VitaLinux.Toolkit.Dashboard (chars)

/-! ## Counting -/

def isKey (value : Int32) (event : InputEvent) : Bool :=
  decide (event.type = EV_KEY ∧ event.value = value)

def isAbs (event : InputEvent) : Bool := decide (event.type = EV_ABS)

def isReport (event : InputEvent) : Bool :=
  decide (event.type = EV_SYN ∧ event.code = SYN_REPORT)

/-- The counts of a list of events, as `unsigned int`s. -/
def tally (events : List InputEvent) : Counts where
  eventsSeen := BitVec.ofNat 32 events.length
  keyPresses := BitVec.ofNat 32 (events.countP (isKey 1))
  keyReleases := BitVec.ofNat 32 (events.countP (isKey 0))
  keyRepeats := BitVec.ofNat 32 (events.countP (isKey 2))
  absEvents := BitVec.ofNat 32 (events.countP isAbs)
  synReports := BitVec.ofNat 32 (events.countP isReport)

/-- The events with their numbers, from one on. -/
def number (events : List InputEvent) : List (U32 × InputEvent) :=
  (events.zipIdx 1).map fun entry => (BitVec.ofNat 32 entry.2, entry.1)

theorem number_concat (events : List InputEvent) (event : InputEvent) :
    number (events ++ [event]) =
      number events ++ [(BitVec.ofNat 32 (events.length + 1), event)] := by
  simp [number, List.zipIdx_append, Nat.add_comm]

theorem ofNat_countP_concat (p : InputEvent → Bool) (events : List InputEvent)
    (event : InputEvent) : BitVec.ofNat 32 ((events ++ [event]).countP p) =
      if p event then BitVec.ofNat 32 (events.countP p) + 1
      else BitVec.ofNat 32 (events.countP p) := by
  rw [List.countP_append, List.countP_singleton]
  split
  · exact BitVec.ofNat_add ..
  · rw [Nat.add_zero]

/-- Each event is counted as what it is. -/
theorem countEvent_tally (events : List InputEvent) (event : InputEvent) :
    countEvent event (tally events) = tally (events ++ [event]) := by
  have seen : BitVec.ofNat 32 (events ++ [event]).length = BitVec.ofNat 32 events.length + 1 := by
    rw [List.length_append, BitVec.ofNat_add]
    rfl
  rw [tally, tally, seen]
  simp only [ofNat_countP_concat, countEvent, isKey, isAbs, isReport, decide_eq_true_eq]
  by_cases key : event.type = EV_KEY
  · have notAbs : EV_KEY ≠ EV_ABS := by decide
    have notSyn : EV_KEY ≠ EV_SYN := by decide
    simp only [key, notAbs, notSyn, true_and, false_and, ↓reduceIte]
    by_cases press : event.value = 1
    · simp [press]
    · by_cases release : event.value = 0
      · simp [release]
      · by_cases again : event.value = 2 <;> simp [press, release, again]
  · by_cases abs : event.type = EV_ABS
    · have notSyn : EV_ABS ≠ EV_SYN := by decide
      have notKey : EV_ABS ≠ EV_KEY := by decide
      simp [abs, notSyn, notKey]
    · simp only [key, abs, false_and, ↓reduceIte]
      split <;> rfl

/-! ## The records -/

section loop

variable {abi : Abi} {stream : List UInt8} {durationMs maxEvents : U32} {w w' : Watcher}

/-- The events in what has been read. -/
def Watcher.events (abi : Abi) (stream : List UInt8) (w : Watcher) : List InputEvent :=
  eventsIn abi (stream.take w.used)

/-- Everything that has been read is printed and counted, but for the start of a record. -/
structure Follows (abi : Abi) (stream : List UInt8) (maxEvents : U32) (w : Watcher) : Prop where
  within : w.used ≤ stream.length
  pending : w.pending = leftover (inputEventSize abi) (stream.take w.used)
  shown : w.shown = number (w.events abi stream)
  counts : w.counts = tally (w.events abi stream)
  bounded : 0 < maxEvents → (w.events abi stream).length ≤ maxEvents.toNat

theorem eventSize_pos (abi : Abi) : 0 < inputEventSize abi := by cases abi <;> decide

theorem follows_start (abi : Abi) (stream : List UInt8) (maxEvents : U32) :
    Follows abi stream maxEvents .start where
  within := Nat.zero_le _
  pending := (leftover_of_short (eventSize_pos abi)).symm
  shown := by
    rw [Watcher.events, eventsIn, Watcher.start, List.take_zero, records_of_short (eventSize_pos abi)]
    rfl
  counts := by
    rw [Watcher.events, eventsIn, Watcher.start, List.take_zero, records_of_short (eventSize_pos abi)]
    rfl
  bounded _ := by
    rw [Watcher.events, eventsIn, Watcher.start, List.take_zero, records_of_short (eventSize_pos abi)]
    exact Nat.zero_le _

/-- What a read adds. -/
theorem received_bounds {more : Nat} (h : w.used ≤ stream.length) :
    received abi stream w more ≤ inputEventSize abi - w.pending.length ∧
      w.used + received abi stream w more ≤ stream.length := by
  rw [received]
  omega

/-- A read that completes no record leaves the events, one that does adds it. -/
theorem take_follows (h : Follows abi stream maxEvents w) {n : Nat}
    (room : n ≤ inputEventSize abi - w.pending.length) (left : w.used + n ≤ stream.length)
    (more : 0 < maxEvents → w.counts.eventsSeen < maxEvents) :
    Follows abi stream maxEvents (take abi stream w n) := by
  have size := eventSize_pos abi
  have short : w.pending.length < inputEventSize abi := by
    rw [h.pending]
    exact leftover_short size _
  have chunk : ((stream.drop w.used).take n).length = n := by
    rw [List.length_take, List.length_drop]
    omega
  have longer : stream.take (w.used + n) = stream.take w.used ++ (stream.drop w.used).take n :=
    List.take_add
  obtain ⟨events, rest⟩ := records_append size (stream.take w.used) ((stream.drop w.used).take n)
  rw [← longer, ← h.pending] at events rest
  have bytes : (w.pending ++ (stream.drop w.used).take n).length = w.pending.length + n := by
    rw [List.length_append, chunk]
  rw [take]
  by_cases full : (w.pending ++ (stream.drop w.used).take n).length = inputEventSize abi
  · rw [if_pos full]
    have record : records (inputEventSize abi) (w.pending ++ (stream.drop w.used).take n) =
        [w.pending ++ (stream.drop w.used).take n] := by
      rw [records_of_long size full.ge, List.take_of_length_le full.le,
        List.drop_eq_nil_of_le full.le, records_of_short size]
    have grown : eventsIn abi (stream.take (w.used + n)) = w.events abi stream ++
        [InputEvent.ofBytes abi (w.pending ++ (stream.drop w.used).take n)] := by
      rw [eventsIn, events, record, List.map_append]
      rfl
    have counted := h.counts ▸ countEvent_tally (w.events abi stream)
      (InputEvent.ofBytes abi (w.pending ++ (stream.drop w.used).take n))
    constructor
    case within => exact left
    case pending =>
      change [] = leftover _ (stream.take (w.used + n))
      rw [rest, leftover_of_long size full.ge, List.drop_eq_nil_of_le full.le,
        leftover_of_short size]
    case shown =>
      change w.shown ++ [_] = number (eventsIn abi (stream.take (w.used + n)))
      rw [grown, number_concat, h.shown, counted, tally, List.length_append]
      rfl
    case counts =>
      change countEvent _ w.counts = tally (eventsIn abi (stream.take (w.used + n)))
      rw [grown, counted]
    case bounded =>
      intro some
      change (eventsIn abi (stream.take (w.used + n))).length ≤ _
      have below := more some
      have already := h.bounded some
      have limit := maxEvents.isLt
      rw [h.counts, tally, BitVec.lt_def, BitVec.toNat_ofNat, Nat.mod_eq_of_lt (by omega)] at below
      rw [grown, List.length_append, List.length_singleton]
      omega
  · rw [if_neg full]
    have part : (w.pending ++ (stream.drop w.used).take n).length < inputEventSize abi := by omega
    have same : eventsIn abi (stream.take (w.used + n)) = w.events abi stream := by
      rw [eventsIn, events, records_of_short part, List.append_nil]
      rfl
    constructor
    case within => exact left
    case pending =>
      change w.pending ++ _ = leftover _ (stream.take (w.used + n))
      rw [rest, leftover_of_short part]
    case shown => exact h.shown.trans (congrArg number same.symm)
    case counts => exact h.counts.trans (congrArg tally same.symm)
    case bounded =>
      intro some
      change (eventsIn abi (stream.take (w.used + n))).length ≤ _
      rw [same]
      exact h.bounded some

/-- There are enough events exactly when they are as many as were asked for. -/
theorem enough_iff (h : Follows abi stream maxEvents w) :
    enough maxEvents w ↔ 0 < maxEvents ∧ (w.events abi stream).length = maxEvents.toNat := by
  refine and_congr_right fun some => ?_
  have already := h.bounded some
  have limit := maxEvents.isLt
  rw [h.counts, tally, BitVec.le_def, BitVec.toNat_ofNat, Nat.mod_eq_of_lt (by omega)]
  omega

/-! ## One turn -/

/-- A turn that finds the program with time left and the device not broken. -/
structure Patient (durationMs : U32) (t : Turn) : Prop where
  early : 0 < Int32.ofBitVec durationMs - t.elapsed
  polled : t.poll ≠ .failed ∧ t.poll ≠ .timeout ∧ t.poll ≠ .ready false true
  read : t.reading ≠ .failed

/-- A turn in which the device gives something. -/
def gives (t : Turn) : Bool :=
  match t.poll, t.reading with
  | .ready _ _, .bytes _ => true
  | _, _ => false

/-- What a turn can do. -/
inductive Turned (abi : Abi) (stream : List UInt8) (durationMs maxEvents : U32) (w : Watcher)
    (t : Turn) : Except (Nat × Watcher) Watcher → Prop
  | enough (done : enough maxEvents w) :
    Turned abi stream durationMs maxEvents w t (.error (0, w))
  | waits (few : ¬enough maxEvents w) (silent : gives t = false) :
    Turned abi stream durationMs maxEvents w t (.ok w)
  | reads (few : ¬enough maxEvents w) (more : Nat) (some : received abi stream w more ≠ 0) :
    Turned abi stream durationMs maxEvents w t (.ok (take abi stream w (received abi stream w more)))
  /-- the device ends, maybe inside a record -/
  | ends (few : ¬enough maxEvents w) (more : Nat) (nothing : received abi stream w more = 0) :
    Turned abi stream durationMs maxEvents w t (.error (if w.pending = [] then 0 else 1, w))
  /-- there is no more time, or poll or read fails -/
  | breaks (few : ¬enough maxEvents w) (lost : ¬Patient durationMs t) :
    Turned abi stream durationMs maxEvents w t (.error (1, w))

theorem turn_cases (abi : Abi) (stream : List UInt8) (durationMs maxEvents : U32) (w : Watcher)
    (t : Turn) : Turned abi stream durationMs maxEvents w t
      (turn abi stream durationMs maxEvents w t) := by
  unfold turn
  by_cases done : enough maxEvents w
  · rw [if_pos done]
    exact .enough done
  rw [if_neg done]
  by_cases late : Int32.ofBitVec durationMs - t.elapsed ≤ 0
  · rw [if_pos late]
    exact .breaks done fun patient => Int32.not_le.mpr patient.early late
  rw [if_neg late]
  cases poll : t.poll with
  | interrupted => exact .waits done (by rw [gives, poll])
  | failed => exact .breaks done fun patient => patient.polled.1 poll
  | timeout => exact .breaks done fun patient => patient.polled.2.1 poll
  | ready readable broken =>
    by_cases dead : broken = true ∧ readable = false
    · dsimp only
      rw [if_pos dead]
      obtain ⟨rfl, rfl⟩ := dead
      exact .breaks done fun patient => patient.polled.2.2 poll
    dsimp only
    rw [if_neg dead]
    cases reading : t.reading with
    | again => exact .waits done (by rw [gives, poll, reading])
    | failed => exact .breaks done fun patient => patient.read reading
    | bytes more =>
      dsimp only
      by_cases nothing : received abi stream w more = 0
      · rw [if_pos nothing]
        exact .ends done more nothing
      · rw [if_neg nothing]
        exact .reads done more nothing

theorem pending_short (h : Follows abi stream maxEvents w) :
    w.pending.length < inputEventSize abi := by
  rw [h.pending]
  exact leftover_short (eventSize_pos abi) _

/-- A read gives nothing only at the end of the device. -/
theorem received_nothing (h : Follows abi stream maxEvents w) {more : Nat}
    (nothing : received abi stream w more = 0) : w.used = stream.length := by
  have short := pending_short h
  have within := h.within
  rw [received] at nothing
  omega

theorem turn_keeps (h : Follows abi stream maxEvents w) {t : Turn}
    (passed : turn abi stream durationMs maxEvents w t = .ok w') :
    Follows abi stream maxEvents w' := by
  have did := turn_cases abi stream durationMs maxEvents w t
  rw [passed] at did
  cases did with
  | waits => exact h
  | reads few more =>
    obtain ⟨room, left⟩ := received_bounds h.within
    exact take_follows h room left fun some =>
      BitVec.not_le.mp fun reached => few ⟨some, reached⟩

/-- A turn only reads on, and one in which the device gives something does. -/
theorem turn_used {t : Turn} (passed : turn abi stream durationMs maxEvents w t = .ok w') :
    w.used ≤ w'.used ∧ (gives t = true → w.used + 1 ≤ w'.used) := by
  have taken (n : Nat) : (take abi stream w n).used = w.used + n := by
    rw [take]
    split <;> rfl
  have did := turn_cases abi stream durationMs maxEvents w t
  rw [passed] at did
  cases did with
  | waits few silent => exact ⟨le_refl _, fun given => absurd given (silent ▸ Bool.false_ne_true)⟩
  | reads few more some =>
    rw [taken]
    exact ⟨Nat.le_add_right _ _, fun _ => by omega⟩

/-- How the loop ends. -/
inductive Stops (abi : Abi) (stream : List UInt8) (maxEvents : U32) (w : Watcher) : Nat → Prop
  | enough (done : enough maxEvents w) : Stops abi stream maxEvents w 0
  | ended (few : ¬enough maxEvents w) (whole : w.used = stream.length) :
    Stops abi stream maxEvents w (if w.pending = [] then 0 else 1)
  | broken (few : ¬enough maxEvents w) : Stops abi stream maxEvents w 1

theorem turn_stops (h : Follows abi stream maxEvents w) {t : Turn} {status : Nat}
    (ended : turn abi stream durationMs maxEvents w t = .error (status, w')) :
    w' = w ∧ Stops abi stream maxEvents w status := by
  have did := turn_cases abi stream durationMs maxEvents w t
  rw [ended] at did
  cases did with
  | enough done => exact ⟨rfl, .enough done⟩
  | ends few more nothing => exact ⟨rfl, .ended few (received_nothing h nothing)⟩
  | breaks few => exact ⟨rfl, .broken few⟩

theorem watch_keeps (h : Follows abi stream maxEvents w) {turns : List Turn}
    (passed : watch abi stream durationMs maxEvents w turns = .ok w') :
    Follows abi stream maxEvents w' :=
  foldlM_invariant (fun _ _ _ _ before passed => turn_keeps before passed) h passed

theorem watch_stops (h : Follows abi stream maxEvents w) {turns : List Turn} {status : Nat}
    (ended : watch abi stream durationMs maxEvents w turns = .error (status, w')) :
    Follows abi stream maxEvents w' ∧ Stops abi stream maxEvents w' status := by
  obtain ⟨front, t, rest, last, -, passed, stopped⟩ := foldlM_error ended
  have follows : Follows abi stream maxEvents last := watch_keeps h passed
  obtain ⟨rfl, stops⟩ := turn_stops follows stopped
  exact ⟨follows, stops⟩

/-! ## The report -/

/-- What a report says of the events in the bytes that have been read, given whether these are
all there are and end behind a record. -/
structure Truthful (events : List InputEvent) (whole : Prop) (code : Nat) (report : Report) :
    Prop where
  shown : report.shown = number events
  counts : report.counts = tally events
  bounded : 0 < report.options.maxEvents → events.length ≤ report.options.maxEvents.toNat
  complete : report.complete = true → whole ∨
    0 < report.options.maxEvents ∧ events.length = report.options.maxEvents.toNat
  incomplete : report.complete = false →
    ¬(0 < report.options.maxEvents ∧ events.length = report.options.maxEvents.toNat)
  code : code = if report.complete then 0 else 1

section program

variable {files : Files} {sysroot devroot : Option (List UInt8)} {args : List (List UInt8)}
  {turns : List Turn}

/-- A report follows arguments that are understood, a device that is found and opened, and a
loop that has ended. -/
theorem main_reported {code : Nat} {report : Report}
    (reported : main abi files sysroot devroot stream args turns = .reported code report) :
    ∃ status w, watch abi stream report.options.durationMs report.options.maxEvents .start turns =
        .error (status, w) ∧ report.shown = w.shown ∧ report.counts = w.counts ∧
      report.complete = (status == 0) ∧ code = if status = 0 then 0 else 1 := by
  rw [main] at reported
  cases parsed : parseArgs abi {} args with
  | error refusal =>
    rw [parsed] at reported
    cases reported
  | ok options =>
    rw [parsed] at reported
    dsimp only at reported
    cases found : findDevice files (sysroot.getD (chars "/sys")) (devroot.getD (chars "/dev"))
        options.wantedPhys with
    | none =>
      rw [found] at reported
      cases reported
    | some device =>
      rw [found] at reported
      dsimp only at reported
      split at reported
      · cases reported
      · cases run : watch abi stream options.durationMs options.maxEvents .start turns with
        | ok w =>
          rw [run] at reported
          cases reported
        | error ended =>
          rw [run] at reported
          cases reported
          exact ⟨ended.1, ended.2, run, rfl, rfl, rfl, rfl⟩

/-- Whatever the arguments, the device, the reads and the time: a report is about the events in
the bytes that have been read. -/
theorem report_truthful {code : Nat} {report : Report}
    (reported : main abi files sysroot devroot stream args turns = .reported code report) :
    ∃ used ≤ stream.length, Truthful (eventsIn abi (stream.take used))
      (used = stream.length ∧ leftover (inputEventSize abi) stream = []) code report := by
  obtain ⟨status, w, ended, shown, counts, complete, rfl⟩ := main_reported reported
  obtain ⟨follows, stops⟩ :=
    watch_stops (follows_start abi stream report.options.maxEvents) ended
  have done := enough_iff follows
  refine ⟨w.used, follows.within, ?_⟩
  constructor
  case shown => exact shown.trans follows.shown
  case counts => exact counts.trans follows.counts
  case bounded => exact follows.bounded
  case code =>
    rw [complete]
    by_cases zero : status = 0 <;> simp [zero]
  case complete =>
    intro well
    rw [complete, beq_iff_eq] at well
    cases stops with
    | enough reached => exact .inr (done.mp reached)
    | ended few whole =>
      refine .inl ⟨whole, ?_⟩
      have none : w.pending = [] := by
        by_contra part
        rw [if_neg part] at well
        cases well
      rwa [follows.pending, whole, List.take_length] at none
    | broken => cases well
  case incomplete =>
    intro ill
    rw [complete, beq_eq_false_iff_ne] at ill
    cases stops with
    | enough => exact absurd rfl ill
    | ended few => exact done.not.mp few
    | broken few => exact done.not.mp few

/-- One device, the buttons. -/
def buttonFiles : Files where
  access _ := true
  read _ := some (chars "vita_syscon_buttons\n")
  open_ _ := true

/-- A key is pressed. -/
def press : List UInt8 := [0, 0, 0, 0, 0, 0, 0, 0, 1, 0, 116, 0, 1, 0, 0, 0]

/-- The key is pressed, its record is read in two parts, and the time is over. -/
def pressTurns : List Turn :=
  [⟨1, .ready true false, .bytes 4⟩, ⟨2, .ready true false, .bytes 40⟩, ⟨1000, .timeout, .again⟩]

def buttons : InputDevice :=
  { number := 0, name := chars "vita_syscon_buttons", phys := chars "vita_syscon_buttons",
    path := chars "/dev/input/event0" }

def pressReport : Report where
  device := buttons
  options := {}
  shown := [(1, { type := EV_KEY, code := 116, value := 1 })]
  complete := false
  counts := { eventsSeen := 1, keyPresses := 1, keyReleases := 0, keyRepeats := 0,
              absEvents := 0, synReports := 0 }

theorem press_truthful : ∃ used ≤ press.length,
    Truthful (eventsIn .ilp32 (press.take used))
      (used = press.length ∧ leftover (inputEventSize .ilp32) press = []) 1 pressReport := by
  have reported : main .ilp32 buttonFiles none none press [] pressTurns =
      .reported 1 pressReport := by decide +kernel
  exact report_truthful reported

end program

/-! ## Devices that are read to the end -/

theorem eventsIn_prefix {read whole : List UInt8} (start : read <+: whole) :
    eventsIn abi read <+: eventsIn abi whole := by
  obtain ⟨rest, rfl⟩ := start
  rw [eventsIn, eventsIn, (records_append (eventSize_pos abi) read rest).1, List.map_append]
  exact List.prefix_append _ _

/-- The events that are asked for: all that come, or the first ones. -/
def wanted (abi : Abi) (stream : List UInt8) (maxEvents : U32) : List InputEvent :=
  if 0 < maxEvents then (eventsIn abi stream).take maxEvents.toNat else eventsIn abi stream

/-- Whether the events end as they should: the last one that is asked for comes, or the bytes
end behind a record. -/
def endsWell (abi : Abi) (stream : List UInt8) (maxEvents : U32) : Bool :=
  decide (0 < maxEvents ∧ maxEvents.toNat ≤ (eventsIn abi stream).length) ||
    (leftover (inputEventSize abi) stream).isEmpty

/-- While the program is patient, only enough events or the end of the device end it. -/
theorem turn_patient (h : Follows abi stream maxEvents w) {t : Turn} (patient : Patient durationMs t)
    {status : Nat} (ended : turn abi stream durationMs maxEvents w t = .error (status, w')) :
    w' = w ∧ w.events abi stream = wanted abi stream maxEvents ∧
      status = if endsWell abi stream maxEvents then 0 else 1 := by
  have did := turn_cases abi stream durationMs maxEvents w t
  rw [ended] at did
  have start : w.events abi stream <+: eventsIn abi stream := eventsIn_prefix (List.take_prefix _ _)
  cases did with
  | enough done =>
    obtain ⟨some, all⟩ := (enough_iff h).mp done
    refine ⟨rfl, ?_, ?_⟩
    · rw [wanted, if_pos some, ← all]
      exact List.prefix_iff_eq_take.mp start
    · have long : maxEvents.toNat ≤ (eventsIn abi stream).length := all ▸ start.length_le
      rw [endsWell, decide_eq_true ⟨some, long⟩]
      rfl
  | ends few more nothing =>
    have whole := received_nothing h nothing
    have all : w.events abi stream = eventsIn abi stream := by
      rw [Watcher.events, whole, List.take_length]
    have rest : w.pending = leftover (inputEventSize abi) stream := by
      rw [h.pending, whole, List.take_length]
    have few' : 0 < maxEvents → (eventsIn abi stream).length < maxEvents.toNat := fun some =>
      lt_of_le_of_ne (all ▸ h.bounded some) fun same =>
        few ((enough_iff h).mpr ⟨some, all ▸ same⟩)
    refine ⟨rfl, ?_, ?_⟩
    · rw [wanted, all]
      split
      · rename_i some
        exact (List.take_of_length_le (few' some).le).symm
      · rfl
    · have not : ¬(0 < maxEvents ∧ maxEvents.toNat ≤ (eventsIn abi stream).length) :=
        fun reached => Nat.not_lt.mpr reached.2 (few' reached.1)
      rw [endsWell, decide_eq_false not, rest, Bool.false_or]
      simp only [List.isEmpty_iff]
  | breaks few lost => exact absurd patient lost

/-- With time left and a device that is not broken, the loop reads until it has what it is
asked for, or everything, wherever the reads cut the bytes. -/
theorem watch_patient {turns : List Turn} (patient : ∀ t ∈ turns, Patient durationMs t)
    (long : stream.length < turns.countP gives) :
    ∃ last, watch abi stream durationMs maxEvents .start turns =
        .error (if endsWell abi stream maxEvents then 0 else 1, last) ∧
      last.shown = number (wanted abi stream maxEvents) ∧
      last.counts = tally (wanted abi stream maxEvents) := by
  have start := follows_start abi stream maxEvents
  cases run : watch abi stream durationMs maxEvents .start turns with
  | ok w =>
    have within := (watch_keeps start run).within
    have used := foldlM_countP (f := turn abi stream durationMs maxEvents) (m := Watcher.used)
      (fun _ _ _ passed => (turn_used passed).1)
      (fun _ _ _ given passed => (turn_used passed).2 given) run
    omega
  | error e =>
    obtain ⟨front, t, rest, w, split, passed, ended⟩ := foldlM_error run
    have follows : Follows abi stream maxEvents w := watch_keeps start passed
    have mem : t ∈ turns := by
      rw [split]
      exact List.mem_append_right front List.mem_cons_self
    obtain ⟨status, last⟩ := e
    obtain ⟨rfl, all, rfl⟩ := turn_patient follows (patient t mem) ended
    exact ⟨last, rfl, follows.shown.trans (congrArg number all),
      follows.counts.trans (congrArg tally all)⟩

/-- With arguments that are understood and a device that is found and opened, time enough and no
failure, the report is that of all the events that are asked for: it does not depend on how
the reads cut the device's bytes. -/
theorem main_patient {files : Files} {sysroot devroot : Option (List UInt8)}
    {args : List (List UInt8)} {turns : List Turn} {options : Options} {device : InputDevice}
    (parsed : parseArgs abi {} args = .ok options)
    (found : findDevice files (sysroot.getD (chars "/sys")) (devroot.getD (chars "/dev"))
      options.wantedPhys = some device)
    (opened : files.open_ device.path = true)
    (patient : ∀ t ∈ turns, Patient options.durationMs t)
    (long : stream.length < turns.countP gives) :
    main abi files sysroot devroot stream args turns =
      .reported (if endsWell abi stream options.maxEvents then 0 else 1)
        { device, options
          shown := number (wanted abi stream options.maxEvents)
          complete := endsWell abi stream options.maxEvents
          counts := tally (wanted abi stream options.maxEvents) } := by
  obtain ⟨last, run, shown, counts⟩ :=
    watch_patient patient long
  rw [main, parsed]
  dsimp only
  rw [found]
  dsimp only
  rw [if_neg (opened ▸ Bool.noConfusion), run]
  dsimp only
  rw [shown, counts]
  cases endsWell abi stream options.maxEvents <;> rfl

/-- Two presses and half a record, of which one press is asked for, a byte at a time. -/
theorem presses_patient :
    main .ilp32 buttonFiles none none (press ++ press ++ press.take 8)
        [chars "--max-events", chars "1"] (List.replicate 41 ⟨0, .ready true false, .bytes 0⟩) =
      .reported 0
        { device := buttons, options := { maxEvents := 1 }
          shown := number [{ type := EV_KEY, code := 116, value := 1 }], complete := true
          counts := tally [{ type := EV_KEY, code := 116, value := 1 }] } := by
  have read := @main_patient .ilp32 (press ++ press ++ press.take 8) buttonFiles none none
    [chars "--max-events", chars "1"] (List.replicate 41 ⟨0, .ready true false, .bytes 0⟩)
    { maxEvents := 1 } buttons (by decide +kernel) (by decide +kernel) rfl
    (fun t mem => List.eq_of_mem_replicate mem ▸ ⟨by decide, by decide, by decide⟩) (by decide)
  exact read.trans (by decide +kernel)

end loop

end VitaLinux.Toolkit.Inputwatch
