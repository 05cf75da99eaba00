import VitaLinux.Base.Delimited

/-!
# serial_log.py

The console appends what the serial port sends to a log file, in the timestamp mode line by
line. It can be stopped at any point of a round, by a signal or an exception. What is echoed
to the terminal, and what goes from the keyboard and the pipe to the port, is left out.
-/

namespace VitaLinux.Tools.SerialLog

open VitaLinux.Base

abbrev Bytes := List UInt8

def newline : UInt8 := 0x0a

def leftBracket : UInt8 := 0x5b

def rightBracket : UInt8 := 0x5d

def space : UInt8 := 0x20

/-- What `strftime` makes of the time: digits, dashes, a space, colons and a point. -/
abbrev Stamp := { text : Bytes // newline ∉ text ∧ rightBracket ∉ text }

/-- Where the program stands between two of its effects. -/
inductive Point where
  /-- in the main loop -/
  | waiting
  /-- `ser.read` has returned `data` -/
  | received (data : Bytes)
  /-- before the test of the loop in `log_data` -/
  | scanning
  /-- a line has been written, and `rest` is to replace the buffer -/
  | written (rest : Bytes)
  /-- before `log.flush()` and the echo -/
  | logged
  deriving DecidableEq, Repr

structure Console where
  lineBuf : Bytes
  /-- the log file, with what is still in the buffer of the file object -/
  log : Bytes
  point : Point
  deriving DecidableEq, Repr

/-- `f"[{ts}] ".encode() + line + b"\n"` -/
def stampLine (ts : Stamp) (line : Bytes) : Bytes :=
  leftBracket :: ts.val ++ rightBracket :: space :: line ++ [newline]

/-- The next effect, when the time is `now`. -/
def step (timestamps : Bool) (now : Stamp) (s : Console) : Console :=
  match s.point with
  | .waiting => s
  | .received data =>
    if timestamps then { s with lineBuf := s.lineBuf ++ data, point := .scanning }
    else { s with log := s.log ++ data, point := .logged }
  | .scanning =>
    match partition newline s.lineBuf with
    | some (line, rest) => { s with log := s.log ++ stampLine now line, point := .written rest }
    | none => { s with point := .logged }
  | .written rest => { s with lineBuf := rest, point := .scanning }
  | .logged => { s with point := .waiting }

/-- The console after some reads, on a log file that held `prior`. -/
inductive Run (timestamps : Bool) (prior : Bytes) : List Bytes → Console → Prop where
  | start : Run timestamps prior [] ⟨[], prior, .waiting⟩
  | read {reads : List Bytes} {s : Console} (before : Run timestamps prior reads s)
      (waits : s.point = .waiting) {data : Bytes} (some : data ≠ []) :
      Run timestamps prior (reads ++ [data]) { s with point := .received data }
  | step {reads : List Bytes} {s : Console} (before : Run timestamps prior reads s)
      (now : Stamp) : Run timestamps prior reads (step timestamps now s)

/-- The size from which a deleted log is not recovered. -/
def RECOVERY_LIMIT : Nat := 10 * 1024 * 1024

/-- What `cleanup` leaves of the log file, which may have been deleted meanwhile. -/
def cleanup (deleted : Bool) (s : Console) : Option Bytes :=
  if deleted then
    if 0 < s.log.length ∧ s.log.length < RECOVERY_LIMIT then some s.log else none
  else some s.log

/-! ## What the log says -/

/-- A line without its timestamp. -/
def unstampLine (line : Bytes) : Bytes := (line.dropWhile (· ≠ rightBracket)).drop 2

def unstamp (log : Bytes) : Bytes := mapLines newline unstampLine log

/-- What has been received and is not in the log. -/
def Console.unlogged (s : Console) : Bytes :=
  match s.point with
  | .waiting | .scanning | .logged => s.lineBuf
  | .received data => s.lineBuf ++ data
  | .written rest => rest

theorem unstampLine_stamped (ts : Stamp) (line : Bytes) :
    unstampLine (leftBracket :: ts.val ++ rightBracket :: space :: line) = line := by
  have passes : ∀ c ∈ leftBracket :: ts.val, decide (c ≠ rightBracket) = true := by
    intro c member
    apply decide_eq_true
    rintro rfl
    obtain same | inside := List.mem_cons.mp member
    · exact absurd same (by decide)
    · exact ts.property.2 inside
  rw [unstampLine, List.dropWhile_append_of_pos passes, List.dropWhile_cons_of_neg (by simp)]
  rfl

theorem unstamp_nil : unstamp [] = [] := mapLines_nil rfl

/-- A stamped line in front of the log. -/
theorem unstamp_line (ts : Stamp) {line : Bytes} (whole : newline ∉ line) (rest : Bytes) :
    unstamp (stampLine ts line ++ rest) = line ++ newline :: unstamp rest := by
  have stamped : newline ∉ leftBracket :: ts.val ++ rightBracket :: space :: line := by
    have marks : newline ∉ [leftBracket, rightBracket, space] := by decide
    have stamp := ts.property.1
    simp_all
  have shape : stampLine ts line ++ rest =
      (leftBracket :: ts.val ++ rightBracket :: space :: line) ++ newline :: rest := by
    simp [stampLine]
  rw [unstamp, shape, mapLines_line stamped, unstampLine_stamped]
  rfl

/-- A line with the stamp under which it was written. -/
abbrev Entry := Stamp × { line : Bytes // newline ∉ line }

def stamped (entries : List Entry) : Bytes := entries.flatMap fun e => stampLine e.1 e.2.val

def plain (entries : List Entry) : Bytes := entries.flatMap fun e => e.2.val ++ [newline]

theorem unstamp_stamped (entries : List Entry) : unstamp (stamped entries) = plain entries := by
  induction entries with
  | nil => exact unstamp_nil
  | cons e entries ih =>
    rw [stamped, List.flatMap_cons, unstamp_line e.1 e.2.property, ← stamped, ih]
    simp [plain]

theorem terminated_plain (entries : List Entry) : Terminated newline (plain entries) := by
  cases entries using List.reverseRecOn with
  | nil => exact .inl rfl
  | append_singleton entries e =>
    rw [plain, List.flatMap_append, List.flatMap_singleton, ← List.append_assoc]
    exact terminated_concat _ _

/-- The log holds the lines that have been written, and the rest is still at hand. -/
structure Keeps (prior received : Bytes) (s : Console) : Prop where
  entries : ∃ entries, s.log = prior ++ stamped entries ∧ received = plain entries ++ s.unlogged
  scanned : s.point = .waiting ∨ s.point = .logged → newline ∉ s.lineBuf

theorem start_keeps (prior : Bytes) : Keeps prior [] ⟨[], prior, .waiting⟩ where
  entries := ⟨[], (List.append_nil prior).symm, rfl⟩
  scanned _ := List.not_mem_nil

theorem read_keeps {prior received : Bytes} {s : Console} (h : Keeps prior received s)
    (waits : s.point = .waiting) (data : Bytes) :
    Keeps prior (received ++ data) { s with point := .received data } := by
  obtain ⟨entries, log, rfl⟩ := h.entries
  refine ⟨⟨entries, log, ?_⟩, ?_⟩
  · simp [Console.unlogged, waits]
  · rintro (other | other) <;> cases other

/-- An effect moves at most one complete line into the log. -/
theorem step_keeps {prior received : Bytes} {s : Console} (h : Keeps prior received s)
    (now : Stamp) : Keeps prior received (step true now s) := by
  obtain ⟨entries, log, rfl⟩ := h.entries
  unfold step
  cases point : s.point with
  | waiting => exact h
  | received data =>
    refine ⟨⟨entries, log, ?_⟩, ?_⟩
    · simp [Console.unlogged, point]
    · rintro (other | other) <;> cases other
  | scanning =>
    cases found : partition newline s.lineBuf with
    | none =>
      refine ⟨⟨entries, log, ?_⟩, fun _ => partition_eq_none.mp found⟩
      simp [Console.unlogged, point]
    | some cut =>
      obtain ⟨line, rest⟩ := cut
      obtain ⟨whole, split⟩ := partition_eq_some found
      refine ⟨⟨entries ++ [(now, ⟨line, whole⟩)], ?_, ?_⟩, ?_⟩
      · simp [log, stamped]
      · simp [Console.unlogged, point, split, plain]
      · rintro (other | other) <;> cases other
  | written rest =>
    refine ⟨⟨entries, log, ?_⟩, ?_⟩
    · simp [Console.unlogged, point]
    · rintro (other | other) <;> cases other
  | logged =>
    refine ⟨⟨entries, log, ?_⟩, fun _ => h.scanned (.inr point)⟩
    simp [Console.unlogged, point]

theorem run_keeps {prior : Bytes} {reads : List Bytes} {s : Console}
    (run : Run true prior reads s) : Keeps prior reads.flatten s := by
  induction run with
  | start => exact start_keeps prior
  | read before waits some ih =>
    rw [List.flatten_append, List.flatten_singleton]
    exact read_keeps ih waits _
  | step before now ih => exact step_keeps ih now

/-- Nothing is missing from the log exactly when what has been received is complete lines,
all of them written. -/
theorem Keeps.logged_iff {prior received : Bytes} {s : Console} (h : Keeps prior received s) :
    unstamp (s.log.drop prior.length) = received ↔
      Terminated newline received ∧ newline ∉ s.unlogged := by
  obtain ⟨entries, log, rfl⟩ := h.entries
  rw [log, List.drop_left, unstamp_stamped, (terminated_plain entries).append,
    List.self_eq_append_right]
  constructor
  · intro nothing
    rw [nothing]
    exact ⟨.inl rfl, List.not_mem_nil⟩
  · rintro ⟨complete, written⟩
    exact (terminated_iff_nil written).mp complete

/-- The log that is left after a stop, as far as this run has written it. -/
def left (prior : Bytes) (deleted : Bool) (s : Console) : Bytes :=
  ((cleanup deleted s).getD []).drop prior.length

/-- In the main loop, all complete lines have been written. -/
theorem Run.waiting {prior : Bytes} {reads : List Bytes} {s : Console}
    (run : Run true prior reads s) (waits : s.point = .waiting) :
    unstamp (left prior false s) = reads.flatten ↔ Terminated newline reads.flatten := by
  have scanned : newline ∉ s.unlogged := by
    rw [Console.unlogged, waits]
    exact (run_keeps run).scanned (.inl waits)
  exact (run_keeps run).logged_iff.trans (and_iff_left scanned)

/-- **The timestamped log loses nothing** exactly when what has been received is complete
lines, the stop finds them all written, and a log deleted meanwhile can be recovered. -/
theorem nothing_lost_iff {prior : Bytes} {reads : List Bytes} {s : Console}
    (run : Run true prior reads s) (deleted : Bool) :
    unstamp (left prior deleted s) = reads.flatten ↔
      Terminated newline reads.flatten ∧ newline ∉ s.unlogged ∧
        (deleted = true → s.log.length < RECOVERY_LIMIT ∨ reads.flatten = []) := by
  have keeps := run_keeps run
  rw [← and_assoc, ← keeps.logged_iff, left, cleanup]
  obtain ⟨entries, log, received⟩ := keeps.entries
  by_cases gone : deleted = true
  · rw [if_pos gone]
    split
    case isTrue recovered =>
      exact (and_iff_left fun _ => .inl recovered.2).symm
    case isFalse missing =>
      rw [Option.getD_none, List.drop_nil, unstamp_nil]
      constructor
      · intro nothing
        have none : entries = [] := by
          rw [received] at nothing
          cases entries with
          | nil => rfl
          | cons e entries => simp [plain] at nothing
        rw [log, none, ← nothing]
        simpa [stamped] using unstamp_nil
      · rintro ⟨whole, small⟩
        obtain small | nothing := small gone
        · have empty : s.log = [] := by
            rw [← List.length_eq_zero_iff]
            omega
          rw [← whole, empty, List.drop_nil, unstamp_nil]
        · exact nothing.symm
  · rw [if_neg gone]
    exact (and_iff_left fun deleted => absurd deleted gone).symm

/-- `text` as it comes from the port. -/
def bytes (text : String) : Bytes := text.toList.map fun c => c.toNat.toUInt8

def noon : Stamp := ⟨bytes "2026-09-01 12:00:00.000", by decide⟩

/-- A line in two reads, and the stop after both. -/
theorem twoReads : Run true [] [bytes "a", bytes "b\n"] ⟨[], stampLine noon (bytes "ab"), .waiting⟩ :=
  (((((Run.start.read rfl (by decide)).step noon |>.step noon |>.step noon).read rfl
    (by decide)).step noon |>.step noon |>.step noon |>.step noon).step noon)

theorem nothing_lost_iff_line :
    unstamp (left [] false ⟨[], stampLine noon (bytes "ab"), .waiting⟩) =
      [bytes "a", bytes "b\n"].flatten :=
  (nothing_lost_iff twoReads false).mpr ⟨by decide, by decide, by decide⟩

/-- A prompt is not in the log when the console is stopped. -/
theorem prompt_lost : ∃ s, Run true [] [bytes "login: "] s ∧ s.point = .waiting ∧
    cleanup false s = some [] ∧ unstamp (left [] false s) ≠ [bytes "login: "].flatten :=
  ⟨_, ((Run.start.read rfl (by decide)).step noon |>.step noon |>.step noon), rfl, rfl, by decide⟩

end VitaLinux.Tools.SerialLog
