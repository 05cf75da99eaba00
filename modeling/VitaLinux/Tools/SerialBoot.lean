import VitaLinux.Tools.BootRuns
import VitaLinux.Tools.SerialLog

/-!
# The two ends of the serial log

`make serial` runs the console without timestamps, and the watcher looks at the file that the
console writes, at any moments and with any part of what has been written flushed to it. What
the watcher then says is about what the port has sent.
-/

namespace VitaLinux.Tools.SerialBoot

open VitaLinux.Base VitaLinux.Tools.SerialLog VitaLinux.Tools.BootWatch

/-- The bytes of the file, as the shell has them in its texts. -/
def decode (bytes : SerialLog.Bytes) : Text := bytes.map fun b => Char.ofNat b.toNat

/-- The console and the watcher, in any interleaving: what the port has sent, the turns of the
watcher, what it saw of the file in the last one, and the console. -/
inductive Session (prior : SerialLog.Bytes) :
    List SerialLog.Bytes → List Turn → SerialLog.Bytes → Console → Prop where
  | start : Session prior [] [] [] ⟨[], prior, .waiting⟩
  | read {reads : List SerialLog.Bytes} {turns : List Turn} {seen : SerialLog.Bytes} {s : Console}
      (before : Session prior reads turns seen s) (waits : s.point = .waiting)
      {data : SerialLog.Bytes} (some : data ≠ []) :
      Session prior (reads ++ [data]) turns seen { s with point := .received data }
  | step {reads : List SerialLog.Bytes} {turns : List Turn} {seen : SerialLog.Bytes} {s : Console}
      (before : Session prior reads turns seen s) (now : Stamp) :
      Session prior reads turns seen (step false now s)
  /-- what is in the file has been written, and stays in it -/
  | look {reads : List SerialLog.Bytes} {turns : List Turn} {seen : SerialLog.Bytes} {s : Console}
      (before : Session prior reads turns seen s) {visible : SerialLog.Bytes}
      (written : visible <+: s.log) (stays : seen.length ≤ visible.length) {t : Turn}
      (log : t.log = some (decode visible)) :
      Session prior reads (turns ++ [t]) visible s

section session

variable {prior seen : SerialLog.Bytes} {reads : List SerialLog.Bytes} {turns : List Turn}
  {s : Console}

/-- Without the turns of the watcher it is a run of the console. -/
theorem Session.run (session : Session prior reads turns seen s) : Run false prior reads s := by
  induction session with
  | start => exact .start
  | read before waits some ih => exact ih.read waits some
  | step before now ih => exact ih.step now
  | look before written stays log ih => exact ih

/-- The log is what was in it and what has been received, but for what is just being logged. -/
def Logged (prior received : SerialLog.Bytes) (s : Console) : Prop :=
  match s.point with
  | .waiting | .logged => s.log = prior ++ received
  | .received data => s.log ++ data = prior ++ received
  | .scanning | .written _ => False

theorem run_logged (run : Run false prior reads s) : Logged prior reads.flatten s := by
  induction run with
  | start => exact (List.append_nil prior).symm
  | @read reads s before waits data some ih =>
    have log : s.log = prior ++ reads.flatten := by simpa [Logged, waits] using ih
    change s.log ++ data = prior ++ (reads ++ [data]).flatten
    simp [log]
  | @step reads s before now ih =>
    unfold SerialLog.step
    cases point : s.point with
    | waiting => exact ih
    | received data => simpa [Logged, point] using ih
    | scanning => simp [Logged, point] at ih
    | written rest => simp [Logged, point] at ih
    | logged => simpa [Logged, point] using ih

theorem run_log_sent (run : Run false prior reads s) : s.log <+: prior ++ reads.flatten := by
  have logged := run_logged run
  unfold Logged at logged
  split at logged
  · exact logged ▸ List.prefix_refl _
  · exact logged ▸ List.prefix_refl _
  · exact ⟨_, logged⟩
  · exact logged.elim
  · exact logged.elim

theorem step_log_grown (now : Stamp) (s : Console) : s.log <+: (step false now s).log := by
  unfold SerialLog.step
  split
  · exact List.prefix_refl _
  · exact List.prefix_append ..
  · split
    · exact List.prefix_append ..
    · exact List.prefix_refl _
  · exact List.prefix_refl _
  · exact List.prefix_refl _

theorem decode_grown {old new : SerialLog.Bytes} (grown : old <+: new) :
    decode old <+: decode new :=
  grown.map _

theorem growing_concat {old : Text} {t : Turn} (growing : Growing old turns)
    (grown : ∀ text, t.log = some text → latest old turns <+: text) :
    Growing old (turns ++ [t]) := by
  induction turns generalizing old with
  | nil => exact fun text log => ⟨grown text log, trivial⟩
  | cons first rest ih =>
    intro text log
    refine ⟨(growing text log).1, ih (growing text log).2 ?_⟩
    rwa [latest, log, Option.getD_some] at grown

theorem latest_concat {old text : Text} {t : Turn} (log : t.log = some text) :
    latest old (turns ++ [t]) = text := by
  induction turns generalizing old with
  | nil => rw [List.nil_append, latest, log]; rfl
  | cons first rest ih => exact ih

/-- The watcher sees a log that grows, and nothing that has not been written. -/
theorem Session.growing (session : Session prior reads turns seen s) :
    Growing [] turns ∧ latest [] turns = decode seen ∧ seen <+: s.log := by
  induction session with
  | start => exact ⟨trivial, rfl, List.nil_prefix⟩
  | read before waits some ih => exact ih
  | step before now ih => exact ⟨ih.1, ih.2.1, ih.2.2.trans (step_log_grown now _)⟩
  | @look reads turns seen s before visible written stays t log ih =>
    obtain ⟨growing, same, known⟩ := ih
    refine ⟨growing_concat growing fun text other => ?_, latest_concat log, written⟩
    obtain rfl := Option.some.inj (log.symm.trans other)
    rw [same]
    exact decode_grown (List.prefix_of_prefix_length_le known written stays)

/-- Each turn sees a part of what is seen last. -/
theorem Session.looks (session : Session prior reads turns seen s) :
    ∀ t ∈ turns, ∃ visible, t.log = some (decode visible) ∧ visible <+: seen := by
  induction session with
  | start => exact fun t mem => absurd mem List.not_mem_nil
  | read before waits some ih => exact ih
  | step before now ih => exact ih
  | @look reads turns seen s before visible written stays t log ih =>
    have grown : seen <+: visible :=
      List.prefix_of_prefix_length_le before.growing.2.2 written stays
    intro other mem
    obtain earlier | last := List.mem_append.mp mem
    · obtain ⟨part, known, inside⟩ := ih other earlier
      exact ⟨part, known, inside.trans grown⟩
    · obtain rfl := List.mem_singleton.mp last
      exact ⟨visible, log, List.prefix_refl _⟩

theorem fresh_prefix {n : Nat} {old new : Text} (grown : old <+: new) :
    fresh n old <+: fresh n new := by
  obtain ⟨added, same⟩ := readLines_grown grown
  rw [fresh, fresh, ← same, List.drop_append, List.map_append]
  exact List.prefix_append ..

/-- What a reason to end says of the lines that have been gone through. -/
def Means (lines : List Text) : Reason → Prop
  | .complete => Ends .login lines
  | .panic => Ends .panic lines
  | .timedOut => Open lines
  | .noLog => False

/-- What the port has sent, after what was in the log before. -/
def onWire (prior : SerialLog.Bytes) (reads : List SerialLog.Bytes) : Text :=
  decode (prior ++ reads.flatten)

/-- **The watcher judges what the port has sent**: whatever the looks were, it ends with the
boot of the lines that have been received, and while it goes on they leave the boot open. -/
theorem serial_boot (session : Session prior reads turns seen s) (arg : Option Nat) (log : Text)
    (now : Int) :
    (∀ reason w, bootWatch arg (some log) now turns = .error (reason, w) →
      w.lines <+: fresh (startLine arg log) (onWire prior reads) ∧ Means w.lines reason) ∧
    ∀ w, bootWatch arg (some log) now turns = .ok w →
      w.lines = fresh (startLine arg log) (decode seen) ∧ Open w.lines := by
  obtain ⟨growing, last, written⟩ := session.growing
  have outcome := watch_outcome growing (startWatch_follows arg log now)
  change Outcome _ turns (bootWatch arg (some log) now turns) at outcome
  have sent : decode seen <+: onWire prior reads :=
    decode_grown (written.trans (run_log_sent session.run))
  refine ⟨fun reason w ended => ?_, fun w running => ?_⟩
  · rw [ended] at outcome
    cases outcome with
    | @ends before after t split _ verdict =>
      obtain ⟨visible, look, inside⟩ := session.looks t (by rw [split]; simp)
      have part : fresh (startLine arg log) (decode visible) <+:
          fresh (startLine arg log) (onWire prior reads) :=
        fresh_prefix ((decode_grown inside).trans sent)
      cases reason with
      | noLog => exact absurd (look.symm.trans verdict.1) nofun
      | complete =>
        obtain ⟨text, same, shown, how, -⟩ := verdict
        obtain rfl := Option.some.inj (look.symm.trans same)
        exact ⟨shown.trans part, how⟩
      | panic =>
        obtain ⟨text, same, shown, how⟩ := verdict
        obtain rfl := Option.some.inj (look.symm.trans same)
        exact ⟨shown.trans part, how⟩
      | timedOut =>
        obtain ⟨text, same, shown, open_, -⟩ := verdict
        obtain rfl := Option.some.inj (look.symm.trans same)
        exact ⟨shown ▸ part, open_⟩
  · rw [running] at outcome
    cases outcome with
    | goesOn lines open_ nothing => exact ⟨last ▸ lines, open_⟩

end session

/-- What the port sends: a line of a boot, and a panic in two reads. -/
def sends : List SerialLog.Bytes :=
  [bytes "Jumping to Linux\n", bytes "Kernel ", bytes "panic\n"]

/-- The watcher looks before the panic is whole, and after it. -/
def panicLooks : List Turn :=
  [{ log := some (decode (sends.take 2).flatten), pipe := false, date := fun _ => 100,
     checked := 101 },
    { log := some (decode sends.flatten), pipe := false, date := fun _ => 102, checked := 103 }]

theorem panicLooks_session :
    Session [] sends panicLooks sends.flatten ⟨[], sends.flatten, .logged⟩ := by
  have first : Session [] (sends.take 1) [] [] ⟨[], (sends.take 1).flatten, .waiting⟩ :=
    ((Session.start.read rfl (by decide)).step noon).step noon
  have second : Session [] (sends.take 2) [] [] ⟨[], (sends.take 2).flatten, .logged⟩ :=
    (first.read rfl (by decide)).step noon
  have looked : Session [] (sends.take 2) (panicLooks.take 1) (sends.take 2).flatten
      ⟨[], (sends.take 2).flatten, .waiting⟩ :=
    (second.look (List.prefix_refl _) (Nat.zero_le _) rfl).step noon
  exact ((looked.read rfl (by decide)).step noon).look (List.prefix_refl _) (by decide) rfl

theorem panicLooks_panic : ∃ w, bootWatch none (some []) 100 panicLooks = .error (.panic, w) :=
  ⟨_, rfl⟩

theorem panicLooks_boot : ∃ w, bootWatch none (some []) 100 panicLooks = .error (.panic, w) ∧
    w.lines <+: fresh 0 (onWire [] sends) ∧ Ends .panic w.lines := by
  obtain ⟨w, ended⟩ := panicLooks_panic
  exact ⟨w, ended, (serial_boot panicLooks_session none [] 100).1 .panic w ended⟩

end VitaLinux.Tools.SerialBoot
