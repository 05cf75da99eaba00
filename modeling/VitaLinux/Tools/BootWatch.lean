import Mathlib.Data.List.Infix
import VitaLinux.Base.Following

/-!
# boot_watch.sh

After Linux has been launched, the script follows the serial log. It looks at the log a few
times a second, goes through the lines that are new, and ends at the login prompt, at a kernel
panic, or when a stage takes too long.
-/

namespace VitaLinux.Tools.BootWatch

open VitaLinux.Base

/-- A stage: what its line has in it, how it is announced, and its number. Late stages are
looked for only when the boot has started. -/
structure Stage where
  pattern : Text
  label : Text
  target : Nat
  late : Bool := false
  deriving DecidableEq, Repr

def STAGES : List Stage :=
  [{ pattern := "Baremetal loader by xerpi".toList, label := "Baremetal loader".toList, target := 1 },
    { pattern := "Vita baremetal Linux loader started".toList,
      label := "Linux loader started".toList, target := 2 },
    { pattern := "Loading '/linux/zImage'".toList, label := "Loading zImage".toList, target := 3 },
    { pattern := "Jumping to Linux".toList, label := "Jumping to Linux".toList, target := 4 },
    { pattern := "Booting Linux on physical CPU".toList, label := "Kernel booting".toList,
      target := 5 },
    { pattern := "Run /init as init process".toList, label := "Userspace init".toList, target := 6,
      late := true },
    { pattern := "Welcome to Buildroot".toList, label := "Login prompt reached".toList, target := 7,
      late := true }]

def stageTimeouts : List Int := [15, 10, 5, 45, 10, 30, 30]

def labels : List Text :=
  ["Baremetal loader".toList, "Linux loader".toList, "Loading zImage".toList,
    "Jumping to Linux".toList, "Kernel booting".toList, "Userspace init".toList,
    "Login prompt".toList]

def PANIC : Text := "Kernel panic".toList

/-- A dash and some of the letters `neE`: bash's `echo` takes such an argument as an option. -/
def isEchoOption : Text → Bool
  | '-' :: letter :: letters => (letter :: letters).all ("neE".toList.contains ·)
  | _ => false

/-- What `echo` prints, of one argument. -/
def echo (argument : Text) : Text :=
  if isEchoOption argument then if 'n' ∈ argument then [] else ['\n'] else argument ++ ['\n']

/-- What the script prints. -/
inductive Shown where
  /-- `--- [%ss] %s ---` -/
  | marker (elapsed : Int) (label : Text)
  /-- what `echo` makes of a line of the log -/
  | echoed (text : Text)
  /-- `--- KERNEL PANIC ---` -/
  | panic
  /-- `Boot complete in %ss` -/
  | complete (elapsed : Int)
  /-- `Timed out waiting for: %s (%ss)` -/
  | timedOut (label : Text) (seconds : Int)
  deriving DecidableEq, Repr

/-- The variables, the lines that the loop has gone through, what has been printed, and what has
been sent to the console. -/
structure Watch where
  startLine : Nat
  startTime : Int
  stageTime : Int
  seen : Nat := 0
  lines : List Text := []
  shown : List Shown := []
  /-- what has gone into `/tmp/serial.pipe` -/
  sent : List Text := []
  /-- how often the clock has been read in this turn -/
  reads : Nat := 0
  deriving DecidableEq, Repr

inductive Reason where
  | noLog
  | panic
  | complete
  | timedOut
  deriving DecidableEq, Repr

/-- The exit status. -/
def Reason.status : Reason → Nat
  | .complete => 0
  | .noLog | .panic | .timedOut => 1

/-- How the script ends, and with what. -/
abbrev Exit := Reason × Watch

/-- One turn of the loop: the log as it is then, the console, and the clock. -/
structure Turn where
  /-- `logs/latest.log`, if it can be read -/
  log : Option Text
  /-- `/tmp/serial.pipe` takes what is written; when it does not, nothing is said of it. A pipe
  that nobody has open for reading blocks, and then the turn does not end. -/
  pipe : Bool
  /-- the readings of the clock while the lines are gone through -/
  date : Nat → Int
  /-- its reading at the end of the turn -/
  checked : Int

def advance (t : Turn) (stage : Stage) (w : Watch) : Watch :=
  { w with
    -- the loop counts up to the target
    seen := max w.seen stage.target
    shown := w.shown ++ [.marker (t.date w.reads - w.startTime) stage.label]
    stageTime := t.date (w.reads + 1)
    reads := w.reads + 2
    -- at the prompt `root` is entered, if the console takes it
    sent := if stage.target = 7 ∧ t.pipe then w.sent ++ ["root\n".toList] else w.sent }

/-- The line shows the stage, and it is not passed yet. -/
def Stage.Due (stage : Stage) (line : Text) (seen : Nat) : Prop :=
  stage.pattern <:+: line ∧ (stage.late = true → 1 ≤ seen) ∧ seen < stage.target

instance (stage : Stage) (line : Text) (seen : Nat) : Decidable (stage.Due line seen) :=
  inferInstanceAs (Decidable (_ ∧ _ ∧ _))

def checkStage (t : Turn) (line : Text) (w : Watch) (stage : Stage) : Watch :=
  if stage.Due line w.seen then advance t stage w else w

/-- `read` leaves out what cannot be in a variable. -/
def readLine (line : Text) : Text := line.filter (· ≠ '\x00')

/-- What follows the stages in the body of the loop over the lines. -/
def endLine (t : Turn) (line : Text) (w : Watch) : Except Exit Watch :=
  let w := { w with lines := w.lines ++ [line], shown := w.shown ++ [.echoed (echo line)] }
  if PANIC <:+: line then .error (.panic, { w with shown := w.shown ++ [.panic] })
  else if 7 ≤ w.seen then
    .error (.complete, { w with shown := w.shown ++ [.complete (t.date w.reads - w.startTime)] })
  else .ok w

def processLine (t : Turn) (w : Watch) (read : Text) : Except Exit Watch :=
  let line := readLine read
  endLine t line (STAGES.foldl (checkStage t line) w)

/-- The new lines, `tail -n +start | head -n count`. -/
def processLines (t : Turn) (w : Watch) (current : List Text) : Except Exit Watch :=
  if w.startLine < current.length then do
    let w ← (current.drop w.startLine).foldlM (processLine t) w
    return { w with startLine := current.length }
  else return w

/-- The end of a turn. -/
def checkTimeout (t : Turn) (w : Watch) : Except Exit Watch :=
  match stageTimeouts[w.seen]? with
  | none => .ok w
  | some seconds =>
    if seconds ≤ t.checked - w.stageTime then
      .error (.timedOut,
        { w with shown := w.shown ++ [.timedOut (labels.getD w.seen []) seconds] })
    else .ok w

def turn (w : Watch) (t : Turn) : Except Exit Watch :=
  match t.log with
  | none => .error (.noLog, w)
  | some text => do
    let w ← processLines t { w with reads := 0 } (readLines text)
    checkTimeout t w

/-- The loop, for so many turns. -/
def watch (w : Watch) (turns : List Turn) : Except Exit Watch := turns.foldlM turn w

/-- The first line to look at: an argument, or the next line of the log. -/
def startLine (arg : Option Nat) (log : Text) : Nat := arg.getD (readLines log).length

/-- The script, on the log and at the time when it starts. -/
def bootWatch (arg : Option Nat) (log : Option Text) (now : Int) (turns : List Turn) :
    Except Exit Watch :=
  match log with
  | none => .error (.noLog, { startLine := 0, startTime := now, stageTime := now })
  | some text =>
    watch { startLine := startLine arg text, startTime := now, stageTime := now } turns

/-! ## What the lines of a boot say -/

/-- A line of the first stages: a boot has started. -/
def Starts (line : Text) : Prop := ∃ stage ∈ STAGES, stage.late = false ∧ stage.pattern <:+: line

def Welcomes (line : Text) : Prop := "Welcome to Buildroot".toList <:+: line

def Panics (line : Text) : Prop := PANIC <:+: line

/-- There is a login prompt, and a boot has started before it or in the same line. -/
def LoggedIn (heard : List Text) : Prop :=
  ∃ front line rest, heard = front ++ line :: rest ∧ Welcomes line ∧
    ∃ first ∈ front ++ [line], Starts first

/-- Nothing yet tells how the boot ends. -/
structure Open (heard : List Text) : Prop where
  noLogin : ¬LoggedIn heard
  noPanic : ∀ line ∈ heard, ¬Panics line

/-- How a boot ends. -/
inductive End where
  | login
  | panic
  deriving DecidableEq, Repr

/-- The boot is open until the last of these lines, which ends it. -/
inductive Ends : End → List Text → Prop where
  | panic {front : List Text} {line : Text} (open_ : Open front) (panics : Panics line) :
      Ends .panic (front ++ [line])
  | login {front : List Text} {line : Text} (open_ : Open front) (calm : ¬Panics line)
      (prompt : LoggedIn (front ++ [line])) : Ends .login (front ++ [line])

/-! ## The stages that a pass over the lines sees -/

/-- The number that a stage leaves. -/
def raise (line : Text) (seen : Nat) (stage : Stage) : Nat :=
  if stage.Due line seen then max seen stage.target else seen

def raised (line : Text) (seen : Nat) : Nat := STAGES.foldl (raise line) seen

/-- What the script makes of a line, without the clock and the output. -/
def judge (heard : Nat × List Text) (line : Text) : Except (End × List Text) (Nat × List Text) :=
  if PANIC <:+: line then .error (.panic, heard.2 ++ [line])
  else if 7 ≤ raised line heard.1 then .error (.login, heard.2 ++ [line])
  else .ok (raised line heard.1, heard.2 ++ [line])

section judging

variable {line : Text} {seen : Nat} {heard : List Text}

theorem loggedIn_concat : LoggedIn (heard ++ [line]) ↔
    LoggedIn heard ∨ (Welcomes line ∧ ∃ first ∈ heard ++ [line], Starts first) := by
  constructor
  · rintro ⟨front, last, rest, split, welcomes, first⟩
    cases rest using List.reverseRecOn with
    | nil =>
      obtain ⟨rfl, same⟩ := List.append_inj' split rfl
      obtain rfl := List.singleton_inj.mp same
      exact .inr ⟨welcomes, first⟩
    | append_singleton rest other =>
      rw [← List.cons_append, ← List.append_assoc] at split
      obtain ⟨rfl, -⟩ := List.append_inj' split rfl
      exact .inl ⟨front, last, rest, rfl, welcomes, first⟩
  · rintro (⟨front, last, rest, rfl, welcomes, first⟩ | ⟨welcomes, first⟩)
    · exact ⟨front, last, rest ++ [line], by simp, welcomes, first⟩
    · exact ⟨heard, line, [], rfl, welcomes, first⟩

theorem open_nil : Open [] where
  noLogin := by
    rintro ⟨front, line, rest, split, -⟩
    simp at split
  noPanic _ mem := absurd mem List.not_mem_nil

/-- The early stages raise the number, to one of their own. -/
theorem raise_early {stages : List Stage} (early : ∀ stage ∈ stages, stage.late = false ∧
    1 ≤ stage.target ∧ stage.target ≤ 5) :
    seen ≤ stages.foldl (raise line) seen ∧
      (1 ≤ stages.foldl (raise line) seen ↔
        1 ≤ seen ∨ ∃ stage ∈ stages, stage.pattern <:+: line) ∧
      stages.foldl (raise line) seen ≤ max seen 5 := by
  induction stages generalizing seen with
  | nil => exact ⟨le_refl seen, by simp, le_max_left seen 5⟩
  | cons stage stages ih =>
    obtain ⟨⟨free, low, high⟩, early⟩ := List.forall_mem_cons.mp early
    rw [List.foldl_cons, List.exists_mem_cons_iff]
    by_cases due : stage.Due line seen
    · have next := @ih (max seen stage.target) early
      rw [raise, if_pos due]
      refine ⟨by omega, ?_, by omega⟩
      rw [next.2.1]
      exact iff_of_true (.inl (by omega)) (.inr (.inl due.1))
    · have next := @ih seen early
      rw [raise, if_neg due]
      refine ⟨next.1, next.2.1.trans ?_, next.2.2⟩
      have passed : stage.pattern <:+: line → 1 ≤ seen := by
        intro found
        by_contra none
        exact due ⟨found, by simp [free], by omega⟩
      tauto

/-- A late stage is reached only from an early one. -/
theorem raise_late {stage : Stage} (late : stage.late = true) :
    seen ≤ raise line seen stage ∧ (1 ≤ raise line seen stage ↔ 1 ≤ seen) ∧
      (seen < stage.target → (stage.target ≤ raise line seen stage ↔
        stage.pattern <:+: line ∧ 1 ≤ seen)) := by
  by_cases due : stage.Due line seen
  · have started := due.2.1 late
    rw [raise, if_pos due]
    exact ⟨by omega, by omega, fun _ => iff_of_true (by omega) ⟨due.1, started⟩⟩
  · rw [raise, if_neg due]
    refine ⟨le_refl seen, Iff.rfl, fun below => iff_of_false (by omega) ?_⟩
    exact fun ⟨found, started⟩ => due ⟨found, fun _ => started, below⟩

theorem starts_iff : Starts line ↔ ∃ stage ∈ STAGES.take 5, stage.pattern <:+: line := by
  simp [Starts, STAGES]

/-- What the number is after a line. -/
theorem raised_spec : seen ≤ raised line seen ∧ (1 ≤ raised line seen ↔ 1 ≤ seen ∨ Starts line) ∧
    (seen < 7 → (7 ≤ raised line seen ↔ Welcomes line ∧ (1 ≤ seen ∨ Starts line))) := by
  have early : ∀ stage ∈ STAGES.take 5, stage.late = false ∧ 1 ≤ stage.target ∧
      stage.target ≤ 5 := by
    simp [STAGES]
  obtain ⟨fifth, five⟩ : ∃ n, (STAGES.take 5).foldl (raise line) seen = n := ⟨_, rfl⟩
  obtain ⟨grows, started, bounded⟩ := @raise_early line seen _ early
  rw [five] at grows started bounded
  rw [← starts_iff] at started
  obtain ⟨userspace, prompt, rest⟩ : ∃ userspace prompt, STAGES.drop 5 = [userspace, prompt] ∧
      userspace.late = true ∧ prompt.late = true ∧ userspace.target = 6 ∧ prompt.target = 7 ∧
      prompt.pattern = "Welcome to Buildroot".toList := ⟨_, _, rfl, rfl, rfl, rfl, rfl, rfl⟩
  obtain ⟨two, late, late', six, seven, welcome⟩ := rest
  have whole : raised line seen = raise line (raise line fifth userspace) prompt := by
    rw [raised, ← List.take_append_drop 5 STAGES, List.foldl_append, five, two]
    rfl
  obtain ⟨grows₁, started₁, -⟩ := @raise_late line fifth _ late
  obtain ⟨grows₂, started₂, reached⟩ := @raise_late line (raise line fifth userspace) _ late'
  have sixth : seen < 7 → raise line fifth userspace < 7 := by
    intro below
    rw [raise]
    split <;> omega
  rw [whole]
  refine ⟨by omega, by rw [started₂, started₁, started], fun below => ?_⟩
  rw [← started, ← started₁, Welcomes, ← welcome, ← seven]
  exact reached (by have := sixth below; omega)

/-- The state of a pass that goes on: everything has been heard, nothing has ended it. -/
structure Tracks (heard : Nat × List Text) : Prop where
  started : 1 ≤ heard.1 ↔ ∃ line ∈ heard.2, Starts line
  below : heard.1 < 7
  open_ : Open heard.2

theorem tracks_start : Tracks (0, []) where
  started := by simp
  below := by decide
  open_ := open_nil

/-- One line: the pass goes on while the boot is open, and ends with it. -/
theorem judge_spec {heard : Nat × List Text} (h : Tracks heard) (line : Text) :
    match judge heard line with
    | .ok next => next.2 = heard.2 ++ [line] ∧ Tracks next
    | .error (how, lines) => lines = heard.2 ++ [line] ∧ Ends how lines := by
  obtain ⟨grows, started, prompt⟩ := @raised_spec line heard.1
  have started' : (1 ≤ raised line heard.1) ↔ ∃ first ∈ heard.2 ++ [line], Starts first := by
    rw [started, h.started]
    simp [or_and_right, exists_or]
  have welcome : 7 ≤ raised line heard.1 ↔ LoggedIn (heard.2 ++ [line]) := by
    rw [prompt h.below, ← started, started', loggedIn_concat, or_iff_right h.open_.noLogin]
  by_cases panics : PANIC <:+: line
  · rw [judge, if_pos panics]
    exact ⟨rfl, .panic h.open_ panics⟩
  · rw [judge, if_neg panics]
    by_cases reached : 7 ≤ raised line heard.1
    · rw [if_pos reached]
      exact ⟨rfl, .login h.open_ panics (welcome.mp reached)⟩
    · rw [if_neg reached]
      refine ⟨rfl, started', Nat.lt_of_not_le reached, fun login => reached (welcome.mpr login), ?_⟩
      intro other mem
      obtain inside | same := List.mem_append.mp mem
      · exact h.open_.noPanic other inside
      · exact List.mem_singleton.mp same ▸ panics

/-- A pass over lines: it goes on to their end, or stops at the line that ends the boot. -/
theorem judge_foldlM {heard : Nat × List Text} (h : Tracks heard) (lines : List Text) :
    match lines.foldlM judge heard with
    | .ok next => next.2 = heard.2 ++ lines ∧ Tracks next
    | .error (how, told) => told <+: heard.2 ++ lines ∧ Ends how told := by
  induction lines generalizing heard with
  | nil => exact ⟨(List.append_nil _).symm, h⟩
  | cons line lines ih =>
    have first := judge_spec h line
    rw [List.foldlM_cons]
    cases judged : judge heard line with
    | error e =>
      rw [judged] at first
      refine ⟨?_, first.2⟩
      rw [first.1]
      exact ⟨lines, by simp⟩
    | ok next =>
      rw [judged] at first
      have rest := ih first.2
      rw [first.1, List.append_assoc, List.singleton_append] at rest
      exact rest

end judging

end VitaLinux.Tools.BootWatch
