import VitaLinux.Base.Programs

/-!
# The start and stop scripts of the demo cart

`start-demo-cart.sh` saves the framebuffer, unbinds the console and launches the
renderer; `stop-demo-cart.sh` ends the renderer and puts both back. Every command of
the scripts may fail, `start-stop-daemon` may answer anything, and renderers may exit
at any moment. Of a file only its size is kept: the scripts look at nothing else.
-/

namespace VitaLinux.Cart.DemoCart

open VitaLinux.Base

inductive Path where
  | pid | log | save | saveTmp | bind | mark
  deriving DecidableEq, Repr

/-- What the scripts find on the device. -/
structure Device where
  /-- the console bind file holds 1 -/
  bind : Bool
  /-- the marker that the console was bound exists -/
  mark : Bool
  save : Option Nat
  saveTmp : Option Nat
  pid : Option Nat
  /-- the running renderer processes -/
  renderers : List Nat
  deriving DecidableEq, Repr

/-- The signals that `start` traps. -/
inductive Signal where
  | hup | int | term
  deriving DecidableEq, Repr

def Signal.status : Signal → Nat
  | .hup => 129
  | .int => 130
  | .term => 143

inductive Command where
  /-- a trapped signal that has arrived since the last command -/
  | pending
  /-- `[ -r file ]` -/
  | readable (file : Path)
  /-- `[ -w file ]` -/
  | writable (file : Path)
  /-- `[ -e file ]` -/
  | present (file : Path)
  /-- `[ -x "$BIN" ]` -/
  | executable
  /-- `wc -c < file` -/
  | size (file : Path)
  /-- `cat "$BIND"` in a command substitution -/
  | catBind
  /-- `rm -f files` -/
  | remove (files : List Path)
  /-- `dd if="$FB" of="$SAVE_TMP"` -/
  | saveFrame
  /-- `dd if="$SAVE" of="$FB"` -/
  | drawSave
  /-- `mv "$SAVE_TMP" "$SAVE"` -/
  | publishSave
  /-- `: > "$MARK"` -/
  | touchMark
  /-- `printf 1 > "$BIND"` or `printf 0 > "$BIND"` -/
  | writeBind (bound : Bool)
  /-- `start-stop-daemon -S -b -m` -/
  | launch
  /-- `start-stop-daemon -K -t` -/
  | check
  /-- `start-stop-daemon -K -s TERM` -/
  | terminate
  | sleep
  /-- `started=1` -/
  | started
  /-- `echo` or `printf` to the terminal -/
  | report
  deriving DecidableEq, Repr

/-- The exit status (success or not), or what the command prints. -/
abbrev Reply : Command → Type
  | .pending => Option Signal
  | .size _ => Option Nat
  | .catBind => String
  | _ => Bool

/-- How a script ends: its status, and `started`, which its `EXIT` trap reads. -/
structure Exit where
  status : Nat
  started : Bool
  deriving DecidableEq, Repr

abbrev Script := Prog Command Reply Exit

abbrev Call := Event Device Command Reply

def Device.bindText (d : Device) : String := if d.bind then "1" else "0"

def Device.size (d : Device) : Path → Option Nat
  | .save => d.save
  | .saveTmp => d.saveTmp
  | _ => none

/-- `rm -f` of one file. -/
def Device.without (d : Device) : Path → Device
  | .mark => { d with mark := false }
  | .save => { d with save := none }
  | .saveTmp => { d with saveTmp := none }
  | .pid => { d with pid := none }
  | .log | .bind => d

def Device.has (d : Device) : Path → Prop
  | .mark => d.mark = true
  | .save => d.save ≠ none
  | .saveTmp => d.saveTmp ≠ none
  | .pid => d.pid ≠ none
  | .log | .bind => True

instance (d : Device) (file : Path) : Decidable (d.has file) := by
  cases file <;> unfold Device.has <;> infer_instance

/-- What a command that is answered so does to the device. A command that fails does nothing,
except that `rm` may have removed some of its files, that `dd` may have written some of the
save, and that `start-stop-daemon` may have launched the renderer. -/
inductive Effect : Device → (command : Command) → Reply command → Device → Prop where
  | pending (d : Device) (signal : Option Signal) : Effect d .pending signal d
  | readable (d : Device) (file : Path) (r : Bool) (found : r = true → d.has file) :
      Effect d (.readable file) r d
  | writable (d : Device) (file : Path) (r : Bool) : Effect d (.writable file) r d
  | present (d : Device) (file : Path) (r : Bool) (found : r = true ↔ d.has file) :
      Effect d (.present file) r d
  | executable (d : Device) (r : Bool) : Effect d .executable r d
  | size (d : Device) (file : Path) (r : Option Nat) (found : r = none ∨ r = d.size file) :
      Effect d (.size file) r d
  | catBind (d : Device) (text : String) (read : text = "" ∨ text = d.bindText) :
      Effect d .catBind text d
  | remove (d : Device) (files gone : List Path) (r : Bool) (some_of : gone ⊆ files)
      (all : r = true → files ⊆ gone) :
      Effect d (.remove files) r (gone.foldl Device.without d)
  | saveFrame (d : Device) (written : Option Nat) (r : Bool) (all : r = true → written ≠ none) :
      Effect d .saveFrame r { d with saveTmp := written }
  | drawSave (d : Device) (r : Bool) : Effect d .drawSave r d
  | publishSave (d : Device) (saved : d.saveTmp ≠ none) :
      Effect d .publishSave true { d with save := d.saveTmp, saveTmp := none }
  | publishFailed (d : Device) : Effect d .publishSave false d
  | touchMark (d : Device) : Effect d .touchMark true { d with mark := true }
  | touchFailed (d : Device) : Effect d .touchMark false d
  | writeBind (d : Device) (bound : Bool) :
      Effect d (.writeBind bound) true { d with bind := bound }
  | writeFailed (d : Device) (bound : Bool) : Effect d (.writeBind bound) false d
  | launch (d : Device) (launched : List Nat) (pid : Option Nat) (r : Bool) :
      Effect d .launch r { d with renderers := launched ++ d.renderers, pid := pid }
  | check (d : Device) (r : Bool) : Effect d .check r d
  | terminate (d : Device) (r : Bool) : Effect d .terminate r d
  | sleep (d : Device) (r : Bool) : Effect d .sleep r d
  | started (d : Device) : Effect d .started true d
  | report (d : Device) (r : Bool) : Effect d .report r d

/-- Renderers may exit at any moment. -/
inductive Crash : Device → Device → Prop where
  | exits (d : Device) (left : List Nat) (fewer : left.Sublist d.renderers) :
      Crash d { d with renderers := left }

/-- A command takes effect, and meanwhile renderers may exit. -/
def Shell : Environment Device Command Reply := fun d command reply after =>
  ∃ between, Effect d command reply between ∧ Crash between after

variable {ε : Type}

def sh (command : Command) : Prog Command Reply ε (Reply command) := Prog.call command

section shared

/-! `ask` is how the script issues a command: `start` looks for signals first. -/

variable (ask : (command : Command) → Prog Command Reply ε (Reply command))

def cartPidMatches : Prog Command Reply ε Bool := do
  if ← ask (.readable .pid) then ask .check else return false

def saveHasExpectedSize (frameBytes : Nat) : Prog Command Reply ε Bool := do
  if ← ask (.readable .save) then
    let size ← ask (.size .save)
    return decide (size = some frameBytes)
  else return false

end shared

/-- Between two commands of `start` a trapped signal ends the script. -/
def interrupt (started : Bool) : Script Unit := do
  match ← sh .pending with
  | some signal => throw { status := signal.status, started }
  | none => return ()

/-- A command of `start` while its traps are set. -/
def trapped (started : Bool) (command : Command) : Script (Reply command) := do
  interrupt started
  sh command

/-- `set -e`: a command that fails ends the script. -/
def orExit (started : Bool) (command : Script Bool) : Script Unit := do
  if ← command then return () else throw { status := 1, started }

/-- `exit 1` of `start`, after a message. -/
def die {α : Type} : Script α := do
  let _ ← trapped false .report
  throw { status := 1, started := false }

def orDie (command : Script Bool) : Script Unit := do
  if ← command then return () else die

def restoreSavedFrame (frameBytes : Nat) : Script Bool := do
  if ← saveHasExpectedSize sh frameBytes then
    if ← sh .drawSave then sh (.remove [.save]) else return false
  else return false

def restoreConsole : Script Bool := do
  if ← sh (.present .mark) then
    if ← sh (.writable .bind) then
      if ← sh (.writeBind true) then sh (.remove [.mark]) else return false
    else return false
  else return true

/-- Lines 44 to 47 of `start`. -/
def cleanupFrame (frameBytes status : Nat) : Script Nat := do
  if ← sh (.present .save) then
    if ← restoreSavedFrame frameBytes then return status
    else
      orExit false (sh .report)
      return 1
  else return status

/-- Lines 48 to 51 of `start`. -/
def cleanupConsole (status : Nat) : Script Nat := do
  if ← restoreConsole then return status
  else
    orExit false (sh .report)
    return 1

/-- The `EXIT` trap of `start`; it first resets the traps. -/
def cleanup (frameBytes : Nat) (exit : Exit) : Script Nat := do
  orExit exit.started (sh (.remove [.saveTmp]))
  if exit.started then return exit.status
  else
    let status ← cleanupFrame frameBytes exit.status
    cleanupConsole status

/-- The files that `start` removes before it saves the frame. -/
def staleFiles : List Path := [.pid, .log, .mark, .saveTmp]

/-- Lines 73 to 77 of `start`. -/
def checkSize (frameBytes : Nat) : Option Nat → Script Unit
  | none => throw { status := 1, started := false }
  | some size => orDie (return size == frameBytes)

/-- Lines 66 to 78 of `start`. -/
def saveFrame (frameBytes : Nat) : Script Unit := do
  orDie (trapped false .executable)
  orExit false (trapped false (.remove staleFiles))
  orDie (trapped false .saveFrame)
  let size ← trapped false (.size .saveTmp)
  checkSize frameBytes size
  orExit false (trapped false .publishSave)

/-- Lines 80 to 83 of `start`. -/
def unbindConsole : Script Unit := do
  if ← trapped false (.readable .bind) then
    let text ← trapped false .catBind
    if text = "1" then
      orExit false (trapped false .touchMark)
      orExit false (trapped false (.writeBind false))

/-- Lines 85 to 98 of `start`. -/
def launch : Script Exit := do
  orDie (trapped false .launch)
  orExit false (trapped false .sleep)
  if ← cartPidMatches (trapped false) then
    let _ ← trapped false .started
    orExit true (trapped true .report)
    interrupt true
    return { status := 0, started := true }
  else
    orExit false (trapped false (.remove [.pid]))
    die

/-- Lines 60 to 98 of `start`. -/
def startBody (frameBytes : Nat) : Script Exit := do
  if ← cartPidMatches (trapped false) then
    orExit false (trapped false .report)
    let _ ← trapped false .started
    interrupt true
    return { status := 0, started := true }
  else
    saveFrame frameBytes
    unbindConsole
    launch

/-- `start-demo-cart.sh`; a script ends with its status. -/
def start (frameBytes : Nat) : Script Nat := do
  let exit ← tryCatch (startBody frameBytes) fun exit => return exit
  cleanup frameBytes exit

/-- `stop` reports a failure and goes on with status 1. -/
def complain : Script Nat := do
  let _ ← sh .report
  return 1

/-- The loop of `stop` that waits for the renderer: at most so many checks. -/
def awaitExit : Nat → Script Unit
  | 0 => return ()
  | checks + 1 => do
    if ← cartPidMatches sh then
      let _ ← sh .sleep
      awaitExit checks
    else return ()

/-- Lines 25 to 28 of `stop`. -/
def requestShutdown : Script Nat := do
  if ← sh .terminate then return 0 else complain

/-- Lines 24 to 43 of `stop`, with the `status` they leave. -/
def stopRenderer : Script Nat := do
  if ← cartPidMatches sh then
    let status ← requestShutdown
    awaitExit 30
    if ← cartPidMatches sh then complain
    else
      let _ ← sh (.remove [.pid])
      return status
  else
    let _ ← sh (.remove [.pid])
    return 0

/-- Lines 45 to 57 of `stop`. -/
def stopRestoreFrame (frameBytes status : Nat) : Script Nat := do
  if ← sh (.present .save) then
    if ← saveHasExpectedSize sh frameBytes then
      if ← sh .drawSave then
        let _ ← sh (.remove [.save])
        return status
      else complain
    else complain
  else return status

/-- `[ -w "$BIND" ] && printf 1 > "$BIND"` -/
def rebind : Script Bool := do
  if ← sh (.writable .bind) then sh (.writeBind true) else return false

/-- Lines 59 to 66 of `stop`. -/
def stopRestoreConsole (status : Nat) : Script Nat := do
  if ← sh (.present .mark) then
    if ← rebind then
      let _ ← sh (.remove [.mark])
      return status
    else complain
  else return status

/-- `stop-demo-cart.sh`, which traps no signal and goes on after a command that fails. -/
def stop (frameBytes : Nat) : Script Nat := do
  let status ← stopRenderer
  let status ← stopRestoreFrame frameBytes status
  let status ← stopRestoreConsole status
  let _ ← sh .report
  return status

/-- Any sequence of starts and stops, each to its end or killed anywhere, with renderers that
exit between them too. -/
abbrev Runs (frameBytes : Nat) : Device → List Call → Device → Prop :=
  Prog.History Shell (fun script => script = start frameBytes ∨ script = stop frameBytes) Crash

/-- A device on which every command does what it is for; the renderer may ignore the request
to end. -/
def Device.answer (obeys : Bool) (d : Device) :
    (command : Command) → Option (Reply command × Device)
  | .pending => some (none, d)
  | .readable file => some (decide (d.has file), d)
  | .writable _ => some (true, d)
  | .present file => some (decide (d.has file), d)
  | .executable => some (true, d)
  | .size file => some (d.size file, d)
  | .catBind => some (d.bindText, d)
  | .remove files => some (true, files.foldl Device.without d)
  | .saveFrame => some (true, { d with saveTmp := some 3686400 })
  | .drawSave => some (true, d)
  | .publishSave =>
    if d.saveTmp ≠ none then some (true, { d with save := d.saveTmp, saveTmp := none })
    else some (false, d)
  | .touchMark => some (true, { d with mark := true })
  | .writeBind bound => some (true, { d with bind := bound })
  | .launch => some (true, { d with renderers := [1] ++ d.renderers, pid := some 1 })
  | .check => some (d.pid.any (d.renderers.contains ·), d)
  | .terminate => some (true, { d with renderers := if obeys then [] else d.renderers })
  | .sleep => some (true, d)
  | .started => some (true, d)
  | .report => some (true, d)

theorem Device.answer_possible (obeys : Bool) (d : Device) (command : Command)
    (r : Reply command) (t : Device) (answered : d.answer obeys command = some (r, t)) :
    Shell d command r t := by
  have still : ∀ t : Device, Crash t t := fun t => .exits t t.renderers (.refl _)
  cases command with
  | publishSave =>
    simp only [Device.answer] at answered
    split at answered
    · next saved =>
      cases answered
      exact ⟨_, .publishSave d saved, still _⟩
    · cases answered
      exact ⟨d, .publishFailed d, still d⟩
  | pending => cases answered; exact ⟨d, .pending d none, still d⟩
  | readable file => cases answered; exact ⟨d, .readable d file _ of_decide_eq_true, still d⟩
  | writable file => cases answered; exact ⟨d, .writable d file true, still d⟩
  | present file => cases answered; exact ⟨d, .present d file _ decide_eq_true_iff, still d⟩
  | executable => cases answered; exact ⟨d, .executable d true, still d⟩
  | size file => cases answered; exact ⟨d, .size d file _ (Or.inr rfl), still d⟩
  | catBind => cases answered; exact ⟨d, .catBind d _ (Or.inr rfl), still d⟩
  | remove files =>
    cases answered
    exact ⟨_, .remove d files files true (List.Subset.refl _) fun _ => List.Subset.refl _, still _⟩
  | saveFrame => cases answered; exact ⟨_, .saveFrame d _ true fun _ => by simp, still _⟩
  | drawSave => cases answered; exact ⟨d, .drawSave d true, still d⟩
  | touchMark => cases answered; exact ⟨_, .touchMark d, still _⟩
  | writeBind bound => cases answered; exact ⟨_, .writeBind d bound, still _⟩
  | launch => cases answered; exact ⟨_, .launch d [1] (some 1) true, still _⟩
  | check => cases answered; exact ⟨d, .check d _, still d⟩
  | terminate =>
    cases answered
    refine ⟨d, .terminate d true, .exits d _ ?_⟩
    cases obeys with
    | true => exact List.nil_sublist _
    | false => exact .refl _
  | sleep => cases answered; exact ⟨d, .sleep d true, still d⟩
  | started => cases answered; exact ⟨d, .started d, still d⟩
  | report => cases answered; exact ⟨d, .report d true, still d⟩

/-- The console is bound and the cart has not run. -/
def idle : Device :=
  { bind := true, mark := false, save := none, saveTmp := none, pid := none, renderers := [] }

/-- The cart is running, after a start on the idle device. -/
def running : Device :=
  { bind := false, mark := true, save := some 3686400, saveTmp := none, pid := some 1,
    renderers := [1] }

theorem Device.exec {obeys : Bool} {script : Script Nat} {d t : Device}
    {outcome : Except Exit Nat} (ran : script.run (Device.answer obeys) d = some (outcome, t)) :
    Prog.Exec Shell script d (script.calls id (Device.answer obeys) d) (Prog.ended outcome) t := by
  have possible : ∀ (d : Device) c r t, d.answer obeys c = some (r, t) → Shell (id d) c r (id t) :=
    Device.answer_possible obeys
  exact Prog.exec_run possible ran

theorem idle_start (obeys : Bool) :
    (start 3686400).run (Device.answer obeys) idle = some (.ok 0, running) := by
  cases obeys <;> rfl

/-- A history goes on with a start, or a stop, that runs to its end. -/
theorem runs_start {frameBytes : Nat} {w v t : Device} {events : List Call} {obeys : Bool}
    {outcome : Except Exit Nat} (before : Runs frameBytes w events v)
    (ran : (start frameBytes).run (Device.answer obeys) v = some (outcome, t)) :
    Runs frameBytes w (events ++ (start frameBytes).calls id (Device.answer obeys) v) t :=
  before.run (Or.inl rfl) (Device.exec ran)

theorem runs_stop {frameBytes : Nat} {w v t : Device} {events : List Call} {obeys : Bool}
    {outcome : Except Exit Nat} (before : Runs frameBytes w events v)
    (ran : (stop frameBytes).run (Device.answer obeys) v = some (outcome, t)) :
    Runs frameBytes w (events ++ (stop frameBytes).calls id (Device.answer obeys) v) t :=
  before.run (Or.inr rfl) (Device.exec ran)

end VitaLinux.Cart.DemoCart
