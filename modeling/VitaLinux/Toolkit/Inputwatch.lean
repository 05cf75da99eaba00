import VitaLinux.Cart.Input.Streams
import VitaLinux.Toolkit.Dashboard.Main

/-!
# vita-inputwatch.c

The watcher finds the device by the text of its `phys`, and prints and counts the events that
it reads until it has enough of them, the time is over, or the device ends. A read may cut a
record in two; its bytes wait in a buffer for the rest.
-/

namespace VitaLinux.Toolkit.Inputwatch

open VitaLinux.Base
open VitaLinux.Cart (InputEvent inputEventSize EV_SYN EV_KEY EV_ABS SYN_REPORT)
open VitaLinux.Toolkit.Dashboard (chars printed isSpace)

def PATH_SIZE : Nat := 512
def TEXT_SIZE : Nat := 256
def DEFAULT_DURATION_MS : U32 := 1000

structure InputDevice where
  number : Nat
  name : List UInt8
  phys : List UInt8
  path : List UInt8
  deriving DecidableEq, Repr

structure Counts where
  eventsSeen : U32
  keyPresses : U32
  keyReleases : U32
  keyRepeats : U32
  absEvents : U32
  synReports : U32
  deriving DecidableEq, Repr

/-! ## The device -/

/-- The files of the machine: which paths there are, what the one read of a path gives, and
which paths can be opened to be watched. -/
structure Files where
  access : List UInt8 → Bool
  read : List UInt8 → Option (List UInt8)
  open_ : List UInt8 → Bool

def pathJoin (size : Nat) (root suffix : List UInt8) : Option (List UInt8) :=
  if (root ++ suffix).length < size then some (root ++ suffix) else none

/-- `read_text` does what the dashboard's does. -/
def readText (files : Files) (path : List UInt8) (size : Nat) : Option (List UInt8) :=
  Dashboard.readText (files.read path) size

/-- `strtoul(text, &end, 10)`: the value, whether `errno` is set, and the text at `end`. -/
def strtoul (abi : Abi) (text : List UInt8) : Nat × Bool × List UInt8 :=
  let trimmed := text.dropWhile isSpace
  let negative := trimmed.head? = some 45
  let unsigned := if negative || trimmed.head? = some 43 then trimmed.tail else trimmed
  let digits := unsigned.takeWhile isDigit
  if digits.isEmpty then (0, false, text)
  else if (SIZE_MAX abi).toNat < decimalValue digits then
    ((SIZE_MAX abi).toNat, true, unsigned.dropWhile isDigit)
  else
    let magnitude := BitVec.ofNat abi.sizeBits (decimalValue digits)
    ((if negative then -magnitude else magnitude).toNat, false, unsigned.dropWhile isDigit)

/-- `parse_positive`, which takes 0 too. -/
def parsePositive (abi : Abi) (text : List UInt8) : Option U32 :=
  if text = [] then none
  else
    let (parsed, errno, rest) := strtoul abi text
    if errno = true ∨ rest ≠ [] ∨ 2 ^ 32 ≤ parsed then none else some (BitVec.ofNat 32 parsed)

/-- The loop of `find_device`, from this number on. -/
def findFrom (files : Files) (sysroot devroot wantedPhys : List UInt8) :
    List Nat → Option InputDevice
  | [] => none
  | number :: numbers =>
    match pathJoin PATH_SIZE sysroot (chars "/class/input/event" ++ decimal number) with
    | none => none
    | some sysEvent =>
      if files.access sysEvent = false then findFrom files sysroot devroot wantedPhys numbers
      else
        let phys := (pathJoin PATH_SIZE sysEvent (chars "/device/phys")).bind fun path =>
          readText files path TEXT_SIZE
        if phys ≠ some wantedPhys then findFrom files sysroot devroot wantedPhys numbers
        else
          match pathJoin PATH_SIZE sysEvent (chars "/device/name") with
          | none => none
          | some namePath =>
            some
              { number, phys := printed TEXT_SIZE wantedPhys
                name := (readText files namePath TEXT_SIZE).getD (chars "UNKNOWN")
                path := printed PATH_SIZE (devroot ++ chars "/input/event" ++ decimal number) }

def findDevice (files : Files) (sysroot devroot wantedPhys : List UInt8) : Option InputDevice :=
  findFrom files sysroot devroot wantedPhys (List.range 128)

/-! ## Events -/

def countEvent (event : InputEvent) (counts : Counts) : Counts :=
  let counts := { counts with eventsSeen := counts.eventsSeen + 1 }
  if event.type = EV_KEY then
    if event.value = 1 then { counts with keyPresses := counts.keyPresses + 1 }
    else if event.value = 0 then { counts with keyReleases := counts.keyReleases + 1 }
    else if event.value = 2 then { counts with keyRepeats := counts.keyRepeats + 1 }
    else counts
  else if event.type = EV_ABS then { counts with absEvents := counts.absEvents + 1 }
  else if event.type = EV_SYN ∧ event.code = SYN_REPORT then
    { counts with synReports := counts.synReports + 1 }
  else counts

/-- What poll(2) reports. -/
inductive Polled where
  | interrupted
  | failed
  | timeout
  /-- whether there is something to read, and whether there is an error or a hangup -/
  | ready (readable broken : Bool)
  deriving DecidableEq, Repr

/-- What read(2) does. -/
inductive Reading where
  /-- it gives one byte and at most so many more, of what there is and as many as are asked for -/
  | bytes (more : Nat)
  | again
  | failed
  deriving DecidableEq, Repr

/-- One turn of the loop as the outside decides it. -/
structure Turn where
  /-- `elapsed_ms` -/
  elapsed : Int32
  poll : Polled
  reading : Reading
  deriving DecidableEq, Repr

/-- The variables of the loop, how much has been read, and the events with their numbers as
they have been printed. -/
structure Watcher where
  counts : Counts
  pending : List UInt8
  used : Nat
  shown : List (U32 × InputEvent)
  deriving DecidableEq, Repr

def Watcher.start : Watcher :=
  { counts := ⟨0, 0, 0, 0, 0, 0⟩, pending := [], used := 0, shown := [] }

section loop

variable (abi : Abi) (device : List UInt8) (durationMs maxEvents : U32)

/-- How many bytes a read gives. -/
def received (w : Watcher) (more : Nat) : Nat :=
  min (min (more + 1) (inputEventSize abi - w.pending.length)) (device.length - w.used)

/-- What follows a read: the record is counted and printed once it is complete. -/
def take (w : Watcher) (n : Nat) : Watcher :=
  let pending := w.pending ++ (device.drop w.used).take n
  let w := { w with used := w.used + n }
  if pending.length = inputEventSize abi then
    let event := InputEvent.ofBytes abi pending
    let counts := countEvent event w.counts
    { w with counts, pending := [], shown := w.shown ++ [(counts.eventsSeen, event)] }
  else { w with pending }

/-- `max_events > 0 && counts.events_seen >= max_events` -/
def enough (w : Watcher) : Prop := 0 < maxEvents ∧ maxEvents ≤ w.counts.eventsSeen

instance (w : Watcher) : Decidable (enough maxEvents w) :=
  inferInstanceAs (Decidable (_ ∧ _))

/-- One turn: the loop goes on, or ends with a status. -/
def turn (w : Watcher) (t : Turn) : Except (Nat × Watcher) Watcher :=
  let remaining := Int32.ofBitVec durationMs - t.elapsed
  if enough maxEvents w then .error (0, w)
  else if remaining ≤ 0 then .error (1, w)
  else
    match t.poll with
    | .interrupted => .ok w
    | .failed | .timeout => .error (1, w)
    | .ready readable broken =>
      -- a final record of a regular file is not lost
      if broken = true ∧ readable = false then .error (1, w)
      else
        match t.reading with
        | .again => .ok w
        | .failed => .error (1, w)
        | .bytes more =>
          let n := received abi device w more
          if n = 0 then .error (if w.pending = [] then 0 else 1, w)
          else .ok (take abi device w n)

def watch (w : Watcher) (turns : List Turn) : Except (Nat × Watcher) Watcher :=
  turns.foldlM (turn abi device durationMs maxEvents) w

end loop

/-! ## The program -/

structure Options where
  machine : Bool := false
  wantedPhys : List UInt8 := chars "vita_syscon_buttons"
  durationMs : U32 := DEFAULT_DURATION_MS
  maxEvents : U32 := 0
  deriving DecidableEq, Repr

/-- The loop over the arguments: options, or an exit code. -/
def parseArgs (abi : Abi) (o : Options) : List (List UInt8) → Except Nat Options
  | [] => .ok o
  | arg :: args =>
    if arg = chars "--machine" then parseArgs abi { o with machine := true } args
    else
      match args with
      | [] => if arg = chars "--help" ∨ arg = chars "-h" then .error 0 else .error 2
      | value :: args =>
        if arg = chars "--phys" then parseArgs abi { o with wantedPhys := value } args
        else if arg = chars "--duration-ms" then
          match parsePositive abi value with
          | none => .error 2
          | some durationMs => parseArgs abi { o with durationMs } args
        else if arg = chars "--max-events" then
          match parsePositive abi value with
          | none => .error 2
          | some maxEvents => parseArgs abi { o with maxEvents } args
        else if arg = chars "--help" ∨ arg = chars "-h" then .error 0
        else .error 2

/-- What a run that reaches its end reports. -/
structure Report where
  device : InputDevice
  options : Options
  shown : List (U32 × InputEvent)
  /-- `status=complete` -/
  complete : Bool
  counts : Counts
  deriving DecidableEq, Repr

/-- How the program ends: without a report, with one, or not within these turns. -/
inductive Ended where
  | refused (code : Nat)
  | reported (code : Nat) (report : Report)
  | running (w : Watcher)
  deriving DecidableEq, Repr

/-- The program, on a device that gives these bytes. -/
def main (abi : Abi) (files : Files) (sysroot devroot : Option (List UInt8))
    (stream : List UInt8) (args : List (List UInt8)) (turns : List Turn) : Ended :=
  match parseArgs abi {} args with
  | .error code => .refused code
  | .ok options =>
    match findDevice files (sysroot.getD (chars "/sys")) (devroot.getD (chars "/dev"))
        options.wantedPhys with
    | none => .refused 1
    | some device =>
      if files.open_ device.path = false then .refused 1
      else
        match watch abi stream options.durationMs options.maxEvents .start turns with
        | .ok w => .running w
        | .error (status, w) =>
          .reported (if status = 0 then 0 else 1)
            { device, options, shown := w.shown, complete := status == 0, counts := w.counts }

end VitaLinux.Toolkit.Inputwatch
