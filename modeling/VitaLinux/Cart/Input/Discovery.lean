import VitaLinux.Cart.Input.Source

/-!
# cart/src/input_evdev.c: discovery

A discovery is given what reading the sysfs directory yields. Signed arithmetic
that overflows is undefined in C and wraps here.
-/

namespace VitaLinux.Cart

def VITA_BUTTONS_NAME : String := "PlayStation Vita Buttons (Syscon)"

def VITA_BUTTONS_PHYS : String := "vita_syscon_buttons"

def CANDIDATE_CAP : Nat := 16

/-- One directory entry with its metadata files; `none` is a file that cannot be
opened. -/
structure DirEntry where
  name : String
  phys : Option String
  deviceName : Option String
  /-- What the buffer for the name line holds before the file is read. -/
  stale : String
  deriving DecidableEq, Repr

/-- What opendir and readdir yield. -/
inductive DirListing where
  /-- `ENOENT` -/
  | missing
  | unreadable
  | entries (entries : List DirEntry)
  deriving DecidableEq, Repr

/-- `read_trimmed_line`: the string in the buffer afterwards. -/
def readTrimmedLine (contents : Option String) (outSize : Nat) (out : String) : String :=
  match contents with
  | none => out
  | some contents =>
    let line := ((contents.toList.take (outSize - 1)).reverse.dropWhile
      fun c => c = '\n' ∨ c = '\r').reverse
    String.ofList (line.takeWhile (· ≠ '\x00'))

def eventNodeNumber (name : String) : Option Nat :=
  let digits := name.toList.drop 5
  if name.toList.take 5 ≠ "event".toList ∨ digits = [] then none
  else if !digits.all Char.isDigit then none
  else
    let number := digits.foldl (fun n c => 10 * n + (c.toNat - '0'.toNat)) 0
    if 2147483647 < number then none else some number

/-! ## Probing an open descriptor -/

def probeIsGamepad (ops : CartInputOps) (fd : Int) (trace : InputTrace) : Bool × InputTrace :=
  match ops.ioctlBit trace fd 1 with
  | none => (false, .ioctl fd :: trace)
  | some keyBits =>
    match ops.ioctlBit (.ioctl fd :: trace) fd 3 with
    | none => (false, .ioctl fd :: .ioctl fd :: trace)
    | some absBits =>
      let buttons := [304, 305, 306, 307, 308, 310, 311, 314, 315, 316]
      let sticks := [0, 1, 3, 4]
      let hits := (buttons.filter (bitTest keyBits)).length
      let stickAxes := (sticks.filter (bitTest absBits)).length
      (4 ≤ hits ∧ 2 ≤ stickAxes, .ioctl fd :: .ioctl fd :: trace)

def probeIsActionKeyboard (ops : CartInputOps) (fd : Int) (trace : InputTrace) :
    Bool × InputTrace :=
  match ops.ioctlBit trace fd 1 with
  | none => (false, .ioctl fd :: trace)
  | some keyBits => (bitTest keyBits 1 || bitTest keyBits 16, .ioctl fd :: trace)

/-- The dead zone that `probe_snapshot_axes` derives from the driver's flat zone. -/
def snapshotDeadzone (info : AbsInfo) : Int32 :=
  let span := info.maximum - info.minimum
  let pct := CART_INPUT_DEFAULT_DEADZONE_PCT
  if 0 < span ∧ 0 < info.flat then
    let suggested := info.flat * 200 / span
    if pct < suggested ∧ suggested ≤ 50 then suggested else pct
  else pct

/-- One round of the loop of `probe_snapshot_axes`. -/
def probeSnapshotAxis (ops : CartInputOps) (fd : Int) (absBits : Nat → UInt8)
    (probed : CartInputSource × InputTrace) (slot : AxisSlot) : CartInputSource × InputTrace :=
  let (source, trace) := probed
  if !bitTest absBits (AXIS_CODES slot) then
    ({ source with axisValid := Function.update source.axisValid slot false }, trace)
  else
    match ops.ioctlAbs trace fd (AXIS_CODES slot) with
    | none =>
      ({ source with axisValid := Function.update source.axisValid slot false },
        .ioctl fd :: trace)
    | some info =>
      ({ source with
          axis := Function.update source.axis slot
            ⟨info.minimum, info.maximum, snapshotDeadzone info⟩
          axisValid := Function.update source.axisValid slot true
          lastRaw := Function.update source.lastRaw slot info.value },
        .ioctl fd :: trace)

def probeSnapshotAxes (source : CartInputSource) (ops : CartInputOps) (fd : Int)
    (trace : InputTrace) : CartInputSource × InputTrace :=
  let source := { source with heldKeys := 0, lastRaw := fun _ => 0 }
  match ops.ioctlBit trace fd 3 with
  | none => ({ source with axisValid := fun _ => false }, .ioctl fd :: trace)
  | some absBits =>
    (List.finRange 8).foldl (probeSnapshotAxis ops fd absBits) (source, .ioctl fd :: trace)

/-- The value of `probed` in `classify_source`: 2 gamepad, 1 keyboard, 0 neither. -/
def probeVerdict (ops : CartInputOps) (fd : Int) (trace : InputTrace) : Int × InputTrace :=
  let (gamepad, trace) := probeIsGamepad ops fd trace
  if gamepad then (2, trace)
  else
    let (keyboard, trace) := probeIsActionKeyboard ops fd trace
    (if keyboard then 1 else 0, trace)

/-- `classify_source`: the rank (0 for no admission) and the prepared source. -/
def classifySource (scratch : CartInputSource) (ops : CartInputOps) (fd sysfsRank : Int)
    (trace : InputTrace) : Int × CartInputSource × InputTrace :=
  let (written, name) := ops.ioctlName trace fd
  let trace := .ioctl fd :: trace
  if written ≤ 0 then (0, scratch, trace)
  else
    let scratch := { scratch with
      name := String.ofList (name.toList.take (CART_INPUT_NAME_MAX - 1)) }
    let (probed, trace) := probeVerdict ops fd trace
    if probed = 0 then (0, scratch, trace)
    else
      let (scratch, trace) := probeSnapshotAxes scratch ops fd trace
      (if probed < sysfsRank then sysfsRank else probed, scratch, trace)

/-! ## Deterministic ordering -/

structure CartInputCandidate where
  fd : Int
  rank : Int
  number : Nat
  node : String
  prepared : CartInputSource

/-- The test of the inner loop of `_cart_input_plan`: `key` moves before `other`. -/
def CartInputCandidate.yields (other key : CartInputCandidate) : Prop :=
  other.rank < key.rank ∨ (other.rank = key.rank ∧ key.number < other.number)

instance (other key : CartInputCandidate) : Decidable (other.yields key) :=
  inferInstanceAs (Decidable (_ ∨ _))

/-- One round of `_cart_input_plan`. The sorted part is given last element first,
as the inner loop walks it. -/
def planInsert (key : CartInputCandidate) : List CartInputCandidate → List CartInputCandidate
  | [] => [key]
  | other :: rest =>
    if other.yields key then other :: planInsert key rest else key :: other :: rest

def cartInputPlan (candidates : List CartInputCandidate) (count : Nat) :
    List CartInputCandidate × Nat :=
  (((candidates.take count).foldl (fun done key => planInsert key done) []).reverse ++
      candidates.drop count,
    if CANDIDATE_CAP < count then CANDIDATE_CAP else count)

/-! ## Discovery core -/

def resetSource : CartInputSource := { CartInputSource.zero with fd := -1, state := .absent }

def firstFreeSlot (input : CartInput) : Option SourceIndex :=
  (List.finRange 4).find? fun index => (input.source index).fd < 0

/-- The rank that the metadata strings alone give. -/
def DirEntry.sysfsRank (entry : DirEntry) : Int :=
  let physLine := readTrimmedLine entry.phys 128 ""
  let nameLine := readTrimmedLine entry.deviceName CART_INPUT_NAME_MAX entry.stale
  if physLine = VITA_BUTTONS_PHYS then 4
  else if nameLine = VITA_BUTTONS_NAME then 3
  else 0

/-- One round of the readdir loop of `discover_pass`: the candidate it adds. -/
def discoverEntry (ops : CartInputOps) (entry : DirEntry) (trace : InputTrace) :
    Option CartInputCandidate × InputTrace :=
  match eventNodeNumber entry.name with
  | none => (none, trace)
  | some number =>
    if CART_INPUT_NODE_MAX ≤ entry.name.length then (none, trace)
    else
      let preOpened := ops.openNode trace entry.name
      let trace := .opened entry.name preOpened :: trace
      if preOpened < 0 then (none, trace)
      else
        let scratch := { CartInputSource.zero with fd := -1, node := entry.name }
        let (classified, scratch, trace) :=
          classifySource scratch ops preOpened entry.sysfsRank trace
        if classified = 0 then (none, .closed preOpened :: trace)
        else
          (some { fd := preOpened
                  rank := if classified < entry.sysfsRank then entry.sysfsRank else classified
                  number, node := entry.name, prepared := scratch },
            trace)

/-- The readdir loop of `discover_pass`. -/
def discoverEntries (ops : CartInputOps) (candidates : List CartInputCandidate)
    (trace : InputTrace) : List DirEntry → List CartInputCandidate × InputTrace
  | [] => (candidates, trace)
  | entry :: entries =>
    if candidates.length < CANDIDATE_CAP then
      let (found, trace) := discoverEntry ops entry trace
      discoverEntries ops (candidates ++ found.toList) trace entries
    else (candidates, trace)

/-- The source that a claim puts into a slot. -/
def CartInputCandidate.claimed (candidate : CartInputCandidate) : CartInputSource :=
  { candidate.prepared with
    fd := candidate.fd, state := .connected
    generation := candidate.prepared.generation + 1 }

/-- One round of the claim loop of `discover_pass`. -/
def claimCandidate (engine : InputEngine) (candidate : CartInputCandidate) :
    InputEngine × Int :=
  match firstFreeSlot engine.input with
  | none => (engine.record [.closed candidate.fd], 0)
  | some slot => (engine.setSource slot candidate.claimed, 1)

/-- The claim loop of `discover_pass`, which leaves -1 in every candidate. -/
def claimCandidates (engine : InputEngine) :
    List CartInputCandidate → InputEngine × List CartInputCandidate × Int
  | [] => (engine, [], 0)
  | candidate :: candidates =>
    let (engine, claimed) := claimCandidate engine candidate
    let (engine, rest, count) := claimCandidates engine candidates
    (engine, { candidate with fd := -1 } :: rest, claimed + count)

/-- The clean-up loop of `discover_pass`. -/
def closeUnclaimed (engine : InputEngine) : List CartInputCandidate → InputEngine
  | [] => engine
  | candidate :: candidates =>
    if candidate.fd < 0 then closeUnclaimed engine candidates
    else if (List.finRange 4).any fun index => (engine.source index).fd = candidate.fd then
      closeUnclaimed engine candidates
    else closeUnclaimed (engine.record [.closed candidate.fd]) candidates

def discoverPass (ops : CartInputOps) (listing : DirListing) (engine : InputEngine) :
    Int × InputEngine :=
  match listing with
  | .missing => (0, engine)
  | .unreadable => (-1, engine)
  | .entries entries =>
    let (candidates, trace) := discoverEntries ops [] engine.trace entries
    let (planned, _) := cartInputPlan candidates candidates.length
    let (engine, rest, claimed) := claimCandidates { engine with trace } planned
    (claimed, closeUnclaimed engine rest)

/-! ## Public lifecycle -/

/-- The memory that `cart_input_init_ex` prepares for its discovery. -/
def InputEngine.blank (trace : InputTrace) : InputEngine :=
  { input := { source := fun _ => resetSource, pending := [], partials := fun _ => [] }, trace }

def cartInputInitEx (ops : CartInputOps) (listing : DirListing) (trace : InputTrace) :
    Int × InputEngine :=
  discoverPass ops listing (InputEngine.blank trace)

def cartInputRescan (ops : CartInputOps) (listing : DirListing) (engine : InputEngine) :
    Int × InputEngine :=
  discoverPass ops listing engine

/-- One round of the loop of `cart_input_shutdown`. -/
def shutdownSource (engine : InputEngine) (index : SourceIndex) : InputEngine :=
  let engine :=
    if 0 ≤ (engine.source index).fd then engine.record [.closed (engine.source index).fd]
    else engine
  engine.setSource index resetSource

def cartInputShutdown (engine : InputEngine) : InputEngine :=
  let engine := (List.finRange 4).foldl shutdownSource engine
  { engine with input := { engine.input with pending := [], partials := fun _ => [] } }

end VitaLinux.Cart
