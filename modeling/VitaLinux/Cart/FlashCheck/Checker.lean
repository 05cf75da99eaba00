import VitaLinux.Base.Framing
import VitaLinux.Cart.FlashCheck.Analysis
import VitaLinux.Cart.FlashCheck.Luminance
import VitaLinux.Cart.FlashCheck.Ppm

/-!
# `capture-flash-check.py`

`main` in its two modes, with the exit status of the run. The negative values that the
options for sizes accept are left out.
-/

namespace VitaLinux.Cart.FlashCheck

open VitaLinux.Base

def status : Except Stop Nat → Nat
  | .ok verdict => verdict
  | .error .died => 3
  | .error .raised => 1

/-- What ffmpeg writes while its stdout is open. What it writes to stderr later is read. -/
inductive Write where
  | stdout (bytes : List UInt8)
  | stderr (bytes : List UInt8)
  deriving DecidableEq, Repr

/-- What ffmpeg does: its writes, in their order, and the status with which it then exits. -/
structure Ffmpeg where
  writes : List Write
  returncode : Int

def Ffmpeg.stdout (f : Ffmpeg) : List UInt8 :=
  f.writes.flatMap fun | .stdout bytes => bytes | .stderr _ => []

def Ffmpeg.stderr (f : Ffmpeg) : List UInt8 :=
  f.writes.flatMap fun | .stdout _ => [] | .stderr bytes => bytes

/-- The capacity of a pipe. -/
def PIPE_CAPACITY : Nat := 65536

/-- What arrives on stdout while nobody reads stderr: ffmpeg waits with the first write for
which the pipe of stderr has no room. -/
def delivered (room : Nat) : List Write → List UInt8
  | [] => []
  | .stdout bytes :: writes => bytes ++ delivered room writes
  | .stderr bytes :: writes =>
    if bytes.length ≤ room then delivered (room - bytes.length) writes else []

/-- ffmpeg waits for ever if only its stdout is read. -/
def Ffmpeg.waits (f : Ffmpeg) : Prop := PIPE_CAPACITY < f.stderr.length

instance (f : Ffmpeg) : Decidable f.waits := inferInstanceAs (Decidable (_ < _))

/-- The reads of `stream_frames`, until one is empty or short, or waits for more. -/
def readFrames (frameBytes : Nat) (stdout : List UInt8) : List (List UInt8) :=
  if stdout.take frameBytes = [] then []
  else if (stdout.take frameBytes).length < frameBytes then []
  else stdout.take frameBytes :: readFrames frameBytes (stdout.drop frameBytes)
termination_by stdout.length
decreasing_by
  rename_i nonempty _
  rw [List.take_eq_nil_iff, not_or] at nonempty
  have some := List.length_pos_iff.mpr nonempty.2
  rw [List.length_drop]
  omega

theorem readFrames_eq (frameBytes : Nat) (stdout : List UInt8) :
    readFrames frameBytes stdout = records frameBytes stdout := by
  induction stdout using readFrames.induct frameBytes with
  | case1 stdout empty =>
    rw [readFrames, if_pos empty]
    obtain rfl | rfl := List.take_eq_nil_iff.mp empty
    · rw [records, Nat.div_zero]
      rfl
    · rw [records, List.length_nil, Nat.zero_div]
      rfl
  | case2 stdout some short =>
    rw [List.length_take] at short
    rw [readFrames, if_neg some, if_pos (by rwa [List.length_take]),
      records_of_short (by omega)]
  | case3 stdout some long ih =>
    rw [List.length_take] at long
    have positive : 0 < frameBytes := by
      rw [List.take_eq_nil_iff, not_or] at some
      exact Nat.pos_of_ne_zero some.1
    rw [readFrames, if_neg some, if_neg (by rwa [List.length_take]), ih]
    exact (records_of_long positive (by omega)).symm

/-- `array("H")` of little-endian bytes -/
def values16 : List UInt8 → List Nat
  | low :: high :: rest => (low.toNat + 256 * high.toNat) :: values16 rest
  | _ => []

structure Options (F : Type) where
  fps : Option F
  cols : Nat
  rows : Nat
  grid : Int

/-- The exit status of a run, if it ends. -/
def exitStatus (run : Option (Except Stop Nat)) : Option Nat := run.map status

/-- What a run in the video mode finds. -/
structure Capture (F : Type) where
  /-- ffmpeg and ffprobe are on the path -/
  tools : Bool
  /-- the video exists -/
  found : Bool
  /-- what `probe_video` returns as the frame rate, or how it ends the run -/
  probe : Except Stop F
  ffmpeg : Ffmpeg

def Options.frameBytes {F : Type} (o : Options F) : Nat := o.cols * o.rows * 3 * 2

section checker

variable {F : Type} [Zero F] [Add F] [Sub F] [Neg F] [Mul F] [Div F] [NatCast F] [OfScientific F]
  [BEq F] [LT F] [LE F] [DecidableLT F] [DecidableLE F] [Rounds F]

/-- The frame rate of the options, unless it is missing or zero. -/
def Options.fpsOr (o : Options F) (default : F) : F :=
  match o.fps with
  | some fps => if fps == 0 then default else fps
  | none => default

/-- The cells of a frame, if there is a grid. -/
def Options.cells (o : Options F) (frame : List Nat) : Except Stop (List F) :=
  if 0 < o.grid then
    match luminanceCells frame o.cols o.rows o.grid.toNat with
    | some cells => return cells
    | none => throw .raised
  else return []

def cellRegions (cell_series : List (List F)) (grid : Nat) (fps : F) : List (Region F) :=
  (List.range (cell_series.headD []).length).map fun cell =>
    analyse (cell_series.filterMap fun cells => cells[cell]?) fps
      ("cell r" ++ toString (cell / grid) ++ "c" ++ toString (cell % grid))

/-- `main` from the loop over `stream_frames` on, if that ends: stderr is read only after the
loop, which ends with stdout. -/
def decodeVideo (o : Options F) (fps : F) (f : Ffmpeg) : Option (Except Stop Nat) :=
  let frames := (readFrames o.frameBytes (delivered PIPE_CAPACITY f.writes)).map values16
  match frames.mapM o.cells with
  | .error stop => some (throw stop)
  | .ok cell_series =>
    -- an empty read does not wait
    if f.waits ∧ o.frameBytes ≠ 0 then none
    else
      let globals_series : List F := frames.map luminanceGlobal
      if globals_series.length < 2 then some (throw .died)
      else some (return verdict (worst (analyse globals_series fps "global")
        (cellRegions cell_series o.grid.toNat fps)))

/-- `main` in the video mode, if it ends. -/
def videoRun (o : Options F) (c : Capture F) : Option (Except Stop Nat) :=
  if c.tools = false then some (throw .died)
  else if c.found = false then some (throw .died)
  else
    match c.probe with
    | .error stop => some (throw stop)
    | .ok probed => decodeVideo o (o.fpsOr probed) c.ffmpeg

variable [Python F]

/-- The luminance of one file. -/
def ppmFrame (data : List UInt8) : Except Stop F := do
  let (_, _, pixels) ← readPpm data
  match ppmLuminance pixels with
  | some luminance => return luminance
  | none => throw .raised

def ppmRun (o : Options F) (files : List (List UInt8)) : Except Stop Nat := do
  if files.length < 2 then throw .died
  else
    let fps := o.fpsOr 30.0
    let series : List F ← files.mapM ppmFrame
    return verdict (worst (analyse series fps "global") [])

end checker

end VitaLinux.Cart.FlashCheck
