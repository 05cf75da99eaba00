import VitaLinux.Toolkit.Dashboard.Screens

/-!
# toolkit/examples/vita-dashboard/src/main.c

`main` over the framebuffer owner, the renderer and the input device. Everything the outside
answers comes in as one `DashboardIo`, with a `Turn` for each pass of the loop. The texts that
are printed are left out, except for what the report says.
-/

namespace VitaLinux.Toolkit.Dashboard

open VitaLinux.Base

variable {abi : Abi}

def DEFAULT_DURATION_MS : Nat := 60000

def MAX_DURATION_MS : Nat := 600000

structure Options (abi : Abi) where
  machine : Bool
  forever : Bool
  wantedPhys : List UInt8
  root : List UInt8
  /-- `unsigned long` -/
  durationMs : SizeT abi
  framesMax : SizeT abi
  deriving DecidableEq, Repr

def Options.default (abi : Abi) : Options abi :=
  { machine := false, forever := false, wantedPhys := chars "vita_syscon_buttons", root := []
    durationMs := BitVec.ofNat _ DEFAULT_DURATION_MS, framesMax := 0 }

/-- `isspace` in the C locale -/
def isSpace (c : UInt8) : Bool := c = 32 || (9 ≤ c && c ≤ 13)

/-- `atol`; undefined for a number that is no `long`. -/
def atol (abi : Abi) (text : List UInt8) : Option Int :=
  let digits (text : List UInt8) : Int := decimalValue (text.takeWhile isDigit)
  fitSigned abi.sizeBits <|
    match text.dropWhile isSpace with
    | 45 :: text => -digits text
    | 43 :: text => digits text
    | text => digits text

inductive Parsed (abi : Abi) where
  | options (options : Options abi)
  | exit (code : Int)
  | undefined
  deriving DecidableEq, Repr

/-- The last tests of the argument loop. -/
def parseOther (arg : List UInt8) : Parsed abi :=
  if arg = chars "--help" ∨ arg = chars "-h" then .exit 0 else .exit 2

def parseArgs (options : Options abi) : List (List UInt8) → Parsed abi
  | [] => .options options
  | arg :: args =>
    if arg = chars "--machine" then parseArgs { options with machine := true } args
    else if arg = chars "--forever" then parseArgs { options with forever := true } args
    else
      match args with
      | [] => parseOther arg
      | value :: args =>
        if arg = chars "--input-phys" then parseArgs { options with wantedPhys := value } args
        else if arg = chars "--root" then parseArgs { options with root := value } args
        else if arg = chars "--duration-ms" then
          match atol abi value with
          | none => .undefined
          | some value =>
            if value ≤ 0 ∨ MAX_DURATION_MS < value then .exit 2
            else parseArgs { options with durationMs := BitVec.ofInt _ value } args
        else if arg = chars "--frames-max" then
          match atol abi value with
          | none => .undefined
          | some value =>
            if value ≤ 0 then .exit 2
            else parseArgs { options with framesMax := BitVec.ofInt _ value } args
        else parseOther arg

/-- One pass of the loop as the outside decides it. -/
structure Turn (abi : Abi) where
  now : SizeT abi
  /-- SIGINT, SIGTERM or SIGHUP has come when the flag is read. -/
  stopped : Bool
  frame : FrameIo
  poll : PollIo
  /-- What `status_collect` finds, if the pass asks for it. -/
  status : DashboardStatus

structure Loop (abi : Abi) where
  session : Session abi
  renderer : Renderer abi
  status : DashboardStatus
  input : DashboardInput abi
  screen : Nat
  /-- `int` -/
  screensVisited : Int32

/-- A frame that a pass composed and handed to the owner, with what it was composed from. -/
structure Shot (abi : Abi) where
  screen : Nat
  status : DashboardStatus
  input : DashboardInput abi
  runtime : SizeT abi
  frames : SizeT abi
  /-- The call of `fb_owner_write_frame`. -/
  entry : Entry abi
  /-- What the input asked for afterwards. -/
  action : DashboardAction

inductive TurnEnd where
  | goesOn
  | breaks (statusText : String) (rc : Int)
  | undefined
  /-- The frame write has not returned. -/
  | writing
  deriving DecidableEq, Repr

structure TurnResult (abi : Abi) where
  loop : Loop abi
  shot : Option (Shot abi)
  ends : TurnEnd

/-- The rest of a pass once the frame is written: input, and what it asks for. -/
def react (loop : Loop abi) (t : Turn abi) (shot : DashboardAction → Shot abi) :
    TurnResult abi :=
  let (input, polled, action) := loop.input.poll t.poll
  let loop := { loop with input }
  if polled ≠ 0 then
    { loop, shot := some (shot action), ends := .breaks "input_error" 8 }
  else
    match action with
    | .exit => { loop, shot := some (shot .exit), ends := .breaks "user_exit" 0 }
    | .next =>
      { loop := { loop with
          screen := (loop.screen + 1) % SCREEN_COUNT
          screensVisited := loop.screensVisited + 1
          status := t.status }
        shot := some (shot .next), ends := .goesOn }
    | .none => { loop, shot := some (shot .none), ends := .goesOn }

/-- The body of the loop. -/
def turn (options : Options abi) (started : SizeT abi) (loop : Loop abi) (t : Turn abi) :
    TurnResult abi :=
  let runtime := t.now - started
  let frames : SizeT abi := BitVec.ofInt _ loop.session.owner.framesWritten.toInt
  if t.stopped then { loop, shot := none, ends := .breaks "signal" 0 }
  else if !options.forever ∧ options.durationMs ≤ runtime then
    { loop, shot := none, ends := .breaks "duration_reached" 0 }
  else if options.framesMax ≠ 0 ∧ options.framesMax ≤ frames then
    { loop, shot := none, ends := .breaks "frames_reached" 0 }
  else
    match (drawScreen loop.renderer loop.screen loop.status loop.input runtime frames).bind
        loop.renderer.drawAll with
    | none => { loop, shot := none, ends := .undefined }
    | some renderer =>
      let entry : Entry abi :=
        ⟨loop.session, .writeFrame renderer.shadow renderer.frameBytes t.frame⟩
      let shot (action : DashboardAction) : Shot abi :=
        { screen := loop.screen, status := loop.status, input := loop.input, runtime, frames
          entry, action }
      let loop := { loop with renderer, session := entry.outcome.session }
      match entry.outcome.status with
      | none => { loop, shot := some (shot .none), ends := .writing }
      | some written =>
        if written ≠ 0 then
          { loop, shot := some (shot .none), ends := .breaks "frame_write_failed" 7 }
        else react loop t shot

/-- The passes that were made; the last one ended the loop unless it `goesOn`. -/
structure LoopRun (abi : Abi) where
  loop : Loop abi
  shots : List (Shot abi)
  ends : TurnEnd

def runLoop (options : Options abi) (started : SizeT abi) (loop : Loop abi) :
    List (Turn abi) → LoopRun abi
  | [] => { loop, shots := [], ends := .goesOn }
  | t :: turns =>
    let result := turn options started loop t
    match result.ends with
    | .goesOn =>
      let rest := runLoop options started result.loop turns
      { rest with shots := result.shot.toList ++ rest.shots }
    | ends => { loop := result.loop, shots := result.shot.toList, ends }

structure DashboardIo (abi : Abi) where
  files : InputFiles
  probe : ProbeIo
  malloc : Option (Nat → UInt8)
  acquire : BindIo
  status : DashboardStatus
  started : SizeT abi
  turns : List (Turn abi)
  ended : SizeT abi
  release : BindIo
  /-- `fflush(stdout)` succeeds. -/
  flushes : Bool

inductive Exit where
  | exited (code : Int)
  | running
  | undefined
  deriving DecidableEq, Repr

/-- What the machine report says beside the geometry and the device. -/
structure Report (abi : Abi) where
  fbconWasBound : Int
  fbconRestored : Bool
  framesWritten : Int32
  screensVisited : Int32
  inputEvents : SizeT abi
  clippedWrites : SizeT abi
  runtimeMs : SizeT abi
  runtimeBounded : Bool
  status : String
  deriving DecidableEq, Repr

structure Run (abi : Abi) where
  /-- The calls made on the framebuffer owner. -/
  entries : List (Entry abi)
  shots : List (Shot abi)
  session : Session abi
  input : DashboardInput abi
  report : Option (Report abi)
  exit : Exit

/-- A run that returns before it owns the framebuffer. -/
def refuse (entries : List (Entry abi)) (session : Session abi) (code : Int) : Run abi :=
  { entries, shots := [], session, input := .closed abi, report := none, exit := .exited code }

def finish (options : Options abi) (io : DashboardIo abi) (entries : List (Entry abi))
    (ran : LoopRun abi) : Run abi :=
  let entries := entries ++ ran.shots.map Shot.entry
  match ran.ends with
  | .goesOn | .writing =>
    { entries, shots := ran.shots, session := ran.loop.session, input := ran.loop.input
      report := none, exit := .running }
  | .undefined =>
    { entries, shots := ran.shots, session := ran.loop.session, input := ran.loop.input
      report := none, exit := .undefined }
  | .breaks statusText rc =>
    let runtime := io.ended - io.started
    -- Restore ownership on EVERY path, including the error paths above.
    let release : Entry abi := ⟨ran.loop.session, .release io.release⟩
    let session := release.outcome.session
    let rc := if release.outcome.status ≠ some 0 ∧ rc = 0 then 9 else rc
    { entries := entries ++ [release], shots := ran.shots, session
      input := ran.loop.input.close
      report := some
        { fbconWasBound := session.owner.fbconWasBound
          fbconRestored := session.owner.fbconRestored
          framesWritten := session.owner.framesWritten
          screensVisited := ran.loop.screensVisited
          inputEvents := ran.loop.input.eventsSeen
          clippedWrites := ran.loop.renderer.clippedWrites
          runtimeMs := runtime
          runtimeBounded := options.forever || runtime ≤ options.durationMs + 5000
          status := statusText }
      exit := .exited (if io.flushes then rc else 10) }

/-- `main` from the selected input on. -/
def runWith (options : Options abi) (io : DashboardIo abi) (bindFile : Option Bool)
    (input : DashboardInput abi) : Run abi :=
  let probe : Entry abi := ⟨⟨.init abi, bindFile⟩, .probe io.probe⟩
  let probed := probe.outcome.session
  if probe.outcome.status ≠ some 0 then refuse [probe] probed 4
  else
    let made := Renderer.init io.malloc probed.owner.width probed.owner.height probed.owner.bpp
      probed.owner.stride
    if made.2 ≠ 0 then refuse [probe] probed 5
    else
      let acquire : Entry abi := ⟨probed, .acquire io.acquire⟩
      let owned := acquire.outcome.session
      if acquire.outcome.status ≠ some 0 then refuse [probe, acquire] owned 6
      else
        finish options io [probe, acquire] <|
          runLoop options io.started
            { session := owned, renderer := made.1, status := io.status, input, screen := 0
              screensVisited := 1 } io.turns

/-- `main`, with the content of the console's bind file before it. -/
def main (io : DashboardIo abi) (bindFile : Option Bool) (args : List (List UInt8)) : Run abi :=
  let idle : Session abi := ⟨.init abi, bindFile⟩
  match parseArgs (.default abi) args with
  | .exit code => refuse [] idle code
  | .undefined => { refuse [] idle 0 with exit := .undefined }
  | .options options =>
    -- Input identity first: refuse to run rather than guess a device.
    match DashboardInput.inputOpen io.files options.root
        (printed 256 (options.root ++ chars "/dev/input")) options.wantedPhys with
    | none => refuse [] idle 3
    | some input => runWith options io bindFile input

end VitaLinux.Toolkit.Dashboard
