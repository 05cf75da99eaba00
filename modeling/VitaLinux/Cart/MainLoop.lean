import VitaLinux.Base.Crossfade
import VitaLinux.Cart.InputActions
import VitaLinux.Cart.Runtime
import VitaLinux.Cart.Transition

/-!
# The render loop of pstv-demo-cart.c

What the loop cannot decide itself (clock readings, signals, polled actions,
the order in which the pool finishes its bands) comes in as one `Iteration`
for each turn.
-/

namespace VitaLinux.Cart

open VitaLinux.Base Scene2dLegacy

/-- The pool of `RENDER_THREADS` workers. -/
def renderPool : RenderPool := ⟨4, by decide⟩

/-- One turn as the outside decides it; `none` is a failed call. -/
structure Iteration where
  /-- SIGINT, SIGTERM or SIGHUP came before the loop condition is read. -/
  stopped : Bool
  firstNowNs : Option U64
  /-- SIGUSR1 has come when the flag is tested. -/
  nextSceneRequested : Bool
  polled : Option CartInputAction
  fromOrder : BandOrder renderPool.workerCount
  toOrder : BandOrder renderPool.workerCount
  frameOrder : BandOrder renderPool.workerCount
  secondNowNs : Option U64
  slept : Bool

structure LoopState (abi : Abi) where
  runtime : CartRuntime abi
  transition : CartTransition abi
  displayedScene : SizeT abi
  low : Pixels
  lowFrom : Pixels
  lowTo : Pixels
  running : Bool

/-- `(int)scene` -/
def intOfSize {abi : Abi} (scene : SizeT abi) : Int := (scene.setWidth 32).toInt

namespace LoopState

variable {abi : Abi}

/-- The state in which the loop begins; `none` when `cart_runtime_init` refuses. -/
def start (abi : Abi) (nowNs : U64) : Option (LoopState abi) :=
  match CartRuntime.init (cartSceneCount abi) nowNs (1000000000 / 30) (8 * 1000000000)
      CART_RUNTIME_MIN_CHANGE_NS with
  | none => none
  | some runtime =>
    some {
      runtime
      transition :=
        { fromScene := 0, toScene := 0, elapsedFrames := 0, active := false, sourcesReady := false }
      displayedScene := runtime.sceneIndex
      low := fun _ => 0, lowFrom := fun _ => 0, lowTo := fun _ => 0
      running := true }

def handleSignal (state : LoopState abi) (nowNs : U64) (i : Iteration) : LoopState abi :=
  if i.nextSceneRequested then
    { state with runtime := state.runtime.requestNext nowNs (3600 * 1000000000) }
  else state

/-- The polled action; a failed poll shuts the input down and requests nothing. -/
def handlePoll (state : LoopState abi) (nowNs : U64) (i : Iteration) : LoopState abi :=
  match i.polled with
  | some .quit => { state with running := false }
  | some .next =>
    { state with runtime := state.runtime.requestNext nowNs (8 * 1000000000) }
  | some .previous =>
    { state with runtime := state.runtime.requestPrevious nowNs (8 * 1000000000) }
  | _ => state

variable (sins : SineTable)

def beginFade (state : LoopState abi) (i : Iteration) : LoopState abi :=
  if state.runtime.sceneIndex ≠ state.displayedScene ∧ !state.transition.active then
    let transition := .begin state.displayedScene state.runtime.sceneIndex
    let state := { state with transition }
    if transition.sourcesNeedRender then
      { state with
        lowFrom := renderSceneInto sins abi renderPool i.fromOrder state.lowFrom
          (intOfSize transition.fromScene) state.runtime.frame
        lowTo := renderSceneInto sins abi renderPool i.toOrder state.lowTo
          (intOfSize transition.toScene) state.runtime.frame
        transition := transition.markSourcesRendered }
    else state
  else state

/-- One blend of the fade in flight, or the displayed scene itself. -/
def drawFrame (state : LoopState abi) (i : Iteration) : LoopState abi :=
  if state.transition.active then
    let low := transitionBlend state.low state.lowFrom state.lowTo (320 * 180)
      state.transition.elapsedFrames
    let transition := state.transition.advance
    { state with
      low, transition
      displayedScene := if !transition.active then transition.toScene else state.displayedScene }
  else
    { state with
      low := (renderFrame sins renderPool i.frameOrder (intOfSize state.displayedScene)
        state.runtime.frame (lowCanvas abi state.low)).pixels }

/-- The frame handed to `cart_presentation_upscale`, with the scene and the frame
number the runtime has at that point. -/
def shot (state : LoopState abi) : Shot (SizeT abi) U64 Picture :=
  { wanted := state.runtime.sceneIndex
    moment := state.runtime.frame
    picture := picture state.low }

/-- The turn from the tick's success up to presentation. -/
def present (state : LoopState abi) (nowNs : U64) (i : Iteration) : LoopState abi :=
  let state := (state.handleSignal nowNs i).handlePoll nowNs i
  (state.beginFade sins i).drawFrame sins i

end LoopState

structure Turn (abi : Abi) where
  state : LoopState abi
  presented : Option (Shot (SizeT abi) U64 Picture)
  goesOn : Bool

variable {abi : Abi} (sins : SineTable)

/-- The body of the loop. Every `break` is a turn that does not go on. -/
def turn (state : LoopState abi) (i : Iteration) : Turn abi :=
  match i.firstNowNs with
  | none => { state, presented := none, goesOn := false }
  | some nowNs =>
    let ticked := state.runtime.tick nowNs
    let state := { state with runtime := ticked.1 }
    if ticked.2 ≠ 0 then { state, presented := none, goesOn := false }
    else
      let state := state.present sins nowNs i
      match i.secondNowNs with
      | none => { state, presented := some state.shot, goesOn := false }
      | some nowNs =>
        let ticked := state.runtime.tick nowNs
        { state := { state with runtime := ticked.1 }
          presented := some state.shot
          goesOn := ticked.2 == 0 && i.slept }

/-- The turns of a run: the state each begins with and what the outside decides in it. -/
def visits (state : LoopState abi) : List Iteration → List (LoopState abi × Iteration)
  | [] => []
  | i :: is =>
    if !state.running || i.stopped then []
    else
      (state, i) ::
        if (turn sins state i).goesOn then visits (turn sins state i).state is else []

def presented (state : LoopState abi) (is : List Iteration) :
    List (Shot (SizeT abi) U64 Picture) :=
  (visits sins state is).filterMap fun visit => (turn sins visit.1 visit.2).presented

end VitaLinux.Cart
