import VitaLinux.Base.Machine

/-!
# cart/src/runtime.c

The runtime decides which scene is selected, when the next frame is due, and
how often the selected scene may change.
-/

namespace VitaLinux.Cart

/-- `struct cart_runtime`. The `int` flags `had_change` and `manual_hold_active`
only ever hold 0 or 1. -/
structure CartRuntime (abi : Abi) where
  sceneCount : SizeT abi
  sceneIndex : SizeT abi
  manualSceneIndex : SizeT abi
  originNs : U64
  framePeriodNs : U64
  scenePeriodNs : U64
  manualHoldUntilNs : U64
  minChangeNs : U64
  lastChangeNs : U64
  hadChange : Bool
  nextDeadlineNs : U64
  frame : U64
  droppedDeadlines : U64
  sleepNs : U64
  manualHoldActive : Bool
  deriving DecidableEq, Repr

def CART_RUNTIME_MIN_CHANGE_NS : U64 := 500000000

def addSaturating (left right : U64) : U64 :=
  if UINT64_MAX - right < left then UINT64_MAX else left + right

namespace CartRuntime

variable {abi : Abi}

/-- `cart_runtime_init` on a non-NULL runtime; `none` is the return value -1. -/
def init (sceneCount : SizeT abi)
    (originNs framePeriodNs scenePeriodNs minChangeNs : U64) : Option (CartRuntime abi) :=
  if sceneCount = 0 ∨ framePeriodNs = 0 ∨ scenePeriodNs = 0 ∨
      UINT64_MAX - framePeriodNs ≤ originNs then
    none
  else
    some {
      sceneCount, sceneIndex := 0, manualSceneIndex := 0
      originNs, framePeriodNs, scenePeriodNs
      manualHoldUntilNs := 0, minChangeNs, lastChangeNs := 0, hadChange := false
      nextDeadlineNs := originNs + framePeriodNs
      frame := 0, droppedDeadlines := 0
      sleepNs := framePeriodNs, manualHoldActive := false }

/-- Photosensitivity guard. A zero cooldown disables rate limiting entirely. -/
def changeAllowed (runtime : CartRuntime abi) (nowNs : U64) : Bool :=
  if runtime.minChangeNs = 0 then true
  else if !runtime.hadChange then true
  else if nowNs < runtime.lastChangeNs then false
  else decide (runtime.minChangeNs ≤ nowNs - runtime.lastChangeNs)

def recordChange (runtime : CartRuntime abi) (nowNs : U64) : CartRuntime abi :=
  { runtime with lastChangeNs := nowNs, hadChange := true }

/-- The scene the attract loop wants: a 64-bit remainder, cast back to `size_t`. -/
def automatic (runtime : CartRuntime abi) (nowNs : U64) : SizeT abi :=
  (((nowNs - runtime.originNs) / runtime.scenePeriodNs) %
    runtime.sceneCount.setWidth 64).setWidth abi.sizeBits

/-- The hold flag after its expiry check. -/
def expireHold (runtime : CartRuntime abi) (nowNs : U64) : CartRuntime abi :=
  if runtime.manualHoldActive ∧ runtime.manualHoldUntilNs ≤ nowNs then
    { runtime with manualHoldActive := false }
  else runtime

def tickScene (runtime : CartRuntime abi) (nowNs : U64) : CartRuntime abi :=
  let runtime := { runtime with
    frame := (nowNs - runtime.originNs) / runtime.framePeriodNs }
  let runtime := runtime.expireHold nowNs
  if runtime.manualHoldActive then
    { runtime with sceneIndex := runtime.manualSceneIndex }
  else if runtime.automatic nowNs ≠ runtime.sceneIndex then
    if runtime.changeAllowed nowNs then
      { runtime.recordChange nowNs with sceneIndex := runtime.automatic nowNs }
    else runtime
  else runtime

def tickDeadline (runtime : CartRuntime abi) (nowNs : U64) : CartRuntime abi × Int :=
  if nowNs < runtime.nextDeadlineNs then
    ({ runtime with sleepNs := runtime.nextDeadlineNs - nowNs }, 0)
  else if UINT64_MAX - runtime.framePeriodNs < nowNs then (runtime, -1)
  else
    let lateNs := nowNs - runtime.nextDeadlineNs
    if lateNs < runtime.framePeriodNs then
      if UINT64_MAX - runtime.framePeriodNs < runtime.nextDeadlineNs then (runtime, -1)
      else
        let next := runtime.nextDeadlineNs + runtime.framePeriodNs
        ({ runtime with nextDeadlineNs := next, sleepNs := next - nowNs }, 0)
    else
      let next := nowNs + runtime.framePeriodNs
      ({ runtime with
          droppedDeadlines := runtime.droppedDeadlines + lateNs / runtime.framePeriodNs
          nextDeadlineNs := next, sleepNs := next - nowNs }, 0)

/-- The reading `cart_runtime_tick` works with: never before the origin. -/
def clampNow (runtime : CartRuntime abi) (nowNs : U64) : U64 :=
  if nowNs < runtime.originNs then runtime.originNs else nowNs

/-- `cart_runtime_tick`: the new state and the return value. -/
def tick (runtime : CartRuntime abi) (nowNs : U64) : CartRuntime abi × Int :=
  if runtime.sceneCount = 0 ∨ runtime.framePeriodNs = 0 ∨ runtime.scenePeriodNs = 0 then
    (runtime, -1)
  else
    let nowNs := runtime.clampNow nowNs
    (runtime.tickScene nowNs).tickDeadline nowNs

/-- The body the two requests share once they have picked a scene. -/
def selectManual (runtime : CartRuntime abi) (scene : SizeT abi) (nowNs holdNs : U64) :
    CartRuntime abi :=
  let runtime := { runtime with manualSceneIndex := scene }
  let runtime :=
    if runtime.manualSceneIndex ≠ runtime.sceneIndex then runtime.recordChange nowNs else runtime
  let runtime := { runtime with sceneIndex := runtime.manualSceneIndex }
  if holdNs = 0 then { runtime with manualHoldActive := false }
  else
    { runtime with
      manualHoldUntilNs := addSaturating nowNs holdNs, manualHoldActive := true }

def requestNext (runtime : CartRuntime abi) (nowNs holdNs : U64) : CartRuntime abi :=
  if runtime.sceneCount = 0 then runtime
  else if !runtime.changeAllowed nowNs then runtime
  else runtime.selectManual ((runtime.sceneIndex + 1) % runtime.sceneCount) nowNs holdNs

/-- `cart_runtime_request_previous`. The sum wraps as `size_t` arithmetic does. -/
def requestPrevious (runtime : CartRuntime abi) (nowNs holdNs : U64) : CartRuntime abi :=
  if runtime.sceneCount = 0 then runtime
  else if !runtime.changeAllowed nowNs then runtime
  else
    runtime.selectManual
      ((runtime.sceneIndex + runtime.sceneCount - 1) % runtime.sceneCount) nowNs holdNs

inductive Call where
  | tick (nowNs : U64)
  | requestNext (nowNs holdNs : U64)
  | requestPrevious (nowNs holdNs : U64)
  deriving DecidableEq, Repr

def Call.nowNs : Call → U64
  | .tick nowNs => nowNs
  | .requestNext nowNs _ => nowNs
  | .requestPrevious nowNs _ => nowNs

/-- The runtime after a call; a tick that returns -1 keeps what it wrote. -/
def call (runtime : CartRuntime abi) : Call → CartRuntime abi
  | .tick nowNs => (runtime.tick nowNs).1
  | .requestNext nowNs holdNs => runtime.requestNext nowNs holdNs
  | .requestPrevious nowNs holdNs => runtime.requestPrevious nowNs holdNs

end CartRuntime

end VitaLinux.Cart
