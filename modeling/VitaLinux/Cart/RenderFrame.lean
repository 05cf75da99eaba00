import VitaLinux.Cart.Bands
import VitaLinux.Cart.Scene2dLegacy

/-!
# Rendering one frame

`render_legacy_scene`, the scene registry of scenes_builtin.c and `row_job`,
`render_frame`, `render_scene_into` of pstv-demo-cart.c. The pool is seen here
from outside: a dispatch runs the job once for each band, in any order.
-/

namespace VitaLinux.Cart

open VitaLinux.Base Scene2dLegacy

inductive CartScenePhase where
  | renderRows
  | renderOverlay
  deriving DecidableEq, Repr

structure CartSceneRenderContext (abi : Abi) where
  canvas : CartCanvas abi
  rowStart : Int
  rowEnd : Int
  frame : U64
  phase : CartScenePhase

namespace Scene2dLegacy

/-- The cart's `mix`: a negative amount counts as 0. -/
def mix (a b : U32) (t : Int) : U32 :=
  cartMix a b (if t < 0 then 0 else u32 t)

/-- `frame % LEGACY_FRAME_PERIOD` as an `int` -/
def legacyFramePhase (frame : U64) : Int := ((frame % 65536#64).toNat : Int)

variable {abi : Abi} (sins : SineTable)

def renderLegacyScene (context : CartSceneRenderContext abi) (which : Int) : CartCanvas abi :=
  if which < 0 ∨ SCENES ≤ which then context.canvas
  else
    let frame := legacyFramePhase context.frame
    match context.phase with
    | .renderRows =>
      context.canvas.on (rowPass context.rowStart context.rowEnd
        (scenePixel sins mix which frame) context.canvas.pixels)
    | .renderOverlay => (overlay sins which frame).foldl CartCanvas.draw context.canvas

end Scene2dLegacy

/-- `struct cart_scene`: what rendering uses of it. -/
structure CartScene (abi : Abi) where
  render : CartSceneRenderContext abi → CartCanvas abi

section

variable {abi : Abi} (sins : SineTable)

def builtinScenes : List (CartScene abi) :=
  [⟨fun context => renderLegacyScene sins context 0⟩,
   ⟨fun context => renderLegacyScene sins context 1⟩,
   ⟨fun context => renderLegacyScene sins context 2⟩,
   ⟨fun context => renderLegacyScene sins context 3⟩,
   ⟨fun context => renderLegacyScene sins context 4⟩,
   ⟨fun context => renderLegacyScene sins context 5⟩]

def cartSceneCount (abi : Abi) : SizeT abi := 6

/-- `cart_scene_at`; `none` is NULL. -/
def cartSceneAt (index : SizeT abi) : Option (CartScene abi) :=
  if cartSceneCount abi ≤ index then none else (builtinScenes sins)[index.toNat]?

/-- A pool as `render_frame` uses it: started with `worker_count` workers (0 for
inline rendering) over the `LH` rows. -/
structure RenderPool where
  workerCount : Nat
  bounded : workerCount ≤ CART_WORKER_POOL_MAX

/-- `row_job`: the context of the slot is rewritten, then the scene rendered. -/
def rowJob (scene : CartScene abi) (canvas : CartCanvas abi) (rowStart rowEnd : Int)
    (frame : U64) : CartCanvas abi :=
  scene.render { canvas, rowStart, rowEnd, frame, phase := .renderRows }

/-- `cart_worker_pool_dispatch` of `row_job`, or the inline call. -/
def dispatchRows (pool : RenderPool) (order : BandOrder pool.workerCount)
    (scene : CartScene abi) (canvas : CartCanvas abi) (frame : U64) : CartCanvas abi :=
  if 0 < pool.workerCount then
    order.order.foldl (fun canvas (index : Nat) =>
      rowJob scene canvas (bandStart LH pool.workerCount index)
        (bandEnd LH pool.workerCount index) frame) canvas
  else rowJob scene canvas 0 LH frame

def renderFrame (pool : RenderPool) (order : BandOrder pool.workerCount)
    (which : Int) (frame : U64) (lowCanvas : CartCanvas abi) : CartCanvas abi :=
  match cartSceneAt sins (BitVec.ofInt abi.sizeBits which) with
  | none => lowCanvas
  | some selected =>
    let lowCanvas := dispatchRows pool order selected lowCanvas frame
    selected.render
      { canvas := lowCanvas, rowStart := 0, rowEnd := LH, frame, phase := .renderOverlay }

def lowCanvas (abi : Abi) (low : Pixels) : CartCanvas abi :=
  { pixels := low, width := 320, height := 180, stride := 320 }

/-- `render_scene_into`: the canvas pointer is retargeted around the call. -/
def renderSceneInto (abi : Abi) (pool : RenderPool) (order : BandOrder pool.workerCount)
    (destination : Pixels) (which : Int) (frame : U64) : Pixels :=
  (renderFrame sins pool order which frame (lowCanvas abi destination)).pixels

end

end VitaLinux.Cart
