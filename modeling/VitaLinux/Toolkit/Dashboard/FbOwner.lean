import VitaLinux.Base.Machine

/-!
# toolkit/examples/vita-dashboard/src/fb_owner.c

What every I/O operation finds or returns is an input of the call that issues
it. The only outside state is the content of the console's bind file, which
nobody else writes and which a failed write leaves as it was.
-/

namespace VitaLinux.Toolkit.Dashboard

inductive FbOwnerState where
  | idle
  | probed
  | owned
  | released
  | failed
  deriving DecidableEq, Repr

/-- `struct fb_owner` without its path buffers. -/
structure FbOwner (abi : Abi) where
  width : U32
  height : U32
  bpp : U32
  stride : U32
  frameBytes : SizeT abi
  /-- -1 unknown, 0 unbound, 1 bound -/
  fbconWasBound : Int
  fbconUnboundByUs : Bool
  fbconRestored : Bool
  /-- `int` -/
  framesWritten : Int32
  state : FbOwnerState
  error : String
  deriving DecidableEq, Repr

def FB_MAX_FRAME_BYTES : U32 := 67108864

/-- What a call does to the outside world. -/
inductive Effect where
  /-- The bind file now holds this value. -/
  | bind (value : Bool)
  /-- These bytes reached the framebuffer, from its start on. -/
  | frame (bytes : List UInt8)
  deriving DecidableEq, Repr

/-- What opening and examining the framebuffer finds. -/
inductive FbDevice where
  | cannotOpen
  | cannotStat
  | regular (size : Int)
  /-- `none` when the driver does not answer FBIOGET_FSCREENINFO. -/
  | character (smemLen : Option U32)
  | other
  deriving DecidableEq, Repr

/-- The outcomes of the I/O of `fb_owner_probe`; `none` is a file that cannot be read. -/
structure ProbeIo where
  size : Option (U32 × U32)
  bpp : Option U32
  stride : Option U32
  device : FbDevice
  bindOpens : Bool
  bindScans : Bool
  deriving DecidableEq, Repr

/-- The outcomes of fopen, fprintf and fclose in `write_bind`. -/
structure BindIo where
  opens : Bool
  prints : Bool
  closes : Bool
  deriving DecidableEq, Repr

/-- One return of write(2). It never writes more than it was asked to. -/
inductive WriteResult where
  | wrote (count : Nat)
  | interrupted
  | failed
  deriving DecidableEq, Repr

structure FrameIo where
  opens : Bool
  seeks : Bool
  writes : List WriteResult
  deriving DecidableEq, Repr

/-- How the write loop ends; `pending` when the listed results do not end it. -/
inductive LoopEnd where
  | complete
  | short
  | failed
  | pending
  deriving DecidableEq, Repr

/-- The owner and the bind file; `none` is an absent file. -/
structure Session (abi : Abi) where
  owner : FbOwner abi
  bindFile : Option Bool
  deriving DecidableEq, Repr

/-- What a call leaves; the status is `none` while it has not returned. -/
structure Outcome (abi : Abi) where
  session : Session abi
  status : Option Int
  effects : List Effect
  deriving DecidableEq, Repr

variable {abi : Abi}

namespace FbOwner

def setError (owner : FbOwner abi) (message : String) : FbOwner abi :=
  { owner with error := message, state := .failed }

def refuse (owner : FbOwner abi) (message : String) : FbOwner abi :=
  { owner with error := message }

def init (abi : Abi) : FbOwner abi :=
  { width := 0, height := 0, bpp := 0, stride := 0, frameBytes := 0
    fbconWasBound := -1, fbconUnboundByUs := false, fbconRestored := false
    framesWritten := 0, state := .idle, error := "" }

end FbOwner

/-- The check that the framebuffer holds a whole frame, with its error text. -/
def FbDevice.fault (device : FbDevice) (frameBytes : SizeT abi) : Option String :=
  match device with
  | .cannotOpen => some "cannot open framebuffer device"
  | .cannotStat => some "cannot stat framebuffer device"
  | .regular size =>
    if BitVec.ofInt abi.sizeBits size < frameBytes then
      some "framebuffer is shorter than one frame"
    else none
  | .character (some smemLen) =>
    if smemLen ≠ 0 ∧ smemLen.setWidth abi.sizeBits < frameBytes then
      some "framebuffer is shorter than one frame"
    else none
  | .character none => none
  | .other => some "framebuffer path is not a device or regular file"

/-- The value `fbcon_was_bound` takes from the bind file. -/
def ProbeIo.wasBound (io : ProbeIo) (bindFile : Option Bool) : Int :=
  match bindFile with
  | some value => if io.bindOpens ∧ io.bindScans ∧ value then 1 else 0
  | none => 0

/-- The stride file's value, or one packed row when it cannot be read or is 0. -/
def ProbeIo.strideOr (io : ProbeIo) (packed : U32) : U32 :=
  match io.stride with
  | some stride => if stride = 0 then packed else stride
  | none => packed

/-- `fb_owner_probe` -/
def FbOwner.probe (owner : FbOwner abi) (io : ProbeIo) (bindFile : Option Bool) :
    FbOwner abi × Int :=
  if owner.state ≠ .idle then (owner.setError "probe called from a non-idle state", -1)
  else
    match io.size with
    | none => (owner.setError "cannot read framebuffer virtual_size", -1)
    | some (w, h) =>
      match io.bpp with
      | none => (owner.setError "cannot read framebuffer bits_per_pixel", -1)
      | some bpp =>
        if w = 0 ∨ h = 0 ∨ bpp = 0 ∨ bpp % 8 ≠ 0 then
          (owner.setError "unsupported framebuffer geometry", -1)
        else
          let stride := io.strideOr (w * (bpp / 8))
          if stride < w * (bpp / 8) then
            (owner.setError "stride smaller than one packed row", -1)
          else
            let frameBytes : SizeT abi := stride.setWidth abi.sizeBits * h.setWidth abi.sizeBits
            let owner : FbOwner abi :=
              { owner with width := w, height := h, bpp := bpp, stride := stride
                           frameBytes := frameBytes }
            if frameBytes = 0 ∨ FB_MAX_FRAME_BYTES.setWidth abi.sizeBits < frameBytes then
              (owner.setError "implausible frame size", -1)
            else
              match io.device.fault frameBytes with
              | some message => (owner.setError message, -1)
              | none =>
                ({ owner with fbconWasBound := io.wasBound bindFile, state := .probed }, 0)

/-- `write_bind`: the new content of the file, whether it succeeded, and the effect. -/
def writeBind (io : BindIo) (value : Bool) (bindFile : Option Bool) :
    Option Bool × Int × List Effect :=
  if !io.opens then (bindFile, -1, [])
  else if !io.prints then (bindFile, -1, [])
  else if !io.closes then (bindFile, -1, [])
  else (some value, 0, [.bind value])

/-- `frame[offset .. offset + count)` -/
def slice (frame : Nat → UInt8) (offset count : Nat) : List UInt8 :=
  (List.range count).map fun i => frame (offset + i)

/-- The short-write loop of `fb_owner_write_frame`, with the bytes it delivers. -/
def writeLoop (frame : Nat → UInt8) (len written : Nat) :
    List WriteResult → LoopEnd × List UInt8
  | [] => if written < len then (.pending, []) else (.complete, [])
  | result :: results =>
    if written < len then
      match result with
      | .interrupted => writeLoop frame len written results
      | .failed => (.failed, [])
      | .wrote count =>
        let chunk := min count (len - written)
        if chunk = 0 then (.short, [])
        else
          let rest := writeLoop frame len (written + chunk) results
          (rest.1, slice frame written chunk ++ rest.2)
    else (.complete, [])

namespace Session

/-- `fb_owner_probe` -/
def probe (session : Session abi) (io : ProbeIo) : Outcome abi :=
  let (owner, status) := session.owner.probe io session.bindFile
  { session := { session with owner }, status := some status, effects := [] }

def acquire (session : Session abi) (io : BindIo) : Outcome abi :=
  if session.owner.state ≠ .probed then
    { session := { session with
        owner := session.owner.setError "acquire called before a successful probe" }
      status := some (-1), effects := [] }
  else if session.owner.fbconWasBound = 1 then
    let (bindFile, written, effects) := writeBind io false session.bindFile
    if written ≠ 0 then
      { session := { owner := session.owner.setError "cannot unbind fbcon", bindFile }
        status := some (-1), effects }
    else
      { session :=
          { owner := { session.owner with fbconUnboundByUs := true, state := .owned }, bindFile }
        status := some 0, effects }
  else
    { session := { session with owner := { session.owner with state := .owned } }
      status := some 0, effects := [] }

/-- `fb_owner_write_frame`; a `frame` of `none` is NULL. -/
def writeFrame (session : Session abi) (frame : Option (Nat → UInt8)) (len : SizeT abi)
    (io : FrameIo) : Outcome abi :=
  let fail (owner : FbOwner abi) (effects : List Effect) : Outcome abi :=
    { session := { session with owner }, status := some (-1), effects }
  if session.owner.state ≠ .owned then
    fail (session.owner.refuse "write_frame called without ownership") []
  else
    match frame with
    | none => fail (session.owner.refuse "null frame") []
    | some frame =>
      if len ≠ session.owner.frameBytes then
        fail (session.owner.refuse "frame length does not match stride*height") []
      else if !io.opens then
        fail (session.owner.setError "cannot open framebuffer for writing") []
      else if !io.seeks then fail (session.owner.setError "cannot seek framebuffer") []
      else
        let (ends, delivered) := writeLoop frame len.toNat 0 io.writes
        match ends with
        | .failed => fail (session.owner.setError "framebuffer write failed") [.frame delivered]
        | .short => fail (session.owner.setError "short framebuffer write") [.frame delivered]
        | .pending => { session, status := none, effects := [.frame delivered] }
        | .complete =>
          { session := { session with
              owner := { session.owner with
                framesWritten := session.owner.framesWritten + 1 } }
            status := some 0, effects := [.frame delivered] }

def release (session : Session abi) (io : BindIo) : Outcome abi :=
  if session.owner.state = .released then { session, status := some 0, effects := [] }
  else if session.owner.fbconUnboundByUs then
    let (bindFile, written, effects) := writeBind io true session.bindFile
    if written ≠ 0 then
      { session := { owner := { session.owner with error := "cannot rebind fbcon" }, bindFile }
        status := some (-1), effects }
    else
      { session :=
          { owner := { session.owner with
              fbconUnboundByUs := false, fbconRestored := true, state := .released }
            bindFile }
        status := some 0, effects }
  else if session.owner.fbconWasBound = 0 then
    { session := { session with
        owner := { session.owner with fbconRestored := true, state := .released } }
      status := some 0, effects := [] }
  else
    { session := { session with owner := { session.owner with state := .released } }
      status := some 0, effects := [] }

end Session

inductive Call (abi : Abi) where
  | probe (io : ProbeIo)
  | acquire (io : BindIo)
  | writeFrame (frame : Option (Nat → UInt8)) (len : SizeT abi) (io : FrameIo)
  | release (io : BindIo)

def Session.call (session : Session abi) : Call abi → Outcome abi
  | .probe io => session.probe io
  | .acquire io => session.acquire io
  | .writeFrame frame len io => session.writeFrame frame len io
  | .release io => session.release io

structure Entry (abi : Abi) where
  before : Session abi
  call : Call abi

def Entry.outcome (entry : Entry abi) : Outcome abi := entry.before.call entry.call

/-- The calls of a run. One that does not return is the last. -/
def history (session : Session abi) : List (Call abi) → List (Entry abi)
  | [] => []
  | call :: calls =>
    ⟨session, call⟩ ::
      if (session.call call).status.isSome then history (session.call call).session calls
      else []

end VitaLinux.Toolkit.Dashboard
