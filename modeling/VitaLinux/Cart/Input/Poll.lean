import VitaLinux.Cart.Input.Discovery

/-!
# cart/src/input_evdev.c: poll

The read loop of `pump_source` runs until a read fails or finds the end of the
file. Fuel bounds its reads; without enough of it the poll has not returned.
-/

namespace VitaLinux.Cart

/-- `ops->read`, which never returns more bytes than it was asked for. -/
def readFd (ops : CartInputOps) (fd : Int) (count : Nat) (trace : InputTrace) : ReadResult :=
  match ops.read trace fd count with
  | .got bytes => .got (bytes.take count)
  | .interrupted => .interrupted
  | .again => .again
  | .failed => .failed

def enqueueAction (pending : List CartInputAction) (action : CartInputAction) :
    List CartInputAction :=
  if action = .none then pending
  else if pending.length < PENDING_CAP then pending ++ [action]
  else pending

def CartInputSource.disconnected (source : CartInputSource) : CartInputSource :=
  { source with
    fd := -1, state := .absent, generation := source.generation + 1
    lastRaw := fun _ => 0, heldKeys := 0 }

def handleDisconnect (engine : InputEngine) (index : SourceIndex) : InputEngine :=
  let source := engine.source index
  let engine := if 0 ≤ source.fd then engine.record [.closed source.fd] else engine
  (engine.setSource index source.disconnected).setBuffer index []

/-- The bit that `process_key_event` keeps for a code below 64. -/
def CartInputSource.holdKey (source : CartInputSource) (code : BitVec 16) (value : Int32) :
    CartInputSource :=
  if code.toNat < 64 then
    if value ≠ 0 then { source with heldKeys := source.heldKeys ||| (1 : U64) <<< code.toNat }
    else { source with heldKeys := source.heldKeys &&& ~~~((1 : U64) <<< code.toNat) }
  else source

/-- The action that `process_key_event` hands to `enqueue_action`, if any. -/
def emittedAction (code : BitVec 16) (value : Int32) : CartInputAction :=
  if keyEmitsAction (value.toBitVec.setWidth 16) then mapKey code else .none

def processKeyEvent (engine : InputEngine) (index : SourceIndex) (code : BitVec 16)
    (value : Int32) : InputEngine :=
  let action := emittedAction code value
  let engine := engine.setSource index ((engine.source index).holdKey code value)
  let engine := engine.setPending (enqueueAction engine.input.pending action)
  if action = .none then engine else engine.record [.emitted index action]

/-- The keys 0..63 of a key state buffer as a bitmask. -/
def mergeKeyState (state : Nat → UInt8) : U64 :=
  (List.range 64).foldl
    (fun merged code => merged ||| (if bitTest state code then 1 else 0) <<< code) 0

/-- One round of the axis loop of `resync_after_desync`. -/
def resyncAxis (ops : CartInputOps) (resynced : CartInputSource × InputTrace)
    (slot : AxisSlot) : CartInputSource × InputTrace :=
  let (source, trace) := resynced
  if !source.axisValid slot then (source, trace)
  else
    match ops.ioctlAbs trace source.fd (AXIS_CODES slot) with
    | some info =>
      ({ source with lastRaw := Function.update source.lastRaw slot info.value },
        .ioctl source.fd :: trace)
    | none => (source, .ioctl source.fd :: trace)

def resyncAfterDesync (ops : CartInputOps) (source : CartInputSource) (trace : InputTrace) :
    CartInputSource × InputTrace :=
  let got := ops.ioctlKeyState trace source.fd
  let trace := .ioctl source.fd :: trace
  let source :=
    match got with
    | some state => { source with heldKeys := mergeKeyState state }
    | none => source
  (List.finRange 8).foldl (resyncAxis ops) (source, trace)

def consumeEvent (ops : CartInputOps) (engine : InputEngine) (index : SourceIndex)
    (event : InputEvent) : InputEngine :=
  let source := engine.source index
  let engine := engine.record [.consumed source.fd event]
  if event.type = EV_SYN then
    if event.code = SYN_DROPPED ∧ source.state = .connected then
      engine.setSource index { source with state := .desync }
    else if event.code = SYN_REPORT ∧ source.state = .desync then
      let (source, trace) := resyncAfterDesync ops source engine.trace
      { engine with trace }.setSource index { source with state := .connected }
    else engine
  else if event.type = EV_KEY then
    if source.state = .connected then processKeyEvent engine index event.code event.value
    else engine
  else if event.type = EV_ABS then
    match axisSlot event.code.toNat with
    | some slot =>
      if source.state = .connected then
        engine.setSource index
          { source with lastRaw := Function.update source.lastRaw slot event.value }
      else engine
    | none => engine
  else engine

/-- The inner loop of `pump_source`; the buffer's length bounds its rounds. -/
def drainRecords (abi : Abi) (ops : CartInputOps) (index : SourceIndex) :
    Nat → InputEngine → InputEngine
  | 0, engine => engine
  | rounds + 1, engine =>
    let buffer := engine.buffer index
    if inputEventSize abi ≤ buffer.length then
      let event := InputEvent.ofBytes abi (buffer.take (inputEventSize abi))
      let engine := engine.setBuffer index (buffer.drop (inputEventSize abi))
      drainRecords abi ops index rounds (consumeEvent ops engine index event)
    else engine

/-- `pump_source`, and whether it returned. -/
def pumpSource (abi : Abi) (ops : CartInputOps) (index : SourceIndex) :
    Nat → InputEngine → InputEngine × Bool
  | 0, engine => (engine, false)
  | fuel + 1, engine =>
    let engine := drainRecords abi ops index (engine.buffer index).length engine
    let fd := (engine.source index).fd
    let result := readFd ops fd (PARTIAL_CAP - (engine.buffer index).length) engine.trace
    let engine := engine.record [.read fd result]
    match result with
    | .got [] => (handleDisconnect engine index, true)
    | .got bytes =>
      pumpSource abi ops index fuel (engine.setBuffer index (engine.buffer index ++ bytes))
    | .interrupted => pumpSource abi ops index fuel engine
    | .again => (engine, true)
    | .failed => (handleDisconnect engine index, true)

/-- The source loop of `cart_input_poll`, and whether it ended. -/
def pollSources (abi : Abi) (ops : CartInputOps) (fuel : Nat) :
    List SourceIndex → InputEngine → InputEngine × Bool
  | [], engine => (engine, true)
  | index :: indices, engine =>
    if (engine.source index).fd < 0 then pollSources abi ops fuel indices engine
    -- "swallow until SYN_REPORT arrives": a source in this state is not read
    else if (engine.source index).state = .desync then pollSources abi ops fuel indices engine
    else
      let (engine, returned) := pumpSource abi ops index fuel engine
      if returned then pollSources abi ops fuel indices engine else (engine, false)

/-- `cart_input_poll`: the action it returns, or `none` while it has not returned. The
frame that `build_frame` makes of the engine afterwards changes nothing in it. -/
def cartInputPoll (abi : Abi) (ops : CartInputOps) (fuel : Nat) (engine : InputEngine) :
    InputEngine × Option CartInputAction :=
  let (engine, returned) := pollSources abi ops fuel (List.finRange 4) engine
  if returned then
    match engine.input.pending with
    | [] => (engine, some .none)
    | action :: rest => (engine.setPending rest, some action)
  else (engine, none)

/-! ## Runs -/

/-- A call of the interface, with what its discovery finds or the fuel of its poll. -/
inductive InputCall where
  | init (listing : DirListing)
  | poll (fuel : Nat)
  | rescan (listing : DirListing)
  | shutdown
  deriving DecidableEq, Repr

def InputEngine.call (abi : Abi) (ops : CartInputOps) (engine : InputEngine) :
    InputCall → InputEngine × Bool
  | .init listing => ((cartInputInitEx ops listing engine.trace).2, true)
  | .poll fuel =>
    let (engine, action) := cartInputPoll abi ops fuel engine
    (engine, action.isSome)
  | .rescan listing => ((cartInputRescan ops listing engine).2, true)
  | .shutdown => (cartInputShutdown engine, true)

/-- The engine after some calls. A call that does not return is the last. -/
def InputEngine.run (abi : Abi) (ops : CartInputOps) (engine : InputEngine) :
    List InputCall → InputEngine
  | [] => engine
  | call :: calls =>
    let (engine, returned) := engine.call abi ops call
    if returned then engine.run abi ops calls else engine

theorem InputEngine.run_invariant (abi : Abi) (ops : CartInputOps) (P : InputEngine → Prop)
    (allowed : InputCall → Prop)
    (step : ∀ engine call, allowed call → P engine → P (engine.call abi ops call).1)
    {engine : InputEngine} (start : P engine) {calls : List InputCall}
    (h : ∀ call ∈ calls, allowed call) : P (engine.run abi ops calls) := by
  induction calls generalizing engine with
  | nil => exact start
  | cons call calls ih =>
    have next := step engine call (h call List.mem_cons_self) start
    simp only [InputEngine.run]
    split
    · exact ih next fun other mem => h other (List.mem_cons_of_mem _ mem)
    · exact next

end VitaLinux.Cart
