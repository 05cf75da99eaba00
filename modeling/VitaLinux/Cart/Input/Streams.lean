import VitaLinux.Base.Framing
import VitaLinux.Cart.Input.Calls

/-!
# Devices that send a stream

A device sends a fixed stream of bytes; a schedule decides how much of it each
read returns. What its ioctls answer depends on how many of its records the
engine has consumed.
-/

namespace VitaLinux.Cart

open Base

inductive StreamEnd where
  | endOfFile
  | readError
  deriving DecidableEq, Repr

structure DeviceStream where
  bytes : List UInt8
  /-- What follows the last byte, if anything does. -/
  ends : Option StreamEnd
  keyState : Nat → Option (Nat → UInt8)
  abs : Nat → Nat → Option AbsInfo

/-- What each read of a descriptor is to return: `none` is EAGAIN, `some n` at most
`n + 1` of the next bytes, or the end. -/
abbrev ReadSchedule := Int → Nat → Option Nat

/-! ## What a trace says about one source -/

def InputStep.reads (fd : Int) : InputStep → Nat
  | .read other _ => if other = fd then 1 else 0
  | _ => 0

def InputStep.received (fd : Int) : InputStep → Nat
  | .read other (.got bytes) => if other = fd then bytes.length else 0
  | _ => 0

def InputStep.consumes (fd : Int) : InputStep → Nat
  | .consumed other _ => if other = fd then 1 else 0
  | _ => 0

def InputStep.emits (index : SourceIndex) : InputStep → Option CartInputAction
  | .emitted other action => if other = index then some action else none
  | _ => none

/-- What the steps of a trace add up to. -/
def tally (weight : InputStep → Nat) : InputTrace → Nat
  | [] => 0
  | step :: trace => weight step + tally weight trace

/-- How often a descriptor was read. -/
def readsOf (fd : Int) (trace : InputTrace) : Nat := tally (·.reads fd) trace

/-- How many bytes its reads returned. -/
def bytesReceived (fd : Int) (trace : InputTrace) : Nat := tally (·.received fd) trace

/-- How many of its records were consumed. -/
def recordsConsumed (fd : Int) (trace : InputTrace) : Nat := tally (·.consumes fd) trace

/-- The actions that a source's events emitted, in order. -/
def emittedBy (index : SourceIndex) (trace : InputTrace) : List CartInputAction :=
  (trace.filterMap (·.emits index)).reverse

/-- What a trace says about one source. -/
structure SourceRecord where
  reads : Nat
  received : Nat
  consumed : Nat
  emitted : List CartInputAction
  deriving DecidableEq

def recordOf (index : SourceIndex) (fd : Int) (trace : InputTrace) : SourceRecord :=
  ⟨readsOf fd trace, bytesReceived fd trace, recordsConsumed fd trace, emittedBy index trace⟩

theorem recordOf_cons (index : SourceIndex) (fd : Int) (step : InputStep) (trace : InputTrace) :
    recordOf index fd (step :: trace) =
      { reads := step.reads fd + (recordOf index fd trace).reads
        received := step.received fd + (recordOf index fd trace).received
        consumed := step.consumes fd + (recordOf index fd trace).consumed
        emitted := (recordOf index fd trace).emitted ++ (step.emits index).toList } := by
  cases emits : step.emits index <;>
    simp [recordOf, readsOf, bytesReceived, recordsConsumed, tally, emittedBy, emits]

/-- Steps that serve another source say nothing about this one. -/
theorem recordOf_serves {index other : SourceIndex} {fd otherFd : Int} (different : index ≠ other)
    (apart : fd ≠ otherFd) {steps : InputTrace}
    (serves : ∀ step ∈ steps, step.Serves other otherFd) (trace : InputTrace) :
    recordOf index fd (steps ++ trace) = recordOf index fd trace := by
  have otherwise (fd' : Int) (e : fd' = otherFd) : fd' ≠ fd := by
    rintro rfl
    exact apart e
  induction steps with
  | nil => rfl
  | cons step steps ih =>
    have this := serves step List.mem_cons_self
    rw [List.cons_append, recordOf_cons,
      ih fun earlier mem => serves earlier (List.mem_cons_of_mem _ mem)]
    cases step with
    | opened node fd' => exact this.elim
    | closed fd' => exact this.elim
    | read fd' result =>
      have quiet := otherwise fd' this
      cases result <;> simp [InputStep.reads, InputStep.received, InputStep.consumes,
        InputStep.emits, quiet]
    | ioctl fd' =>
      simp [InputStep.reads, InputStep.received, InputStep.consumes, InputStep.emits]
    | consumed fd' event =>
      have quiet := otherwise fd' this
      simp [InputStep.reads, InputStep.received, InputStep.consumes, InputStep.emits, quiet]
    | emitted source action =>
      have quiet : source ≠ index := by
        rintro rfl
        exact different this
      simp [InputStep.reads, InputStep.received, InputStep.consumes, InputStep.emits, quiet]

theorem recordOf_asked (index : SourceIndex) (fd : Int) {otherFd : Int} {trace trace' : InputTrace}
    (h : Asked otherFd trace trace') : recordOf index fd trace' = recordOf index fd trace := by
  obtain ⟨n, rfl⟩ := h
  induction n with
  | zero => rfl
  | succ n ih =>
    rw [List.replicate_succ, List.cons_append, recordOf_cons, ih]
    simp [InputStep.reads, InputStep.received, InputStep.consumes, InputStep.emits]

/-! ## The ops table of a set of devices -/

/-- Devices on their descriptors, read by a schedule. -/
def streamOps (stream : Int → DeviceStream) (next : ReadSchedule) : CartInputOps where
  openNode := fun _ _ => -1
  read := fun trace fd count =>
    match next fd (readsOf fd trace) with
    | none => .again
    | some more =>
      if bytesReceived fd trace < (stream fd).bytes.length then
        .got (((stream fd).bytes.drop (bytesReceived fd trace)).take (min (more + 1) count))
      else
        match (stream fd).ends with
        | none => .again
        | some .endOfFile => .got []
        | some .readError => .failed
  ioctlName := fun _ _ => (-1, "")
  ioctlKeyState := fun trace fd => (stream fd).keyState (recordsConsumed fd trace)
  ioctlBit := fun _ _ _ => none
  ioctlAbs := fun trace fd code => (stream fd).abs (recordsConsumed fd trace) code

/-- The bytes of a stream and the end that follows them. -/
def DeviceStream.total (stream : DeviceStream) : Nat :=
  stream.bytes.length + if stream.ends.isSome then 1 else 0

/-- How much of a stream the first reads deliver. A read asks for what the 256-byte
buffer has room for beside the part of a record it holds. -/
def DeviceStream.sent (abi : Abi) (stream : DeviceStream) (next : Nat → Option Nat) : Nat → Nat
  | 0 => 0
  | reads + 1 =>
    let sent := stream.sent abi next reads
    match next reads with
    | none => sent
    | some more =>
      if sent < stream.bytes.length then
        sent + min (min (more + 1) (PARTIAL_CAP - sent % inputEventSize abi))
          (stream.bytes.length - sent)
      else stream.total

/-- The events in the complete records of a stream. -/
def eventsIn (abi : Abi) (bytes : List UInt8) : List InputEvent :=
  (records (inputEventSize abi) bytes).map (InputEvent.ofBytes abi)

/-- Whether a SYN_DROPPED is open after an event, given whether one was before. -/
def dropAfter (dropped : Bool) (event : InputEvent) : Bool :=
  if event.type = EV_SYN then
    if event.code = SYN_DROPPED then true
    else if event.code = SYN_REPORT then false
    else dropped
  else dropped

/-- Whether a SYN_DROPPED has had no SYN_REPORT after it. -/
def openDrop (events : List InputEvent) : Bool := events.foldl dropAfter false

/-- Some read before the stream is exhausted finds EAGAIN while the records
delivered so far leave a SYN_DROPPED open. -/
def DeviceStream.Stalls (abi : Abi) (stream : DeviceStream) (next : Nat → Option Nat) : Prop :=
  ∃ k, next k = none ∧ stream.sent abi next k < stream.total ∧
    openDrop (eventsIn abi (stream.bytes.take (stream.sent abi next k))) = true

/-- Before the stream is exhausted only finitely many reads find EAGAIN. -/
def DeviceStream.Fair (abi : Abi) (stream : DeviceStream) (next : Nat → Option Nat) : Prop :=
  ∃ bound, ∀ k, bound ≤ k → stream.sent abi next k < stream.total → next k ≠ none

theorem inputEventSize_pos (abi : Abi) : 0 < inputEventSize abi := by
  cases abi <;> decide

theorem inputEventSize_lt (abi : Abi) : inputEventSize abi < PARTIAL_CAP := by
  cases abi <;> decide

section Sent

variable {abi : Abi} {stream : DeviceStream} {next : Nat → Option Nat}

theorem DeviceStream.sent_le_total (reads : Nat) : stream.sent abi next reads ≤ stream.total := by
  induction reads with
  | zero => exact Nat.zero_le _
  | succ reads ih =>
    simp only [DeviceStream.sent]
    split
    · exact ih
    · split
      · simp only [DeviceStream.total]
        omega
      · exact le_rfl

theorem DeviceStream.sent_mono_succ (reads : Nat) :
    stream.sent abi next reads ≤ stream.sent abi next (reads + 1) := by
  have bounded : stream.sent abi next reads ≤ stream.total := stream.sent_le_total reads
  simp only [DeviceStream.sent]
  split
  · exact le_rfl
  · split
    · omega
    · exact bounded

theorem DeviceStream.sent_mono : Monotone (stream.sent abi next) :=
  monotone_nat_of_le_succ stream.sent_mono_succ

end Sent

/-! ## What consuming events makes of a source -/

/-- The lastRaw of a slot after a resynchronisation. -/
def CartInputSource.refreshed (source : CartInputSource) (abs : Nat → Option AbsInfo)
    (slot : AxisSlot) : Int32 :=
  if source.axisValid slot then
    match abs (AXIS_CODES slot) with
    | some info => info.value
    | none => source.lastRaw slot
  else source.lastRaw slot

/-- The source after a resynchronisation with these answers. -/
def CartInputSource.resynced (source : CartInputSource) (keyState : Option (Nat → UInt8))
    (abs : Nat → Option AbsInfo) : CartInputSource :=
  { source with
    heldKeys :=
      match keyState with
      | some state => mergeKeyState state
      | none => source.heldKeys
    lastRaw := source.refreshed abs }

/-- A source with the number of its records consumed and the actions they emitted. -/
structure SourceView where
  source : CartInputSource
  consumed : Nat
  emitted : List CartInputAction

/-- What the next event of its stream makes of a source. -/
def SourceView.consume (stream : DeviceStream) (view : SourceView) (event : InputEvent) :
    SourceView :=
  let position := view.consumed + 1
  let view := { view with consumed := position }
  if event.type = EV_SYN then
    if event.code = SYN_DROPPED ∧ view.source.state = .connected then
      { view with source := { view.source with state := .desync } }
    else if event.code = SYN_REPORT ∧ view.source.state = .desync then
      { view with source :=
          { view.source.resynced (stream.keyState position) (stream.abs position) with
            state := .connected } }
    else view
  else if event.type = EV_KEY then
    if view.source.state = .connected then
      let action := emittedAction event.code event.value
      { view with
        source := view.source.holdKey event.code event.value
        emitted := view.emitted ++ if action = .none then [] else [action] }
    else view
  else if event.type = EV_ABS then
    match axisSlot event.code.toNat with
    | some slot =>
      if view.source.state = .connected then
        { view with source := { view.source with
            lastRaw := Function.update view.source.lastRaw slot event.value } }
      else view
    | none => view
  else view

def SourceView.consumeAll (stream : DeviceStream) (view : SourceView)
    (events : List InputEvent) : SourceView :=
  events.foldl (SourceView.consume stream) view

/-- The engine as one source sees it. -/
def InputEngine.view (engine : InputEngine) (index : SourceIndex) : SourceView :=
  { source := engine.source index
    consumed := recordsConsumed (engine.source index).fd engine.trace
    emitted := emittedBy index engine.trace }

theorem resyncAxis_eq {ops : CartInputOps} {source : CartInputSource} {trace : InputTrace}
    {abs : Nat → Option AbsInfo} (slot : AxisSlot)
    (answer : ops.ioctlAbs trace source.fd (AXIS_CODES slot) = abs (AXIS_CODES slot)) :
    (resyncAxis ops (source, trace) slot).1 =
      { source with
        lastRaw := Function.update source.lastRaw slot (source.refreshed abs slot) } := by
  simp only [resyncAxis, CartInputSource.refreshed, answer]
  cases source.axisValid slot with
  | false => simp
  | true => cases abs (AXIS_CODES slot) <;> simp

/-- The axis loop refreshes the slots it passes. -/
theorem resyncAxes_eq {ops : CartInputOps} {fd : Int} {abs : Nat → Option AbsInfo}
    (slots : List AxisSlot) :
    ∀ (source : CartInputSource) (trace : InputTrace), source.fd = fd →
      (∀ trace', Asked fd trace trace' → ∀ code, ops.ioctlAbs trace' fd code = abs code) →
      (slots.foldl (resyncAxis ops) (source, trace)).1 =
        { source with lastRaw := fun slot =>
            if slot ∈ slots then source.refreshed abs slot else source.lastRaw slot } := by
  induction slots with
  | nil =>
    intro source trace same answers
    simp
  | cons first slots ih =>
    rintro source trace rfl answers
    have first_eq := resyncAxis_eq first (answers trace (.refl _ _) (AXIS_CODES first))
    obtain ⟨same, asked⟩ := resyncAxis_keeps ops source trace first
    rw [List.foldl_cons, ih (resyncAxis ops (source, trace) first).1
      (resyncAxis ops (source, trace) first).2 (by rw [first_eq])
      (fun trace' later => answers trace' (asked.trans later)), first_eq]
    congr 1
    funext slot
    by_cases here : slot = first
    · subst here
      by_cases again : slot ∈ slots
      · simp [again, CartInputSource.refreshed]
        cases source.axisValid slot <;> cases abs (AXIS_CODES slot) <;> simp
      · simp [again]
    · by_cases later : slot ∈ slots
      · simp [here, later, CartInputSource.refreshed]
      · simp [here, later]

theorem resyncAfterDesync_eq {ops : CartInputOps} {source : CartInputSource} {trace : InputTrace}
    {keyState : Option (Nat → UInt8)} {abs : Nat → Option AbsInfo}
    (keys : ops.ioctlKeyState trace source.fd = keyState)
    (answers : ∀ trace', Asked source.fd trace trace' →
      ∀ code, ops.ioctlAbs trace' source.fd code = abs code) :
    (resyncAfterDesync ops source trace).1 = source.resynced keyState abs := by
  have asked := (Asked.refl source.fd trace).ioctl
  have later : ∀ trace', Asked source.fd (.ioctl source.fd :: trace) trace' →
      ∀ code, ops.ioctlAbs trace' source.fd code = abs code :=
    fun trace' more => answers trace' (asked.trans more)
  simp only [resyncAfterDesync, keys]
  cases keyState with
  | none =>
    rw [resyncAxes_eq (List.finRange 8) source _ rfl later]
    simp [CartInputSource.resynced]
  | some state =>
    rw [resyncAxes_eq (List.finRange 8) { source with heldKeys := mergeKeyState state } _ rfl
      later]
    simp [CartInputSource.resynced]
    rfl

end VitaLinux.Cart
