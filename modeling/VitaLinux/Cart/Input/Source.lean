import Mathlib.Data.Fin.VecNotation
import Mathlib.Logic.Function.Basic
import VitaLinux.Base.Machine
import VitaLinux.Cart.InputActions

/-!
# cart/include/cart/input.h

The ops table answers as a function of everything that happened before the call,
so every behaviour of the devices behind it is some table. The trace that records
what happened also notes the events consumed and the actions emitted; the C code
keeps no such record.
-/

namespace VitaLinux.Cart

/-- Indices below `CART_INPUT_MAX_SOURCES`. -/
abbrev SourceIndex := Fin 4

/-- Indices below `CART_INPUT_AXIS_COUNT`. -/
abbrev AxisSlot := Fin 8

def CART_INPUT_NODE_MAX : Nat := 32

def CART_INPUT_NAME_MAX : Nat := 128

def CART_INPUT_DEFAULT_DEADZONE_PCT : Int32 := 15

inductive CartInputState where
  | absent
  | connected
  | desync
  deriving DecidableEq, Repr

structure CartInputAxisRange where
  min : Int32
  max : Int32
  deadzonePct : Int32
  deriving DecidableEq, Repr

structure CartInputSource where
  fd : Int
  rank : Int
  state : CartInputState
  generation : U32
  node : String
  name : String
  /-- bitmask over codes 0..63 -/
  heldKeys : U64
  axis : AxisSlot → CartInputAxisRange
  axisValid : AxisSlot → Bool
  lastRaw : AxisSlot → Int32

/-- All fields zero, as `memset` leaves them. -/
def CartInputSource.zero : CartInputSource :=
  { fd := 0, rank := 0, state := .absent, generation := 0, node := "", name := "", heldKeys := 0
    axis := fun _ => ⟨0, 0, 0⟩, axisValid := fun _ => false, lastRaw := fun _ => 0 }

/-- `struct cart_input`: the queue holds `item[0 .. count)`, each partial buffer
`buf[0 .. len)`. -/
structure CartInput where
  source : SourceIndex → CartInputSource
  pending : List CartInputAction
  partials : SourceIndex → List UInt8

/-- `sizeof(pending.item)` -/
def PENDING_CAP : Nat := 8

/-- `sizeof(partial.buf)` -/
def PARTIAL_CAP : Nat := 256

/-! ## Event records -/

/-- `struct input_event` without its time, which nothing reads. -/
structure InputEvent where
  type : BitVec 16
  code : BitVec 16
  value : Int32
  deriving DecidableEq, Repr

def EV_SYN : BitVec 16 := 0
def EV_KEY : BitVec 16 := 1
def EV_ABS : BitVec 16 := 3
def SYN_REPORT : BitVec 16 := 0
def SYN_DROPPED : BitVec 16 := 3

/-- `sizeof(struct input_event)`: two longs of time, then type, code and value. -/
abbrev inputEventSize : Abi → Nat
  | .ilp32 => 16
  | .lp64 => 24

def littleEndian : List UInt8 → Nat
  | [] => 0
  | byte :: bytes => byte.toNat + 256 * littleEndian bytes

/-- The event in the bytes of one record. -/
def InputEvent.ofBytes (abi : Abi) (bytes : List UInt8) : InputEvent :=
  let fields := bytes.drop (inputEventSize abi - 8)
  { type := BitVec.ofNat 16 (littleEndian (fields.take 2))
    code := BitVec.ofNat 16 (littleEndian ((fields.drop 2).take 2))
    value := Int32.ofNat (littleEndian ((fields.drop 4).take 4)) }

/-! ## The ops table -/

/-- What read(2) returns: bytes (none at the end of file) or a failure by `errno`. -/
inductive ReadResult where
  | got (bytes : List UInt8)
  | interrupted
  | again
  | failed
  deriving DecidableEq, Repr

/-- The part of `struct input_absinfo` that the engine uses. -/
structure AbsInfo where
  value : Int32
  minimum : Int32
  maximum : Int32
  flat : Int32
  deriving DecidableEq, Repr

/-- What can happen while the engine runs. -/
inductive InputStep where
  | opened (node : String) (fd : Int)
  | closed (fd : Int)
  | read (fd : Int) (result : ReadResult)
  | ioctl (fd : Int)
  /-- `consume_event` is given a record read from this descriptor. -/
  | consumed (fd : Int) (event : InputEvent)
  /-- A key event of this source offers an action to the queue. -/
  | emitted (index : SourceIndex) (action : CartInputAction)
  deriving DecidableEq, Repr

/-- What happened so far, newest first. -/
abbrev InputTrace := List InputStep

/-- `struct cart_input_ops`. A node is named relative to `dev_input`; a buffer is
given by its bytes at each offset; `none` is a failed ioctl. -/
structure CartInputOps where
  openNode : InputTrace → String → Int
  read : InputTrace → Int → Nat → ReadResult
  /-- The length it returns, and the name it stores. -/
  ioctlName : InputTrace → Int → Int × String
  ioctlKeyState : InputTrace → Int → Option (Nat → UInt8)
  ioctlBit : InputTrace → Int → Nat → Option (Nat → UInt8)
  ioctlAbs : InputTrace → Int → Nat → Option AbsInfo

def bitTest (buffer : Nat → UInt8) (bit : Nat) : Bool :=
  (buffer (bit / 8)).toNat.testBit (bit % 8)

def AXIS_CODES : AxisSlot → Nat := ![0, 1, 3, 4, 2, 5, 16, 17]

def axisSlot (code : Nat) : Option AxisSlot :=
  (List.finRange 8).find? fun slot => AXIS_CODES slot == code

/-- The engine's memory and what happened so far. -/
structure InputEngine where
  input : CartInput
  trace : InputTrace

namespace InputEngine

def source (engine : InputEngine) (index : SourceIndex) : CartInputSource :=
  engine.input.source index

def buffer (engine : InputEngine) (index : SourceIndex) : List UInt8 :=
  engine.input.partials index

def setSource (engine : InputEngine) (index : SourceIndex) (source : CartInputSource) :
    InputEngine :=
  { engine with input := { engine.input with
      source := Function.update engine.input.source index source } }

def setBuffer (engine : InputEngine) (index : SourceIndex) (bytes : List UInt8) : InputEngine :=
  { engine with input := { engine.input with
      partials := Function.update engine.input.partials index bytes } }

def setPending (engine : InputEngine) (pending : List CartInputAction) : InputEngine :=
  { engine with input := { engine.input with pending } }

def record (engine : InputEngine) (trace : InputTrace) : InputEngine :=
  { engine with trace := trace ++ engine.trace }

section Access

variable (engine : InputEngine) (index other : SourceIndex) (source : CartInputSource)
  (bytes : List UInt8) (pending : List CartInputAction) (trace : InputTrace)

@[simp] theorem source_setSource_self :
    (engine.setSource index source).source index = source :=
  Function.update_self ..

@[simp] theorem source_setBuffer : (engine.setBuffer index bytes).source = engine.source := rfl

@[simp] theorem source_setPending : (engine.setPending pending).source = engine.source := rfl

@[simp] theorem source_record : (engine.record trace).source = engine.source := rfl

@[simp] theorem buffer_setSource : (engine.setSource index source).buffer = engine.buffer := rfl

@[simp] theorem buffer_setBuffer_self : (engine.setBuffer index bytes).buffer index = bytes :=
  Function.update_self ..

@[simp] theorem buffer_setPending : (engine.setPending pending).buffer = engine.buffer := rfl

@[simp] theorem buffer_record : (engine.record trace).buffer = engine.buffer := rfl

@[simp] theorem trace_setSource : (engine.setSource index source).trace = engine.trace := rfl

@[simp] theorem trace_setBuffer : (engine.setBuffer index bytes).trace = engine.trace := rfl

@[simp] theorem trace_setPending : (engine.setPending pending).trace = engine.trace := rfl

@[simp] theorem trace_record : (engine.record trace).trace = trace ++ engine.trace := rfl

variable {index other}

@[simp] theorem source_setSource_of_ne (h : other ≠ index) :
    (engine.setSource index source).source other = engine.source other :=
  Function.update_of_ne h ..

@[simp] theorem buffer_setBuffer_of_ne (h : other ≠ index) :
    (engine.setBuffer index bytes).buffer other = engine.buffer other :=
  Function.update_of_ne h ..

end Access

end InputEngine

end VitaLinux.Cart
