import Mathlib.Data.List.DropRight
import Mathlib.Data.List.TakeWhile
import VitaLinux.Base.Decimal
import VitaLinux.Cart.Input.Source

/-!
# toolkit/examples/vita-dashboard/src/input.c

What a file holds when it is read, which nodes open, and what poll(2) and read(2) return come
from outside. A node that has given all its reads has nothing more for now.
-/

namespace VitaLinux.Toolkit.Dashboard

open VitaLinux.Base
open VitaLinux.Cart (InputEvent ReadResult EV_KEY inputEventSize)

/-- The bytes of a string literal. -/
def chars (text : String) : List UInt8 := text.toList.map fun c => UInt8.ofNat c.toNat

/-- A C string is what stands before the first NUL. -/
def cString (bytes : List UInt8) : List UInt8 := bytes.takeWhile (· ≠ 0)

def INPUT_TEXT : Nat := 256

inductive DashboardAction where
  | none
  | next
  | exit
  deriving DecidableEq, Repr

/-- `struct dashboard_input`; `fd` is `none` for -1. -/
structure DashboardInput (abi : Abi) where
  fd : Option Nat
  number : Nat
  name : List UInt8
  phys : List UInt8
  path : List UInt8
  /-- `unsigned long`, which is as wide as `size_t` -/
  eventsSeen : SizeT abi
  malformed : SizeT abi
  deriving DecidableEq, Repr

/-- The files of a machine: what the one read of a path returns, and the descriptor a node
opens as. -/
structure InputFiles where
  read : List UInt8 → Option (List UInt8)
  node : List UInt8 → Option Nat

/-- `snprintf` into a buffer of this size. -/
def printed (size : Nat) (text : List UInt8) : List UInt8 := text.take (size - 1)

def sset (cap : Nat) (source : List UInt8) : List UInt8 := source.take (cap - 1)

/-- `read_text`, with the bytes that read(2) returns. -/
def readText (content : Option (List UInt8)) (cap : Nat) : Option (List UInt8) :=
  match content with
  | none => none
  | some bytes =>
    let kept := (bytes.take (cap - 1)).rdropWhile fun c => c = 10 ∨ c = 13
    if kept = [] then none else some (cString kept)

namespace DashboardInput

variable {abi : Abi}

/-- What `input_open` sets before it looks for the device. -/
def closed (abi : Abi) : DashboardInput abi :=
  { fd := none, number := 0, name := [], phys := [], path := [], eventsSeen := 0, malformed := 0 }

/-- The file of an event's device. -/
def deviceFile (sysroot : List UInt8) (number : Nat) (file : String) : List UInt8 :=
  printed INPUT_TEXT
    (sysroot ++ chars "/sys/class/input/event" ++ decimal number ++ chars "/device/" ++ chars file)

/-- The loop of `input_open`, from this number on. -/
def search (files : InputFiles) (sysroot devroot wantedPhys : List UInt8) :
    List Nat → Option (DashboardInput abi)
  | [] => none
  | number :: numbers =>
    match readText (files.read (deviceFile sysroot number "phys")) INPUT_TEXT with
    | none => search files sysroot devroot wantedPhys numbers
    | some phys =>
      -- Identity match is exact; a partial match is not good enough.
      if phys ≠ wantedPhys then search files sysroot devroot wantedPhys numbers
      else
        let nodePath := printed INPUT_TEXT (devroot ++ chars "/event" ++ decimal number)
        match files.node nodePath with
        | none => search files sysroot devroot wantedPhys numbers
        | some fd =>
          some
            { closed abi with
              fd := some fd, number, phys := sset INPUT_TEXT phys
              path := sset INPUT_TEXT nodePath
              name :=
                match readText (files.read (deviceFile sysroot number "name")) INPUT_TEXT with
                | some name => name
                | none => sset INPUT_TEXT (chars "UNKNOWN") }

/-- `input_open`; `none` is a status of -1. -/
def inputOpen (files : InputFiles) (sysroot devroot wantedPhys : List UInt8) :
    Option (DashboardInput abi) :=
  if wantedPhys = [] then none else search files sysroot devroot wantedPhys (List.range 128)

end DashboardInput

/-! ## Codes of linux/input-event-codes.h -/

def BTN_B : BitVec 16 := 0x131
def KEY_ESC : BitVec 16 := 1
def KEY_Q : BitVec 16 := 16
def BTN_A : BitVec 16 := 0x130
def KEY_DOWN : BitVec 16 := 108
def KEY_SPACE : BitVec 16 := 57
def KEY_ENTER : BitVec 16 := 28
def KEY_TAB : BitVec 16 := 15

def actionFor (code : BitVec 16) : DashboardAction :=
  if code = BTN_B ∨ code = KEY_ESC ∨ code = KEY_Q then .exit
  else if code = BTN_A ∨ code = KEY_DOWN ∨ code = KEY_SPACE ∨ code = KEY_ENTER ∨
      code = KEY_TAB then .next
  else .none

/-- What an event asks for. Releases are ignored. -/
def InputEvent.action (event : InputEvent) : DashboardAction :=
  if event.type = EV_KEY ∧ (event.value = 1 ∨ event.value = 2) then actionFor event.code
  else .none

/-- What poll(2) returns. -/
inductive PollResult where
  | interrupted
  | failed
  | timeout
  /-- Something happened on the descriptor; it is readable or not. -/
  | ready (readable : Bool)
  deriving DecidableEq, Repr

structure PollIo where
  poll : PollResult
  reads : List ReadResult
  deriving DecidableEq, Repr

namespace DashboardInput

variable {abi : Abi}

/-- The drain of `input_poll`: the last actionable key wins. -/
def drain (input : DashboardInput abi) (action : DashboardAction) :
    List ReadResult → DashboardInput abi × DashboardAction
  | .got bytes :: reads =>
    if bytes = [] then (input, action)
    else if bytes.length ≠ inputEventSize abi then
      ({ input with malformed := input.malformed + 1 }, action)
    else
      let mapped := InputEvent.action (InputEvent.ofBytes abi bytes)
      drain { input with eventsSeen := input.eventsSeen + 1 }
        (if mapped ≠ .none then mapped else action) reads
  | _ => (input, action)

/-- `input_poll`: the status and the action. -/
def poll (input : DashboardInput abi) (io : PollIo) :
    DashboardInput abi × Int × DashboardAction :=
  if input.fd = none then (input, -1, .none)
  else
    match io.poll with
    -- The caller's stop flag is already set, and it leaves through the release.
    | .interrupted => (input, 0, .none)
    | .failed => (input, -1, .none)
    | .timeout => (input, 0, .none)
    | .ready readable =>
      if !readable then (input, 0, .none)
      else
        let (input, action) := input.drain .none io.reads
        (input, 0, action)

/-- `input_close` -/
def close (input : DashboardInput abi) : DashboardInput abi := { input with fd := none }

end DashboardInput

end VitaLinux.Toolkit.Dashboard
