import Mathlib.Data.List.Infix
import Mathlib.Data.List.Nodup
import Mathlib.Data.List.Perm.Subperm
import Mathlib.Data.Rat.Defs
import VitaLinux.Base.Programs

/-!
# What the deployment tools ask of the outside

`hardware-gate.py` and `deploy-payload.py` talk to the device through `ftplib`, through
plain sockets and through `ssh`. Each such operation is a call; an operation that can
raise replies with the exception.
-/

namespace VitaLinux.Tools

open VitaLinux.Base

abbrev Bytes := List UInt8

/-- The exceptions that the tools tell apart. -/
inductive PyError where
  /-- `ftplib.error_perm` -/
  | errorPerm
  /-- any other exception of an operation -/
  | transport
  | runtimeError
  | assertionError
  deriving DecidableEq, Repr

/-- How an `ssh` process ended: `none` when it could not be run or timed out. -/
structure SshEnd where
  status : Option Int
  stdout : String
  stderr : String
  deriving DecidableEq, Repr

inductive Verdict where
  | pass | fail
  deriving DecidableEq, Repr

inductive Call where
  | connect
  | login
  | cwd (dir : String)
  | pwd
  | retr (name : String)
  | stor (name : String) (data : Bytes)
  | nlst
  | rename (source target : String)
  | close
  /-- the local copy that `preserve` writes and reads back -/
  | keepCopy (data : Bytes)
  /-- `port_open` -/
  | probe (port : Nat)
  /-- `time.time` -/
  | clock
  | sleep
  /-- `send_cmd` -/
  | send (command : String)
  /-- the process of `ssh_run` -/
  | ssh (command : String)
  /-- an evidence file -/
  | record (file : String) (verdict : Verdict)
  /-- a loop that goes on and on -/
  | unfinished
  deriving DecidableEq

abbrev Reply : Call → Type
  | .connect | .login | .cwd _ | .pwd | .stor _ _ | .rename _ _ | .close | .keepCopy _
  | .record _ _ => Except PyError Unit
  | .retr _ => Except PyError Bytes
  | .nlst => Except PyError (List String)
  | .probe _ => Bool
  | .clock => ℚ
  | .sleep => Unit
  | .send _ => Except PyError String
  | .ssh _ => SshEnd
  | .unfinished => Empty

/-- The operations that change files. -/
def Call.writes : Call → Bool
  | .stor _ _ | .rename _ _ => true
  | _ => false

/-- The calls of an upload to `tmp`. -/
def Uploads (tmp : String) (call : Call) : Prop :=
  call.writes = false ∨ ∃ data, call = .stor tmp data

abbrev Script := Prog Call Reply PyError

def ask (call : Call) : Script (Reply call) := Prog.call call

/-- An operation that raises what it replies. -/
def orRaise {α : Type} (operation : Script (Except PyError α)) : Script α := do
  match ← operation with
  | .ok value => return value
  | .error error => throw error

/-- The loop has not ended. -/
def unfinished {α : Type} : Script α := do
  let none ← ask .unfinished
  return none.elim

section uses

variable {C : Call → Prop} {α : Type}

theorem uses_ask {call : Call} (h : C call) : (ask call).Uses C := by
  unfold ask
  exact (Prog.uses_call call).mpr h

theorem uses_orRaise {operation : Script (Except PyError α)} (h : operation.Uses C) :
    (orRaise operation).Uses C := by
  unfold orRaise
  apply h.bind
  intro r
  cases r with
  | ok value => exact Prog.uses_pure _
  | error error => exact Prog.uses_throw _

theorem reads_ask {call : Call} (h : call.writes = false) :
    (ask call).Uses (·.writes = false) := uses_ask h

end uses

def PAYLOAD_NAME : String := "payload.bin"

/-- `"payload.bin.prev-"` -/
def PREV : String := "payload.bin.prev-"

/-- The name of a parked payload, `payload.bin.prev-*`. -/
def Prev (name : String) : Prop := PREV.toList <+: name.toList

instance (name : String) : Decidable (Prev name) := by
  unfold Prev
  infer_instance

theorem payload_not_prev : ¬ Prev PAYLOAD_NAME := by decide

theorem Prev.ne_payload {name : String} (h : Prev name) : name ≠ PAYLOAD_NAME := by
  rintro rfl
  exact payload_not_prev h

def INERT_MARKER : String := "baremetal"

def LIVE_DIR : String := "/ux0:/linux"

/-- `INERT_MARKER in dir` -/
def inert (dir : String) : Bool := decide (INERT_MARKER.toList <:+: dir.toList)

section parking

variable (sha : Bytes → String)

/-- The name under which a payload is parked, before any counter. -/
def parkedStem (current : Bytes) : String := PREV ++ ((sha current).take 12).toString

/-- `while parked in names`, for at most so many rounds. -/
def findParked (names : List String) (stem : String) : Nat → Nat → String → Option String
  | 0, _, _ => none
  | rounds + 1, n, parked =>
    if parked ∈ names then findParked names stem rounds (n + 1) (stem ++ "-" ++ toString n)
    else some parked

/-- The parked name: the stem, or the stem with the first counter from 2 on that is free. More
rounds than there are names are never needed (`parkedName_isSome`). -/
def parkedName (current : Bytes) (names : List String) : Option String :=
  findParked names (parkedStem sha current) (names.length + 1) 2 (parkedStem sha current)

/-- Both tools park the payload under a name that no file has. -/
def park (current : Bytes) : Script String := do
  let names ← orRaise (ask .nlst)
  match parkedName sha current names with
  | none => unfinished
  | some parked =>
    orRaise (ask (.rename PAYLOAD_NAME parked))
    return parked

variable {sha} {names : List String} {stem parked : String}

/-- The candidates of `findParked`: the stem, then the stem with the counters from 2 on. -/
def candidate (stem : String) : Nat → String
  | 0 => stem
  | k + 1 => stem ++ "-" ++ toString (k + 2)

theorem toString_injective {m n : Nat} (h : toString m = toString n) : m = n := by
  have digits : Nat.toDigits 10 m = Nat.toDigits 10 n := by
    rw [← Nat.toList_repr, ← Nat.toList_repr]
    exact congrArg String.toList h
  calc m = Nat.ofDigitChars 10 (Nat.toDigits 10 m) 0 := Nat.ofDigitChars_ten_toDigits.symm
    _ = Nat.ofDigitChars 10 (Nat.toDigits 10 n) 0 := by rw [digits]
    _ = n := Nat.ofDigitChars_ten_toDigits

/-- No two candidates are the same name. -/
theorem candidate_injective (stem : String) : Function.Injective (candidate stem) := by
  have longer : ∀ k, candidate stem (k + 1) ≠ stem := by
    intro k same
    have lengths := congrArg String.length same
    unfold candidate at lengths
    simp only [String.length_append] at lengths
    have dash : "-".length = 1 := rfl
    omega
  intro i j same
  cases i with
  | zero =>
    cases j with
    | zero => rfl
    | succ j => exact absurd same.symm (longer j)
  | succ i =>
    cases j with
    | zero => exact absurd same (longer i)
    | succ j =>
      unfold candidate at same
      rw [String.append_right_inj] at same
      have counters := toString_injective same
      omega

/-- What `findParked` finds is a candidate that is not among the names. -/
theorem findParked_some {rounds k : Nat}
    (found : findParked names stem rounds (k + 2) (candidate stem k) = some parked) :
    parked ∉ names ∧ ∃ i, parked = candidate stem i := by
  induction rounds generalizing k with
  | zero => cases found
  | succ rounds ih =>
    unfold findParked at found
    split at found
    · exact ih found
    · next free =>
      cases found
      exact ⟨free, k, rfl⟩

/-- When it finds none, every candidate that it has tried is among the names. -/
theorem findParked_none {rounds k : Nat}
    (failed : findParked names stem rounds (k + 2) (candidate stem k) = none) (i : Nat)
    (tried : i < rounds) : candidate stem (k + i) ∈ names := by
  induction rounds generalizing k i with
  | zero => exact absurd tried (Nat.not_lt_zero i)
  | succ rounds ih =>
    unfold findParked at failed
    split at failed
    · next taken =>
      cases i with
      | zero => exact taken
      | succ i =>
        have later : candidate stem (k + 1 + i) ∈ names := ih failed i (by omega)
        rwa [Nat.add_right_comm] at later
    · cases failed

/-- The loop that chooses the parked name ends: one of so many different names is free. -/
theorem parkedName_isSome (sha : Bytes → String) (current : Bytes) (names : List String) :
    (parkedName sha current names).isSome = true := by
  cases found : parkedName sha current names with
  | some parked => rfl
  | none =>
    exfalso
    let tried := (List.range (names.length + 1)).map (candidate (parkedStem sha current))
    have distinct : tried.Nodup :=
      List.Nodup.map (candidate_injective _) List.nodup_range
    have taken : tried ⊆ names := by
      intro name member
      obtain ⟨i, bound, rfl⟩ := List.mem_map.mp member
      have first := findParked_none (k := 0) found i (List.mem_range.mp bound)
      rwa [Nat.zero_add] at first
    have length : tried.length = names.length + 1 := by
      rw [List.length_map, List.length_range]
    have bound := (List.Nodup.subperm distinct taken).length_le
    omega

theorem parkedName_ne_none (sha : Bytes → String) (current : Bytes) (names : List String) :
    parkedName sha current names ≠ none :=
  Option.isSome_iff_ne_none.mp (parkedName_isSome sha current names)

/-- The parked name is free, and it is a name of a parked payload. -/
theorem parkedName_some {current : Bytes}
    (found : parkedName sha current names = some parked) :
    parked ∉ names ∧ Prev parked := by
  obtain ⟨free, i, rfl⟩ := findParked_some (k := 0) found
  refine ⟨free, ?_⟩
  unfold Prev
  cases i with
  | zero => simp [candidate, parkedStem]
  | succ i => simp [candidate, parkedStem, List.append_assoc]

end parking

end VitaLinux.Tools
