import VitaLinux.Tools.Calls

/-!
# The hardware gate

`hardware-gate.py`: deploy the payload over FTP, launch it once, wait for the loader and for
Linux, and record a verdict.
-/

namespace VitaLinux.Tools

open VitaLinux.Base

def FTP_PORT : Nat := 1337
def CMD_PORT : Nat := 1338
def SSH_PORT : Nat := 22

variable (sha : Bytes → String)

def ftpConnect : Script Unit := do
  orRaise (ask .connect)
  orRaise (ask .login)

def ftpRead (name : String) : Script Bytes := orRaise (ask (.retr name))

/-- One round of `ftp_put_verified`. -/
def putOnce (data : Bytes) (remote : String) : Script String := do
  orRaise (ask (.stor remote data))
  let back ← ftpRead remote
  if sha back ≠ sha data then throw .runtimeError
  else return sha data

/-- What `ftp_put_verified` does between two rounds. -/
def reconnect : Script Unit := do
  tryCatch (orRaise (ask .close)) fun _ => return ()
  ftpConnect
  orRaise (ask (.cwd LIVE_DIR))
  ask .sleep

/-- `ftp_put_verified`, for so many attempts. -/
def ftpPutVerified (data : Bytes) (remote : String) : Nat → Script String
  | 0 => throw .runtimeError
  | left + 1 =>
    tryCatch (putOnce sha data remote) fun _ => do
      if left = 0 then throw .runtimeError
      else
        reconnect
        ftpPutVerified data remote left

/-- What `park_and_deploy` records. -/
structure DeployInfo where
  previous_sha256 : Option String
  previous_bytes : Nat
  parked_as : Option String
  deployed_sha256 : String
  deployed_bytes : Nat

/-- The payload on the device, empty if there is none. -/
def readCurrent : Script Bytes :=
  tryCatch (ftpRead PAYLOAD_NAME) fun error =>
    if error = .errorPerm then return [] else throw error

/-- `if current:` -/
def parkCurrent (current : Bytes) : Script (Option String) := do
  if current = [] then return none
  else
    let parked ← park sha current
    return some parked

/-- `PAYLOAD_NAME + ".gate"` -/
def GATE_TMP : String := PAYLOAD_NAME ++ ".gate"

def parkAndDeploy (data : Bytes) : Script DeployInfo := do
  let current ← readCurrent
  let new_sha ← ftpPutVerified sha data GATE_TMP 3
  let parked_as ← parkCurrent sha current
  orRaise (ask (.rename GATE_TMP PAYLOAD_NAME))
  let back ← ftpRead PAYLOAD_NAME
  if sha back ≠ new_sha then throw .runtimeError
  else return {
    previous_sha256 := if current = [] then none else some (sha current)
    previous_bytes := current.length
    parked_as
    deployed_sha256 := new_sha
    deployed_bytes := back.length }

/-- `not port_open(host, FTP_PORT) and not port_open(host, CMD_PORT)` -/
def bothClosed : Script Bool := do
  if ← ask (.probe FTP_PORT) then return false
  else
    let command ← ask (.probe CMD_PORT)
    return !command

/-- `port_open(host, FTP_PORT) and port_open(host, CMD_PORT)` -/
def inVitaOS : Script Bool := do
  if ← ask (.probe FTP_PORT) then ask (.probe CMD_PORT) else return false

/-- `wait_for_takeover`'s loop, for at most so many rounds: whether both ports closed. -/
def takeoverLoop (start timeout : ℚ) : Nat → Script Bool
  | 0 => unfinished
  | rounds + 1 => do
    let now ← ask .clock
    if now - start < timeout then
      if ← bothClosed then
        let _ ← ask .clock
        return true
      else
        ask .sleep
        takeoverLoop start timeout rounds
    else
      let _ ← ask .clock
      return false

def waitForTakeover (timeout : ℚ) (rounds : Nat) : Script Bool := do
  let start ← ask .clock
  takeoverLoop start timeout rounds

/-- `wait_for_ssh`'s loop, for at most so many rounds: whether Linux is up. -/
def sshLoop (start timeout : ℚ) : Nat → Script Bool
  | 0 => unfinished
  | rounds + 1 => do
    let now ← ask .clock
    if now - start < timeout then
      if ← ask (.probe SSH_PORT) then
        let _ ← ask .clock
        return true
      else if ← ask (.probe FTP_PORT) then
        let _ ← ask .clock
        return false
      else
        ask .sleep
        sshLoop start timeout rounds
    else
      let _ ← ask .clock
      return false

def waitForSsh (timeout : ℚ) (rounds : Nat) : Script Bool := do
  let start ← ask .clock
  sshLoop start timeout rounds

/-- `"<ssh failed: …>"`, or what the process printed; its exit status is not looked at. -/
def sshRun (command : String) : Script String := do
  let r ← ask (.ssh command)
  match r.status with
  | none => return "<ssh failed>"
  | some _ => return r.stdout ++ (if r.stderr = "" then "" else "\n" ++ r.stderr)

def BOOT_REPORT : String :=
  "uname -srm; nproc; free -m | head -2; df -h / | tail -1; ip -br a | head -5; uptime"

/-- A local file, if it exists. -/
abbrev LocalFile := Option Bytes

structure GateArgs where
  payload : LocalFile
  zimage : Option LocalFile
  /-- the name of the file and the file -/
  dtb : Option (String × LocalFile)
  timeout : Int
  dry_run : Bool

/-- The payload, the kernel and the device tree to push, once all of them are found. -/
structure GateInputs where
  payload : Bytes
  zimage : Option Bytes
  dtb : Option (String × Bytes)

/-- `none` when a given file does not exist. -/
def GateArgs.inputs (args : GateArgs) : Option GateInputs := do
  let payload ← args.payload
  let zimage ← args.zimage.elim (some none) fun file => some <$> file
  let dtb ← args.dtb.elim (some none) fun (name, file) => (fun data => some (name, data)) <$> file
  return { payload, zimage, dtb }

/-- An extra file is uploaded under its name, if there is one. -/
def push : Option (String × Bytes) → Script Unit
  | none => return ()
  | some (name, data) => do
    let _ ← ftpPutVerified sha data name 3

/-- Lines 323 to 337 of `main`. -/
def gateDeploy (inputs : GateInputs) : Script DeployInfo := do
  ftpConnect
  orRaise (ask (.cwd LIVE_DIR))
  push sha (inputs.zimage.map fun data => ("zImage", data))
  push sha inputs.dtb
  let info ← parkAndDeploy sha inputs.payload
  orRaise (ask .close)
  return info

/-- Lines 341 to 345 of `main`. -/
def gateLaunch : Script Unit := do
  let _ ← orRaise (ask (.send "destroy"))
  ask .sleep
  let _ ← orRaise (ask (.send "launch PLGINLDR0"))

/-- Lines 350 to 377 of `main`. -/
def gateWait (timeout : Int) (rounds : Nat) : Script Verdict := do
  if ← waitForTakeover 60 rounds then
    if ← waitForSsh timeout rounds then
      let _ ← sshRun BOOT_REPORT
      return .pass
    else return .fail
  else throw .runtimeError

/-- The `try` block of `main`. -/
def gateBody (inputs : GateInputs) (timeout : Int) (rounds : Nat) : Script Verdict := do
  let _ ← gateDeploy sha inputs
  gateLaunch
  gateWait timeout rounds

/-- `main`, with its exit status; `rounds` bounds the polling loops. -/
def gateMain (args : GateArgs) (rounds : Nat) : Script Nat := do
  match args.inputs with
  | none => return 2
  | some inputs =>
    if args.dry_run then return 0
    else
      if ← inVitaOS then
        let verdict ← tryCatch (gateBody sha inputs args.timeout rounds) fun _ => return .fail
        orRaise (ask (.record "manifest.json" verdict))
        orRaise (ask (.record "RESULT.md" verdict))
        return if verdict = .pass then 0 else 1
      else
        let _ ← ask (.probe FTP_PORT)
        let _ ← ask (.probe CMD_PORT)
        return 2

section uses

variable {sha} {C : Call → Prop}

theorem uses_ftpConnect (h : ∀ c ∈ [.connect, .login], C c) : ftpConnect.Uses C := by
  unfold ftpConnect
  apply (uses_orRaise (uses_ask (h _ (by simp)))).bind
  intro _
  exact uses_orRaise (uses_ask (h _ (by simp)))

theorem uses_reconnect
    (h : ∀ c ∈ [.close, .connect, .login, .cwd LIVE_DIR, .sleep], C c) : reconnect.Uses C := by
  unfold reconnect
  have closes : (tryCatch (orRaise (ask .close)) fun _ => return () : Script Unit).Uses C :=
    (uses_orRaise (uses_ask (h _ (by simp)))).tryCatch fun _ => Prog.uses_pure _
  apply closes.bind
  intro _
  apply (uses_ftpConnect fun c member => h c (by simp at member ⊢; tauto)).bind
  intro _
  apply (uses_orRaise (uses_ask (h _ (by simp)))).bind
  intro _
  exact uses_ask (h _ (by simp))

/-- The calls of an upload, of all its attempts. -/
theorem uses_ftpPutVerified {data : Bytes} {remote : String}
    (h : ∀ c ∈ [.stor remote data, .retr remote, .close, .connect, .login, .cwd LIVE_DIR, .sleep],
      C c) (attempts : Nat) : (ftpPutVerified sha data remote attempts).Uses C := by
  induction attempts with
  | zero => exact Prog.uses_throw _
  | succ left ih =>
    unfold ftpPutVerified
    apply Prog.Uses.tryCatch
    · unfold putOnce
      apply (uses_orRaise (uses_ask (h _ (by simp)))).bind
      intro _
      apply (uses_orRaise (uses_ask (h _ (by simp)))).bind
      intro back
      exact (Prog.uses_throw _).ite (Prog.uses_pure _)
    · intro error
      apply (Prog.uses_throw _).ite
      have again : reconnect.Uses C := uses_reconnect fun c member => h c (by simp at member ⊢; tauto)
      exact again.bind fun _ => ih

/-- Between two attempts nothing is written. -/
theorem uploads_reconnect : reconnect.Uses (Uploads GATE_TMP) := by
  apply uses_reconnect
  intro c member
  simp only [List.mem_cons, List.not_mem_nil, or_false] at member
  left
  obtain rfl | rfl | rfl | rfl | rfl := member <;> rfl

theorem uploads_gate (data : Bytes) :
    (ftpPutVerified sha data GATE_TMP 3).Uses (Uploads GATE_TMP) := by
  apply uses_ftpPutVerified
  intro c member
  simp only [List.mem_cons, List.not_mem_nil, or_false] at member
  obtain rfl | read := member
  · exact Or.inr ⟨data, rfl⟩
  · left
    obtain rfl | rfl | rfl | rfl | rfl | rfl := read <;> rfl

end uses

end VitaLinux.Tools
