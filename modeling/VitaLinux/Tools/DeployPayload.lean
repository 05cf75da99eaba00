import VitaLinux.Tools.Calls

/-!
# Deploying a payload

`deploy-payload.py`: preserve the payload on the device, upload the candidate under a
temporary name, park the old payload and rename the candidate.
-/

namespace VitaLinux.Tools

open VitaLinux.Base

variable (sha : Bytes → String)

/-- `read` -/
def deployRead (name : String) : Script Bytes := orRaise (ask (.retr name))

/-- `preserve`: the payload on the device, of which a local copy is kept. -/
def preserve : Script Bytes := do
  let current ← deployRead PAYLOAD_NAME
  orRaise (ask (.keepCopy current))
  return current

/-- `TARGET_NAME + ".deploy"` -/
def DEPLOY_TMP : String := PAYLOAD_NAME ++ ".deploy"

structure DeployArgs where
  payload : Option Bytes
  target_dir : String
  preserve_only : Bool

/-- What is to be deployed, if anything. -/
def DeployArgs.candidate (args : DeployArgs) : Option Bytes :=
  if args.preserve_only then none else args.payload

/-- Lines 104 to 107 of `main`. -/
def deployUpload (data : Bytes) : Script Unit := do
  orRaise (ask (.stor DEPLOY_TMP data))
  let back ← deployRead DEPLOY_TMP
  if back = data then return () else throw .assertionError

/-- Lines 114 to 121 of `main`. -/
def deploySwap (current : Bytes) : Script Unit := do
  let _ ← park sha current
  orRaise (ask (.rename DEPLOY_TMP PAYLOAD_NAME))

/-- Lines 123 to 127 of `main`. -/
def deployCheck (data : Bytes) : Script Nat := do
  let final ← deployRead PAYLOAD_NAME
  if sha final = sha data then
    let _ ← orRaise (ask .nlst)
    return 0
  else throw .assertionError

/-- The `try` block of `main`. -/
def deployBody (args : DeployArgs) : Script Nat := do
  orRaise (ask (.cwd args.target_dir))
  orRaise (ask .pwd)
  let current ← preserve
  match args.candidate with
  | none => return 0
  | some data =>
    deployUpload data
    deploySwap sha current
    deployCheck sha data

/-- `main`, with its exit status. -/
def deployMain (args : DeployArgs) : Script Nat := do
  if inert args.target_dir || (!args.preserve_only && args.payload.isNone) then return 2
  else
    orRaise (ask .connect)
    orRaise (ask .login)
    let status ← tryCatch (deployBody sha args) fun error => do
      orRaise (ask .close)
      throw error
    orRaise (ask .close)
    return status

section uses

variable {sha}

/-- Of `deploy-payload.py`, everything but the swap reads, or writes the temporary file. -/
theorem uses_deployUpload (data : Bytes) : (deployUpload data).Uses (Uploads DEPLOY_TMP) := by
  unfold deployUpload
  apply (uses_orRaise (uses_ask (Or.inr ⟨data, rfl⟩))).bind
  intro _
  apply (uses_orRaise (uses_ask (Or.inl rfl))).bind
  intro back
  exact (Prog.uses_pure _).ite (Prog.uses_throw _)

theorem reads_deployCheck (data : Bytes) : (deployCheck sha data).Uses (·.writes = false) := by
  unfold deployCheck
  apply (uses_orRaise (reads_ask rfl)).bind
  intro final
  apply Prog.Uses.ite _ (Prog.uses_throw _)
  exact (uses_orRaise (reads_ask rfl)).bind fun _ => Prog.uses_pure _

theorem uses_preserve : preserve.Uses (Uploads DEPLOY_TMP) := by
  unfold preserve
  apply (uses_orRaise (uses_ask (Or.inl rfl))).bind
  intro current
  exact (uses_orRaise (uses_ask (Or.inl rfl))).bind fun _ => Prog.uses_pure _

end uses

end VitaLinux.Tools
