import VitaLinux.Base.Programs
import VitaLinux.Toolkit.Awk

/-!
# The session script

`vita-toolkit-session` mounts the transport, an image on it and keeps a state file. What
it asks of the system is a call; `exit` and `fail` end the script. What it prints, and the
`chmod` and `sync` whose failure it ignores, are left out.
-/

namespace VitaLinux.Toolkit.Session

open VitaLinux.Base

/-- An entry of the mount table. -/
structure Mount where
  source : Text
  target : Text
  options : Text
  /-- not in the table: a `start` has made this mount -/
  bySession : Bool
  deriving DecidableEq, Repr

inductive Call where
  /-- `vita-storage --machine` -/
  | storage
  /-- `[ -r "$PROC_MOUNTS" ]` -/
  | mountsReadable
  | procMounts
  /-- `[ -f path ]` -/
  | isFile (path : Text)
  /-- the expansion of `"$dir"/$pattern` -/
  | expand (dir pattern : Text)
  /-- what awk reads of a file -/
  | contents (path : Text)
  /-- `hash_file` -/
  | hashFile (path : Text)
  /-- `mkdir -p` -/
  | mkdir (path : Text)
  | mount (fstype : Option String) (options : String) (source target : Text)
  /-- `mount -o remount,rw` -/
  | remount (target : Text)
  | umount (target : Text)
  /-- writing `WORKSPACE-INFO` -/
  | workspaceInfo (path : Text)
  | readSession
  | writeSession (fields : List (String × Text))
  | removeSession
  deriving DecidableEq

abbrev Reply : Call → Type
  | .storage | .readSession => Option Text
  | .mountsReadable | .isFile _ | .mkdir _ | .mount _ _ _ _ | .remount _ | .umount _
  | .workspaceInfo _ | .writeSession _ | .removeSession => Bool
  | .procMounts => List Mount
  | .expand _ _ => List Text
  | .contents _ | .hashFile _ => Text

/-- The calls that change neither the mount table nor the state file. -/
def Call.reads : Call → Bool
  | .mount _ _ _ _ | .remount _ | .umount _ | .writeSession _ | .removeSession => false
  | _ => true

/-- How the script exits: its status, and the `status` it has printed. -/
structure Ending where
  status : Nat
  report : String
  deriving DecidableEq, Repr

abbrev Script := Prog Call Reply Ending

def ask (call : Call) : Script (Reply call) := Prog.call call

def fail {α : Type} (report : String) : Script α := throw ⟨1, report⟩

/-- `command || fail report` -/
def orFail (command : Script Bool) (report : String) : Script Unit := do
  if ← command then return () else fail report

/-- A command that ends the script by `set -e` when it fails. -/
def orExit (command : Script Bool) : Script Unit := orFail command ""

section paths

/-- The directories that `valid_path` refuses. -/
def protectedPaths : List Text :=
  ["/", "/dev", "/proc", "/sys", "/run", "/etc", "/bin", "/sbin", "/usr", "/var",
    "/home"].map String.toList

def validPath (path : Text) : Bool :=
  path.head? == some '/' &&
    (!(path.zip path.tail).contains ('.', '.') &&
      path.all (fun c => c.isAlphanum || "_./:-".toList.contains c)) &&
    !protectedPaths.contains path

/-- `${path%/*}` -/
def dirname (path : Text) : Text :=
  if '/' ∈ path then (path.rdropWhile (· ≠ '/')).dropLast else path

end paths

section mounts

variable (awk : Awk)

def isMounted (mounts : List Mount) (target : Text) : Bool :=
  mounts.any fun m => awk.is m.target target

def mountOptionsFor (mounts : List Mount) (target : Text) : Text :=
  chomp (unlines ((mounts.filter fun m => awk.is m.target target).map (·.options)))

def mountIsRo (options : Text) : Bool := (options.splitOn ',').contains "ro".toList

end mounts

/-- The options, the environment and the defaults of a run. -/
structure Config where
  target : Text
  transport : Text
  stateDir : Text
  expectedLabel : Text
  payloadGlob : Text
  /-- `--file`, or empty -/
  explicitFile : Text
  rwWorkspace : Bool

section storage

variable (awk : Awk) (c : Config)

structure Discovered where
  device : Text
  mountpoint : Text
  deriving DecidableEq, Repr

/-- The greatest number that `[` compares. -/
def INTMAX_MAX : Nat := 9223372036854775807

/-- `storage_<index>_<name>` of the report. -/
def storageField (storage : Text) (index : Nat) (name : String) : Text :=
  let key := "storage_".toList ++ Nat.toDigits 10 index ++ '_' :: name.toList
  extract (awk.is · key) secondField storage

/-- What one round of the loop in `discover_transport` finds. -/
def candidate (storage : Text) (index : Nat) : Option Discovered :=
  let fs := storageField awk storage index "filesystem"
  let label := storageField awk storage index "label"
  if fs ≠ "exfat".toList ∧ fs ≠ "vfat".toList then none
  else if c.expectedLabel ≠ [] ∧ label ≠ c.expectedLabel then none
  else
    some ⟨storageField awk storage index "device", storageField awk storage index "mountpoint"⟩

def discoverTransport : Script Discovered := do
  let some report ← ask .storage | fail "storage_query_failed"
  let storage := report ++ ['\n']
  let digits := extract (· = "storage_count".toList) secondField storage
  if digits = [] ∨ ¬ digits.all Char.isDigit then fail "storage_query_malformed"
  else if Nat.ofDigitChars 10 digits 0 < 1 ∨ INTMAX_MAX < Nat.ofDigitChars 10 digits 0 then
    fail "no_removable_storage"
  else
    match (List.range' 1 (Nat.ofDigitChars 10 digits 0)).filterMap (candidate awk c storage) with
    | [] => fail "no_candidate_storage"
    | [found] => return found
    | _ => fail "ambiguous_storage"

end storage

section payload

/-- The candidates that are regular files. -/
def regularFiles : List Text → Script (List Text)
  | [] => return []
  | candidate :: rest => do
    let isFile ← ask (.isFile candidate)
    let others ← regularFiles rest
    return if isFile then candidate :: others else others

def discoverPayload (c : Config) (dir : Text) : Script Text := do
  let candidates ← ask (.expand dir c.payloadGlob)
  match ← regularFiles candidates with
  | [] => fail "payload_missing"
  | [payload] => return payload
  | _ => fail "ambiguous_payload"

/-- The name that a line of `SHA256SUMS` gives, without `*` and directories. -/
def sumName (line : Text) : Text :=
  let name := (words line)[1]?.getD []
  basename (if "*".toList <+: name then name.drop 1 else name)

/-- `name == b`; a name from which `sub` has taken something is a text. -/
def lists (awk : Awk) (base line : Text) : Bool :=
  if sumName line = (words line)[1]?.getD [] then awk.is (sumName line) base
  else sumName line == awk.assign base

/-- The digest that `SHA256SUMS` lists for a name. -/
def listedHash (awk : Awk) (base sums : Text) : Text :=
  match (lines sums).find? (lists awk base) with
  | some line => (words line).headD []
  | none => []

/-- `NR == 1 { print $1 }` -/
def sidecarHash (text : Text) : Text := (words ((lines text).headD [])).headD []

def isHexDigit (c : Char) : Bool := c.isDigit || "abcdefABCDEF".toList.contains c

def validDigest (digest : Text) : Bool :=
  decide (digest ≠ []) && digest.all isHexDigit && decide (digest.length = 64)

/-- What the checksum file beside the payload says of it: its own, or else `SHA256SUMS`. -/
def checksum (awk : Awk) (payload : Text) : Script Text := do
  let sidecar := payload ++ ".sha256".toList
  if ← ask (.isFile sidecar) then
    let text ← ask (.contents sidecar)
    return sidecarHash text
  else
    let sums := dirname payload ++ "/SHA256SUMS".toList
    if ← ask (.isFile sums) then
      let text ← ask (.contents sums)
      return listedHash awk (basename payload) text
    else return []

def resolveExpectedHash (awk : Awk) (payload : Text) : Script (Option Text) := do
  let expected ← checksum awk payload
  return if validDigest expected then some expected else none

/-- The payload has the digest that is expected of it. -/
def verify (awk : Awk) (payload : Text) : Script Text := do
  let some expected ← resolveExpectedHash awk payload | fail "unverified"
  let actual ← ask (.hashFile payload)
  if actual = expected then return actual else fail "checksum_mismatch"

end payload

section start

variable (awk : Awk) (c : Config)

/-- The checks before either action. -/
def checkPaths : Script Unit := do
  if ¬ validPath c.target then fail "unsafe_target"
  else if ¬ validPath c.transport then fail "unsafe_transport"
  else orFail (ask .mountsReadable) "mounts_unreadable"

def transportOptions : String := if c.rwWorkspace then "rw,nosuid,nodev" else "ro,nosuid,nodev"

/-- Where the payload is, and whether this run has mounted the transport. -/
structure Located where
  payload : Text
  transport : Text
  owned : Bool
  sourceType : String
  deriving DecidableEq, Repr

/-- The transport that has been discovered, mounted by this run if it was not. -/
def mountTransport (found : Discovered) : Script (Text × Bool) := do
  if found.mountpoint = "NONE".toList ∨ found.mountpoint = [] then
    orFail (ask (.mkdir c.transport)) "transport_unavailable"
    orFail (ask (.mount none (transportOptions c) found.device c.transport))
      "transport_mount_failed"
    return (c.transport, true)
  else return (found.mountpoint, false)

def locate : Script Located := do
  if c.explicitFile ≠ [] then
    if ¬ validPath c.explicitFile then fail "unsafe_payload_path"
    else
      orFail (ask (.isFile c.explicitFile)) "payload_missing"
      return ⟨c.explicitFile, c.transport, false, "explicit"⟩
  else
    let found ← discoverTransport awk c
    let (transport, owned) ← mountTransport c found
    let payload ← discoverPayload c transport
    return ⟨payload, transport, owned, "discovered"⟩

/-- `--rw-workspace` makes a transport that is mounted read-only writable. -/
def upgradeTransport (transport : Text) : Script Unit := do
  if c.rwWorkspace then
    let mounts ← ask .procMounts
    if isMounted awk mounts transport then
      let mounts ← ask .procMounts
      if mountIsRo (mountOptionsFor awk mounts transport) then
        orFail (ask (.remount transport)) "transport_remount_failed"
      else return ()
    else return ()
  else return ()

/-- The mounted image is a toolkit. -/
def recognized : Script Bool := do
  let manifest ← ask (.isFile (c.target ++ "/NATIVE-TOOLCHAIN-MANIFEST".toList))
  if manifest then return true
  else ask (.isFile (c.target ++ "/VERSION".toList))

def mountPayload (payload : Text) : Script Unit := do
  let mounts ← ask .procMounts
  if isMounted awk mounts c.target then throw ⟨0, "already_mounted"⟩
  else
    orFail (ask (.mkdir c.target)) "target_unavailable"
    orFail (ask (.mount (some "squashfs") "loop,ro,nosuid,nodev" payload c.target)) "mount_failed"

/-- An image without the markers of a toolkit is unmounted again. -/
def checkMarkers : Script Unit := do
  if ← recognized c then return ()
  else
    let _ ← ask (.umount c.target)
    fail "payload_unrecognized"

/-- The transport mode and the workspace. -/
def createWorkspace (transport : Text) : Script (String × Text) := do
  if c.rwWorkspace then
    let workspace := transport ++ "/vita-workbench".toList
    ["src", "build", "log", "capture", "projects"].forM fun sub =>
      orFail (ask (.mkdir (workspace ++ '/' :: sub.toList))) "workspace_unavailable"
    orFail (ask (.workspaceInfo (workspace ++ "/WORKSPACE-INFO".toList))) "workspace_unwritable"
    return ("rw", workspace)
  else return ("ro", "NONE".toList)

def sessionFields (found : Located) (digest : Text) (mode : String) (workspace : Text) :
    List (String × Text) :=
  [("payload", found.payload), ("payload_sha256", digest), ("target", c.target),
    ("transport", found.transport), ("transport_mode", mode.toList),
    ("source_type", found.sourceType.toList), ("workspace", workspace),
    ("transport_mounted_by_session", if found.owned then "1".toList else "0".toList)]

def writeState (fields : List (String × Text)) : Script Unit := do
  orFail (ask (.mkdir c.stateDir)) "state_unavailable"
  orExit (ask (.writeSession fields))

def start : Script Unit := do
  checkPaths c
  let found ← locate awk c
  upgradeTransport awk c found.transport
  let digest ← verify awk found.payload
  mountPayload awk c found.payload
  checkMarkers c
  let (mode, workspace) ← createWorkspace c found.transport
  writeState c (sessionFields c found digest mode workspace)

end start

section stop

variable (awk : Awk) (c : Config)

/-- What `stop` reads of the state file. -/
structure State where
  payload : Text
  hash : Text
  target : Text
  transport : Text
  owned : Text
  deriving DecidableEq, Repr

def readState (text : Text) : State where
  payload := extract (· = "payload".toList) afterEquals text
  hash := extract (· = "payload_sha256".toList) secondField text
  target := extract (· = "target".toList) afterEquals text
  transport := extract (· = "transport".toList) afterEquals text
  owned := extract (· = "transport_mounted_by_session".toList) secondField text

/-- The payload is still what was verified. -/
def payloadUnchanged (state : State) : Script Bool := do
  if ← ask (.isFile state.payload) then
    let now ← ask (.hashFile state.payload)
    return now = state.hash
  else return false

/-- Unmounting a transport that the session has mounted. -/
def releaseTransport (state : State) : Script Unit := do
  if state.owned = "1".toList then
    let mounts ← ask .procMounts
    if isMounted awk mounts state.transport then
      orFail (ask (.umount state.transport)) "transport_unmount_failed"
    else return ()
  else return ()

/-- The state file is removed, and the script is over. -/
def forget (report : String) : Script Unit := do
  orExit (ask .removeSession)
  throw ⟨0, report⟩

def stop : Script Unit := do
  checkPaths c
  let some text ← ask .readSession | throw ⟨0, "not_running"⟩
  let state := readState text
  let mounts ← ask .procMounts
  if ¬ isMounted awk mounts state.target then forget "not_running"
  else if ← payloadUnchanged state then
    orFail (ask (.umount state.target)) "unmount_failed"
    releaseTransport awk state
    forget "stopped"
  else throw ⟨1, "payload_changed"⟩

end stop

end VitaLinux.Toolkit.Session
