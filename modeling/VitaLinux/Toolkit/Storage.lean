import VitaLinux.Base.Quoted
import VitaLinux.Toolkit.Awk

/-!
# toolkit/bin/vita-storage

The partitions that the kernel lists are inputs, each with what the script reads about it.
What the shell's pathname expansion makes of a field depends on the files there are, so the
shell is a parameter with what POSIX promises of it.
-/

namespace VitaLinux.Toolkit.Storage

open VitaLinux.Base

/-- A bracket expression stands in the text: what is between `[` and `]` names a member. -/
def Bracketed (text : Text) : Prop :=
  ∃ inside, inside ≠ [] ∧ inside ≠ ['!'] ∧ '/' ∉ inside ∧ '[' :: inside ++ [']'] <:+: text

/-- The text may be taken for a pattern. -/
def Pattern (text : Text) : Prop := '*' ∈ text ∨ '?' ∈ text ∨ Bracketed text

theorem Pattern.mono {part text : Text} (inside : part <:+: text) : Pattern part → Pattern text
  | .inl star => .inl (inside.subset star)
  | .inr (.inl mark) => .inr (.inl (inside.subset mark))
  | .inr (.inr ⟨members, nonempty, named, path, bracket⟩) =>
    .inr (.inr ⟨members, nonempty, named, path, bracket.trans inside⟩)

structure Shell where
  /-- the pathname expansion of a field -/
  expand : Text → List Text
  expand_plain (text : Text) (plain : ¬Pattern text) : expand text = [text]
  /-- a pattern without a match is left as it is -/
  expand_ne_nil (text : Text) : expand text ≠ []

/-- The shell in a place where no pattern matches. -/
def Shell.plain : Shell where
  expand text := [text]
  expand_plain _ _ := rfl
  expand_ne_nil _ := List.cons_ne_nil _ _

/-- What no kernel name of a block device has. -/
def special : List Char := " \t\n\"\\|*?[]".toList

/-- The kernel name of a block device. -/
abbrev BlockName := { name : Text // ∀ c ∈ name, c ∉ special }

/-- `device: TAG="value" ...`: what blkid prints about a partition. -/
structure BlkidLine where
  device : Text
  tags : List (Text × Text)
  device_plain : ∀ c ∈ device, c ≠ '"' ∧ c ≠ '\n'
  name_plain : ∀ tag ∈ tags, ∀ c ∈ tag.1, c ≠ '"' ∧ c ≠ '\n' ∧ c ≠ ' ' ∧ c ≠ '='
  value_plain : ∀ tag ∈ tags, ∀ c ∈ tag.2, c ≠ '"' ∧ c ≠ '\n'
  distinct : (tags.map Prod.fst).Nodup

def BlkidLine.text (line : BlkidLine) : Text :=
  line.device ++ ':' :: line.tags.flatMap fun tag =>
    ' ' :: tag.1 ++ '=' :: '"' :: tag.2 ++ ['"']

/-- An entry of the mount table. The kernel writes blanks in it as escape sequences. -/
structure MountEntry where
  source : Text
  target : Text
  target_named : target ≠ []
  target_plain : '\n' ∉ target

structure Partition where
  name : BlockName
  parent : BlockName
  /-- the `removable` file of the parent -/
  removable : Text
  /-- what `mmc_card_type` prints -/
  cardType : Text
  /-- `[ -e "$device_path" ]` -/
  present : Bool
  blkid : BlkidLine

/-- `[:space:]` -/
def isSpace (c : Char) : Bool := c == ' ' || 9 ≤ c.toNat && c.toNat ≤ 13

/-- `tr -d '[:space:]'` -/
def withoutSpace (text : Text) : Text := text.filter fun c => !isSpace c

/-- `$(printf '%s\n' "$info" | sed -n 's/.*tag="\([^"]*\)".*/\1/p')` -/
def sedTag (tag info : Text) : Text :=
  chomp (unlines ((lines (info ++ ['\n'])).filterMap (lastQuoted '"' (tag ++ ['=']))))

/-- `[ -n "$text" ] || text=UNKNOWN` -/
def known (text : Text) : Text := if text = [] then "UNKNOWN".toList else text

/-- `$(awk -v device="$device" '$1 == device { print $2; exit }' "$PROC_MOUNTS")` -/
def mountpointOf (awk : Awk) (mounts : List MountEntry) (device : Text) : Text :=
  match mounts.find? fun entry => awk.is entry.source device with
  | some entry => chomp (unlines [entry.target])
  | none => []

/-- The fields of a record, in the order in which they are joined and taken apart. -/
structure Report where
  device : Text
  parent : Text
  removable : Text
  filesystem : Text
  label : Text
  uuid : Text
  mounted : Text
  mountpoint : Text
  deriving DecidableEq, Repr

def Report.fields (r : Report) : List Text :=
  [r.device, r.parent, r.removable, r.filesystem, r.label, r.uuid, r.mounted, r.mountpoint]

def dev (name : Text) : Text := "/dev/".toList ++ name

def tagType : Text := "TYPE".toList

def tagLabel : Text := "LABEL".toList

def tagUuid : Text := "UUID".toList

/-- The partition is on removable storage: by the block device, or by the card. -/
def Partition.listed (p : Partition) : Bool :=
  (withoutSpace p.removable == "1".toList || p.cardType == "SD".toList ||
    p.cardType == "SDcombo".toList) && p.present

/-- What the loop over the partitions finds out about one. -/
def collect (awk : Awk) (mounts : List MountEntry) (p : Partition) : Report :=
  let info := chomp (p.blkid.text ++ ['\n'])
  let mountpoint := mountpointOf awk mounts (dev p.name)
  { device := dev p.name
    parent := dev p.parent
    removable := withoutSpace p.removable
    filesystem := known (sedTag tagType info)
    label := known (sedTag tagLabel info)
    uuid := known (sedTag tagUuid info)
    mounted := if mountpoint ≠ [] then "1".toList else "0".toList
    mountpoint := if mountpoint ≠ [] then mountpoint else "NONE".toList }

/-- `record="$device|/dev/$parent|..."` -/
def record (r : Report) : Text := ['|'].intercalate r.fields

/-- Field splitting at `|`, which does not start another field at the end. -/
def splitFields (text : Text) : List Text :=
  let fields := text.splitOn '|'
  if fields.getLast? = some [] then fields.dropLast else fields

/-- `IFS='|'; set -- $record` -/
def positional (shell : Shell) (record : Text) : List Text :=
  (splitFields record).flatMap shell.expand

/-- `print_record`, as far as the fields go. Under `set -u` a missing one ends the script. -/
def printRecord (shell : Shell) (record : Text) : Option Report :=
  match positional shell record with
  | device :: parent :: removable :: filesystem :: label :: uuid :: mounted :: mountpoint :: _ =>
    some { device, parent, removable, filesystem, label, uuid, mounted, mountpoint }
  | _ => none

/-- The words of `for record in $records`, with the newline as the only separator. -/
def recordWords (shell : Shell) (records : Text) : List Text :=
  ((records.splitOn '\n').filter (· ≠ [])).flatMap shell.expand

/-- The lines that `print_record` prints about partition `index`, as keys and values. -/
def reportLines (index : Nat) (r : Report) : List (String × Text) :=
  let key (name : String) := "storage_" ++ toString index ++ "_" ++ name
  [(key "device", r.device), (key "parent", r.parent), (key "removable", r.removable),
    (key "filesystem", r.filesystem), (key "label", r.label), (key "uuid", r.uuid),
    (key "mounted", r.mounted), (key "mountpoint", r.mountpoint)]

def machineLines (count : Nat) (reports : List Report) : List (String × Text) :=
  ("schema", "1".toList) :: ("storage_count", (toString count).toList) ::
    (reports.zipIdx 1).flatMap fun r => reportLines r.2 r.1

/-- `vita-storage --machine`: the `key=value` lines; `none` where the script ends early. -/
def machine (shell : Shell) (awk : Awk) (mounts : List MountEntry)
    (partitions : List Partition) : Option (List (String × Text)) := do
  let found := partitions.filter Partition.listed
  let records := found.map fun p => record (collect awk mounts p)
  let reports ← (recordWords shell (['\n'].intercalate records)).mapM (printRecord shell)
  return machineLines found.length reports

end VitaLinux.Toolkit.Storage
