import Mathlib.Logic.Function.Basic
import VitaLinux.Tools.Calls

/-!
# The device directory behind the FTP server

An operation either has its effect on the files or fails without one. `Device` lets any
operation fail at any time; `Faulty` lets one operation of a run fail, and records which.
-/

namespace VitaLinux.Tools

open VitaLinux.Base

/-- The files of the device directory. -/
abbrev Files := String → Option Bytes

/-- The file under a new name, in the place of one that had it. -/
def Files.renamed (f : Files) (source target : String) : Files :=
  Function.update (Function.update f source none) target (f source)

theorem Files.renamed_target (f : Files) (source target : String) :
    f.renamed source target target = f source := Function.update_self ..

theorem Files.renamed_source (f : Files) {source target : String} (moved : source ≠ target) :
    f.renamed source target source = none := by
  unfold Files.renamed
  rw [Function.update_of_ne moved, Function.update_self]

theorem Files.renamed_of_ne (f : Files) {source target name : String} (h : name ≠ source)
    (k : name ≠ target) : f.renamed source target name = f name := by
  unfold Files.renamed
  rw [Function.update_of_ne k, Function.update_of_ne h]

/-- An operation that succeeds. -/
inductive Serves : Files → (call : Call) → Reply call → Files → Prop where
  | connect (f : Files) : Serves f .connect (.ok ()) f
  | login (f : Files) : Serves f .login (.ok ()) f
  | cwd (f : Files) (dir : String) : Serves f (.cwd dir) (.ok ()) f
  | pwd (f : Files) : Serves f .pwd (.ok ()) f
  | retr (f : Files) (name : String) (data : Bytes) (here : f name = some data) :
      Serves f (.retr name) (.ok data) f
  | stor (f : Files) (name : String) (data : Bytes) :
      Serves f (.stor name data) (.ok ()) (Function.update f name (some data))
  | nlst (f : Files) (names : List String) (all : ∀ name, name ∈ names ↔ f name ≠ none) :
      Serves f .nlst (.ok names) f
  | rename (f : Files) (source target : String) (here : f source ≠ none) :
      Serves f (.rename source target) (.ok ()) (f.renamed source target)
  | close (f : Files) : Serves f .close (.ok ()) f
  | keepCopy (f : Files) (data : Bytes) : Serves f (.keepCopy data) (.ok ()) f
  | sleep (f : Files) : Serves f .sleep () f

/-- The operations that can raise. -/
inductive Raises (e : PyError) : (call : Call) → Reply call → Prop where
  | connect : Raises e .connect (.error e)
  | login : Raises e .login (.error e)
  | cwd (dir : String) : Raises e (.cwd dir) (.error e)
  | pwd : Raises e .pwd (.error e)
  | retr (name : String) : Raises e (.retr name) (.error e)
  | stor (name : String) (data : Bytes) : Raises e (.stor name data) (.error e)
  | nlst : Raises e .nlst (.error e)
  | rename (source target : String) : Raises e (.rename source target) (.error e)
  | close : Raises e .close (.error e)
  | keepCopy (data : Bytes) : Raises e (.keepCopy data) (.error e)

/-- Any operation may fail, without effect; `payload.bin` cannot be read with `error_perm` only
if it is missing. -/
inductive Device : Environment Files Call Reply where
  | serves {f g : Files} {call : Call} {r : Reply call} (served : Serves f call r g) :
      Device f call r g
  | fails {f : Files} {call : Call} {r : Reply call} {e : PyError} (raised : Raises e call r)
      (honest : call = .retr PAYLOAD_NAME → e = .errorPerm → f PAYLOAD_NAME = none) :
      Device f call r f

/-- The operations that a server may refuse as the files are. -/
inductive Refuses (f : Files) : Call → Prop where
  | missing (name : String) (none : f name = none) : Refuses f (.retr name)
  | noSource (source target : String) (none : f source = none) : Refuses f (.rename source target)
  | taken (source target : String) (some : f target ≠ none) : Refuses f (.rename source target)

/-- The files, and the operation that has failed. -/
structure Faults where
  files : Files
  fault : Option Call

/-- Of all operations that are not refused, one may fail, without effect. -/
inductive Faulty : Environment Faults Call Reply where
  | serves {f g : Files} {fault : Option Call} {call : Call} {r : Reply call}
      (served : Serves f call r g) : Faulty ⟨f, fault⟩ call r ⟨g, fault⟩
  | refuses {f : Files} {fault : Option Call} {call : Call} {r : Reply call} {e : PyError}
      (refused : Refuses f call) (raised : Raises e call r) : Faulty ⟨f, fault⟩ call r ⟨f, fault⟩
  | fails {f : Files} {call : Call} {r : Reply call} {e : PyError} (raised : Raises e call r) :
      Faulty ⟨f, none⟩ call r ⟨f, some call⟩

variable {S : Type} {env : Environment S Call Reply} {E : Event S Call Reply → Prop} {α : Type}

/-- An operation that may raise, by the two kinds of replies. -/
theorem meets_orRaise {operation : Script (Except PyError α)} {Q : α → S → Prop}
    {X : PyError → S → Prop} {s : S}
    (h : operation.Meets env E (fun r t => (∀ a, r = .ok a → Q a t) ∧ ∀ e, r = .error e → X e t)
      X s) : (orRaise operation).Meets env E Q X s := by
  unfold orRaise
  apply h.seq
  intro r t answered
  cases r with
  | ok a => exact answered.1 a rfl
  | error e => exact answered.2 e rfl


def lookFor (name : String) : List (String × Bytes) → Option Bytes
  | [] => none
  | file :: files => if name = file.1 then some file.2 else lookFor name files

/-- A device directory that serves every operation but one. -/
structure Disk where
  files : List (String × Bytes)
  /-- the operation that fails when it is first asked for -/
  failing : Option Call
  fault : Option Call
  deriving DecidableEq

def Disk.look (d : Disk) : Files := fun name => lookFor name d.files

def Disk.faults (d : Disk) : Faults := { files := d.look, fault := d.fault }

/-- The files without one of them. -/
def Disk.without (d : Disk) (name : String) : List (String × Bytes) :=
  d.files.filter fun file => file.1 ≠ name

def Disk.serves (d : Disk) : (call : Call) → Option (Reply call × Disk)
  | .connect | .login | .cwd _ | .pwd | .close | .keepCopy _ => some (.ok (), d)
  | .retr name =>
    match lookFor name d.files with
    | none => some (.error .errorPerm, d)
    | some data => some (.ok data, d)
  | .stor name data => some (.ok (), { d with files := (name, data) :: d.without name })
  | .nlst => some (.ok (d.files.map Prod.fst), d)
  | .rename source target =>
    match lookFor source d.files with
    | none => some (.error .errorPerm, d)
    | some data =>
      some (.ok (), { d with files :=
        (target, data) :: (d.without source).filter fun file => file.1 ≠ target })
  | .sleep => some ((), d)
  | .probe _ | .clock | .send _ | .ssh _ | .record _ _ | .unfinished => none

/-- Here a rename is what fails. -/
def Disk.fails (d : Disk) : (call : Call) → Option (Reply call × Disk)
  | .rename source target =>
    some (.error .transport, { d with fault := some (.rename source target) })
  | _ => none

def Disk.answer (d : Disk) (call : Call) : Option (Reply call × Disk) :=
  if d.failing = some call ∧ d.fault = none then d.fails call else d.serves call

theorem lookFor_without (files : List (String × Bytes)) (name x : String) :
    lookFor x (files.filter fun file => file.1 ≠ name) =
      if x = name then none else lookFor x files := by
  induction files with
  | nil => simp [lookFor]
  | cons file files ih =>
    rw [List.filter_cons]
    by_cases removed : file.1 = name
    · rw [if_neg (by simp [removed]), ih, lookFor, removed]
      split <;> rfl
    · rw [if_pos (by simp [removed]), lookFor, lookFor, ih]
      by_cases same : x = file.1
      · have other : ¬ x = name := fun h => removed (same.symm.trans h)
        rw [if_pos same, if_neg other, if_pos same]
      · rw [if_neg same, if_neg same]

theorem Disk.look_stor (d : Disk) (name : String) (data : Bytes) :
    Disk.look { d with files := (name, data) :: d.without name } =
      Function.update d.look name (some data) := by
  funext x
  unfold Disk.look Disk.without
  rw [lookFor, lookFor_without]
  by_cases same : x = name
  · rw [if_pos same, same, Function.update_self]
  · rw [if_neg same, if_neg same, Function.update_of_ne same]

theorem Disk.look_rename (d : Disk) {source target : String} {data : Bytes}
    (here : lookFor source d.files = some data) :
    Disk.look { d with files :=
      (target, data) :: (d.without source).filter fun file => file.1 ≠ target } =
      d.look.renamed source target := by
  funext x
  unfold Disk.look Disk.without Files.renamed
  rw [lookFor, lookFor_without, lookFor_without]
  by_cases same : x = target
  · rw [if_pos same, same, Function.update_self]
    exact here.symm
  · rw [if_neg same, if_neg same, Function.update_of_ne same]
    by_cases gone : x = source
    · rw [if_pos gone, gone, Function.update_self]
    · rw [if_neg gone, Function.update_of_ne gone]

theorem mem_names (files : List (String × Bytes)) (name : String) :
    name ∈ files.map Prod.fst ↔ lookFor name files ≠ none := by
  induction files with
  | nil => simp [lookFor]
  | cons file files ih =>
    rw [List.map_cons, List.mem_cons, ih, lookFor]
    split
    · next same => simp [same]
    · next other => simp [other]

/-- The disk serves as a device does, or refuses what a device may refuse. -/
theorem Disk.serves_possible {d t : Disk} {call : Call} {r : Reply call}
    (served : d.serves call = some (r, t)) :
    t.fault = d.fault ∧ (Serves d.look call r t.look ∨
      t.look = d.look ∧ Refuses d.look call ∧ Raises .errorPerm call r) := by
  cases call with
  | connect => cases served; exact ⟨rfl, Or.inl (.connect _)⟩
  | login => cases served; exact ⟨rfl, Or.inl (.login _)⟩
  | cwd dir => cases served; exact ⟨rfl, Or.inl (.cwd _ dir)⟩
  | pwd => cases served; exact ⟨rfl, Or.inl (.pwd _)⟩
  | close => cases served; exact ⟨rfl, Or.inl (.close _)⟩
  | keepCopy data => cases served; exact ⟨rfl, Or.inl (.keepCopy _ data)⟩
  | sleep => cases served; exact ⟨rfl, Or.inl (.sleep _)⟩
  | retr name =>
    simp only [Disk.serves] at served
    split at served
    · next missing =>
      cases served
      exact ⟨rfl, Or.inr ⟨rfl, .missing name missing, .retr name⟩⟩
    · next data here =>
      cases served
      exact ⟨rfl, Or.inl (.retr _ name data here)⟩
  | stor name data =>
    cases served
    refine ⟨rfl, Or.inl ?_⟩
    rw [Disk.look_stor]
    exact .stor _ name data
  | nlst => cases served; exact ⟨rfl, Or.inl (.nlst _ _ (mem_names d.files))⟩
  | rename source target =>
    simp only [Disk.serves] at served
    split at served
    · next missing =>
      cases served
      exact ⟨rfl, Or.inr ⟨rfl, .noSource source target missing, .rename source target⟩⟩
    · next data here =>
      cases served
      refine ⟨rfl, Or.inl ?_⟩
      rw [Disk.look_rename d here]
      apply Serves.rename
      change lookFor source d.files ≠ none
      rw [here]
      exact Option.some_ne_none data
  | probe port => cases served
  | clock => cases served
  | send command => cases served
  | ssh command => cases served
  | record file verdict => cases served
  | unfinished => cases served

/-- Every answer of a disk is one that a device with a single failure can give. -/
theorem Disk.answer_faulty (d : Disk) (call : Call) (r : Reply call) (t : Disk)
    (answered : d.answer call = some (r, t)) : Faulty d.faults call r t.faults := by
  unfold Disk.answer at answered
  split at answered
  · next fails =>
    cases call with
    | rename source target =>
      cases answered
      unfold Disk.faults
      rw [fails.2]
      exact .fails (.rename source target)
    | _ => cases answered
  · obtain ⟨same, served | ⟨look, refused, raised⟩⟩ := Disk.serves_possible answered
    · unfold Disk.faults
      rw [same]
      exact .serves served
    · unfold Disk.faults
      rw [same, look]
      exact .refuses refused raised

/-- And one that a device can give on which anything may fail. -/
theorem Disk.answer_device (d : Disk) (call : Call) (r : Reply call) (t : Disk)
    (answered : d.answer call = some (r, t)) : Device d.look call r t.look := by
  unfold Disk.answer at answered
  split at answered
  · cases call with
    | rename source target =>
      cases answered
      exact .fails (.rename source target) fun other => Call.noConfusion other
    | _ => cases answered
  · obtain ⟨_, served | ⟨look, refused, raised⟩⟩ := Disk.serves_possible answered
    · exact .serves served
    · rw [look]
      apply Device.fails raised
      rintro rfl _
      cases refused with
      | missing name missing => exact missing

/-- SHA-256 of the empty file and of two files of one byte. -/
def sampleSha : Bytes → String
  | [] => "e3b0c44298fc1c149afbf4c8996fb92427ae41e4649b934ca495991b7852b855"
  | [1] => "4bf5122f344554c53bde2ebb8cd2b7e3d1600ad631c385a5d7cce23c7785459a"
  | [2] => "dbc1b4c900ffe48d575b5da5c638040125f65db0fe3e24494b76ea986457d986"
  | _ => ""

/-- A directory with an old payload. -/
def oldDisk : Disk := { files := [(PAYLOAD_NAME, [1])], failing := none, fault := none }

end VitaLinux.Tools
