import Mathlib.Data.List.Infix
import VitaLinux.Base.LexicalPaths
import VitaLinux.Toolkit.Session.Script

/-!
# The path guards

vita-toolkit-session and vita-toolkit-mount take no mountpoint that their `valid_path`
refuses, and vita-workspace makes and removes no workspace that its `valid_root` refuses. The
guards compare the path as it is spelled; the kernel follows its components.
-/

namespace VitaLinux.Toolkit

open VitaLinux.Base

namespace Mount

def protectedPaths : List Text := Session.protectedPaths

/-- The checks are those of vita-toolkit-session. -/
def validPath (path : Text) : Bool := Session.validPath path

end Mount

namespace Workspace

/-- The directories that `valid_root` refuses. -/
def protectedRoots : List Text :=
  ["/", "/dev", "/proc", "/sys", "/run", "/etc", "/bin", "/sbin", "/usr", "/var", "/home", "/tmp",
    "/mnt", "/opt"].map String.toList

def validRoot (toolkitRoot path : Text) : Bool :=
  path.head? == some '/' && !decide ("..".toList <:+: path) && !protectedRoots.contains path &&
    !(path == toolkitRoot || decide (toolkitRoot ++ ['/'] <+: path))

inductive Mode where
  | persistent
  | volatile
  deriving DecidableEq, Repr

structure Host where
  toolkitRoot : Text
  /-- `VITA_WORKSPACE_VOLATILE_ROOT`, or empty -/
  volatileRoot : Text
  sessionIsFile : Bool
  /-- what awk reads of the state file -/
  session : Option Text
  runWritable : Bool

/-- The workspace that the session has recorded. -/
def recordedWorkspace (h : Host) : Except String (Option Text) :=
  if h.sessionIsFile then
    match h.session with
    | none => .error ""
    | some session =>
      let recorded := extract (· == "workspace".toList) afterEquals session
      let recordedMode := extract (· == "transport_mode".toList) secondField session
      .ok (if recorded ≠ [] ∧ recorded ≠ "NONE".toList ∧ recordedMode = "rw".toList then
        some recorded else none)
  else .ok none

def volatileWorkspace (h : Host) : Text :=
  if h.volatileRoot ≠ [] then h.volatileRoot
  else if h.runWritable then "/run/vita-workbench".toList
  else "/tmp/vita-workbench".toList

/-- `WORKSPACE` and `MODE`. -/
def chosenWorkspace (h : Host) : Option Text → Text × Mode
  | some recorded => (recorded, .persistent)
  | none => (volatileWorkspace h, .volatile)

def resolveWorkspace (h : Host) : Except String (Text × Mode) := do
  let recorded ← recordedWorkspace h
  let chosen := chosenWorkspace h recorded
  if validRoot h.toolkitRoot chosen.1 then return chosen else .error "unsafe_workspace"

/-- What `clean` gives to `rm -rf`. -/
def clean (h : Host) (allowPersistent : Bool) (isDirectory : Text → Bool) :
    Except String (Option Text) := do
  let (workspace, mode) ← resolveWorkspace h
  if mode = .persistent ∧ ¬ allowPersistent then .error "persistent_requires_flag"
  else if ¬ isDirectory workspace then return none
  else if "/vita-workbench".toList <:+ workspace ∨ "/vita-workbench/".toList <:+ workspace then
    return some workspace
  else .error "unexpected_workspace_name"

end Workspace

/-- A directory as the guards list it. -/
structure Listed (d : Text) : Prop where
  absolute : isAbsolute d = true
  normal : normalise d = d
  letters : ∀ name ∈ components d, ∀ c ∈ name, c.isAlphanum = true

/-- The path is another spelling of a directory on the list. -/
def Respells (list : List Text) (path : Text) : Prop :=
  ∃ d ∈ list, path ≠ d ∧ path ≠ [] ∧ Spelling (components d) path

/-- The path leads into the root, by whatever spelling. -/
def Enters (root path : Text) : Prop :=
  isAbsolute root = true ∧ path ≠ [] ∧ ∃ more, Spelling (components root ++ more) path

section Spellings

variable {d path : Text}

theorem isAbsolute_iff_spelled {cs : List Text} :
    isAbsolute path = true ∧ components path = cs ↔ path ≠ [] ∧ Spelling cs path := by
  rw [spelling_iff, ← and_assoc]
  refine and_congr_left fun _ => ⟨fun absolute => ⟨?_, .inr absolute⟩, ?_⟩
  · rintro rfl
    cases absolute
  · rintro ⟨nonempty, empty | absolute⟩
    · exact absurd empty nonempty
    · exact absolute

theorem Listed.normalise_eq_iff (listed : Listed d) :
    normalise path = d ↔ path ≠ [] ∧ Spelling (components d) path := by
  have shortest : normalise path = normalise d ↔
      isAbsolute path = isAbsolute d ∧ components path = components d := Base.normalise_eq_iff
  rw [listed.normal, listed.absolute, isAbsolute_iff_spelled] at shortest
  exact shortest

theorem Listed.dotless (listed : Listed d) : ∀ name ∈ components d, '.' ∉ name :=
  fun name member dot => absurd (listed.letters name member '.' dot) (by decide)

/-- A path that the list does not name leads to a listed directory as another spelling. -/
theorem respells_iff {list : List Text} (listed : ∀ d ∈ list, Listed d) :
    Respells list path ↔ path ∉ list ∧ normalise path ∈ list := by
  constructor
  · rintro ⟨d, member, other, spelled⟩
    have leads := (listed d member).normalise_eq_iff.mpr spelled
    refine ⟨fun named => other ?_, leads ▸ member⟩
    rw [← (listed path named).normal, leads]
  · rintro ⟨unnamed, member⟩
    exact ⟨normalise path, member, fun same => unnamed (same ▸ member),
      (listed _ member).normalise_eq_iff.mp rfl⟩

theorem enters_iff {root : Text} (absolute : isAbsolute path = true) :
    Enters root path ↔ Within root path := by
  rw [Enters, Within, absolute]
  refine and_congr_right fun _ => ?_
  constructor
  · rintro ⟨nonempty, more, spelled⟩
    exact ⟨more, (isAbsolute_iff_spelled.mpr ⟨nonempty, spelled⟩).2.symm⟩
  · rintro ⟨more, same⟩
    obtain ⟨nonempty, spelled⟩ := isAbsolute_iff_spelled.mp ⟨absolute, same.symm⟩
    exact ⟨nonempty, more, spelled⟩

end Spellings

theorem listed_of_checks (checks : isAbsolute d = true ∧ normalise d = d ∧
    ∀ name ∈ components d, name.all Char.isAlphanum = true) : Listed d :=
  ⟨checks.1, checks.2.1, fun name member => List.all_eq_true.mp (checks.2.2 name member)⟩

theorem protectedPaths_listed : ∀ d ∈ Session.protectedPaths, Listed d := by
  have checks : ∀ d ∈ Session.protectedPaths, isAbsolute d = true ∧ normalise d = d ∧
      ∀ name ∈ components d, name.all Char.isAlphanum = true := by decide +kernel
  exact fun d member => listed_of_checks (checks d member)

theorem protectedRoots_listed : ∀ d ∈ Workspace.protectedRoots, Listed d := by
  have checks : ∀ d ∈ Workspace.protectedRoots, isAbsolute d = true ∧ normalise d = d ∧
      ∀ name ∈ components d, name.all Char.isAlphanum = true := by decide +kernel
  exact fun d member => listed_of_checks (checks d member)

/-- `valid_root` has no objection to the spelling. -/
structure Overlooked (toolkitRoot path : Text) : Prop where
  undotted : Undotted path
  unlisted : path ∉ Workspace.protectedRoots
  other : path ≠ toolkitRoot
  outside : ¬ toolkitRoot ++ ['/'] <+: path

theorem mem_zip_tail {path : Text} :
    ('.', '.') ∈ path.zip path.tail ↔ ['.', '.'] <:+: path := by
  induction path with
  | nil => simp
  | cons a rest ih =>
    rw [List.infix_cons_iff, ← ih]
    cases rest with
    | nil => simp
    | cons b rest => simp [eq_comm]

theorem session_validPath_iff {path : Text} :
    Session.validPath path = true ↔
      isAbsolute path = true ∧ Undotted path ∧
        (∀ c ∈ path, c.isAlphanum = true ∨ c ∈ "_./:-".toList) ∧ path ∉ Session.protectedPaths := by
  rw [undotted_iff, ← mem_zip_tail]
  simp [Session.validPath, isAbsolute, and_assoc]

theorem validRoot_iff {toolkitRoot path : Text} :
    Workspace.validRoot toolkitRoot path = true ↔
      isAbsolute path = true ∧ Overlooked toolkitRoot path := by
  have fields : Overlooked toolkitRoot path ↔ Undotted path ∧ path ∉ Workspace.protectedRoots ∧
      path ≠ toolkitRoot ∧ ¬ toolkitRoot ++ ['/'] <+: path :=
    ⟨fun h => ⟨h.undotted, h.unlisted, h.other, h.outside⟩, fun h => ⟨h.1, h.2.1, h.2.2.1, h.2.2.2⟩⟩
  rw [fields, undotted_iff]
  simp [Workspace.validRoot, isAbsolute, and_assoc]

/-- The guard accepts every other spelling of what it lists. -/
theorem session_accepts {path : Text} (respells : Respells Session.protectedPaths path) :
    Session.validPath path = true := by
  have ⟨unlisted, _⟩ := (respells_iff protectedPaths_listed).mp respells
  obtain ⟨d, member, _, spelled⟩ := respells
  have listed := protectedPaths_listed d member
  refine session_validPath_iff.mpr ⟨(isAbsolute_iff_spelled.mpr spelled).1,
    undotted_spelling spelled.2 listed.dotless, fun c inPath => ?_, unlisted⟩
  obtain rfl | rfl | ⟨name, named, inName⟩ := mem_of_spelling spelled.2 inPath
  · exact .inr (by decide)
  · exact .inr (by decide)
  · exact .inl (listed.letters name named c inName)

theorem session_guard_iff {path : Text} :
    (Session.validPath path = true → normalise path ∉ Session.protectedPaths) ↔
      ¬ Respells Session.protectedPaths path := by
  constructor
  · intro protects respells
    exact protects (session_accepts respells) ((respells_iff protectedPaths_listed).mp respells).2
  · intro known valid leads
    obtain ⟨_, _, _, unlisted⟩ := session_validPath_iff.mp valid
    exact known ((respells_iff protectedPaths_listed).mpr ⟨unlisted, leads⟩)

/-- `valid_path` keeps the listed directories from every path that is not another spelling of
one; so does `valid_root`, and it keeps the toolkit root from every path that does not enter the
root by a spelling that the guard overlooks. -/
theorem guards_protect_iff (toolkitRoot path : Text) :
    ((Session.validPath path = true → normalise path ∉ Session.protectedPaths) ↔
      ¬ Respells Session.protectedPaths path) ∧
    ((Mount.validPath path = true → normalise path ∉ Mount.protectedPaths) ↔
      ¬ Respells Mount.protectedPaths path) ∧
    ((Workspace.validRoot toolkitRoot path = true →
        normalise path ∉ Workspace.protectedRoots ∧ ¬ Within toolkitRoot path) ↔
      ¬ (Overlooked toolkitRoot path ∧
        (Respells Workspace.protectedRoots path ∨ Enters toolkitRoot path))) := by
  refine ⟨session_guard_iff, session_guard_iff, ?_⟩
  rw [validRoot_iff]
  constructor
  · rintro protects ⟨overlooked, respells | enters⟩
    · obtain ⟨d, _, _, spelled⟩ := id respells
      have absolute := (isAbsolute_iff_spelled.mpr spelled).1
      exact (protects ⟨absolute, overlooked⟩).1 ((respells_iff protectedRoots_listed).mp respells).2
    · obtain ⟨_, nonempty, more, spelled⟩ := id enters
      have absolute := (isAbsolute_iff_spelled.mpr ⟨nonempty, spelled⟩).1
      exact (protects ⟨absolute, overlooked⟩).2 ((enters_iff absolute).mp enters)
  · rintro known ⟨absolute, overlooked⟩
    refine ⟨fun leads => known ⟨overlooked, .inl ?_⟩, fun inside => known ⟨overlooked, .inr ?_⟩⟩
    · exact (respells_iff protectedRoots_listed).mpr ⟨overlooked.unlisted, leads⟩
    · exact (enters_iff absolute).mpr inside

/-- A second slash, or a last one, is enough. -/
theorem guards_overlook :
    (Session.validPath "/dev/".toList = true ∧
      normalise "/dev/".toList ∈ Session.protectedPaths) ∧
    (Mount.validPath "//dev".toList = true ∧ normalise "//dev".toList ∈ Mount.protectedPaths) ∧
    (Workspace.validRoot "/opt/vita-toolkit".toList "/opt//vita-toolkit/src".toList = true ∧
      Within "/opt/vita-toolkit".toList "/opt//vita-toolkit/src".toList) := by
  decide +kernel

namespace Workspace

theorem resolveWorkspace_valid {h : Host} {found : Text × Mode}
    (resolved : resolveWorkspace h = .ok found) : validRoot h.toolkitRoot found.1 = true := by
  cases recorded : recordedWorkspace h with
  | error e =>
    rw [resolveWorkspace, recorded] at resolved
    cases resolved
  | ok recorded? =>
    rw [resolveWorkspace, recorded] at resolved
    simp only [bind, Except.bind, pure, Except.pure] at resolved
    split at resolved
    · next valid =>
      cases resolved
      exact valid
    · cases resolved

/-- The last component of a workspace that `clean` removes. -/
theorem clean_name {h : Host} {allowPersistent : Bool} {isDirectory : Text → Bool}
    {workspace : Text} (cleaned : clean h allowPersistent isDirectory = .ok (some workspace)) :
    validRoot h.toolkitRoot workspace = true ∧
      ∃ above, components workspace = above ++ ["vita-workbench".toList] := by
  cases resolved : resolveWorkspace h with
  | error e =>
    rw [clean, resolved] at cleaned
    cases cleaned
  | ok found =>
    have valid := resolveWorkspace_valid resolved
    rw [clean, resolved] at cleaned
    simp only [bind, Except.bind, pure, Except.pure] at cleaned
    split at cleaned
    · cases cleaned
    · split at cleaned
      · cases cleaned
      · split at cleaned
        · next named =>
          cases cleaned
          refine ⟨valid, ?_⟩
          have own : components "vita-workbench".toList = ["vita-workbench".toList] := by
            decide +kernel
          obtain ⟨above, spelled⟩ | ⟨above, spelled⟩ := named
          · refine ⟨components above, ?_⟩
            rw [← spelled, ← own, ← components_slash]
            rfl
          · refine ⟨components above, ?_⟩
            rw [← spelled, ← own, ← List.append_nil (components above ++ _), ← components_nil,
              ← components_slash, ← components_slash]
            simp
        · cases cleaned

/-- The name that `clean` asks for saves the listed directories, whatever `valid_root` overlooks. -/
theorem clean_spares {h : Host} {allowPersistent : Bool} {isDirectory : Text → Bool}
    {workspace : Text} (cleaned : clean h allowPersistent isDirectory = .ok (some workspace)) :
    normalise workspace ∉ protectedRoots := by
  intro leads
  obtain ⟨_, above, last⟩ := clean_name cleaned
  have others : ∀ d ∈ protectedRoots, (components d).getLast? ≠ some "vita-workbench".toList := by
    decide +kernel
  refine others _ leads ?_
  rw [components_normalise, last, List.getLast?_append]
  rfl

end Workspace

end VitaLinux.Toolkit
