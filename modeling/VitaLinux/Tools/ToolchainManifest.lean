import Mathlib.Data.Char
import Mathlib.Data.List.Lex
import Mathlib.Data.List.Sort
import VitaLinux.Base.FileTrees
import VitaLinux.Base.Hexadecimal

/-!
# The toolchain of build-vita-toolkit-squashfs.sh

The script goes through the lines of `NATIVE-TOOLCHAIN-MANIFEST`, compares each with the file
that it names, and then compares the names with what `find` prints of the tree. The commands
that look at a file that is there succeed.
-/

namespace VitaLinux.Tools.ToolkitImage

open VitaLinux.Base

/-- The digest of a text, and the characters of a path for which sha256sum escapes its line. -/
structure Digest where
  sha : Text → Text
  escapes : Char → Bool
  hex : ∀ text, ∀ c ∈ sha text, isHex c = true

/-- What is stated of a file. -/
structure Entry where
  path : Text
  mode : Text
  size : Text
  hash : Text
  deriving DecidableEq, Repr

def NATIVE_MANIFEST : Text := "NATIVE-TOOLCHAIN-MANIFEST".toList

def octal (n : Nat) : Text := Nat.toDigits 8 n

/-- `IFS=' ' read -r rel expected_mode expected_size expected_hash extra` -/
def blankPieces (line : Text) : List Text := (line.splitOn ' ').filter (· ≠ [])

/-- A line of four pieces. -/
def parseEntry (line : Text) : Option Entry :=
  match blankPieces line with
  | [rel, mode, size, hash] => some ⟨rel, mode, size, hash⟩
  | _ => none

/-- The patterns `/*`, `..`, `../*`, `*/../*` and `*/..`. -/
def climbs (text : Text) : Bool :=
  decide ("/".toList <+: text) || decide (text = "..".toList) || decide ("../".toList <+: text) ||
    decide ("/../".toList <:+: text) || decide ("/..".toList <:+ text)

def unsafePath (rel : Text) : Bool := climbs rel || rel.contains ' ' || rel.contains '\t'

/-- The toolchain tree, and the text of its manifest. -/
structure Toolchain where
  /-- `TOOLCHAIN_ROOT` -/
  root : Text
  tree : Tree
  manifest : Text
  isDirectory : Bool
  manifestIsFile : Bool
  /-- `[ -e "$TOOLCHAIN_ROOT/$required" ]` -/
  present : Text → Bool

def required : List Text :=
  ["bin/tcc", "bin/cc", "toolchain-env.sh", "lib/tcc/libtcc1.a", "lib/tcc/runmain.o",
    "lib/tcc/include/tccdefs.h", "lib/tcc/include/tcclib.h", "sysroot/usr/include/stdio.h",
    "sysroot/usr/lib/crt1.o", "sysroot/usr/lib/libc.so",
    "share/native-toolchain/BUILD-INFO"].map String.toList

section verification

variable (d : Digest)

def hashFile (path bytes : Text) : Text :=
  (if path.any d.escapes then ['\\'] else []) ++ d.sha bytes

/-- What the script finds out of a file at `root/rel`; a link is read by `$(readlink)`. -/
def observe (root rel : Text) (n : Node) : Option Entry :=
  match n.content with
  | .file bytes =>
    some ⟨rel, octal n.mode, Nat.toDigits 10 bytes.length, hashFile d (root ++ '/' :: rel) bytes⟩
  | .link target =>
    some ⟨rel, octal n.mode, Nat.toDigits 10 (chomp target).length, d.sha (chomp target)⟩
  | _ => none

/-- The target of a link that the script refuses. -/
def unsafeLink (n : Node) : Option Text :=
  match n.content with
  | .link target => if climbs (chomp target) then some (chomp target) else none
  | _ => none

/-- One turn of the loop, with the path of the turn before. -/
def verifyEntry (t : Toolchain) (previous : Text) (e : Entry) : Except Text Unit :=
  if unsafePath e.path then .error ("unsafe toolchain manifest path: ".toList ++ e.path)
  else if e.path = previous then .error ("duplicate toolchain manifest path: ".toList ++ e.path)
  else
    match t.tree.nodeAt e.path with
    | none => .error ("toolchain manifest path is missing: ".toList ++ e.path)
    | some n =>
      match observe d t.root e.path n with
      | none => .error ("toolchain manifest path is missing: ".toList ++ e.path)
      | some actual =>
        match unsafeLink n with
        | some target =>
          .error ("unsafe toolchain symlink: ".toList ++ e.path ++ " -> ".toList ++ target)
        | none =>
          if actual.mode ≠ e.mode then
            .error ("toolchain manifest mode mismatch: ".toList ++ e.path)
          else if actual.size ≠ e.size then
            .error ("toolchain manifest size mismatch: ".toList ++ e.path)
          else if actual.hash ≠ e.hash then
            .error ("toolchain manifest hash mismatch: ".toList ++ e.path)
          else .ok ()

def verifyLines (t : Toolchain) : Text → List Text → Except Text (List Entry)
  | _, [] => .ok []
  | previous, line :: rest =>
    match parseEntry line with
    | none =>
      .error ("malformed toolchain manifest entry: ".toList ++ (blankPieces line).headD [])
    | some e => do
      verifyEntry d t previous e
      let others ← verifyLines t e.path rest
      return e :: others

/-- `sed 's|^\./||'` on a line -/
def withoutDot (line : Text) : Text := if "./".toList <+: line then line.drop 2 else line

/-- `find . \( -type f -o -type l \) ! -name excluded` -/
def findLeaves (tree : Tree) (excluded : Text) : List TreeEntry :=
  tree.entries.filter fun e => e.2.isLeaf ∧ basename e.1 ≠ excluded

/-- What has been found, as `-print | sed 's|^\./||' | LC_ALL=C sort` gives it. -/
def findSorted (tree : Tree) (excluded : Text) : List Text :=
  ((findLeaves tree excluded).flatMap fun e =>
    (("./".toList ++ e.1).splitOn '\n').map withoutDot).insertionSort (· ≤ ·)

/-- `(^|/)(\.git|\.ssh|local)(/|$)|wpa_supplicant` -/
def forbidden (rel : Text) : Bool :=
  (rel.splitOn '/').any (fun c => [".git".toList, ".ssh".toList, "local".toList].contains c) ||
    decide ("wpa_supplicant".toList <:+: rel)

/-- The entries that have been verified. -/
def verifyToolchain (t : Toolchain) : Except Text (List Entry) := do
  if ¬ t.isDirectory then .error ("missing toolchain root: ".toList ++ t.root)
  else if ¬ t.manifestIsFile then
    .error ("missing toolchain manifest: ".toList ++ t.root ++ '/' :: NATIVE_MANIFEST)
  else
    match required.find? fun path => ¬ t.present path with
    | some path => .error ("toolchain manifest root lacks ".toList ++ path)
    | none =>
      let verified ← verifyLines d t [] (readLines t.manifest)
      let listed := verified.map Entry.path
      if ¬ listed.IsChain (· ≤ ·) then .error "toolchain manifest is not sorted".toList
      else if unlines listed ≠ unlines (findSorted t.tree NATIVE_MANIFEST) then
        .error "toolchain manifest does not cover the exact file set".toList
      else if listed.any forbidden then
        .error "toolchain manifest contains forbidden local material".toList
      else return verified

/-! ## What has been verified -/

/-- The entry is what the script finds out of the node, and no unsafe link. -/
structure Verified (t : Toolchain) (e : Entry) (n : Node) : Prop where
  found : t.tree.nodeAt e.path = some n
  observed : observe d t.root e.path n = some e
  safe : unsafeLink n = none

variable {d} {t : Toolchain}

theorem observe_path {root rel : Text} {n : Node} {e : Entry} (observed : observe d root rel n = some e) :
    e.path = rel := by
  unfold observe at observed
  split at observed
  · rw [← Option.some.inj observed]
  · rw [← Option.some.inj observed]
  · cases observed

theorem verifyEntry_ok {previous : Text} {e : Entry} (ok : verifyEntry d t previous e = .ok ()) :
    ∃ n, Verified d t e n := by
  unfold verifyEntry at ok
  split at ok
  · cases ok
  split at ok
  · cases ok
  split at ok
  · cases ok
  next n found =>
  split at ok
  · cases ok
  next actual observed =>
  split at ok
  · cases ok
  next safe =>
  split at ok
  · cases ok
  next mode =>
  split at ok
  · cases ok
  next size =>
  split at ok
  · cases ok
  next hash =>
  have same : actual = e := by
    obtain ⟨path, actualMode, actualSize, actualHash⟩ := actual
    obtain ⟨rel, expectedMode, expectedSize, expectedHash⟩ := e
    rw [Entry.mk.injEq]
    exact ⟨observe_path observed, not_not.mp mode, not_not.mp size, not_not.mp hash⟩
  exact ⟨n, found, same ▸ observed, safe⟩

theorem verifyLines_ok {previous : Text} {ls : List Text} {es : List Entry}
    (ok : verifyLines d t previous ls = .ok es) :
    ls.map parseEntry = es.map some ∧ ∀ e ∈ es, ∃ n, Verified d t e n := by
  induction ls generalizing previous es with
  | nil =>
    obtain rfl := Except.ok.inj ok
    exact ⟨rfl, by simp⟩
  | cons line rest ih =>
    unfold verifyLines at ok
    split at ok
    · cases ok
    next e parsed =>
    cases checked : verifyEntry d t previous e with
    | error message =>
      rw [checked] at ok
      cases ok
    | ok _ =>
      cases later : verifyLines d t e.path rest with
      | error message =>
        rw [checked, later] at ok
        cases ok
      | ok others =>
        rw [checked, later] at ok
        cases ok
        obtain ⟨read, verified⟩ := ih later
        refine ⟨by rw [List.map_cons, List.map_cons, parsed, read], ?_⟩
        exact List.forall_mem_cons.mpr ⟨verifyEntry_ok checked, verified⟩

theorem verifyToolchain_ok {es : List Entry} (ok : verifyToolchain d t = .ok es) :
    (readLines t.manifest).map parseEntry = es.map some ∧ (∀ e ∈ es, ∃ n, Verified d t e n) ∧
      unlines (es.map Entry.path) = unlines (findSorted t.tree NATIVE_MANIFEST) := by
  unfold verifyToolchain at ok
  split at ok
  · cases ok
  split at ok
  · cases ok
  split at ok
  · cases ok
  cases checked : verifyLines d t [] (readLines t.manifest) with
  | error message =>
    rw [checked] at ok
    cases ok
  | ok verified =>
    rw [checked] at ok
    simp only [bind, Except.bind, pure, Except.pure] at ok
    split at ok
    · cases ok
    split at ok
    · cases ok
    next same =>
    split at ok
    · cases ok
    cases ok
    obtain ⟨read, each⟩ := verifyLines_ok checked
    exact ⟨read, each, not_not.mp same⟩

end verification

end VitaLinux.Tools.ToolkitImage
