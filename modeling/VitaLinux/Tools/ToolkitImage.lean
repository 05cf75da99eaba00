import VitaLinux.Tools.ToolchainListing

/-!
# The image that build-vita-toolkit-squashfs.sh stages

The verified toolchain is copied over the payload, and `MANIFEST` is written: a line for every
regular file and link of the stage, but for those called `MANIFEST`. The text goes where the
path leads to, which for a link of the toolchain is another file.
-/

namespace VitaLinux.Tools.ToolkitImage

open VitaLinux.Base

def MANIFEST : Text := "MANIFEST".toList

/-- Where an opened path leads to. -/
inductive Place where
  | inside (path : Text)
  | outside
  deriving DecidableEq, Repr

/-- The stage before the toolchain is copied, and what the file system does with it. -/
structure Staging where
  /-- `STAGE` -/
  stage : Text
  /-- what has been installed -/
  payload : Tree
  noLinks : ∀ e ∈ payload.entries, ∀ target, e.2.content ≠ .link target
  /-- what paths of the full stage lead to that are spelled otherwise than its entries -/
  elsewhere : Text → Option Node
  /-- where a link or a device leads to when it is opened to be written -/
  follow : Content → Option Place
  /-- the mode of a new file -/
  newMode : Nat

/-- The path that is opened by `: >"$MANIFEST"`. -/
def openManifest (s : Staging) (full : Tree) : Option Place :=
  match full.entries.lookup MANIFEST with
  | none => some (.inside MANIFEST)
  | some n =>
    match n.content with
    | .file _ => some (.inside MANIFEST)
    | .dir _ => none
    | other => s.follow other

/-- The tree with this text in the file that has been opened. -/
def Place.write (place : Place) (tree : Tree) (text : Text) (mode : Nat) : Tree :=
  match place with
  | .inside path => tree.write path text mode
  | .outside => tree

section staging

variable (d : Digest) (s : Staging) (t : Toolchain)

/-- What the loop finds out of a file; a directory has no digest. -/
def describe (rel : Text) (n : Node) : Entry :=
  match n.content with
  | .file bytes =>
    ⟨rel, octal n.mode, Nat.toDigits 10 bytes.length, hashFile d (s.stage ++ '/' :: rel) bytes⟩
  | .link target => ⟨rel, octal n.mode, Nat.toDigits 10 (chomp target).length, d.sha (chomp target)⟩
  | .dir size | .special size => ⟨rel, octal n.mode, Nat.toDigits 10 size, []⟩

/-- `printf '%s %s %s %s\n'`, without the newline -/
def manifestLine (e : Entry) : Text :=
  e.path ++ ' ' :: (e.mode ++ ' ' :: (e.size ++ ' ' :: e.hash))

/-- The text of `MANIFEST` after the loop, from the text before; the file that it is written
to may itself be described. No text if a path leads nowhere. -/
def describeAll (full : Tree) (place : Place) : Text → List Text → Option Text
  | text, [] => some text
  | text, rel :: rest =>
    match (place.write full text s.newMode).nodeAt rel with
    | none => none
    | some n => describeAll full place (text ++ manifestLine (describe d s rel n) ++ ['\n']) rest

/-- The stage with the toolchain in it. -/
def fullStage : Option Tree := Tree.overlay t.tree s.payload s.elsewhere

/-- Where `MANIFEST` is written to. -/
def manifestPlace : Option Place := (fullStage s t).bind (openManifest s)

/-- The staged tree, and the text of its `MANIFEST`. -/
structure Built where
  staged : Tree
  manifest : Text

/-- The script up to its `MANIFEST`. A command that fails has no message of the script's own. -/
def build : Except Text Built := do
  let verified ← verifyToolchain d t
  match verified.find? fun e => (s.payload.nodeAt e.path).isSome with
  | some e => .error ("toolchain path collides with toolkit payload: ".toList ++ e.path)
  | none =>
    match fullStage s t with
    | none => .error []
    | some full =>
      match openManifest s full with
      | none => .error []
      | some place =>
        let listing := findSorted (place.write full [] s.newMode) MANIFEST
        match describeAll d s full place [] listing with
        | none => .error []
        | some manifest => return ⟨place.write full manifest s.newMode, manifest⟩

end staging

/-! ## What a covered stage is -/

/-- A line of `MANIFEST` without its last field. -/
def dropField (line : Text) : Text := (line.rdropWhile (· ≠ ' ')).dropLast

/-- The file that a line of `MANIFEST` is about. -/
def nameOf (line : Text) : Text := dropField (dropField (dropField line))

/-- The paths of the regular files and links. -/
def leafPaths (tree : Tree) : List Text :=
  (tree.entries.filter fun e => e.2.isLeaf).map Prod.fst

/-- Every file of the toolchain is listed as it is, links stay inside, every file is staged
with its content, and every staged file has its line in `MANIFEST`. -/
structure Covered (d : Digest) (t : Toolchain) (built : Built) : Prop where
  listed : Listed d t
  safe : ∀ e ∈ t.tree.entries, ∀ target, e.2.content = .link target → SafeTarget target
  staged : ∀ e ∈ toolFiles t.tree,
    ∃ n, (e.1, n) ∈ built.staged.entries ∧ n.content = e.2.content
  named : ∀ path ∈ leafPaths built.staged, path ≠ MANIFEST →
    ((lines built.manifest).map nameOf).count path = 1

/-- A path that `find ! -name MANIFEST` prints as one line. -/
def Listable (path : Text) : Prop := '\n' ∉ path ∧ basename path ≠ MANIFEST

/-- The files of the stage: the toolchain's, those of the payload at other paths, and the one
that `MANIFEST` is written to. -/
def shipped (s : Staging) (t : Toolchain) (path : Text) : Prop :=
  path ∈ leafPaths t.tree ∨ (path ∈ leafPaths s.payload ∧ path ∉ t.tree.paths) ∨
    manifestPlace s t = some (.inside path)

/-- The script looks at every file, and sees it as it is. -/
structure Sighted (d : Digest) (s : Staging) (t : Toolchain) : Prop where
  seen : Seen d t
  safe : ∀ e ∈ t.tree.entries, basename e.1 = NATIVE_MANIFEST →
    ∀ target, e.2.content = .link target → SafeTarget target
  listable : ∀ path, shipped s t path → path ≠ MANIFEST → Listable path

/-- `MANIFEST` is not written over a file of the toolchain. -/
def Unwritten (s : Staging) (t : Toolchain) : Prop :=
  ∀ e ∈ toolFiles t.tree, manifestPlace s t ≠ some (.inside e.1)

section staging

variable {d : Digest} {s : Staging} {t : Toolchain}

/-! ## The lines of MANIFEST -/

theorem not_mem_toDigits {c : Char} (other : c.isDigit = false) {base : Nat} (positive : 0 < base)
    (small : base ≤ 10) (n : Nat) : c ∉ Nat.toDigits base n := by
  intro member
  have digit := Nat.isDigit_of_mem_toDigits positive small member
  rw [other] at digit
  cases digit

theorem not_mem_sha {c : Char} (other : isHex c = false) (text : Text) : c ∉ d.sha text := by
  intro member
  have digit := d.hex text c member
  rw [other] at digit
  cases digit

theorem not_mem_hashFile {c : Char} (other : isHex c = false) (unescaped : c ≠ '\\')
    (path bytes : Text) : c ∉ hashFile d path bytes := by
  rw [hashFile, List.mem_append, not_or]
  refine ⟨?_, not_mem_sha other bytes⟩
  split
  · exact fun member => unescaped (List.mem_singleton.mp member)
  · exact List.not_mem_nil

/-- No field after the name has the character in it. -/
structure Entry.Without (c : Char) (e : Entry) : Prop where
  mode : c ∉ e.mode
  size : c ∉ e.size
  hash : c ∉ e.hash

theorem describe_without {c : Char} (other : isHex c = false) (unescaped : c ≠ '\\') (rel : Text)
    (n : Node) : (describe d s rel n).Without c := by
  have digit : c.isDigit = false := by
    rw [isHex, Bool.or_eq_false_iff, Bool.or_eq_false_iff] at other
    exact other.1.1
  have mode : c ∉ octal n.mode := not_mem_toDigits digit (by omega) (by omega) n.mode
  have number (size : Nat) : c ∉ Nat.toDigits 10 size := not_mem_toDigits digit (by omega) (by omega) size
  unfold describe
  split
  · exact ⟨mode, number _, not_mem_hashFile other unescaped _ _⟩
  · exact ⟨mode, number _, not_mem_sha other _⟩
  · exact ⟨mode, number _, List.not_mem_nil⟩
  · exact ⟨mode, number _, List.not_mem_nil⟩

theorem describe_path (rel : Text) (n : Node) : (describe d s rel n).path = rel := by
  unfold describe
  split <;> rfl

theorem dropField_field {field : Text} (plain : ' ' ∉ field) (front : Text) :
    dropField (front ++ ' ' :: field) = front := by
  have kept : (front ++ ' ' :: field).rdropWhile (· ≠ ' ') = front ++ [' '] := by
    induction field using List.reverseRecOn with
    | nil => exact List.rdropWhile_concat_neg _ _ _ (by simp)
    | append_singleton field c ih =>
      rw [List.mem_append, not_or, List.mem_singleton] at plain
      have passed : decide (c ≠ ' ') = true := decide_eq_true (Ne.symm plain.2)
      rw [← List.cons_append, ← List.append_assoc, List.rdropWhile_concat_pos _ _ c passed,
        ih plain.1]
  rw [dropField, kept, List.dropLast_concat]

theorem nameOf_manifestLine {e : Entry} (spaceless : e.Without ' ') :
    nameOf (manifestLine e) = e.path := by
  have fields : manifestLine e =
      ((e.path ++ ' ' :: e.mode) ++ ' ' :: e.size) ++ ' ' :: e.hash := by
    simp [manifestLine]
  rw [nameOf, fields, dropField_field spaceless.hash, dropField_field spaceless.size,
    dropField_field spaceless.mode]

theorem manifestLine_whole {e : Entry} (whole : '\n' ∉ e.path) (others : e.Without '\n') :
    '\n' ∉ manifestLine e := by
  simp [manifestLine, whole, others.mode, others.size, others.hash]

/-- The loop has added a line for each of the paths. -/
theorem describeAll_lines {full : Tree} {place : Place} {rels : List Text} {text out : Text}
    (done : describeAll d s full place text rels = some out) :
    ∃ es : List Entry, es.map Entry.path = rels ∧ out = text ++ unlines (es.map manifestLine) ∧
      ∀ e ∈ es, ∃ rel n, e = describe d s rel n := by
  induction rels generalizing text with
  | nil => exact ⟨[], rfl, by simpa [unlines, describeAll] using done.symm, by simp⟩
  | cons rel rest ih =>
    rw [describeAll] at done
    split at done
    · cases done
    next n found =>
    obtain ⟨es, paths, rfl, described⟩ := ih done
    refine ⟨describe d s rel n :: es, ?_, ?_, ?_⟩
    · rw [List.map_cons, describe_path, paths]
    · simp [unlines]
    · exact List.forall_mem_cons.mpr ⟨⟨rel, n, rfl⟩, described⟩

/-- The names in `MANIFEST` are the paths that the loop has gone through. -/
theorem names_describeAll {full : Tree} {place : Place} {rels : List Text} {out : Text}
    (done : describeAll d s full place [] rels = some out) (whole : ∀ rel ∈ rels, '\n' ∉ rel) :
    (lines out).map nameOf = rels := by
  obtain ⟨es, rfl, rfl, described⟩ := describeAll_lines done
  have without : ∀ {c : Char}, isHex c = false → c ≠ '\\' → ∀ e ∈ es, e.Without c := by
    intro c other unescaped e member
    obtain ⟨rel, n, rfl⟩ := described e member
    exact describe_without other unescaped rel n
  have lineWhole : ∀ line ∈ es.map manifestLine, '\n' ∉ line := by
    intro line member
    obtain ⟨e, listed, rfl⟩ := List.mem_map.mp member
    exact manifestLine_whole (whole e.path (List.mem_map_of_mem listed))
      (without rfl (by simp) e listed)
  rw [List.nil_append, lines_unlines lineWhole, List.map_map]
  exact List.map_congr_left fun e member => nameOf_manifestLine (without rfl (by simp) e member)

/-! ## The files of the stage -/

theorem basename_MANIFEST : basename MANIFEST = MANIFEST := by
  decide +kernel

theorem mem_leafPaths {tree : Tree} {path : Text} :
    path ∈ leafPaths tree ↔ ∃ e ∈ tree.entries, e.2.isLeaf = true ∧ e.1 = path := by
  simp [leafPaths, and_assoc]

theorem leafPaths_write {place : Place} {tree : Tree} {text path : Text} {mode : Nat} :
    path ∈ leafPaths (place.write tree text mode) ↔
      place = .inside path ∨ path ∈ leafPaths tree := by
  cases place with
  | outside => simp [Place.write]
  | inside written =>
    by_cases same : written = path
    · obtain ⟨n, member, content⟩ := tree.exists_write written text mode
      have leaf : n.isLeaf = true := by rw [Node.isLeaf, content]
      exact iff_of_true (mem_leafPaths.mpr ⟨_, member, leaf, same⟩) (.inl (congrArg _ same))
    · rw [or_iff_right (fun inside => same (Place.inside.inj inside)), mem_leafPaths, mem_leafPaths]
      refine exists_congr fun e => and_congr_left ?_
      rintro ⟨-, rfl⟩
      exact Tree.mem_write (Ne.symm same)

theorem leafPaths_overlay {top bottom merged : Tree} {elsewhere : Text → Option Node}
    (copied : Tree.overlay top bottom elsewhere = some merged) {path : Text} :
    path ∈ leafPaths merged ↔
      path ∈ leafPaths top ∨ (path ∈ leafPaths bottom ∧ path ∉ top.paths) := by
  simp only [mem_leafPaths, Tree.mem_overlay copied]
  constructor
  · rintro ⟨e, above | ⟨below, fresh⟩, leaf, rfl⟩
    · exact .inl ⟨e, above, leaf, rfl⟩
    · exact .inr ⟨⟨e, below, leaf, rfl⟩, fresh⟩
  · rintro (⟨e, above, leaf, rfl⟩ | ⟨⟨e, below, leaf, rfl⟩, fresh⟩)
    · exact ⟨e, .inl above, leaf, rfl⟩
    · exact ⟨e, .inr ⟨below, fresh⟩, leaf, rfl⟩

theorem mem_findLeaves {tree : Tree} {excluded path : Text} :
    path ∈ (findLeaves tree excluded).map Prod.fst ↔
      path ∈ leafPaths tree ∧ basename path ≠ excluded := by
  simp only [findLeaves, List.mem_map, List.mem_filter, decide_eq_true_iff, mem_leafPaths]
  constructor
  · rintro ⟨e, ⟨member, leaf, other⟩, rfl⟩
    exact ⟨⟨e, member, leaf, rfl⟩, other⟩
  · rintro ⟨⟨e, member, leaf, rfl⟩, other⟩
    exact ⟨e, ⟨member, leaf, other⟩, rfl⟩

theorem findLeaves_whole {tree : Tree}
    (whole : ∀ path ∈ leafPaths tree, path ≠ MANIFEST → '\n' ∉ path) :
    ∀ e ∈ findLeaves tree MANIFEST, '\n' ∉ e.1 := by
  intro e member
  obtain ⟨leaf, other⟩ := mem_findLeaves.mp (List.mem_map_of_mem member)
  exact whole e.1 leaf fun same => other (same ▸ basename_MANIFEST)

/-- Every file is found once exactly when each has a path that is printed as one line. -/
theorem count_findSorted_iff (tree : Tree) :
    (∀ path ∈ leafPaths tree, path ≠ MANIFEST → (findSorted tree MANIFEST).count path = 1) ↔
      ∀ path ∈ leafPaths tree, path ≠ MANIFEST → Listable path := by
  constructor
  · intro once
    have found : ∀ path ∈ leafPaths tree, path ≠ MANIFEST → path ∈ findSorted tree MANIFEST :=
      fun path leaf other => List.count_pos_iff.mp (by rw [once path leaf other]; exact one_pos)
    have whole := findLeaves_whole fun path leaf other => findSorted_whole (found path leaf other)
    intro path leaf other
    have listed := (findSorted_perm whole).mem_iff.mp (found path leaf other)
    exact ⟨findSorted_whole (found path leaf other), (mem_findLeaves.mp listed).2⟩
  · intro listable path leaf other
    have whole := findLeaves_whole fun path leaf other => (listable path leaf other).1
    rw [(findSorted_perm whole).count_eq]
    refine List.count_eq_one_of_mem (findLeaves_nodup tree MANIFEST) ?_
    exact mem_findLeaves.mpr ⟨leaf, (listable path leaf other).2⟩

/-! ## What an accepted toolchain has gone through -/

/-- The steps of a build that ends well. -/
structure Made (d : Digest) (s : Staging) (t : Toolchain) (built : Built) (es : List Entry)
    (full : Tree) (place : Place) : Prop where
  verified : verifyToolchain d t = .ok es
  copied : fullStage s t = some full
  opened : openManifest s full = some place
  described : describeAll d s full place [] (findSorted (place.write full [] s.newMode) MANIFEST) =
    some built.manifest
  staged : built.staged = place.write full built.manifest s.newMode

theorem build_ok {built : Built} (ok : build d s t = .ok built) :
    ∃ es full place, Made d s t built es full place := by
  unfold build at ok
  cases verified : verifyToolchain d t with
  | error message =>
    rw [verified] at ok
    cases ok
  | ok es =>
    rw [verified] at ok
    simp only [bind, Except.bind] at ok
    split at ok
    · cases ok
    split at ok
    · cases ok
    next full copied =>
    split at ok
    · cases ok
    next place opened =>
    split at ok
    · cases ok
    next manifest described =>
    cases ok
    exact ⟨es, full, place, verified, copied, opened, described, rfl⟩

section made

variable {built : Built} {es : List Entry} {full : Tree} {place : Place}

theorem Made.manifestPlace (made : Made d s t built es full place) :
    manifestPlace s t = some place := by
  rw [ToolkitImage.manifestPlace, made.copied]
  exact made.opened

/-- The text that is in the file does not matter for what is there. -/
theorem Made.shipped_iff (made : Made d s t built es full place) {text path : Text} :
    path ∈ leafPaths (place.write full text s.newMode) ↔ shipped s t path := by
  rw [leafPaths_write, leafPaths_overlay made.copied, shipped, made.manifestPlace,
    Option.some_inj]
  tauto

theorem Made.named_iff (made : Made d s t built es full place) :
    (∀ path ∈ leafPaths built.staged, path ≠ MANIFEST →
        ((lines built.manifest).map nameOf).count path = 1) ↔
      ∀ path, shipped s t path → path ≠ MANIFEST → Listable path := by
  have found := count_findSorted_iff (place.write full [] s.newMode)
  simp only [made.shipped_iff] at found
  rw [names_describeAll made.described fun _ => findSorted_whole, made.staged]
  simpa only [made.shipped_iff] using found

/-- A file of the toolchain keeps its content unless `MANIFEST` is written over it. -/
theorem Made.staged_iff (made : Made d s t built es full place) :
    (∀ e ∈ toolFiles t.tree, ∃ n, (e.1, n) ∈ built.staged.entries ∧ n.content = e.2.content) ↔
      ∀ e ∈ toolFiles t.tree, ToolkitImage.manifestPlace s t = some (.inside e.1) →
        e.2.content = .file built.manifest := by
  rw [made.manifestPlace, made.staged]
  refine forall₂_congr fun e member => ?_
  have inFull : e ∈ full.entries :=
    (Tree.mem_overlay made.copied).mpr (.inl (List.mem_filter.mp member).1)
  cases place with
  | outside => exact iff_of_true ⟨e.2, inFull, rfl⟩ nofun
  | inside path =>
    by_cases same : path = e.1
    · subst same
      constructor
      · rintro ⟨n, written, content⟩ -
        rw [← content, Tree.content_write written]
      · intro kept
        obtain ⟨n, written, content⟩ := full.exists_write e.1 built.manifest s.newMode
        exact ⟨n, written, content.trans (kept rfl).symm⟩
    · refine iff_of_true ⟨e.2, (Tree.mem_write (Ne.symm same)).mpr inFull, rfl⟩ ?_
      intro inside
      exact absurd (Place.inside.inj (Option.some.inj inside)) same

end made

theorem safe_iff {es : List Entry} (ok : verifyToolchain d t = .ok es) (seen : Seen d t) :
    (∀ e ∈ t.tree.entries, ∀ target, e.2.content = .link target → SafeTarget target) ↔
      ∀ e ∈ t.tree.entries, basename e.1 = NATIVE_MANIFEST →
        ∀ target, e.2.content = .link target → SafeTarget target := by
  constructor
  · exact fun safe e member _ => safe e member
  · intro safe e member target link
    by_cases namesake : basename e.1 = NATIVE_MANIFEST
    · exact safe e member namesake target link
    · have leaf : e.2.isLeaf = true := by rw [Node.isLeaf, link]
      have looked : e ∈ findLeaves t.tree NATIVE_MANIFEST :=
        List.mem_filter.mpr ⟨member, decide_eq_true ⟨leaf, namesake⟩⟩
      exact safe_of_verified ok seen looked link

/-- An accepted toolchain is covered if the script sees every file as it is and `MANIFEST` is
not written over one of them. Nothing of that can be left out, but for a file that has been
written over with just the text that it had. -/
theorem covered_of_sighted {built : Built} (ok : build d s t = .ok built) :
    (Sighted d s t ∧ Unwritten s t → Covered d t built) ∧
      (Covered d t built → Sighted d s t ∧ ∀ e ∈ toolFiles t.tree,
        manifestPlace s t = some (.inside e.1) → e.2.content = .file built.manifest) := by
  obtain ⟨es, full, place, made⟩ := build_ok ok
  constructor
  · rintro ⟨sighted, unwritten⟩
    exact {
      listed := (listed_iff made.verified).mpr sighted.seen
      safe := (safe_iff made.verified sighted.seen).mpr sighted.safe
      staged := made.staged_iff.mpr fun e member written => absurd written (unwritten e member)
      named := made.named_iff.mpr sighted.listable }
  · intro covered
    have seen := (listed_iff made.verified).mp covered.listed
    exact ⟨{
      seen := seen
      safe := (safe_iff made.verified seen).mp covered.safe
      listable := made.named_iff.mp covered.named }, made.staged_iff.mp covered.staged⟩

end staging

/-! ## A toolchain of empty files -/

def emptySha : Text :=
  hexText 64 0xe3b0c44298fc1c149afbf4c8996fb92427ae41e4649b934ca495991b7852b855

def emptyFile : Node := ⟨493, .file []⟩

def directory : Node := ⟨493, .dir 4096⟩

/-- The files that are required, in the order of a manifest. -/
def samplePaths : List Text := required.insertionSort (· ≤ ·)

def sampleDirectories : List Text :=
  ["bin", "lib", "lib/tcc", "lib/tcc/include", "share", "share/native-toolchain", "sysroot",
    "sysroot/usr", "sysroot/usr/include", "sysroot/usr/lib"].map String.toList

def sampleManifest : Text :=
  unlines (samplePaths.map fun path => manifestLine ⟨path, octal 493, Nat.toDigits 10 0, emptySha⟩)

/-- The digests of the empty text and of the manifest. -/
def sampleDigest : Digest where
  sha text :=
    if text = [] then emptySha
    else if text = sampleManifest then
      hexText 64 0x6e04072944afb933a778690250c92d01eadf4950248f6dbd171cba5ad871c807
    else []
  escapes c := c = '\\' || c = '\n' || c = '\r'
  hex text := by
    split
    · exact isHex_hexText 64 _
    · split
      · exact isHex_hexText 64 _
      · simp

def sampleEntries : List TreeEntry :=
  (NATIVE_MANIFEST, ⟨420, .file sampleManifest⟩) ::
    (samplePaths.map (·, emptyFile) ++ sampleDirectories.map (·, directory))

def sampleTree : Tree := ⟨sampleEntries, by decide +kernel, fun _ => none⟩

def sample (tree : Tree) : Toolchain where
  root := "/work/native".toList
  tree := tree
  manifest := sampleManifest
  isDirectory := true
  manifestIsFile := true
  present path := samplePaths.contains path

def sampleStaging : Staging where
  stage := "/tmp/stage".toList
  payload := ⟨[("bin".toList, directory), ("VERSION".toList, emptyFile)], by simp, fun _ => none⟩
  noLinks := by simp [emptyFile, directory]
  elsewhere _ := none
  follow _ := none
  newMode := 420

theorem exists_of_isOk {ε α : Type} {r : Except ε α} (good : r.isOk = true) : ∃ a, r = .ok a := by
  cases r with
  | error e => cases good
  | ok a => exact ⟨a, rfl⟩

instance (root : Text) (e : TreeEntry) : Decidable (Plain sampleDigest root e) := by
  unfold Plain
  split <;> infer_instance

theorem sample_place : manifestPlace sampleStaging (sample sampleTree) = some (.inside MANIFEST) := by
  decide +kernel

theorem sample_entries : ∀ e ∈ sampleEntries,
    '\n' ∉ e.1 ∧ basename e.1 ≠ MANIFEST ∧ Plain sampleDigest (sample sampleTree).root e := by
  decide +kernel

theorem sample_sighted : Sighted sampleDigest sampleStaging (sample sampleTree) where
  seen := {
    whole := fun e found => (sample_entries e (List.mem_filter.mp found).1).1
    plain := fun e found => (sample_entries e (List.mem_filter.mp found).1).2.2
    namesakes := by decide +kernel }
  safe := by
    intro e member _ target link
    obtain rfl | files := List.mem_cons.mp member
    · cases link
    obtain file | dir := List.mem_append.mp files
    · obtain ⟨path, -, rfl⟩ := List.mem_map.mp file
      cases link
    · obtain ⟨path, -, rfl⟩ := List.mem_map.mp dir
      cases link
  listable := by
    rintro path (tool | ⟨payload, -⟩ | written) other
    · obtain ⟨e, member, -, rfl⟩ := mem_leafPaths.mp tool
      obtain ⟨whole, different, -⟩ := sample_entries e member
      exact ⟨whole, different⟩
    · have version : ∀ path ∈ leafPaths sampleStaging.payload,
          '\n' ∉ path ∧ basename path ≠ MANIFEST := by decide +kernel
      exact version path payload
    · rw [sample_place] at written
      exact absurd (Place.inside.inj (Option.some.inj written)).symm other

theorem covered_of_sighted_sample : ∃ built,
    build sampleDigest sampleStaging (sample sampleTree) = .ok built ∧
      Covered sampleDigest (sample sampleTree) built := by
  obtain ⟨built, ok⟩ := exists_of_isOk
    (by decide +kernel : (build sampleDigest sampleStaging (sample sampleTree)).isOk = true)
  have unwritten : Unwritten sampleStaging (sample sampleTree) := by
    intro e member written
    rw [sample_place] at written
    have path := Place.inside.inj (Option.some.inj written)
    exact (sample_entries e (List.mem_filter.mp member).1).2.1 (path ▸ basename_MANIFEST)
  exact ⟨built, ok, (covered_of_sighted ok).1 ⟨sample_sighted, unwritten⟩⟩

/-- A file of the manifest's name in a directory is in no listing, and is shipped. -/
theorem namesake_not_covered :
    ¬ ∀ d s t built, build d s t = .ok built → Covered d t built := by
  intro covers
  let entries := ("lib/NATIVE-TOOLCHAIN-MANIFEST".toList, emptyFile) :: sampleEntries
  let t := sample ⟨entries, by decide +kernel, fun _ => none⟩
  obtain ⟨built, ok⟩ := exists_of_isOk
    (by decide +kernel : (build sampleDigest sampleStaging t).isOk = true)
  have listed := (covers _ _ _ _ ok).listed.length_eq
  have different : ((lines t.manifest).filterMap parseEntry).length ≠
      ((toolFiles t.tree).filterMap (record sampleDigest)).length := by decide +kernel
  exact different listed

end VitaLinux.Tools.ToolkitImage
