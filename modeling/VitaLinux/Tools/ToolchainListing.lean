import VitaLinux.Base.ParentSteps
import VitaLinux.Base.Quoted
import VitaLinux.Tools.ToolchainManifest

/-!
# What a verified manifest lists

The script reads the manifest up to its last newline, leaves out every file that is called
`NATIVE-TOOLCHAIN-MANIFEST`, at whatever depth, and sees file names and link targets as other
commands print them. With these in place the manifest lists the files as they are.
-/

namespace VitaLinux.Tools.ToolkitImage

open VitaLinux.Base

/-- The regular files and links of a tree, but for the manifest at its root. -/
def toolFiles (tree : Tree) : List TreeEntry :=
  tree.entries.filter fun e => e.2.isLeaf ∧ e.1 ≠ NATIVE_MANIFEST

/-- Those that have the manifest's name in another directory. -/
def namesakes (tree : Tree) : List TreeEntry :=
  (toolFiles tree).filter fun e => basename e.1 = NATIVE_MANIFEST

/-- The target is relative and has no `..` component. -/
def SafeTarget (target : Text) : Prop :=
  isAbsolute target = false ∧ parent ∉ components target

instance (target : Text) : Decidable (SafeTarget target) := inferInstanceAs (Decidable (_ ∧ _))

section listing

variable (d : Digest)

/-- An entry of the tree as it is. -/
def record (e : TreeEntry) : Option Entry :=
  match e.2.content with
  | .file bytes => some ⟨e.1, octal e.2.mode, Nat.toDigits 10 bytes.length, d.sha bytes⟩
  | .link target => some ⟨e.1, octal e.2.mode, Nat.toDigits 10 target.length, d.sha target⟩
  | _ => none

/-- A file whose digest line needs no escapes, or a link whose target ends in no newline. -/
def Plain (root : Text) (e : TreeEntry) : Prop :=
  match e.2.content with
  | .file _ => (root ++ '/' :: e.1).any d.escapes = false
  | .link target => chomp target = target
  | _ => True

/-- The entry in a last line without a newline, which is not read. -/
def unread (t : Toolchain) : Option Entry := parseEntry (incompleteLine t.manifest)

/-- Every file is listed once as it is, and nothing else. -/
def Listed (t : Toolchain) : Prop :=
  ((lines t.manifest).filterMap parseEntry).Perm ((toolFiles t.tree).filterMap (record d))

/-- What the script sees of the files is what they are. -/
structure Seen (t : Toolchain) : Prop where
  whole : ∀ e ∈ findLeaves t.tree NATIVE_MANIFEST, '\n' ∉ e.1
  plain : ∀ e ∈ findLeaves t.tree NATIVE_MANIFEST, Plain d t.root e
  /-- no namesake and no entry that is not read, or the one is the other's record -/
  namesakes : (namesakes t.tree).filterMap (record d) = (unread t).toList

end listing

/-! ## Names -/

theorem parseEntry_whole {line : Text} {e : Entry} (parsed : parseEntry line = some e)
    (whole : '\n' ∉ line) : '\n' ∉ e.path := by
  unfold parseEntry at parsed
  split at parsed
  case h_2 => cases parsed
  case h_1 rel mode size hash pieces =>
    cases parsed
    have piece : rel ∈ line.splitOn ' ' :=
      (List.mem_filter.mp (pieces ▸ List.mem_cons_self : rel ∈ blankPieces line)).1
    have inside := infix_intercalate [' '] piece
    rw [List.intercalate_splitOn] at inside
    exact fun member => whole (inside.subset member)

theorem withoutDot_dot (path : Text) : withoutDot ("./".toList ++ path) = path :=
  if_pos (List.prefix_append _ _)

/-- What `find` prints of a name without a newline is one line. -/
theorem found_lines {path : Text} (whole : '\n' ∉ path) :
    (("./".toList ++ path).splitOn '\n').map withoutDot = [path] := by
  have printed : '\n' ∉ "./".toList ++ path := by simp [whole]
  rw [List.splitOn_eq_singleton printed, List.map_singleton, withoutDot_dot]

theorem findSorted_perm {tree : Tree} {excluded : Text}
    (whole : ∀ e ∈ findLeaves tree excluded, '\n' ∉ e.1) :
    (findSorted tree excluded).Perm ((findLeaves tree excluded).map Prod.fst) := by
  refine (List.perm_insertionSort _ _).trans (List.Perm.of_eq ?_)
  rw [List.map_eq_flatMap]
  exact List.flatMap_congr fun e member => found_lines (whole e member)

theorem findSorted_whole {tree : Tree} {excluded line : Text}
    (member : line ∈ findSorted tree excluded) : '\n' ∉ line := by
  rw [findSorted, List.mem_insertionSort, List.mem_flatMap] at member
  obtain ⟨e, -, found⟩ := member
  obtain ⟨piece, cut, rfl⟩ := List.mem_map.mp found
  have plain := not_mem_of_mem_splitOn cut
  unfold withoutDot
  split
  · exact fun inside => plain (List.mem_of_mem_drop inside)
  · exact plain

theorem findLeaves_nodup (tree : Tree) (excluded : Text) :
    ((findLeaves tree excluded).map Prod.fst).Nodup :=
  tree.unique.sublist (List.filter_sublist.map Prod.fst)

theorem toDigits_injective {m n : Nat} (same : Nat.toDigits 10 m = Nat.toDigits 10 n) : m = n := by
  have read := congrArg (Nat.ofDigitChars 10 · 0) same
  simpa [Nat.ofDigitChars_ten_toDigits] using read

theorem climbs_of_mem {text : Text} (member : parent ∈ text.splitOn '/') : climbs text = true := by
  have parts : text = "..".toList ∨ "../".toList <+: text ∨ "/../".toList <:+: text ∨
      "/..".toList <:+ text := by
    induction text using cut_induction '/' with
    | whole text plain =>
      rw [List.splitOn_eq_singleton plain, List.mem_singleton] at member
      exact .inl member.symm
    | cut first rest plain ih =>
      rw [List.splitOn_append_cons_self, List.splitOn_eq_singleton plain, List.singleton_append,
        List.mem_cons] at member
      obtain rfl | later := member
      · exact .inr (.inl ⟨rest, rfl⟩)
      have behind : '/' :: rest <:+ first ++ '/' :: rest := List.suffix_append _ _
      obtain rfl | start | middle | last := ih later
      · exact .inr (.inr (.inr behind))
      · have front : "/../".toList <+: '/' :: rest := List.cons_prefix_cons.mpr ⟨rfl, start⟩
        exact .inr (.inr (.inl (front.isInfix.trans behind.isInfix)))
      · exact .inr (.inr (.inl ((middle.trans (List.suffix_cons _ _).isInfix).trans behind.isInfix)))
      · exact .inr (.inr (.inr ((last.trans (List.suffix_cons _ _)).trans behind)))
  simp only [climbs, Bool.or_eq_true, decide_eq_true_eq]
  tauto

theorem safeTarget_of_not_climbs {target : Text} (stays : climbs target = false) :
    SafeTarget target := by
  constructor
  · match target with
    | [] => rfl
    | c :: rest =>
      have start : c ≠ '/' := by
        rintro rfl
        simp [climbs] at stays
      simp [isAbsolute, start]
  · intro member
    have climbing := climbs_of_mem (List.mem_filter.mp member).1
    rw [stays] at climbing
    cases climbing

/-! ## What is seen of a file -/

section listing

variable {d : Digest} {t : Toolchain}

theorem record_path {e : TreeEntry} {r : Entry} (recorded : record d e = some r) : r.path = e.1 := by
  unfold record at recorded
  split at recorded
  · rw [← Option.some.inj recorded]
  · rw [← Option.some.inj recorded]
  · cases recorded

/-- The script sees a file as it is exactly when nothing of it is escaped or cut off. -/
theorem observe_eq_record_iff {root : Text} {e : TreeEntry} :
    observe d root e.1 e.2 = record d e ↔ Plain d root e := by
  obtain ⟨path, mode, content⟩ := e
  cases content with
  | file bytes =>
    simp only [observe, record, Plain, Option.some.injEq, Entry.mk.injEq, true_and, hashFile]
    cases escaped : (root ++ '/' :: path).any d.escapes <;> simp
  | link target =>
    simp only [observe, record, Plain, Option.some.injEq, Entry.mk.injEq, true_and]
    constructor
    · rintro ⟨size, -⟩
      exact (List.rdropWhile_prefix _ target).eq_of_length (toDigits_injective size)
    · intro same
      rw [same]
      exact ⟨rfl, rfl⟩
  | dir size => simp [observe, record, Plain]
  | special size => simp [observe, record, Plain]

/-! ## The entries of the manifest -/

/-- What the script finds out of the file that a path leads to. -/
def seenAt (d : Digest) (t : Toolchain) (path : Text) : Option Entry :=
  (t.tree.nodeAt path).bind (observe d t.root path)

theorem seenAt_of_mem {e : TreeEntry} (member : e ∈ t.tree.entries) :
    seenAt d t e.1 = observe d t.root e.1 e.2 := by
  rw [seenAt, Tree.nodeAt_of_mem member, Option.bind_some]

theorem basename_nativeManifest : basename NATIVE_MANIFEST = NATIVE_MANIFEST := by
  decide +kernel

theorem findLeaves_eq (tree : Tree) : findLeaves tree NATIVE_MANIFEST =
    (toolFiles tree).filter fun e => ¬ basename e.1 = NATIVE_MANIFEST := by
  rw [toolFiles, List.filter_filter]
  refine List.filter_congr fun e _ => ?_
  rw [← Bool.decide_and, decide_eq_decide]
  constructor
  · rintro ⟨leaf, other⟩
    exact ⟨other, leaf, fun same => other (same ▸ basename_nativeManifest)⟩
  · rintro ⟨other, leaf, -⟩
    exact ⟨leaf, other⟩

/-- The files are those that the script looks at, and the namesakes. -/
theorem records_perm (tree : Tree) : ((toolFiles tree).filterMap (record d)).Perm
    ((findLeaves tree NATIVE_MANIFEST).filterMap (record d) ++
      (namesakes tree).filterMap (record d)) := by
  rw [← List.filterMap_append, findLeaves_eq, namesakes]
  refine List.Perm.filterMap _ (List.Perm.trans ?_ List.perm_append_comm)
  have parted := List.filter_append_perm
    (fun e : TreeEntry => decide (basename e.1 = NATIVE_MANIFEST)) (toolFiles tree)
  simpa using parted.symm

theorem entries_eq {es : List Entry} (read : (readLines t.manifest).map parseEntry = es.map some) :
    (lines t.manifest).filterMap parseEntry = es ++ (unread t).toList := by
  have whole : (readLines t.manifest).filterMap parseEntry = es := by
    simpa [List.filterMap_map, Function.comp_def] using congrArg (List.filterMap id) read
  rw [lines_eq, List.filterMap_append, whole, unread]
  congr 1
  split
  · next empty =>
    rw [empty]
    rfl
  · cases last : parseEntry (incompleteLine t.manifest) with
    | none => exact List.filterMap_cons_none last
    | some e => exact List.filterMap_cons_some last

/-- Each verified entry is what the script finds out at its path. -/
theorem verified_eq {es : List Entry} (each : ∀ e ∈ es, ∃ n, Verified d t e n) :
    es = (es.map Entry.path).filterMap (seenAt d t) := by
  induction es with
  | nil => rfl
  | cons e es ih =>
    obtain ⟨⟨n, verified⟩, others⟩ := List.forall_mem_cons.mp each
    have looked : seenAt d t e.path = some e := by
      rw [seenAt, verified.found]
      exact verified.observed
    rw [List.map_cons, List.filterMap_cons_some looked]
    exact congrArg (e :: ·) (ih others)

/-- The verified entries are what the script sees of the files that it looks at. -/
theorem verified_perm {es : List Entry} (ok : verifyToolchain d t = .ok es)
    (whole : ∀ e ∈ findLeaves t.tree NATIVE_MANIFEST, '\n' ∉ e.1) :
    es.Perm ((findLeaves t.tree NATIVE_MANIFEST).filterMap fun e => observe d t.root e.1 e.2) := by
  obtain ⟨read, each, same⟩ := verifyToolchain_ok ok
  have paths : ∀ path ∈ es.map Entry.path, '\n' ∉ path := by
    intro path member
    obtain ⟨e, verified, rfl⟩ := List.mem_map.mp member
    have parsed : some e ∈ (readLines t.manifest).map parseEntry :=
      read ▸ List.mem_map_of_mem verified
    obtain ⟨line, listed, parsed⟩ := List.mem_map.mp parsed
    exact parseEntry_whole parsed (not_mem_of_mem_splitOn (List.dropLast_subset _ listed))
  have listing : es.map Entry.path = findSorted t.tree NATIVE_MANIFEST := by
    rw [← lines_unlines paths, same, lines_unlines fun _ => findSorted_whole]
  have found := (findSorted_perm whole).filterMap (seenAt d t)
  rw [← listing, ← verified_eq each, List.filterMap_map] at found
  refine found.trans (List.Perm.of_eq (List.filterMap_congr fun e member => ?_))
  exact seenAt_of_mem (List.mem_filter.mp member).1

theorem observe_of_leaf (d : Digest) (root : Text) {e : TreeEntry} (leaf : e.2.isLeaf = true) :
    ∃ o, observe d root e.1 e.2 = some o := by
  unfold observe
  obtain ⟨bytes, file⟩ | ⟨target, link⟩ := Node.content_of_isLeaf leaf
  · rw [file]
    exact ⟨_, rfl⟩
  · rw [link]
    exact ⟨_, rfl⟩

theorem record_of_leaf (d : Digest) {e : TreeEntry} (leaf : e.2.isLeaf = true) :
    ∃ r, record d e = some r := by
  unfold record
  obtain ⟨bytes, file⟩ | ⟨target, link⟩ := Node.content_of_isLeaf leaf
  · rw [file]
    exact ⟨_, rfl⟩
  · rw [link]
    exact ⟨_, rfl⟩

theorem toolFiles_of_findLeaves {tree : Tree} {e : TreeEntry}
    (member : e ∈ findLeaves tree NATIVE_MANIFEST) : e ∈ toolFiles tree :=
  (List.mem_filter.mp (findLeaves_eq tree ▸ member)).1

theorem leaf_of_findLeaves {tree : Tree} {excluded : Text} {e : TreeEntry}
    (member : e ∈ findLeaves tree excluded) : e.2.isLeaf = true :=
  (of_decide_eq_true (List.mem_filter.mp member).2).1

/-- A manifest that lists the files has only names that are read back. -/
theorem whole_of_listed (listed : Listed d t) {e : TreeEntry} (member : e ∈ toolFiles t.tree) :
    '\n' ∉ e.1 := by
  obtain ⟨r, recorded⟩ := record_of_leaf d (of_decide_eq_true (List.mem_filter.mp member).2).1
  have inTree : r ∈ (toolFiles t.tree).filterMap (record d) :=
    List.mem_filterMap.mpr ⟨e, member, recorded⟩
  obtain ⟨line, stands, parsed⟩ := List.mem_filterMap.mp (listed.mem_iff.mpr inTree)
  rw [← record_path recorded]
  exact parseEntry_whole parsed (not_mem_of_mem_lines stands)

theorem verified_eq_records {es : List Entry} (ok : verifyToolchain d t = .ok es)
    (whole : ∀ e ∈ findLeaves t.tree NATIVE_MANIFEST, '\n' ∉ e.1)
    (plain : ∀ e ∈ findLeaves t.tree NATIVE_MANIFEST, Plain d t.root e) :
    es.Perm ((findLeaves t.tree NATIVE_MANIFEST).filterMap (record d)) := by
  refine (verified_perm ok whole).trans (List.Perm.of_eq (List.filterMap_congr fun e member => ?_))
  exact observe_eq_record_iff.mpr (plain e member)

/-- What the script sees of a file is listed, so it is what the file is: no other has its path. -/
theorem plain_of_listed {es : List Entry} (ok : verifyToolchain d t = .ok es)
    (listed : Listed d t) {e : TreeEntry} (member : e ∈ findLeaves t.tree NATIVE_MANIFEST) :
    Plain d t.root e := by
  have whole := fun e member => whole_of_listed listed (toolFiles_of_findLeaves (e := e) member)
  obtain ⟨o, seen⟩ := observe_of_leaf d t.root (leaf_of_findLeaves member)
  have verified : o ∈ es :=
    (verified_perm ok whole).mem_iff.mpr (List.mem_filterMap.mpr ⟨e, member, seen⟩)
  have stands : o ∈ (lines t.manifest).filterMap parseEntry := by
    rw [entries_eq (verifyToolchain_ok ok).1]
    exact List.mem_append_left _ verified
  obtain ⟨other, inTree, recorded⟩ := List.mem_filterMap.mp (listed.mem_iff.mp stands)
  have path : other.1 = e.1 := (record_path recorded).symm.trans (observe_path seen)
  obtain rfl : other = e := t.tree.eq_of_path (List.mem_filter.mp inTree).1
    (List.mem_filter.mp member).1 path
  rw [← observe_eq_record_iff, seen, recorded]

/-- An accepted manifest lists the files as they are exactly when the script sees them as they
are and there is no namesake. -/
theorem listed_iff {es : List Entry} (ok : verifyToolchain d t = .ok es) :
    Listed d t ↔ Seen d t := by
  have entries := entries_eq (verifyToolchain_ok ok).1
  constructor
  · intro listed
    have whole := fun e member => whole_of_listed listed (toolFiles_of_findLeaves (e := e) member)
    have plain := fun e member => plain_of_listed ok listed (e := e) member
    refine ⟨whole, plain, ?_⟩
    have rest : (es ++ (unread t).toList).Perm
        (es ++ (namesakes t.tree).filterMap (record d)) := by
      rw [← entries]
      refine listed.trans ((records_perm t.tree).trans ?_)
      exact (verified_eq_records ok whole plain).symm.append_right _
    have left := (List.perm_append_left_iff es).mp rest
    cases last : unread t with
    | none =>
      rw [last] at left
      exact List.nil_perm.mp left
    | some e =>
      rw [last] at left
      exact (List.singleton_perm.mp left).symm
  · intro seen
    rw [Listed, entries, ← seen.namesakes]
    refine List.Perm.trans ?_ (records_perm t.tree).symm
    exact (verified_eq_records ok seen.whole seen.plain).append_right _

/-- A link that the script has looked at, and of whose target nothing is cut off. -/
theorem safe_of_verified {es : List Entry} (ok : verifyToolchain d t = .ok es) (seen : Seen d t)
    {e : TreeEntry} (member : e ∈ findLeaves t.tree NATIVE_MANIFEST) {target : Text}
    (link : e.2.content = .link target) : SafeTarget target := by
  obtain ⟨o, observed⟩ := observe_of_leaf d t.root (leaf_of_findLeaves member)
  have verified : o ∈ es :=
    (verified_perm ok seen.whole).mem_iff.mpr (List.mem_filterMap.mpr ⟨e, member, observed⟩)
  obtain ⟨n, found, -, safe⟩ := (verifyToolchain_ok ok).2.1 o verified
  rw [observe_path observed, Tree.nodeAt_of_mem (List.mem_filter.mp member).1] at found
  obtain rfl := Option.some.inj found
  have uncut : chomp target = target := by
    have plain := seen.plain e member
    rwa [Plain, link] at plain
  rw [unsafeLink, link] at safe
  simp only [uncut] at safe
  split at safe
  · cases safe
  · next stays => exact safeTarget_of_not_climbs (Bool.eq_false_iff.mpr stays)

end listing

end VitaLinux.Tools.ToolkitImage
