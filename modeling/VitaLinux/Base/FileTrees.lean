import Mathlib.Data.List.Nodup
import VitaLinux.Base.Lines

/-!
# File trees

A directory tree as its entries by path, with what other spellings of a path lead to. One tree
is copied over another, and a file is written.
-/

namespace VitaLinux.Base

inductive Content where
  | file (bytes : Text)
  | link (target : Text)
  /-- with what `stat` gives for the size -/
  | dir (size : Nat)
  | special (size : Nat)
  deriving DecidableEq, Repr

structure Node where
  mode : Nat
  content : Content
  deriving DecidableEq, Repr

/-- A regular file or a symbolic link. -/
def Node.isLeaf (n : Node) : Bool :=
  match n.content with
  | .file _ | .link _ => true
  | _ => false

theorem Node.content_of_isLeaf {n : Node} (leaf : n.isLeaf = true) :
    (∃ bytes, n.content = .file bytes) ∨ ∃ target, n.content = .link target := by
  unfold Node.isLeaf at leaf
  split at leaf
  next bytes file => exact .inl ⟨bytes, file⟩
  next target link => exact .inr ⟨target, link⟩
  next => cases leaf

def Node.isDir (n : Node) : Bool :=
  match n.content with
  | .dir _ => true
  | _ => false

abbrev TreeEntry := Text × Node

structure Tree where
  entries : List TreeEntry
  unique : (entries.map Prod.fst).Nodup
  /-- what a path leads to that is spelled otherwise than that of an entry -/
  elsewhere : Text → Option Node

namespace Tree

def paths (t : Tree) : List Text := t.entries.map Prod.fst

/-- The node that a path leads to. -/
def nodeAt (t : Tree) (path : Text) : Option Node :=
  (t.entries.lookup path).or (t.elsewhere path)

theorem eq_of_path {t : Tree} {e f : TreeEntry} (he : e ∈ t.entries) (hf : f ∈ t.entries)
    (same : e.1 = f.1) : e = f :=
  List.inj_on_of_nodup_map t.unique he hf same

theorem lookup_of_mem {t : Tree} {e : TreeEntry} (member : e ∈ t.entries) :
    t.entries.lookup e.1 = some e.2 := by
  have listed : (t.entries.lookup e.1).isSome := List.lookup_isSome_iff.mpr ⟨e, member, by simp⟩
  obtain ⟨found, lookup⟩ := Option.isSome_iff_exists.mp listed
  obtain ⟨front, back, split, _⟩ := List.lookup_eq_some_iff.mp lookup
  have other : (e.1, found) ∈ t.entries := split ▸ List.mem_append_right front List.mem_cons_self
  rw [lookup, ← t.eq_of_path other member rfl]

theorem nodeAt_of_mem {t : Tree} {e : TreeEntry} (member : e ∈ t.entries) :
    t.nodeAt e.1 = some e.2 := by
  rw [nodeAt, lookup_of_mem member, Option.some_or]

/-- The same paths, with other nodes. -/
def mapNodes (t : Tree) (change : Text → Node → Node) : Tree where
  entries := t.entries.map fun e => (e.1, change e.1 e.2)
  unique := by
    rw [List.map_map]
    exact t.unique
  elsewhere := t.elsewhere

/-- The tree with entries at other paths. -/
def extend (t : Tree) (more : List TreeEntry) (distinct : (more.map Prod.fst).Nodup)
    (fresh : ∀ e ∈ more, e.1 ∉ t.paths) (elsewhere : Text → Option Node) : Tree where
  entries := t.entries ++ more
  unique := by
    rw [List.map_append, List.nodup_append]
    refine ⟨t.unique, distinct, fun path inTree other inMore same => ?_⟩
    obtain ⟨e, listed, rfl⟩ := List.mem_map.mp inMore
    exact fresh e listed (same ▸ inTree)
  elsewhere := elsewhere

/-- The file at the path has these bytes; it is made with this mode if it is not there. -/
def write (t : Tree) (path bytes : Text) (mode : Nat) : Tree :=
  if absent : path ∉ t.paths then
    t.extend [(path, ⟨mode, .file bytes⟩)] (List.nodup_singleton _)
      (fun _ member => List.mem_singleton.mp member ▸ absent) t.elsewhere
  else t.mapNodes fun q n => if q = path then { n with content := .file bytes } else n

/-- One tree copied over another: what is at the same path is replaced, but no directory
replaces anything else, and nothing else replaces a directory. -/
def overlay (top bottom : Tree) (elsewhere : Text → Option Node) : Option Tree :=
  if top.entries.any fun e => (bottom.entries.lookup e.1).any fun n => n.isDir != e.2.isDir then none
  else
    some (top.extend (bottom.entries.filter fun e => e.1 ∉ top.paths)
      (bottom.unique.sublist (List.filter_sublist.map Prod.fst))
      (fun _ member => of_decide_eq_true (List.mem_filter.mp member).2) elsewhere)

/-- Every other entry stays. -/
theorem mem_write {t : Tree} {path bytes : Text} {mode : Nat} {e : TreeEntry} (other : e.1 ≠ path) :
    e ∈ (t.write path bytes mode).entries ↔ e ∈ t.entries := by
  unfold write
  split
  · rw [extend, List.mem_append, List.mem_singleton, or_iff_left]
    rintro rfl
    exact other rfl
  · rw [mapNodes, List.mem_map]
    constructor
    · rintro ⟨f, member, rfl⟩
      rwa [if_neg other]
    · intro member
      exact ⟨e, member, by rw [if_neg other]⟩

theorem exists_write (t : Tree) (path bytes : Text) (mode : Nat) :
    ∃ n, (path, n) ∈ (t.write path bytes mode).entries ∧ n.content = .file bytes := by
  unfold write
  split
  · next absent =>
    exact ⟨_, List.mem_append_right t.entries List.mem_cons_self, rfl⟩
  · next present =>
    obtain ⟨e, member, rfl⟩ := List.mem_map.mp (not_not.mp present)
    exact ⟨{ e.2 with content := .file bytes }, List.mem_map.mpr ⟨e, member, by simp⟩, rfl⟩

theorem content_write {t : Tree} {path bytes : Text} {mode : Nat} {n : Node}
    (member : (path, n) ∈ (t.write path bytes mode).entries) : n.content = .file bytes := by
  obtain ⟨written, listed, content⟩ := t.exists_write path bytes mode
  have same : n = written := congrArg Prod.snd (eq_of_path member listed rfl)
  rw [same, content]

theorem mem_overlay {top bottom merged : Tree} {elsewhere : Text → Option Node}
    (copied : overlay top bottom elsewhere = some merged) {e : TreeEntry} :
    e ∈ merged.entries ↔ e ∈ top.entries ∨ (e ∈ bottom.entries ∧ e.1 ∉ top.paths) := by
  unfold overlay at copied
  split at copied
  · cases copied
  · rw [← Option.some.inj copied, extend, List.mem_append, List.mem_filter, decide_eq_true_iff]

end Tree

end VitaLinux.Base
