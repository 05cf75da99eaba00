import Mathlib.Data.List.Basic
import Mathlib.Data.List.Chain
import VitaLinux.Base.Lines
import VitaLinux.Base.Quoted

/-!
# Lexical paths

What a path names without looking at the file system: its components, where repeated slashes,
single dots and a slash at the end do not count. The spellings of a list of components are
described by what may stand between them (`spelling_iff`).
-/

namespace VitaLinux.Base

def isAbsolute (path : Text) : Bool := path.head? == some '/'

/-- The components that count. -/
def components (path : Text) : List Text :=
  (path.splitOn '/').filter fun c => c ≠ [] ∧ c ≠ ['.']

/-- The shortest spelling. -/
def normalise (path : Text) : Text :=
  (if isAbsolute path then ['/'] else []) ++ ['/'].intercalate (components path)

/-- The path is the root or inside it. -/
def Within (root path : Text) : Prop :=
  isAbsolute root = isAbsolute path ∧ components root <+: components path

instance (root path : Text) : Decidable (Within root path) := inferInstanceAs (Decidable (_ ∧ _))

/-- A component that counts. -/
structure Named (c : Text) : Prop where
  nonempty : c ≠ []
  notDot : c ≠ ['.']
  whole : '/' ∉ c

/-- No two dots stand together. -/
def Undotted (text : Text) : Prop := text.IsChain fun a b => ¬ (a = '.' ∧ b = '.')

/-- Slashes and single dots. -/
structure Idle (text : Text) : Prop where
  marks : ∀ c ∈ text, c = '/' ∨ c = '.'
  undotted : Undotted text

/-- What may stand before a component. -/
structure Gap (text : Text) : Prop where
  idle : Idle text
  starts : text.head? = some '/'
  ends : text.getLast? = some '/'

/-- The spellings of these components, as an absolute path or as nothing. -/
inductive Spelling : List Text → Text → Prop where
  | done {tail : Text} (idle : Idle tail) (starts : tail = [] ∨ tail.head? = some '/') :
      Spelling [] tail
  | component {cs : List Text} {gap c rest : Text} (before : Gap gap) (named : Named c)
      (others : Spelling cs rest) : Spelling (c :: cs) (gap ++ c ++ rest)

section Components

@[simp] theorem components_nil : components [] = [] := rfl

theorem components_slash (before after : Text) :
    components (before ++ '/' :: after) = components before ++ components after := by
  rw [components, List.splitOn_append_cons_self, List.filter_append]
  rfl

@[simp] theorem components_cons (path : Text) : components ('/' :: path) = components path :=
  components_slash [] path

theorem components_whole {c : Text} (whole : '/' ∉ c) :
    components c = if c ≠ [] ∧ c ≠ ['.'] then [c] else [] := by
  rw [components, List.splitOn_eq_singleton whole, List.filter_singleton]
  simp

theorem components_named {c : Text} (named : Named c) : components c = [c] := by
  rw [components_whole named.whole, if_pos ⟨named.nonempty, named.notDot⟩]

theorem named_of_mem {path c : Text} (member : c ∈ components path) : Named c := by
  obtain ⟨piece, counts⟩ := List.mem_filter.mp member
  obtain ⟨nonempty, notDot⟩ := of_decide_eq_true counts
  exact ⟨nonempty, notDot, not_mem_of_mem_splitOn piece⟩

/-- Components are read back from the text that they make. -/
theorem components_intercalate {cs : List Text} (named : ∀ c ∈ cs, Named c) :
    components (['/'].intercalate cs) = cs := by
  induction cs with
  | nil => rfl
  | cons c cs ih =>
    obtain ⟨first, others⟩ := List.forall_mem_cons.mp named
    match cs with
    | [] => simpa using components_named first
    | next :: cs =>
      rw [List.intercalate_cons_cons, List.append_assoc, List.singleton_append, components_slash,
        components_named first, ih others]
      rfl

theorem components_normalise (path : Text) : components (normalise path) = components path := by
  have read := components_intercalate fun c (member : c ∈ components path) => named_of_mem member
  rw [normalise]
  split
  · rwa [List.singleton_append, components_cons]
  · rwa [List.nil_append]

theorem isAbsolute_normalise (path : Text) : isAbsolute (normalise path) = isAbsolute path := by
  rw [normalise]
  cases absolute : isAbsolute path with
  | true => rfl
  | false =>
    match read : components path with
    | [] => rfl
    | c :: cs =>
      have named : Named c := named_of_mem (read ▸ List.mem_cons_self)
      obtain ⟨first, rest, rfl⟩ := List.exists_cons_of_ne_nil named.nonempty
      have other : first ≠ '/' := (List.ne_of_not_mem_cons named.whole).symm
      match cs with
      | [] => simpa [isAbsolute] using other
      | next :: cs => simpa [isAbsolute, List.intercalate_cons_cons] using other

/-- The shortest spelling tells whether a path is absolute, and its components. -/
theorem normalise_eq_iff {path other : Text} :
    normalise path = normalise other ↔
      isAbsolute path = isAbsolute other ∧ components path = components other := by
  constructor
  · intro same
    have absolute := congrArg isAbsolute same
    have read := congrArg components same
    rw [isAbsolute_normalise, isAbsolute_normalise] at absolute
    rw [components_normalise, components_normalise] at read
    exact ⟨absolute, read⟩
  · rintro ⟨absolute, read⟩
    rw [normalise, absolute, read, normalise]

end Components

section Spellings

theorem undotted_iff {text : Text} : Undotted text ↔ ¬ ['.', '.'] <:+: text := by
  rw [Undotted, List.isChain_iff_forall_rel_of_append_cons_cons]
  constructor
  · rintro chain ⟨front, back, rfl⟩
    have cut : front ++ ['.', '.'] ++ back = front ++ '.' :: '.' :: back := by simp
    exact chain cut ⟨rfl, rfl⟩
  · rintro none a b front back rfl ⟨rfl, rfl⟩
    exact none ⟨front, back, by simp⟩

theorem undotted_slash {before after : Text} :
    Undotted (before ++ '/' :: after) ↔ Undotted before ∧ Undotted after := by
  rw [Undotted, List.isChain_append, List.isChain_cons]
  simp [Undotted]

theorem idle_slash {before after : Text} :
    Idle (before ++ '/' :: after) ↔ Idle before ∧ Idle after := by
  constructor
  · intro h
    obtain ⟨first, second⟩ := undotted_slash.mp h.undotted
    have marks := h.marks
    exact ⟨⟨fun c member => marks c (by simp [member]), first⟩,
      fun c member => marks c (by simp [member]), second⟩
  · rintro ⟨first, second⟩
    refine ⟨?_, undotted_slash.mpr ⟨first.undotted, second.undotted⟩⟩
    have marks := first.marks
    have others := second.marks
    grind

theorem whole_eq_nil_iff {text : Text} (whole : '/' ∉ text) :
    components text = [] ↔ Idle text := by
  rw [components_whole whole]
  constructor
  · intro none
    have short : text = [] ∨ text = ['.'] := by
      by_contra other
      rw [if_pos (not_or.mp other)] at none
      cases none
    obtain rfl | rfl := short
    · exact ⟨by simp, .nil⟩
    · exact ⟨by simp, .singleton _⟩
  · rintro ⟨marks, undotted⟩
    refine if_neg ?_
    rintro ⟨nonempty, notDot⟩
    have dots : ∀ c ∈ text, c = '.' := fun c member =>
      (marks c member).resolve_left fun slash => whole (slash ▸ member)
    match text with
    | [] => exact nonempty rfl
    | [c] => exact notDot (by rw [dots c (by simp)])
    | a :: b :: rest =>
      exact (List.isChain_cons_cons.mp undotted).1 ⟨dots a (by simp), dots b (by simp)⟩

/-- A text without components is slashes and single dots. -/
theorem components_eq_nil_iff (text : Text) : components text = [] ↔ Idle text := by
  induction text using cut_induction '/' with
  | whole text plain => exact whole_eq_nil_iff plain
  | cut first rest plain ih =>
    rw [components_slash, List.append_eq_nil_iff, ih, idle_slash]
    exact and_congr_left fun _ => whole_eq_nil_iff plain

/-- Where the first component stands in a text. -/
theorem components_eq_cons {path c : Text} {cs : List Text} (read : components path = c :: cs) :
    ∃ before after, path = before ++ c ++ after ∧ Idle before ∧
      (before = [] ∨ before.getLast? = some '/') ∧
      (after = [] ∨ after.head? = some '/') ∧ components after = cs := by
  induction path using cut_induction '/' with
  | whole text plain =>
    rw [components_whole plain] at read
    split at read
    · obtain ⟨rfl, rfl⟩ := List.cons.inj read
      exact ⟨[], [], by simp, ⟨by simp, .nil⟩, .inl rfl, .inl rfl, rfl⟩
    · cases read
  | cut first rest plain ih =>
    rw [components_slash] at read
    by_cases none : components first = []
    · rw [none, List.nil_append] at read
      obtain ⟨before, after, rfl, idle, ends, starts, others⟩ := ih read
      have first_idle := (whole_eq_nil_iff plain).mp none
      refine ⟨first ++ '/' :: before, after, by simp, idle_slash.mpr ⟨first_idle, idle⟩, .inr ?_,
        starts, others⟩
      obtain rfl | last := ends
      · simp
      · rw [List.getLast?_append, List.getLast?_cons, last]
        rfl
    · rw [components_whole plain] at none read
      split at read
      · obtain ⟨rfl, rest_read⟩ := List.cons.inj read
        exact ⟨[], '/' :: rest, by simp, ⟨by simp, .nil⟩, .inl rfl, .inr rfl, by simpa using rest_read⟩
      · next counts => exact absurd (if_neg counts) none

theorem components_spelling {cs : List Text} {path : Text} (spelled : Spelling cs path) :
    components path = cs := by
  induction spelled with
  | done idle starts => exact (components_eq_nil_iff _).mpr idle
  | component before named others read =>
    obtain ⟨front, rfl⟩ := List.getLast?_eq_some_iff.mp before.ends
    have front_idle := (idle_slash.mp before.idle).1
    rw [List.append_assoc, List.append_assoc, List.singleton_append, components_slash,
      (components_eq_nil_iff front).mpr front_idle, List.nil_append]
    cases others with
    | done idle starts =>
      obtain rfl | head := starts
      · rw [List.append_nil, components_named named]
      · obtain ⟨tail, rfl⟩ := List.head?_eq_some_iff.mp head
        rw [components_slash, components_named named, ← components_cons, read]
        rfl
    | component next _ _ =>
      obtain ⟨tail, rfl⟩ := List.head?_eq_some_iff.mp next.starts
      simp only [List.cons_append, components_cons] at read ⊢
      rw [components_slash, components_named named, read]
      rfl

/-- The texts with these components are these spellings. -/
theorem spelling_iff {cs : List Text} {path : Text} :
    Spelling cs path ↔ (path = [] ∨ isAbsolute path = true) ∧ components path = cs := by
  rw [isAbsolute, beq_iff_eq]
  constructor
  · intro spelled
    refine ⟨?_, components_spelling spelled⟩
    cases spelled with
    | done idle starts => exact starts
    | component before named others => exact .inr (by simp [List.head?_append, before.starts])
  · rintro ⟨starts, read⟩
    induction cs generalizing path with
    | nil => exact .done ((components_eq_nil_iff path).mp read) starts
    | cons c cs ih =>
      have named : Named c := named_of_mem (read ▸ List.mem_cons_self)
      obtain ⟨before, after, rfl, idle, ends, begins, others⟩ := components_eq_cons read
      have last : before.getLast? = some '/' := by
        refine ends.resolve_left fun empty => ?_
        subst empty
        obtain ⟨a, rest, rfl⟩ := List.exists_cons_of_ne_nil named.nonempty
        have slash : a = '/' := by simpa using starts
        exact named.whole (slash ▸ List.mem_cons_self)
      have head : before.head? = some '/' := by
        obtain ⟨a, rest, rfl⟩ := List.exists_cons_of_ne_nil (List.ne_nil_of_mem
          (List.mem_of_getLast? last))
        simpa using starts
      exact .component ⟨idle, head, last⟩ named (ih begins others)

/-- A spelling has no characters but slashes, dots and those of the components. -/
theorem mem_of_spelling {cs : List Text} {path : Text} (spelled : Spelling cs path) {c : Char}
    (member : c ∈ path) : c = '/' ∨ c = '.' ∨ ∃ name ∈ cs, c ∈ name := by
  induction spelled with
  | done idle starts => exact (idle.marks c member).imp_right .inl
  | component before named others ih =>
    rw [List.mem_append, List.mem_append] at member
    obtain (inGap | inName) | inRest := member
    · exact (before.idle.marks c inGap).imp_right .inl
    · exact .inr (.inr ⟨_, List.mem_cons_self, inName⟩)
    · refine (ih inRest).imp_right (Or.imp_right ?_)
      rintro ⟨name, listed, inName⟩
      exact ⟨name, List.mem_cons_of_mem _ listed, inName⟩

theorem undotted_append {name rest : Text} (plain : '.' ∉ name) (undotted : Undotted rest) :
    Undotted (name ++ rest) := by
  induction name with
  | nil => exact undotted
  | cons a name ih =>
    obtain ⟨other, later⟩ := not_or.mp (mt List.mem_cons.mpr plain)
    refine List.isChain_cons.mpr ⟨?_, ih later⟩
    rintro b _ ⟨rfl, _⟩
    exact other rfl

/-- Names without dots are spelled without two dots together. -/
theorem undotted_spelling {cs : List Text} {path : Text} (spelled : Spelling cs path)
    (plain : ∀ name ∈ cs, '.' ∉ name) : Undotted path := by
  induction spelled with
  | done idle starts => exact idle.undotted
  | component before named others ih =>
    obtain ⟨first, later⟩ := List.forall_mem_cons.mp plain
    obtain ⟨front, rfl⟩ := List.getLast?_eq_some_iff.mp before.ends
    have front_idle := (idle_slash.mp before.idle).1
    rw [List.append_assoc, List.append_assoc, List.singleton_append]
    exact undotted_slash.mpr ⟨front_idle.undotted, undotted_append first (ih later)⟩

end Spellings

end VitaLinux.Base
