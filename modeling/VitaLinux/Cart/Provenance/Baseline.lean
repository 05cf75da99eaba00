import Mathlib.Data.List.Nodup
import VitaLinux.Base.Globs
import VitaLinux.Base.Reporting
import VitaLinux.Toolkit.Awk

/-!
# The baseline file

`verify-baseline.sh` reads files of `key=value` lines, with blank lines and comments between
them. A file is accepted where it gives each required key once, a value of its kind, and
nothing else; the order of the lines does not matter.
-/

namespace VitaLinux.Cart.Provenance

open VitaLinux.Base VitaLinux.Toolkit

/-- `[[:space:]]` in the locale at hand. -/
structure Locale where
  space : Char → Bool
  ascii (c : Char) (small : c.toNat < 128) : space c = true ↔ c ∈ " \t\n\x0b\x0c\r".toList

/-- The POSIX locale. -/
def Locale.posix : Locale where
  space c := decide (c ∈ " \t\n\x0b\x0c\r".toList)
  ascii _ _ := decide_eq_true_iff

def REQUIRED_KEYS : List String :=
  ["schema_version", "production_outer_commit", "production_kernel_gitlink",
    "production_loader_gitlink", "known_good_pstv_demo_cart_c_sha256",
    "known_good_start_demo_cart_sh_sha256", "known_good_stop_demo_cart_sh_sha256",
    "known_good_readme_md_sha256", "known_good_demo_binary_sha256", "target_model",
    "target_framebuffer", "target_logical_render", "target_fps", "tinygl_tested_commit"]

/-- What a command or a comparison that goes wrong makes of the run. -/
structure Stop where
  status : Nat
  stderr : Text
  deriving DecidableEq, Repr

abbrev Shell : Type → Type := Report Stop

def fail (label : String) : Stop := ⟨1, ("FAIL " ++ label).toList⟩

section reading

variable (locale : Locale) (awk : Awk)

/-- `/^[[:space:]]*$/ || /^[[:space:]]*#/` -/
def skipped (line : Text) : Bool :=
  match line.dropWhile locale.space with
  | [] => true
  | c :: _ => c == '#'

/-- `[a-z][a-z0-9_]*` -/
def isKey : Text → Bool
  | [] => false
  | c :: rest => c.isLower && rest.all fun c => c.isLower || c.isDigit || c == '_'

/-- `[^[:space:]]+` -/
def isValue (value : Text) : Bool := !value.isEmpty && value.all fun c => !locale.space c

/-- `/^[a-z][a-z0-9_]*=[^[:space:]]+$/` -/
def isAssignment (line : Text) : Bool :=
  decide ('=' ∈ line) && isKey (firstField line) && isValue locale (afterEquals line)

/-- The lines that are looked at. -/
def content (text : Text) : List Text := (lines text).filter fun line => !skipped locale line

/-- The first awk of `validate_file`: neither `bad` nor `duplicate`. -/
def syntaxOk (text : Text) : Bool :=
  (content locale text).all (isAssignment locale) &&
    decide (((content locale text).filter (isAssignment locale)).map firstField).Nodup

def valueFrom (text : Text) (key : String) : Text :=
  extract (fun field => awk.is field key.toList) afterEquals text

/-- `*" $key "*` of `" $REQUIRED_KEYS "` -/
def isRequired (key : Text) : Bool :=
  globMatches [' ' :: (key ++ [' '])] (spaced ' ' (REQUIRED_KEYS.map String.toList))

/-- The first key that is not known, as the loop prints it. -/
def unknownKey (text : Text) : Text :=
  match ((content locale text).map firstField).find? fun key => !isRequired key with
  | none => []
  | some key => chomp (key ++ ['\n'])

/-- What `validate_file` does with a file that is there; awk may not be able to read it. -/
def validateFile (exists_ : Bool) (found : Option Text) (label : String) : Shell Unit := do
  .ensure (exists_ = true) (fail (label ++ ".exists"))
  let text ← .demand found (fail (label ++ ".syntax"))
  .ensure (syntaxOk locale text = true) (fail (label ++ ".syntax"))
  forM REQUIRED_KEYS fun key =>
    .ensure (valueFrom awk text key ≠ []) (fail (label ++ ".required_keys"))
  .ensure (unknownKey locale text = []) (fail (label ++ ".syntax"))

end reading

/-! ## Values -/

/-- `[0-9a-f]` -/
def isLowerHex (c : Char) : Bool := c.isDigit || ('a' ≤ c && c ≤ 'f')

def isHex (value : Text) (length : Nat) : Bool :=
  value.length == length && value.all isLowerHex

/-- `[0-9]+` -/
def isNumber (text : Text) : Bool := !text.isEmpty && text.all Char.isDigit

/-- `/^[0-9]+x[0-9]+$/` or `/^[0-9]+[.][0-9]+$/` -/
def isPair (separator : Char) (text : Text) : Bool :=
  match text.dropWhile Char.isDigit with
  | [] => false
  | c :: rest => c == separator && isNumber (text.takeWhile Char.isDigit) && isNumber rest

/-- The checks of `validate_values`, in their order. -/
def VALUE_CHECKS : List (String × (Text → Bool)) :=
  [("schema_version", fun value => value == ['1']),
    ("production_outer_commit", fun value => isHex value 40),
    ("production_kernel_gitlink", fun value => isHex value 40),
    ("production_loader_gitlink", fun value => isHex value 40),
    ("known_good_pstv_demo_cart_c_sha256", fun value => isHex value 64),
    ("known_good_start_demo_cart_sh_sha256", fun value => isHex value 64),
    ("known_good_stop_demo_cart_sh_sha256", fun value => isHex value 64),
    ("known_good_readme_md_sha256", fun value => isHex value 64),
    ("known_good_demo_binary_sha256", fun value => isHex value 64),
    ("tinygl_tested_commit", fun value => isHex value 40),
    ("target_model", fun value => value == "pstv".toList),
    ("target_framebuffer", isPair 'x'),
    ("target_logical_render", isPair 'x'),
    ("target_fps", isPair '.')]

def validateValues (awk : Awk) (text : Text) (label : String) : Shell Unit :=
  forM VALUE_CHECKS fun check =>
    .ensure (check.2 (valueFrom awk text check.1) = true) (fail (label ++ "." ++ check.1))

/-! ## What an accepted file says -/

/-- The file gives these values, in some order. -/
def Assigns (locale : Locale) (text : Text) (fields : List (String × Text)) : Prop :=
  (content locale text).Perm (fields.map keyLine)

/-- The checks of `validate_file` are passed. -/
structure Accepted (locale : Locale) (awk : Awk) (text : Text) : Prop where
  written : syntaxOk locale text = true
  given : ∀ key ∈ REQUIRED_KEYS, valueFrom awk text key ≠ []
  known : unknownKey locale text = []

/-- What is read for the required keys. -/
def values (awk : Awk) (text : Text) : List (String × Text) :=
  REQUIRED_KEYS.map fun key => (key, valueFrom awk text key)

/-- A value for each required key. -/
structure Complete (locale : Locale) (fields : List (String × Text)) : Prop where
  keys : fields.map Prod.fst = REQUIRED_KEYS
  values : ∀ field ∈ fields, isValue locale field.2 = true

section keys

/-- `[a-z]` by its codes. -/
theorem isLower_toNat {c : Char} (lower : c.isLower = true) :
    97 ≤ c.toNat ∧ c.toNat ≤ 122 := by
  have range : (decide ('a' ≤ c) && decide (c ≤ 'z')) = true := lower
  simp only [Bool.and_eq_true, decide_eq_true_eq] at range
  exact range

theorem isKey_iff {key : Text} : isKey key = true ↔ ∃ c rest, key = c :: rest ∧
    c.isLower = true ∧ ∀ d ∈ rest, d.isLower = true ∨ d.isDigit = true ∨ d = '_' := by
  cases key with
  | nil => simp [isKey]
  | cons c rest => simp [isKey, or_assoc]

/-- A character of a key. -/
theorem isKey_mem {key : Text} (h : isKey key = true) {c : Char} (mem : c ∈ key) :
    c.isLower = true ∨ c.isDigit = true ∨ c = '_' := by
  obtain ⟨head, rest, rfl, lower, others⟩ := isKey_iff.mp h
  obtain rfl | later := List.mem_cons.mp mem
  · exact .inl lower
  · exact others c later

/-- What no key has in it. -/
theorem not_mem_key {key : Text} (h : isKey key = true) {c : Char} (upper : c.isLower = false)
    (other : c.isDigit = false) (different : c ≠ '_') : c ∉ key := by
  intro mem
  obtain lower | digit | same := isKey_mem h mem
  · rw [lower] at upper
    cases upper
  · rw [digit] at other
    cases other
  · exact different same

theorem required_keys : ∀ key ∈ REQUIRED_KEYS, isKey key.toList = true ∧
    ∃ c, key.toList.head? = some c ∧ c ∉ " \t\n+-.0123456789iInN".toList := by
  simp [REQUIRED_KEYS, isKey]

theorem required_wordlike {key : String} (known : key ∈ REQUIRED_KEYS) :
    Wordlike key.toList := by
  obtain ⟨-, c, head, word⟩ := required_keys key known
  obtain ⟨rest, same⟩ := List.head?_eq_some_iff.mp head
  exact ⟨c, rest, same, word⟩

theorem isRequired_iff {key : Text} (h : isKey key = true) :
    isRequired key = true ↔ key ∈ REQUIRED_KEYS.map String.toList := by
  rw [isRequired, globMatches_iff, spread_singleton, infix_spaced_iff]
  · exact not_mem_key h rfl rfl (by decide)
  · intro other mem
    obtain ⟨name, known, rfl⟩ := List.mem_map.mp mem
    exact not_mem_key (required_keys name known).1 rfl rfl (by decide)

end keys

/-- The only element of a list with its key is the only one that is found with it. -/
theorem filter_key_eq {α β : Type} [DecidableEq β] {key : α → β} {l : List α}
    (distinct : (l.map key).Nodup) {a : α} (mem : a ∈ l) :
    l.filter (fun b => decide (key b = key a)) = [a] := by
  induction l with
  | nil => exact absurd mem List.not_mem_nil
  | cons b l ih =>
    obtain ⟨fresh, distinct⟩ := List.nodup_cons.mp distinct
    obtain rfl | later := List.mem_cons.mp mem
    · have others : l.filter (fun b => decide (key b = key a)) = [] := by
        refine List.filter_eq_nil_iff.mpr fun c inside same => ?_
        exact fresh (of_decide_eq_true same ▸ List.mem_map_of_mem inside)
      rw [List.filter_cons_of_pos (by simp), others]
    · have other : key b ≠ key a := fun same => fresh (same ▸ List.mem_map_of_mem later)
      rw [List.filter_cons_of_neg (by simpa using other), ih distinct later]

section files

variable {locale : Locale} {awk : Awk} {text : Text} {fields : List (String × Text)}

theorem space_ascii {c : Char} (visible : 32 < c.toNat) (small : c.toNat < 128) :
    locale.space c = false := by
  cases space : locale.space c with
  | false => rfl
  | true =>
    have mem : c ∈ [' ', '\t', '\n', '\x0b', '\x0c', '\r'] := (locale.ascii c small).mp space
    simp only [List.mem_cons, List.not_mem_nil, or_false] at mem
    rcases mem with rfl | rfl | rfl | rfl | rfl | rfl <;> exact absurd visible (by decide)

/-- A line that starts with a key is looked at. -/
theorem not_skipped {line : Text} (h : isKey (firstField line) = true) :
    skipped locale line = false := by
  obtain ⟨c, rest, starts, lower, -⟩ := isKey_iff.mp h
  have first : firstField line <+: line := List.takeWhile_prefix _
  rw [starts] at first
  obtain ⟨tail, rfl⟩ := first
  have range := isLower_toNat lower
  have solid : locale.space c = false := space_ascii (by omega) (by omega)
  have different : c ≠ '#' := by
    rintro rfl
    exact absurd range (by decide)
  rw [skipped, List.cons_append, List.dropWhile_cons_of_neg (by simp [solid])]
  simp [different]

/-- An assignment is its key and its value. -/
theorem assignment_eq {line : Text} (h : isAssignment locale line = true) :
    line = firstField line ++ '=' :: afterEquals line := by
  simp only [isAssignment, Bool.and_eq_true, decide_eq_true_eq] at h
  have equals := h.1.1
  obtain ⟨front, rest, same, plain⟩ := List.eq_append_cons_of_mem equals
  rw [afterEquals, if_pos equals, firstField]
  rw [same, takeWhile_keyLine plain, dropWhile_keyLine plain]
  rfl

/-- A required key is looked up in the lines that are looked at. -/
theorem valueFrom_eq {key : String} (known : key ∈ REQUIRED_KEYS) :
    valueFrom awk text key = chomp (unlines
      (((content locale text).filter fun line => firstField line = key.toList).map
        afterEquals)) := by
  have named := (required_keys key known).1
  have word : ∀ line, awk.is (firstField line) key.toList = decide (firstField line = key.toList) := by
    intro line
    rw [Bool.eq_iff_iff, decide_eq_true_iff]
    exact awk.is_iff (not_mem_key named rfl rfl (by decide)) (required_wordlike known)
  rw [valueFrom, extract, content, List.filter_filter]
  congr 3
  apply List.filter_congr
  intro line _
  rw [word]
  by_cases same : firstField line = key.toList
  · rw [not_skipped (same ▸ named)]
    simp [same]
  · simp [same]

/-- A value is one line. -/
theorem isValue_line {value : Text} (h : isValue locale value = true) :
    value ≠ [] ∧ '\n' ∉ value := by
  simp only [isValue, Bool.and_eq_true, Bool.not_eq_true', List.isEmpty_eq_false_iff,
    List.all_eq_true] at h
  refine ⟨h.1, fun mem => ?_⟩
  have space : locale.space '\n' = true := (locale.ascii '\n' (by decide)).mpr (by decide)
  rw [h.2 '\n' mem] at space
  cases space

/-- The value that a line gives is read, if no other line gives one for its key. -/
theorem valueFrom_line {key : String} (known : key ∈ REQUIRED_KEYS)
    (distinct : ((content locale text).map firstField).Nodup) {line : Text}
    (mem : line ∈ content locale text) (named : firstField line = key.toList)
    (value : isValue locale (afterEquals line) = true) :
    valueFrom awk text key = afterEquals line := by
  rw [valueFrom_eq known, ← named, filter_key_eq distinct mem]
  exact chomp_unlines_singleton (isValue_line value).2

theorem syntaxOk_iff : syntaxOk locale text = true ↔
    (∀ line ∈ content locale text, isAssignment locale line = true) ∧
      ((content locale text).map firstField).Nodup := by
  rw [syntaxOk, Bool.and_eq_true, List.all_eq_true, decide_eq_true_iff]
  refine and_congr_right fun whole => ?_
  rw [List.filter_eq_self.mpr whole]

theorem assignment_key {line : Text} (h : isAssignment locale line = true) :
    isKey (firstField line) = true ∧ isValue locale (afterEquals line) = true := by
  simp only [isAssignment, Bool.and_eq_true] at h
  exact ⟨h.1.2, h.2⟩

theorem unknownKey_iff (named : ∀ line ∈ content locale text, isKey (firstField line) = true) :
    unknownKey locale text = [] ↔
      ∀ line ∈ content locale text, firstField line ∈ REQUIRED_KEYS.map String.toList := by
  rw [unknownKey]
  split
  · rename_i none
    refine iff_of_true rfl fun line mem => ?_
    have known := List.find?_eq_none.mp none _ (List.mem_map_of_mem mem)
    exact (isRequired_iff (named line mem)).mp (by simpa using known)
  · rename_i key found
    obtain ⟨line, mem, rfl⟩ := List.mem_map.mp (List.mem_of_find?_eq_some found)
    have unknown := List.find?_some found
    have whole : '\n' ∉ firstField line := not_mem_key (named line mem) rfl rfl (by decide)
    have printed : chomp (firstField line ++ ['\n']) = firstField line := by
      simpa [unlines] using chomp_unlines_singleton whole
    obtain ⟨c, rest, starts, -⟩ := isKey_iff.mp (named line mem)
    refine iff_of_false ?_ fun known => ?_
    · rw [printed, starts]
      exact List.cons_ne_nil c rest
    · rw [(isRequired_iff (named line mem)).mpr (known line mem)] at unknown
      cases unknown

/-- An accepted file gives the values that are read from it, and nothing else. -/
theorem Accepted.assigns (h : Accepted locale awk text) :
    Complete locale (values awk text) ∧ Assigns locale text (values awk text) := by
  obtain ⟨assignments, distinct⟩ := syntaxOk_iff.mp h.written
  have named : ∀ line ∈ content locale text, isKey (firstField line) = true :=
    fun line mem => (assignment_key (assignments line mem)).1
  have known := (unknownKey_iff named).mp h.known
  -- each line is the one that its key is read from
  have read : ∀ line ∈ content locale text, ∀ key ∈ REQUIRED_KEYS, firstField line = key.toList →
      valueFrom awk text key = afterEquals line := fun line mem key required same =>
    valueFrom_line required distinct mem same (assignment_key (assignments line mem)).2
  have line_of : ∀ line ∈ content locale text, ∀ key ∈ REQUIRED_KEYS,
      firstField line = key.toList → line = keyLine (key, valueFrom awk text key) := by
    intro line mem key required same
    rw [keyLine, read line mem key required same, ← same]
    exact assignment_eq (assignments line mem)
  have present : ∀ key ∈ REQUIRED_KEYS,
      ∃ line ∈ content locale text, firstField line = key.toList := by
    intro key required
    by_contra! absent
    refine h.given key required ?_
    rw [valueFrom_eq required, List.filter_eq_nil_iff.mpr]
    · rfl
    · exact fun line mem same => absent line mem (of_decide_eq_true same)
  refine ⟨⟨?_, ?_⟩, ?_⟩
  · rw [values, List.map_map]
    exact List.map_id _
  · intro field mem
    obtain ⟨key, required, rfl⟩ := List.mem_map.mp mem
    obtain ⟨line, inside, same⟩ := present key required
    rw [read line inside key required same]
    exact (assignment_key (assignments line inside)).2
  · have fresh : ((values awk text).map keyLine).Nodup := by
      refine List.Nodup.of_map firstField ?_
      have keys : (values awk text).map (fun field => firstField (keyLine field)) =
          REQUIRED_KEYS.map String.toList := by
        rw [values, List.map_map]
        refine List.map_congr_left fun key required => ?_
        exact firstField_keyLine (not_mem_key (required_keys key required).1 rfl rfl (by decide)) _
      rw [List.map_map]
      change ((values awk text).map fun field => firstField (keyLine field)).Nodup
      rw [keys]
      decide
    have apart : (content locale text).Nodup := List.Nodup.of_map firstField distinct
    refine (List.perm_ext_iff_of_nodup apart fresh).mpr fun line => ?_
    constructor
    · intro mem
      obtain ⟨key, required, same⟩ := List.mem_map.mp (known line mem)
      rw [line_of line mem key required same.symm]
      exact List.mem_map_of_mem (List.mem_map_of_mem required)
    · intro mem
      obtain ⟨field, inside, rfl⟩ := List.mem_map.mp mem
      obtain ⟨key, required, rfl⟩ := List.mem_map.mp inside
      obtain ⟨line, inside, same⟩ := present key required
      rw [← line_of line inside key required same]
      exact inside

theorem Complete.field {field : String × Text} (complete : Complete locale fields)
    (mem : field ∈ fields) : field.1 ∈ REQUIRED_KEYS ∧ isKey field.1.toList = true ∧
      '=' ∉ field.1.toList := by
  have known : field.1 ∈ REQUIRED_KEYS := complete.keys ▸ List.mem_map_of_mem mem
  have named := (required_keys field.1 known).1
  exact ⟨known, named, not_mem_key named rfl rfl (by decide)⟩

section assigns

variable (complete : Complete locale fields) (assigns : Assigns locale text fields)
include complete assigns

theorem Assigns.line {line : Text} (mem : line ∈ content locale text) :
    ∃ field ∈ fields, line = keyLine field ∧ firstField line = field.1.toList ∧
      afterEquals line = field.2 := by
  obtain ⟨field, inside, rfl⟩ := List.mem_map.mp (assigns.subset mem)
  obtain ⟨-, -, plain⟩ := complete.field inside
  exact ⟨field, inside, rfl, firstField_keyLine plain _, afterEquals_keyLine plain _⟩

theorem Assigns.keys_distinct : ((content locale text).map firstField).Nodup := by
  refine (assigns.map firstField).nodup_iff.mpr ?_
  have keys : (fields.map keyLine).map firstField = REQUIRED_KEYS.map String.toList := by
    rw [List.map_map, ← complete.keys, List.map_map]
    refine List.map_congr_left fun field mem => ?_
    exact firstField_keyLine (complete.field mem).2.2 field.2
  rw [keys]
  decide

/-- The values that a file gives are the ones that are read from it. -/
theorem valueFrom_assigns {field : String × Text} (mem : field ∈ fields) :
    valueFrom awk text field.1 = field.2 := by
  obtain ⟨known, -, plain⟩ := complete.field mem
  have inside : keyLine field ∈ content locale text :=
    assigns.symm.subset (List.mem_map_of_mem mem)
  have value : afterEquals (keyLine field) = field.2 := afterEquals_keyLine plain field.2
  rw [valueFrom_line known (Assigns.keys_distinct complete assigns) inside
    (firstField_keyLine plain field.2) (value ▸ complete.values field mem), value]

/-- A file that gives a value for each required key is accepted. -/
theorem Assigns.accepted : Accepted locale awk text := by
  constructor
  case written =>
    refine syntaxOk_iff.mpr ⟨fun line mem => ?_, Assigns.keys_distinct complete assigns⟩
    obtain ⟨field, inside, same, first, after⟩ := Assigns.line complete assigns mem
    have equals : '=' ∈ line := by
      rw [same]
      exact List.mem_append_right _ List.mem_cons_self
    simp only [isAssignment, first, after, (complete.field inside).2.1,
      complete.values field inside, decide_eq_true equals, Bool.and_self]
  case given =>
    intro key known
    obtain ⟨field, inside, rfl⟩ := List.mem_map.mp (complete.keys ▸ known)
    rw [valueFrom_assigns complete assigns inside]
    exact (isValue_line (complete.values field inside)).1
  case known =>
    refine (unknownKey_iff fun line mem => ?_).mpr fun line mem => ?_
    · obtain ⟨field, inside, -, first, -⟩ := Assigns.line complete assigns mem
      rw [first]
      exact (complete.field inside).2.1
    · obtain ⟨field, inside, -, first, -⟩ := Assigns.line complete assigns mem
      rw [first]
      exact List.mem_map_of_mem (complete.field inside).1

end assigns

/-- A file is accepted where it gives a value for each required key. -/
theorem accepted_iff : Accepted locale awk text ↔
    ∃ fields, Complete locale fields ∧ Assigns locale text fields :=
  ⟨fun h => ⟨values awk text, h.assigns⟩,
    fun ⟨_, complete, assigns⟩ => Assigns.accepted complete assigns⟩

end files

end VitaLinux.Cart.Provenance
