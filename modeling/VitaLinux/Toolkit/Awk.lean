import VitaLinux.Base.Lines

/-!
# Texts as the toolkit scripts read them

The scripts read reports, state files and the mount table with awk. What POSIX leaves to
the awk at hand is a parameter, with what it does promise.
-/

namespace VitaLinux.Toolkit

open VitaLinux.Base

/-- A text that no awk takes for a number. -/
def Wordlike (text : Text) : Prop :=
  ∃ c rest, text = c :: rest ∧ c ∉ " \t\n+-.0123456789iInN".toList

structure Awk where
  /-- the value of a variable that `-v` gives this text; escape sequences are replaced -/
  assign : Text → Text
  /-- the comparison of a field with such a variable, as numbers if both look like one -/
  equal : Text → Text → Bool
  assign_plain (text : Text) (plain : '\\' ∉ text) : assign text = text
  equal_word (field text : Text) (word : Wordlike text) : equal field text = true ↔ field = text

/-- The field is the variable that `-v` gives this text. -/
def Awk.is (awk : Awk) (field text : Text) : Bool := awk.equal field (awk.assign text)

/-- The awk that compares texts only. -/
def Awk.plain : Awk where
  assign text := text
  equal field text := field == text
  assign_plain _ _ := rfl
  equal_word _ _ _ := beq_iff_eq

theorem Awk.is_iff (awk : Awk) {field text : Text} (plain : '\\' ∉ text) (word : Wordlike text) :
    awk.is field text = true ↔ field = text := by
  rw [is, awk.assign_plain text plain]
  exact awk.equal_word field text word

/-- `$1` of a line that is cut at `=` -/
def firstField (line : Text) : Text := line.takeWhile (· ≠ '=')

/-- `$2` of a line that is cut at `=` -/
def secondField (line : Text) : Text :=
  ((line.dropWhile (· ≠ '=')).drop 1).takeWhile (· ≠ '=')

/-- `substr($0, index($0, "=") + 1)` -/
def afterEquals (line : Text) : Text :=
  if '=' ∈ line then (line.dropWhile (· ≠ '=')).drop 1 else line

/-- What `$(awk -F= '$1 == key { print value }')` gives. -/
def extract (isKey : Text → Bool) (value : Text → Text) (text : Text) : Text :=
  chomp (unlines (((lines text).filter fun line => isKey (firstField line)).map value))

/-- A line of a `key=value` file. -/
def keyLine (field : String × Text) : Text := field.1.toList ++ '=' :: field.2

/-- What a list of `printf 'key=%s\n' value` writes. -/
def keyFile (fields : List (String × Text)) : Text := unlines (fields.map keyLine)

theorem takeWhile_keyLine {key : Text} (plain : '=' ∉ key) (value : Text) :
    (key ++ '=' :: value).takeWhile (· ≠ '=') = key := by
  have passes : ∀ c ∈ key, decide (c ≠ '=') = true := by
    intro c member
    exact decide_eq_true fun same => plain (same ▸ member)
  rw [List.takeWhile_append_of_pos passes, List.takeWhile_cons_of_neg (by simp), List.append_nil]

theorem dropWhile_keyLine {key : Text} (plain : '=' ∉ key) (value : Text) :
    (key ++ '=' :: value).dropWhile (· ≠ '=') = '=' :: value := by
  have passes : ∀ c ∈ key, decide (c ≠ '=') = true := by
    intro c member
    exact decide_eq_true fun same => plain (same ▸ member)
  rw [List.dropWhile_append_of_pos passes, List.dropWhile_cons_of_neg (by simp)]

section fields

variable {key : String} (plain : '=' ∉ key.toList) (value : Text)
include plain

theorem firstField_keyLine : firstField (keyLine (key, value)) = key.toList :=
  takeWhile_keyLine plain value

theorem afterEquals_keyLine : afterEquals (keyLine (key, value)) = value := by
  have equals : '=' ∈ keyLine (key, value) := List.mem_append_right _ List.mem_cons_self
  rw [afterEquals, if_pos equals, keyLine, dropWhile_keyLine plain]
  rfl

/-- A value without `=` is also the second field. -/
theorem secondField_keyLine (short : '=' ∉ value) :
    secondField (keyLine (key, value)) = value := by
  rw [secondField, keyLine, dropWhile_keyLine plain, List.drop_one, List.tail_cons,
    List.takeWhile_eq_self_iff]
  intro c member
  exact decide_eq_true fun same => short (same ▸ member)

end fields

/-- What is found of a field in its lines: itself, if its value is a line or none of the later
lines is one for the key. -/
theorem filter_keyLine {field : String × Text} {isKey : Text → Bool}
    (plain : '=' ∉ field.1.toList ∧ '\n' ∉ field.1.toList)
    (whole : isKey field.1.toList = true → '\n' ∉ field.2)
    (later : ∀ line ∈ (lines field.2).tail, isKey (firstField line) = false) :
    (lines (keyLine field)).filter (fun line => isKey (firstField line)) =
      if isKey field.1.toList then [keyLine field] else [] := by
  have lead {value : Text} (short : '\n' ∉ value) : '\n' ∉ keyLine (field.1, value) := by
    intro broken
    obtain inKey | inValue := List.mem_append.mp broken
    · exact plain.2 inKey
    · exact short (List.mem_of_ne_of_mem (by decide) inValue)
  obtain ⟨key, value⟩ := field
  by_cases broken : '\n' ∈ value
  · obtain ⟨first, others, rfl, short⟩ := List.eq_append_cons_of_mem broken
    have known : isKey key.toList = false :=
      Bool.eq_false_iff.mpr fun known => absurd broken (whole known)
    rw [lines_line short, List.tail_cons] at later
    have cut : keyLine (key, first ++ '\n' :: others) = keyLine (key, first) ++ '\n' :: others :=
      (List.append_assoc _ ('=' :: first) _).symm
    rw [cut, lines_line (lead short), List.filter_cons_of_neg, List.filter_eq_nil_iff.mpr, known]
    · rfl
    · exact fun line member => Bool.eq_false_iff.mp (later line member)
    · rw [firstField_keyLine plain.1, known]
      exact Bool.false_ne_true
  · rw [lines_whole (lead broken) (by simp [keyLine]), List.filter_cons,
      firstField_keyLine plain.1]
    rfl

/-- A `key=value` file is read back field by field. -/
theorem extract_keyFile {fields : List (String × Text)} {isKey : Text → Bool}
    (plain : ∀ field ∈ fields, '=' ∉ field.1.toList ∧ '\n' ∉ field.1.toList)
    (whole : ∀ field ∈ fields, isKey field.1.toList = true → '\n' ∉ field.2)
    (later : ∀ field ∈ fields, ∀ line ∈ (lines field.2).tail, isKey (firstField line) = false)
    (named : isKey [] = false) (value : Text → Text) :
    extract isKey value (keyFile fields) =
      chomp (unlines ((fields.filter fun field => isKey field.1.toList).map
        fun field => value (keyLine field))) := by
  have found : (lines (keyFile fields)).filter (fun line => isKey (firstField line)) =
      (fields.filter fun field => isKey field.1.toList).map keyLine := by
    induction fields with
    | nil => rfl
    | cons field fields ih =>
      obtain ⟨plain, plain'⟩ := List.forall_mem_cons.mp plain
      obtain ⟨whole, whole'⟩ := List.forall_mem_cons.mp whole
      obtain ⟨later, later'⟩ := List.forall_mem_cons.mp later
      obtain ⟨more, empty, split⟩ := lines_append (keyLine field) (keyFile fields)
      have file : keyFile (field :: fields) = keyLine field ++ '\n' :: keyFile fields :=
        List.append_assoc ..
      have nothing : more.filter (fun line => isKey (firstField line)) = [] := by
        rw [List.filter_eq_nil_iff]
        intro line member
        rw [empty line member]
        exact Bool.eq_false_iff.mp named
      rw [file, split, List.filter_append, List.filter_append, nothing,
        filter_keyLine plain whole later, ih plain' whole' later', List.filter_cons]
      split <;> rfl
  rw [extract, found, List.map_map]
  rfl

end VitaLinux.Toolkit
