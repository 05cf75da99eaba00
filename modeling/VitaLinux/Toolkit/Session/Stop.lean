import VitaLinux.Toolkit.Session.Start

/-!
# What a stop takes away

The state file that a start has written names the target and the transport, and says
whether the transport is the session's. A stop unmounts what it names, in this order.
-/

namespace VitaLinux.Toolkit.Session

open VitaLinux.Base Prog

variable {awk : Awk} {canon : Text → Text} {c : Config} {s t : World × List Done}

theorem validPath_spelling {path : Text} (valid : validPath path = true) :
    '\\' ∉ path ∧ '\n' ∉ path ∧ Wordlike path := by
  unfold validPath at valid
  simp only [Bool.and_eq_true, beq_iff_eq, List.all_eq_true] at valid
  obtain ⟨⟨slash, _, allowed⟩, _⟩ := valid
  refine ⟨fun member => ?_, fun member => ?_, ?_⟩
  · exact absurd (allowed _ member) (by decide)
  · exact absurd (allowed _ member) (by decide)
  · obtain ⟨rest, rfl⟩ := List.head?_eq_some_iff.mp slash
    exact ⟨'/', rest, rfl, by decide⟩

theorem isMounted_iff {path : Text} (valid : validPath path = true) (s : World) :
    isMounted awk s.mounts path = true ↔ path ∈ s.places.map Prod.fst := by
  obtain ⟨plain, _, word⟩ := validPath_spelling valid
  unfold isMounted World.places
  rw [List.any_eq_true, List.map_map, List.mem_map]
  simp only [awk.is_iff plain word, Function.comp_apply]

/-- The keys under which the state file says what a stop unmounts. -/
def stopKeys : List String := ["target", "transport", "transport_mounted_by_session"]

/-- What a stop unmounts is said in one line each, and no later line of another value passes for
one of these. -/
def Legible (fields : List (String × Text)) : Prop :=
  ∀ field ∈ fields, (field.1 ∈ stopKeys → '\n' ∉ field.2) ∧
    ∀ line ∈ (lines field.2).tail, ∀ key ∈ stopKeys, firstField line ≠ key.toList

instance (fields : List (String × Text)) : Decidable (Legible fields) := by
  unfold Legible
  infer_instance

/-- Values without newlines are legible. -/
theorem legible_of_lines {fields : List (String × Text)} (whole : ∀ field ∈ fields, '\n' ∉ field.2) :
    Legible fields := by
  intro field member
  refine ⟨fun _ => whole field member, fun line later => ?_⟩
  by_cases empty : field.2 = []
  · rw [empty] at later
    exact absurd later List.not_mem_nil
  · rw [lines_whole (whole field member) empty] at later
    exact absurd later List.not_mem_nil

section fields

variable {found : Located} {digest workspace : Text} {mode : String}

/-- The keys of the state file. -/
theorem sessionFields_keys :
    ∀ field ∈ sessionFields c found digest mode workspace,
      '=' ∉ field.1.toList ∧ '\n' ∉ field.1.toList := by
  have keys : ∀ key ∈ (sessionFields c found digest mode workspace).map Prod.fst,
      '=' ∉ key.toList ∧ '\n' ∉ key.toList := by
    change ∀ key ∈ ["payload", "payload_sha256", "target", "transport", "transport_mode",
      "source_type", "workspace", "transport_mounted_by_session"],
      '=' ∉ key.toList ∧ '\n' ∉ key.toList
    decide
  intro field member
  exact keys field.1 (List.mem_map_of_mem member)

variable (legible : Legible (sessionFields c found digest mode workspace))
include legible

/-- What a stop unmounts is read back as it was written. -/
theorem extract_sessionFields {key : String} (read : key ∈ stopKeys) (value : Text → Text)
    {text : Text}
    (only : (sessionFields c found digest mode workspace).filter (·.1 = key) = [(key, text)])
    (reads : value (keyLine (key, text)) = text) :
    extract (· = key.toList) value (keyFile (sessionFields c found digest mode workspace)) =
      text := by
  have here : (key, text) ∈ sessionFields c found digest mode workspace :=
    List.mem_of_mem_filter (only ▸ List.mem_singleton_self _)
  have named : ∀ key ∈ stopKeys, decide ([] = key.toList) = false := by decide
  rw [extract_keyFile sessionFields_keys]
  case named => exact named key read
  case whole =>
    intro field member same
    have same : field.1 = key := String.toList_inj.mp (of_decide_eq_true same)
    exact (legible field member).1 (same ▸ read)
  case later =>
    exact fun field member line later =>
      decide_eq_false ((legible field member).2 line later key read)
  simp only [String.toList_inj]
  rw [only, List.map_singleton, reads]
  exact chomp_unlines_singleton ((legible _ here).1 read)

theorem readState_target :
    (readState (keyFile (sessionFields c found digest mode workspace))).target = c.target := by
  have only : (sessionFields c found digest mode workspace).filter (·.1 = "target") =
    [("target", c.target)] := rfl
  have plain : '=' ∉ "target".toList := by decide
  dsimp only [readState]
  exact extract_sessionFields legible (by decide) afterEquals only (afterEquals_keyLine plain _)

theorem readState_transport :
    (readState (keyFile (sessionFields c found digest mode workspace))).transport =
      found.transport := by
  have only : (sessionFields c found digest mode workspace).filter (·.1 = "transport") =
    [("transport", found.transport)] := rfl
  have plain : '=' ∉ "transport".toList := by decide
  dsimp only [readState]
  exact extract_sessionFields legible (by decide) afterEquals only (afterEquals_keyLine plain _)

theorem readState_owned :
    (readState (keyFile (sessionFields c found digest mode workspace))).owned =
      if found.owned then "1".toList else "0".toList := by
  have only : (sessionFields c found digest mode workspace).filter
      (·.1 = "transport_mounted_by_session") =
    [("transport_mounted_by_session", if found.owned then "1".toList else "0".toList)] := rfl
  have plain : '=' ∉ "transport_mounted_by_session".toList := by decide
  have flag : '=' ∉ if found.owned then "1".toList else "0".toList := by
    cases found.owned <;> decide
  dsimp only [readState]
  exact extract_sessionFields legible (by decide) secondField only
    (secondField_keyLine plain _ flag)

end fields

end VitaLinux.Toolkit.Session
