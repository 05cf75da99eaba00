import VitaLinux.Cart.Provenance.Certified

/-!
# The order of the lines

Blank lines, comments and the order of the assignments do not matter: on files with the same
assignments the script prints the same, and stops at the same check.
-/

namespace VitaLinux.Cart.Provenance

open VitaLinux.Base VitaLinux.Toolkit

section texts

variable {locale : Locale} {awk : Awk} {text other : Text}

theorem syntaxOk_perm (same : (content locale text).Perm (content locale other)) :
    syntaxOk locale text = syntaxOk locale other := by
  rw [Bool.eq_iff_iff, syntaxOk_iff, syntaxOk_iff, (same.map firstField).nodup_iff]
  refine and_congr_left fun _ => ?_
  exact ⟨fun h line mem => h line (same.symm.subset mem), fun h line mem => h line (same.subset mem)⟩

/-- A key gets its value from one line, or from none. -/
theorem valueFrom_perm (same : (content locale text).Perm (content locale other))
    (written : syntaxOk locale text = true) {key : String} (known : key ∈ REQUIRED_KEYS) :
    valueFrom awk text key = valueFrom awk other key := by
  obtain ⟨assignments, distinct⟩ := syntaxOk_iff.mp written
  have distinct' : ((content locale other).map firstField).Nodup :=
    (same.map firstField).nodup_iff.mp distinct
  by_cases given : ∃ line ∈ content locale text, firstField line = key.toList
  · obtain ⟨line, mem, named⟩ := given
    have value := (assignment_key (assignments line mem)).2
    rw [valueFrom_line known distinct mem named value,
      valueFrom_line known distinct' (same.subset mem) named value]
  · have absent : ∀ {t : Text}, (content locale t).Perm (content locale text) →
        (content locale t).filter (fun line => firstField line = key.toList) = [] := by
      intro t perm
      refine List.filter_eq_nil_iff.mpr fun line mem found => ?_
      exact given ⟨line, perm.subset mem, of_decide_eq_true found⟩
    rw [@valueFrom_eq locale awk text key known, @valueFrom_eq locale awk other key known,
      absent .rfl, absent same.symm]

theorem unknownKey_perm (same : (content locale text).Perm (content locale other))
    (written : syntaxOk locale text = true) :
    unknownKey locale text = [] ↔ unknownKey locale other = [] := by
  obtain ⟨assignments, -⟩ := syntaxOk_iff.mp written
  have named : ∀ line ∈ content locale text, isKey (firstField line) = true :=
    fun line mem => (assignment_key (assignments line mem)).1
  rw [unknownKey_iff named, unknownKey_iff fun line mem => named line (same.symm.subset mem)]
  exact ⟨fun h line mem => h line (same.symm.subset mem), fun h line mem => h line (same.subset mem)⟩

end texts

section run

variable {locale : Locale} {awk : Awk} {w : World} {read : Text → Option Text}

/-- What is read has the same lines, but for the order and the lines that are skipped. -/
def SameLines (locale : Locale) : Option Text → Option Text → Prop :=
  Option.Rel fun text other => (content locale text).Perm (content locale other)

theorem validateFile_perm {found found' : Option Text} (same : SameLines locale found found')
    (there : Bool) (label : String) : validateFile locale awk there found label =
      validateFile locale awk there found' label := by
  cases same with
  | none => rfl
  | @some text other perm =>
    refine Report.bind_congr fun _ _ => ?_
    change (Report.ensure (syntaxOk locale text = true) _ >>= fun _ => _) =
      (Report.ensure (syntaxOk locale other = true) _ >>= fun _ => _)
    rw [← syntaxOk_perm perm]
    refine Report.bind_congr fun _ returned => ?_
    have written := Report.returns_ensure.mp returned
    have given : ∀ key ∈ REQUIRED_KEYS,
        (Report.ensure (valueFrom awk text key ≠ []) (fail (label ++ ".required_keys")) :
          Shell Unit) =
        Report.ensure (valueFrom awk other key ≠ []) (fail (label ++ ".required_keys")) := by
      intro key known
      rw [valueFrom_perm perm written known]
    rw [Report.forM_congr given, Report.ensure_congr (unknownKey_perm perm written)]

/-- Where the check returns, both texts are there, and the same values are read from them. -/
theorem values_perm {found found' : Option Text} (same : SameLines locale found found')
    {there : Bool} {label : String} {value : Unit}
    (returned : (validateFile locale awk there found label).Returns value) {key : String}
    (known : key ∈ REQUIRED_KEYS) :
    valueFrom awk (found.getD []) key = valueFrom awk (found'.getD []) key := by
  obtain ⟨-, text, rfl, accepted⟩ := validateFile_iff.mp returned
  cases same with
  | some perm => exact valueFrom_perm perm accepted.written known

theorem validate_perm {file : Text} (same : SameLines locale (w.read file) (read file))
    (label : String) :
    validate locale awk w file label = validate locale awk { w with read } file label := by
  rw [validate, validate, ← validateFile_perm same]
  refine Report.bind_congr fun _ returned => ?_
  refine Report.forM_congr fun check mem => ?_
  rw [values_perm same returned (typed_keys check mem)]

theorem validateFile_returns {file : Text} {label : String} {value : Unit}
    (returned : (validate locale awk w file label).Returns value) :
    ∃ value', (validateFile locale awk (w.regular file) (w.read file) label).Returns value' := by
  rw [validate, Report.returns_bind] at returned
  obtain ⟨value', first, -⟩ := returned
  exact ⟨value', first⟩

/-- The same values are read from two texts. -/
def SameValues (awk : Awk) (text other : Text) : Prop :=
  ∀ key ∈ REQUIRED_KEYS, valueFrom awk text key = valueFrom awk other key

theorem validate_sameValues {file : Text} (same : SameLines locale (w.read file) (read file))
    {label : String} {value : Unit} (returned : (validate locale awk w file label).Returns value) :
    SameValues awk ((w.read file).getD []) ((read file).getD []) := by
  obtain ⟨_, first⟩ := validateFile_returns returned
  exact fun key known => values_perm same first known

theorem checkBaseline_perm (same : ∀ file, SameLines locale (w.read file) (read file))
    {o : Options} {text other : Text} (values : SameValues awk text other) :
    checkBaseline locale awk w o text = checkBaseline locale awk { w with read } o other := by
  rw [checkBaseline, checkBaseline]
  cases o.allowNonproduction with
  | false =>
    refine Report.forM_congr fun field mem => ?_
    have known : field.1 ∈ REQUIRED_KEYS := production_keys ▸ List.mem_map_of_mem mem
    rw [values field.1 known]
  | true =>
    simp only [↓reduceIte]
    rw [← validate_perm (same o.expected)]
    refine Report.bind_congr fun _ returned => Report.forM_congr fun key known => ?_
    rw [values key known, validate_sameValues (same o.expected) returned key known]

theorem checkEvidence_perm {o : Options} {repo text other : Text}
    (values : SameValues awk text other) :
    checkEvidence awk w o repo text = checkEvidence awk { w with read } o repo other := by
  have bundle : checkBundle awk w repo text = checkBundle awk { w with read } repo other := by
    refine Report.forM_congr fun entry mem => ?_
    have known : entry.2.1 ∈ REQUIRED_KEYS := bundle_keys entry mem
    rw [values entry.2.1 known]
    rfl
  have binary : checkBinary awk w o text = checkBinary awk { w with read } o other := by
    rw [checkBinary, checkBinary, values "known_good_demo_binary_sha256" (by decide)]
    rfl
  have links : ∀ sub ∈ SUBMODULES, valueFrom awk text sub.2.2 = valueFrom awk other sub.2.2 :=
    fun sub mem => values sub.2.2 (submodule_keys sub mem)
  have gitlinks : (forM SUBMODULES fun sub =>
      checkGitlink w repo sub.1 sub.2.1 (valueFrom awk text sub.2.2)) =
        forM SUBMODULES fun sub =>
          checkGitlink { w with read } repo sub.1 sub.2.1 (valueFrom awk other sub.2.2) :=
    Report.forM_congr fun sub mem => by rw [links sub mem]; rfl
  have trees (real : Text) : (forM SUBMODULES fun sub =>
      checkSubmodule w repo real sub.1 sub.2.1 (valueFrom awk text sub.2.2)) =
        forM SUBMODULES fun sub =>
          checkSubmodule { w with read } repo real sub.1 sub.2.1 (valueFrom awk other sub.2.2) :=
    Report.forM_congr fun sub mem => by rw [links sub mem]; rfl
  simp only [checkEvidence, bundle, binary, gitlinks, trees]
  rw [values "production_outer_commit" (by decide)]
  rfl

theorem checkAll_perm (same : ∀ file, SameLines locale (w.read file) (read file))
    (o : Options) (repo : Text) :
    checkAll locale awk w o repo = checkAll locale awk { w with read } o repo := by
  rw [checkAll, checkAll]
  refine Report.bind_congr fun _ _ => ?_
  rw [← validate_perm (same (baselinePath o repo))]
  refine Report.bind_congr fun _ returned => Report.bind_congr fun _ _ => ?_
  have values := validate_sameValues (same (baselinePath o repo)) returned
  dsimp only
  rw [checkBaseline_perm same values, checkEvidence_perm values]

end run

/-- On files with the same assignments the whole run is the same. -/
theorem verifyBaseline_order (locale : Locale) (awk : Awk) (w : World) (read : Text → Option Text)
    (same : ∀ file, SameLines locale (w.read file) (read file)) (args : List Text) :
    verifyBaseline locale awk w args = verifyBaseline locale awk { w with read } args := by
  rw [verifyBaseline, verifyBaseline]
  refine Report.bind_congr fun root _ => Report.bind_congr fun o _ => ?_
  refine Report.bind_congr fun _ _ => Report.bind_congr fun repo _ => ?_
  exact checkAll_perm same o repo

/-- A machine on which a file with two assignments and a comment is read. -/
def twoLines : World where
  defaultRoot := some []
  repoRoot := []
  regular _ := true
  directory _ := true
  link _ := false
  readable _ := true
  executable _ := true
  read _ := some "target_fps=1.0\n# a note\nschema_version=1\n".toList
  enter path := some path
  which name := some name
  run _ _ := ⟨0, []⟩

theorem twoLines_order : verifyBaseline .posix .plain twoLines ["--arm-binary".toList, ['a']] =
    verifyBaseline .posix .plain
      { twoLines with read := fun _ => some "schema_version=1\n\ntarget_fps=1.0\n".toList }
      ["--arm-binary".toList, ['a']] := by
  refine verifyBaseline_order .posix .plain twoLines _ (fun _ => .some ?_) _
  decide

end VitaLinux.Cart.Provenance
