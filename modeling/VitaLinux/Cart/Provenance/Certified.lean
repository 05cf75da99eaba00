import VitaLinux.Cart.Provenance.VerifyBaseline

/-!
# What the last PASS line certifies

The last line is printed where the baseline gives the constants, whatever the order of its
lines, and the evidence, the binary, the repository and the submodules are the ones of the
constants. Without the notice the constants are those of the script: no argument, and no
value of the baseline, puts others in their place.
-/

namespace VitaLinux.Cart.Provenance

open VitaLinux.Base VitaLinux.Toolkit

/-- The value for a key. -/
def pin (pins : List (String × Text)) (key : String) : Text := (pins.lookup key).getD []

section facts

variable (w : World)

/-- A file that is no link, and its digest. -/
structure HasDigest (path digest : Text) : Prop where
  regular : w.regular path = true
  noLink : w.link path = false
  readable : w.readable path = true
  digest : column 1 (w.run "sha256sum".toList [path]).output = digest

/-- A static executable for the device, as the two tools see it. -/
structure DeviceBinary (readelf file path : Text) : Prop where
  header : ∃ header, w.run readelf ["-h".toList, path] = ⟨0, header⟩ ∧
    ∀ check ∈ HEADER_CHECKS, Spread check.1 header
  noInterpreter : ∃ headers, w.run readelf ["-l".toList, path] = ⟨0, headers⟩ ∧
    ¬"INTERP".toList <:+: headers
  static : ∃ dynamic, w.run readelf ["-d".toList, path] = ⟨0, dynamic⟩ ∧
    "There is no dynamic section".toList <:+: dynamic
  described : ∃ description, w.run file ["-b".toList, path] = ⟨0, description⟩ ∧
    Spread DESCRIPTION description

/-- The tools that look at the binary: those of the fixture, or those of the machine. -/
def Tools (o : Options) (readelf file : Text) : Prop :=
  if o.fixtureTools = [] then
    w.which "readelf".toList = some readelf ∧ w.which "file".toList = some file
  else
    w.directory o.fixtureTools = true ∧ w.link o.fixtureTools = false ∧
      readelf = o.fixtureTools ++ "/readelf".toList ∧ file = o.fixtureTools ++ "/file".toList ∧
      ∀ tool ∈ [readelf, file],
        w.regular tool = true ∧ w.link tool = false ∧ w.executable tool = true

/-- The repository at the path descends from the commit. -/
structure Descends (repo commit : Text) : Prop where
  root : ∃ root, w.git repo ["rev-parse".toList, "--show-toplevel".toList] = ⟨0, root⟩ ∧
    w.enter root = some repo
  known : (w.git repo ["cat-file".toList, "-e".toList, commitOf commit]).status = 0
  ancestor : ∃ head,
    w.git repo ["rev-parse".toList, "--verify".toList, commitOf "HEAD".toList] = ⟨0, head⟩ ∧
    (w.git repo ["merge-base".toList, "--is-ancestor".toList, commit, head]).status = 0

/-- The last commit of the repository names this commit for the submodule. -/
def Links (repo path commit : Text) : Prop :=
  ∃ line, w.git repo ["ls-tree".toList, "HEAD".toList, "--".toList, path] = ⟨0, line⟩ ∧
    column 1 line = "160000".toList ∧ column 3 line = commit

/-- The submodule is checked out at the commit, inside the repository, and nothing of it has
been changed or added. -/
structure CheckedOut (repo path commit : Text) : Prop where
  directory : w.directory (repo ++ '/' :: path) = true
  noLink : w.link (repo ++ '/' :: path) = false
  inside : ∃ real, w.enter (repo ++ '/' :: path) = some real ∧ repo ++ ['/'] <+: real ++ ['/'] ∧
    ∃ root, w.git (repo ++ '/' :: path) ["rev-parse".toList, "--show-toplevel".toList] = ⟨0, root⟩ ∧
      w.enter root = some real
  head : w.git (repo ++ '/' :: path) ["rev-parse".toList, "--verify".toList,
    commitOf "HEAD".toList] = ⟨0, commit⟩
  unchanged : ∀ options ∈ [[], ["--cached".toList]], (w.git (repo ++ '/' :: path)
    ("diff".toList :: options ++ ["--quiet".toList, "--".toList])).status = 0
  nothingNew : w.git (repo ++ '/' :: path)
    ["status".toList, "--porcelain".toList, "--untracked-files=all".toList] = ⟨0, []⟩

/-- Everything but the baseline is as these values say. -/
structure Genuine (o : Options) (repo : Text) (pins : List (String × Text)) : Prop where
  bundle : ∀ entry ∈ BUNDLE, HasDigest w (bundlePath repo entry.1) (pin pins entry.2.1)
  binary : ∃ readelf file, Tools w o readelf file ∧ DeviceBinary w readelf file o.armBinary
  digest : HasDigest w o.armBinary (pin pins "known_good_demo_binary_sha256")
  outer : Descends w repo (pin pins "production_outer_commit")
  links : ∀ sub ∈ SUBMODULES, Links w repo sub.2.1 (pin pins sub.2.2)
  submodules : ∀ sub ∈ SUBMODULES, CheckedOut w repo sub.2.1 (pin pins sub.2.2)

/-- The run is on this binary and this repository. -/
structure Invoked (args : List Text) (o : Options) (repo : Text) : Prop where
  parsed : ∃ root, w.defaultRoot = some root ∧
    parseArgs { repo := if w.repoRoot = [] then root else w.repoRoot } args = .ok o
  isFile : w.regular o.armBinary = true
  noLink : w.link o.armBinary = false
  readable : w.readable o.armBinary = true
  executable : w.executable o.armBinary = true
  named : o.armBinary ≠ []
  entered : w.enter o.repo = some repo

end facts

/-! ## What each check establishes -/

section checks

variable {w : World}

@[simp] theorem Reply.ok_eq {reply : Reply} {output : Text} :
    reply.ok = some output ↔ reply = ⟨0, output⟩ := by
  obtain ⟨status, text⟩ := reply
  simp [Reply.ok]

theorem checkSha256_iff {file digest : Text} {label : String} {value : Unit} :
    (checkSha256 w file digest label).Returns value ↔ HasDigest w file digest := by
  simp only [checkSha256, Report.returns_bind, Report.returns_ensure, exists_const]
  constructor
  · rintro ⟨⟨regular, noLink, readable⟩, digest⟩
    exact ⟨regular, noLink, readable, digest⟩
  · intro h
    exact ⟨⟨h.regular, h.noLink, h.readable⟩, h.digest⟩

theorem fixtureTool_returns {o : Options} {name : String} {path : Text} :
    (fixtureTool w o name).Returns path ↔ path = o.fixtureTools ++ '/' :: name.toList ∧
      w.regular path = true ∧ w.link path = false ∧ w.executable path = true := by
  simp only [fixtureTool, Report.returns_bind, Report.returns_ensure, Report.returns_pure,
    exists_const]
  constructor
  · rintro ⟨facts, rfl⟩
    exact ⟨rfl, facts⟩
  · rintro ⟨rfl, facts⟩
    exact ⟨facts, rfl⟩

theorem binaryTools_returns {o : Options} {readelf file : Text} :
    (binaryTools w o).Returns (readelf, file) ↔ Tools w o readelf file := by
  by_cases none : o.fixtureTools = []
  · simp [binaryTools, Tools, none]
  · simp only [binaryTools, Tools, none, ne_eq, not_false_eq_true, ↓reduceIte,
      Report.returns_bind, Report.returns_ensure, Report.returns_pure, fixtureTool_returns,
      exists_const, Prod.mk.injEq]
    constructor
    · rintro ⟨⟨directory, noLink⟩, _, ⟨rfl, first⟩, _, ⟨rfl, second⟩, rfl, rfl⟩
      refine ⟨directory, noLink, rfl, rfl, ?_⟩
      simp only [List.mem_cons, List.not_mem_nil, or_false, forall_eq_or_imp, forall_eq]
      exact ⟨first, second⟩
    · rintro ⟨directory, noLink, rfl, rfl, tools⟩
      simp only [List.mem_cons, List.not_mem_nil, or_false, forall_eq_or_imp, forall_eq] at tools
      exact ⟨⟨directory, noLink⟩, _, ⟨rfl, tools.1⟩, _, ⟨rfl, tools.2⟩, rfl, rfl⟩

theorem checkBinary_iff {awk : Awk} {o : Options} {text : Text} {value : Unit} :
    (checkBinary awk w o text).Returns value ↔
      (∃ readelf file, Tools w o readelf file ∧ DeviceBinary w readelf file o.armBinary) ∧
        HasDigest w o.armBinary (valueFrom awk text "known_good_demo_binary_sha256") := by
  simp only [checkBinary, Report.returns_bind, Prod.exists, binaryTools_returns,
    Report.returns_demand, Report.returns_ensure, Report.returns_forM, Reply.ok_eq, exists_const,
    globMatches_iff, checkSha256_iff, ← Bool.not_eq_true, spread_singleton]
  constructor
  · rintro ⟨readelf, file, tools, header, h₁, checks, headers, h₂, interp, dynamic, h₃, static,
      description, h₄, described, digest⟩
    exact ⟨⟨readelf, file, tools, ⟨header, h₁, checks⟩, ⟨headers, h₂, interp⟩,
      ⟨dynamic, h₃, static⟩, ⟨description, h₄, described⟩⟩, digest⟩
  · rintro ⟨⟨readelf, file, tools, ⟨header, h₁, checks⟩, ⟨headers, h₂, interp⟩,
      ⟨dynamic, h₃, static⟩, ⟨description, h₄, described⟩⟩, digest⟩
    exact ⟨readelf, file, tools, header, h₁, checks, headers, h₂, interp, dynamic, h₃, static,
      description, h₄, described, digest⟩

theorem checkOuter_returns {repo commit real : Text} :
    (checkOuter w repo commit).Returns real ↔ real = repo ∧ Descends w repo commit := by
  simp only [checkOuter, Report.returns_bind, Report.returns_demand, Report.returns_ensure,
    Report.returns_say, Report.returns_pure, Reply.ok_eq, exists_const, true_and]
  constructor
  · rintro ⟨root, h₁, _, entered, rfl, head, h₂, known, ancestor, rfl⟩
    exact ⟨rfl, ⟨root, h₁, entered⟩, known, head, h₂, ancestor⟩
  · rintro ⟨rfl, ⟨root, h₁, entered⟩, known, head, h₂, ancestor⟩
    exact ⟨root, h₁, _, entered, rfl, head, h₂, known, ancestor, rfl⟩

theorem checkGitlink_iff {repo path commit : Text} {name : String} :
    (checkGitlink w repo name path commit).Returns () ↔ Links w repo path commit := by
  simp only [checkGitlink, Links, Report.returns_bind, Report.returns_demand,
    Report.returns_ensure, Report.returns_say, Reply.ok_eq, exists_const, and_true]

theorem checkDiff_iff {dir : Text} {options : List Text} {label : String} {value : Unit} :
    (checkDiff w dir options label).Returns value ↔
      (w.git dir ("diff".toList :: options ++ ["--quiet".toList, "--".toList])).status = 0 := by
  simp only [checkDiff, Report.returns_ensure]

theorem checkSubmodule_iff {repo path commit : Text} {name : String} :
    (checkSubmodule w repo repo name path commit).Returns () ↔ CheckedOut w repo path commit := by
  simp only [checkSubmodule, Report.returns_bind, Report.returns_demand, Report.returns_ensure,
    Report.returns_say, checkDiff_iff, Reply.ok_eq, exists_const, true_and, and_true]
  constructor
  · rintro ⟨directory, noLink, real, entered, inside, root, h₁, _, same, rfl, _, head, rfl,
      worktree, index, _, status, rfl⟩
    refine ⟨directory, noLink, ⟨_, entered, inside, root, h₁, same⟩, head, ?_, status⟩
    simp only [List.mem_cons, List.not_mem_nil, or_false, forall_eq_or_imp, forall_eq]
    exact ⟨worktree, index⟩
  · rintro ⟨directory, noLink, ⟨real, entered, inside, root, h₁, same⟩, head, unchanged, status⟩
    simp only [List.mem_cons, List.not_mem_nil, or_false, forall_eq_or_imp, forall_eq] at unchanged
    exact ⟨directory, noLink, real, entered, inside, root, h₁, _, same, rfl, _, head, rfl,
      unchanged.1, unchanged.2, _, status, rfl⟩

theorem checkOptions_iff {o : Options} : (checkOptions w o).Returns () ↔
    (o.expected = [] ↔ o.allowNonproduction = false) ∧
      (o.fixtureTools = [] ∨ o.allowNonproduction = true) ∧ o.armBinary ≠ [] ∧
      w.regular o.armBinary = true ∧ w.link o.armBinary = false ∧
      w.readable o.armBinary = true ∧ w.executable o.armBinary = true := by
  simp only [checkOptions, Report.returns_bind, Report.returns_ensure, exists_const]
  cases o.allowNonproduction <;> simp

variable {locale : Locale} {awk : Awk} {text : Text} {pins : List (String × Text)}

theorem validateFile_iff {there : Bool} {found : Option Text} {label : String} {value : Unit} :
    (validateFile locale awk there found label).Returns value ↔
      there = true ∧ ∃ text, found = some text ∧ Accepted locale awk text := by
  simp only [validateFile, Report.returns_bind, Report.returns_demand, Report.returns_ensure,
    Report.returns_forM, exists_const]
  refine and_congr_right fun _ => exists_congr fun text => and_congr_right fun _ => ?_
  constructor
  · rintro ⟨written, given, known⟩
    exact ⟨written, given, known⟩
  · intro h
    exact ⟨h.written, h.given, h.known⟩

/-- The values are of their kinds. -/
def Typed (pins : List (String × Text)) : Prop :=
  ∀ check ∈ VALUE_CHECKS, check.2 (pin pins check.1) = true

/-- A file that gives these values, each of its kind. -/
structure Gives (w : World) (locale : Locale) (file : Text) (pins : List (String × Text)) :
    Prop where
  regular : w.regular file = true
  text : ∃ text, w.read file = some text ∧ Assigns locale text pins
  complete : Complete locale pins
  typed : Typed pins

/-- What a file gives for a required key is read from it. -/
theorem valueFrom_pin (complete : Complete locale pins) (assigns : Assigns locale text pins)
    {key : String} (known : key ∈ REQUIRED_KEYS) : valueFrom awk text key = pin pins key := by
  cases found : pins.lookup key with
  | none =>
    obtain ⟨field, mem, rfl⟩ := List.mem_map.mp (complete.keys ▸ known)
    have absent := List.lookup_eq_none_iff.mp found field mem
    simp at absent
  | some value =>
    obtain ⟨before, after, split, -⟩ := List.lookup_eq_some_iff.mp found
    rw [pin, found, Option.getD_some]
    have mem : (key, value) ∈ pins := by simp [split]
    have given : valueFrom awk text (key, value).1 = (key, value).2 :=
      valueFrom_assigns complete assigns mem
    exact given

theorem typed_keys : ∀ check ∈ VALUE_CHECKS, check.1 ∈ REQUIRED_KEYS := by
  simp [VALUE_CHECKS, REQUIRED_KEYS]

theorem validate_iff {file : Text} {label : String} {value : Unit} :
    (validate locale awk w file label).Returns value ↔ ∃ pins, Gives w locale file pins := by
  simp only [validate, validateValues, Report.returns_bind, validateFile_iff,
    Report.returns_forM, Report.returns_ensure]
  constructor
  · rintro ⟨-, ⟨regular, text, found, accepted⟩, checks⟩
    obtain ⟨complete, assigns⟩ := accepted.assigns
    refine ⟨values awk text, regular, ⟨text, found, assigns⟩, complete, fun check mem => ?_⟩
    rw [← valueFrom_pin complete assigns (typed_keys check mem)]
    simpa [found] using checks check mem
  · rintro ⟨pins, regular, ⟨text, found, assigns⟩, complete, typed⟩
    refine ⟨(), ⟨regular, text, found, assigns.accepted complete⟩, fun check mem => ?_⟩
    rw [found, Option.getD_some, valueFrom_pin complete assigns (typed_keys check mem)]
    exact typed check mem

/-- The values that are read agree with a list of values for the same keys where they are it. -/
theorem agrees_iff {other : List (String × Text)} (keys : other.map Prod.fst = REQUIRED_KEYS) :
    (∀ field ∈ other, valueFrom awk text field.1 = field.2) ↔ values awk text = other := by
  rw [values, ← keys, List.map_map]
  constructor
  · intro agrees
    conv_rhs => rw [← List.map_id other]
    refine List.map_congr_left fun field mem => ?_
    exact Prod.ext rfl (agrees field mem)
  · intro same field mem
    have fixed : ∀ f ∈ other, (f.1, valueFrom awk text f.1) = f := by
      intro f inside
      have every := List.map_inj_left.mp (same.trans (List.map_id other).symm)
      exact every f inside
    exact congrArg Prod.snd (fixed field mem)

theorem values_eq (complete : Complete locale pins) (assigns : Assigns locale text pins) :
    values awk text = pins :=
  (agrees_iff complete.keys).mp fun _ mem => valueFrom_assigns complete assigns mem

theorem production_keys : PRODUCTION.map Prod.fst = REQUIRED_KEYS := rfl

/-- The constants of the script are of their kinds. -/
theorem production_typed (locale : Locale) : Complete locale PRODUCTION ∧ Typed PRODUCTION := by
  have solid : (PRODUCTION.all fun field => !field.2.isEmpty && field.2.all fun c =>
      decide (32 < c.toNat ∧ c.toNat < 128)) = true := by decide +kernel
  have kinds : (VALUE_CHECKS.all fun check => check.2 (pin PRODUCTION check.1)) = true := by
    decide +kernel
  refine ⟨⟨production_keys, fun field mem => ?_⟩, List.all_eq_true.mp kinds⟩
  obtain ⟨some_, plain⟩ := Bool.and_eq_true_iff.mp (List.all_eq_true.mp solid field mem)
  rw [isValue, some_, Bool.true_and, List.all_eq_true]
  intro c inside
  have range := of_decide_eq_true (List.all_eq_true.mp plain c inside)
  rw [space_ascii range.1 range.2]
  rfl

variable {o : Options} {repo : Text}

/-- The values of the baseline are those of the constants at hand. -/
theorem checkBaseline_iff (gives : Gives w locale (baselinePath o repo) pins) {value : Unit} :
    (checkBaseline locale awk w o ((w.read (baselinePath o repo)).getD [])).Returns value ↔
      if o.allowNonproduction then Gives w locale o.expected pins else pins = PRODUCTION := by
  obtain ⟨-, ⟨text, found, assigns⟩, complete, typed⟩ := gives
  have read : values awk text = pins := values_eq complete assigns
  rw [found, Option.getD_some, checkBaseline]
  cases o.allowNonproduction with
  | false =>
    simp only [Bool.false_eq_true, ↓reduceIte, Report.returns_forM, Report.returns_ensure]
    rw [agrees_iff production_keys, read]
  | true =>
    simp only [↓reduceIte, Report.returns_bind, validate_iff, Report.returns_forM,
      Report.returns_ensure]
    constructor
    · rintro ⟨-, ⟨other, regular, ⟨text', found', assigns'⟩, complete', typed'⟩, agrees⟩
      have read' : values awk text' = other := values_eq complete' assigns'
      rw [found', Option.getD_some] at agrees
      have same : pins = other := by
        rw [← read, ← read', values, values]
        exact List.map_congr_left fun key known => Prod.ext rfl (agrees key known)
      rw [same]
      exact ⟨regular, ⟨text', found', assigns'⟩, complete', typed'⟩
    · rintro ⟨regular, ⟨text', found', assigns'⟩, complete', typed'⟩
      refine ⟨(), ⟨pins, regular, ⟨text', found', assigns'⟩, complete', typed'⟩, fun key known => ?_⟩
      rw [found', Option.getD_some, valueFrom_pin complete assigns known,
        valueFrom_pin complete' assigns' known]

theorem bundle_keys : ∀ entry ∈ BUNDLE, entry.2.1 ∈ REQUIRED_KEYS := by
  simp [BUNDLE, REQUIRED_KEYS]

theorem submodule_keys : ∀ sub ∈ SUBMODULES, sub.2.2 ∈ REQUIRED_KEYS := by
  simp [SUBMODULES, REQUIRED_KEYS]

theorem checkEvidence_iff (complete : Complete locale pins) (assigns : Assigns locale text pins)
    {value : Unit} :
    (checkEvidence awk w o repo text).Returns value ↔ Genuine w o repo pins := by
  have bundle : ∀ entry ∈ BUNDLE, valueFrom awk text entry.2.1 = pin pins entry.2.1 :=
    fun entry mem => valueFrom_pin complete assigns (bundle_keys entry mem)
  have submodules : ∀ sub ∈ SUBMODULES, valueFrom awk text sub.2.2 = pin pins sub.2.2 :=
    fun sub mem => valueFrom_pin complete assigns (submodule_keys sub mem)
  have binary : valueFrom awk text "known_good_demo_binary_sha256" =
      pin pins "known_good_demo_binary_sha256" := valueFrom_pin complete assigns (by decide)
  have outer : valueFrom awk text "production_outer_commit" = pin pins "production_outer_commit" :=
    valueFrom_pin complete assigns (by decide)
  simp only [checkEvidence, checkBundle, Report.returns_bind, Report.returns_forM,
    Report.returns_say, checkSha256_iff, checkBinary_iff, checkOuter_returns, checkGitlink_iff,
    exists_const, true_and, binary, outer]
  constructor
  · rintro ⟨files, ⟨tools, digest⟩, _, ⟨rfl, descends⟩, links, trees⟩
    refine ⟨fun entry mem => bundle entry mem ▸ files entry mem, tools, digest, descends,
      fun sub mem => submodules sub mem ▸ links sub mem, fun sub mem => ?_⟩
    exact submodules sub mem ▸ checkSubmodule_iff.mp (trees sub mem)
  · rintro ⟨files, tools, digest, descends, links, trees⟩
    refine ⟨fun entry mem => (bundle entry mem).symm ▸ files entry mem, ⟨tools, digest⟩, repo,
      ⟨rfl, descends⟩, fun sub mem => (submodules sub mem).symm ▸ links sub mem, fun sub mem => ?_⟩
    exact checkSubmodule_iff.mpr ((submodules sub mem).symm ▸ trees sub mem)

end checks

/-! ## What is printed on the way -/

section printed

variable {w : World} {locale : Locale} {awk : Awk} {line : Text}

theorem quiet_validate {file : Text} {label : String} :
    ¬(validate locale awk w file label).Prints line := by
  simp only [validate, validateFile, validateValues, Report.prints_bind, Report.prints_ensure,
    Report.prints_demand, Report.not_prints_forM, not_false_eq_true, implies_true, and_false,
    exists_const, or_self]

theorem quiet_options {o : Options} : ¬(checkOptions w o).Prints line := by
  simp only [checkOptions, Report.prints_bind, Report.prints_ensure, and_false, exists_const,
    or_self, not_false_eq_true]

theorem quiet_baseline {o : Options} {text : Text} :
    ¬(checkBaseline locale awk w o text).Prints line := by
  rw [checkBaseline]
  split
  · simp only [Report.prints_bind, quiet_validate, Report.not_prints_forM, Report.prints_ensure,
      not_false_eq_true, implies_true, and_false, exists_const, or_self]
  · exact Report.not_prints_forM fun _ _ => Report.prints_ensure

theorem quiet_sha256 {file digest : Text} {label : String} :
    ¬(checkSha256 w file digest label).Prints line := by
  simp only [checkSha256, Report.prints_bind, Report.prints_ensure, and_false, exists_const,
    or_self, not_false_eq_true]

theorem quiet_tools {o : Options} : ¬(binaryTools w o).Prints line := by
  rw [binaryTools]
  split <;>
    simp only [fixtureTool, Report.prints_bind, Report.prints_ensure, Report.prints_demand,
      Report.prints_pure, and_false, exists_const, or_self, not_false_eq_true]

theorem quiet_binary {o : Options} {text : Text} : ¬(checkBinary awk w o text).Prints line := by
  simp only [checkBinary, quiet_tools, quiet_sha256, Report.prints_bind, Report.prints_ensure,
    Report.prints_demand, Report.not_prints_forM, not_false_eq_true, implies_true, and_false,
    exists_const, or_self]

theorem readArgs_prints {o : Options} {args : List Text} :
    (readArgs o args).Prints line ↔ parseArgs o args = .error 0 ∧ line = USAGE := by
  rw [readArgs]
  cases parseArgs o args with
  | ok o => simp
  | error status => by_cases asked : status = 0 <;> simp [usage, asked]

/-- A line that tells how the run ends, or what it is compared with. -/
def Marked (line : Text) : Prop := line = PASSED ∨ line = NOTICE

theorem Marked.ne {front : Text} (marked : Marked line)
    (other : (front.isPrefixOf PASSED || front.isPrefixOf NOTICE) = false) (rest : Text) :
    line ≠ front ++ rest := by
  rw [Bool.or_eq_false_iff] at other
  rintro rfl
  obtain same | same := marked
  · have starts := List.isPrefixOf_iff_prefix.mpr ⟨rest, same⟩
    rw [other.1] at starts
    cases starts
  · have starts := List.isPrefixOf_iff_prefix.mpr ⟨rest, same⟩
    rw [other.2] at starts
    cases starts

theorem Marked.ne_whole {other : Text} (marked : Marked line)
    (different : (other.isPrefixOf PASSED || other.isPrefixOf NOTICE) = false) : line ≠ other := by
  simpa using marked.ne different []

/-- The checks of the evidence print other lines than these. -/
theorem quiet_evidence (marked : Marked line) {o : Options} {repo text : Text} :
    ¬(checkEvidence awk w o repo text).Prints line := by
  have head : line ≠ "PASS outer.head".toList := marked.ne_whole (by decide)
  have ancestor : line ≠ "PASS outer.ancestor".toList := marked.ne_whole (by decide)
  have outer {commit : Text} : ¬(checkOuter w repo commit).Prints line := by
    simp only [checkOuter, Report.prints_bind, Report.prints_ensure, Report.prints_demand,
      Report.prints_say, Report.prints_pure, head, ancestor, and_false, exists_const, or_self,
      not_false_eq_true]
  have linked := marked.ne (by decide : ("PASS outer.".toList.isPrefixOf PASSED ||
    "PASS outer.".toList.isPrefixOf NOTICE) = false)
  have gitlink {name : String} {path commit : Text} :
      ¬(checkGitlink w repo name path commit).Prints line := by
    simp only [checkGitlink, Report.prints_bind, Report.prints_ensure, Report.prints_demand,
      Report.prints_say, linked, and_false, exists_const, or_self, not_false_eq_true]
  have checkedOut := marked.ne (by decide : ("PASS submodule.".toList.isPrefixOf PASSED ||
    "PASS submodule.".toList.isPrefixOf NOTICE) = false)
  have submodule {real : Text} {name : String} {path commit : Text} :
      ¬(checkSubmodule w repo real name path commit).Prints line := by
    simp only [checkSubmodule, checkDiff, Report.prints_bind, Report.prints_ensure,
      Report.prints_demand, Report.prints_say, checkedOut, and_false, exists_const, or_self,
      not_false_eq_true]
  have bundle : line ≠ "PASS provenance.v0_1_bundle".toList := marked.ne_whole (by decide)
  have renderer : line ≠ "PASS active renderer compatibility is fixture-governed".toList :=
    marked.ne_whole (by decide)
  have identity : line ≠ "PASS arm_binary.identity".toList := marked.ne_whole (by decide)
  simp only [checkEvidence, checkBundle, Report.prints_bind, Report.prints_say,
    Report.not_prints_forM fun _ _ => quiet_sha256, Report.not_prints_forM fun _ _ => gitlink,
    Report.not_prints_forM fun _ _ => submodule, quiet_binary, outer, bundle, renderer, identity,
    and_false, exists_const, or_self, not_false_eq_true]

end printed

/-! ## The whole run -/

section run

variable {locale : Locale} {awk : Awk} {w : World} {args : List Text} {o : Options} {repo : Text}

/-- The checks before the baseline are passed, with these options on this repository. -/
structure Started (w : World) (args : List Text) (o : Options) (repo : Text) : Prop
    extends Invoked w args o repo where
  mode : o.expected = [] ↔ o.allowNonproduction = false
  tools : o.fixtureTools = [] ∨ o.allowNonproduction = true

theorem started_iff : Started w args o repo ↔ ∃ root, w.defaultRoot = some root ∧
    (readArgs { repo := if w.repoRoot = [] then root else w.repoRoot } args).Returns o ∧
      (checkOptions w o).Returns () ∧ w.enter o.repo = some repo := by
  have parsed {first : Options} :
      (readArgs first args).Returns o ↔ parseArgs first args = .ok o := by
    rw [readArgs]
    cases parseArgs first args with
    | ok other => simp
    | error status => by_cases asked : status = 0 <;> simp [usage, asked]
  simp only [parsed, checkOptions_iff]
  constructor
  · intro h
    obtain ⟨root, known, parsed⟩ := h.parsed
    exact ⟨root, known, parsed, ⟨h.mode, h.tools, h.named, h.isFile, h.noLink, h.readable,
      h.executable⟩, h.entered⟩
  · rintro ⟨root, known, parsed, ⟨mode, tools, named, isFile, noLink, readable, executable⟩,
      entered⟩
    exact ⟨⟨⟨root, known, parsed⟩, isFile, noLink, readable, executable, named, entered⟩, mode,
      tools⟩

/-- A marked line is printed by the checks from the baseline on. -/
theorem verifyBaseline_prints {line : Text} (marked : Marked line) :
    (verifyBaseline locale awk w args).Prints line ↔
      ∃ o repo, Started w args o repo ∧ (checkAll locale awk w o repo).Prints line := by
  have other : line ≠ USAGE := marked.ne_whole (by decide +kernel)
  simp only [verifyBaseline, started_iff, Report.prints_bind, Report.prints_demand,
    Report.returns_demand, readArgs_prints, quiet_options, other, and_false, false_or]
  constructor
  · rintro ⟨root, known, o, parsed, ⟨⟩, options, repo, entered, printed⟩
    exact ⟨o, repo, ⟨root, known, parsed, options, entered⟩, printed⟩
  · rintro ⟨o, repo, ⟨root, known, parsed, options, entered⟩, printed⟩
    exact ⟨root, known, o, parsed, (), options, repo, entered, printed⟩

theorem notice_prints {line : Text} :
    (notice o).Prints line ↔ o.allowNonproduction = true ∧ line = NOTICE := by
  rw [notice]
  split <;> simp [*]

theorem checkAll_notice :
    (checkAll locale awk w o repo).Prints NOTICE ↔ o.allowNonproduction = true := by
  have schema : NOTICE ≠ "PASS baseline.schema_version".toList := by decide
  have passed : NOTICE ≠ PASSED := by decide
  have evidence {text : Text} : ¬(checkEvidence awk w o repo text).Prints NOTICE :=
    quiet_evidence (.inr rfl)
  simp only [checkAll, Report.prints_bind, Report.prints_say, notice_prints, quiet_validate,
    quiet_baseline, evidence, schema, passed, and_true, and_false, exists_const, or_false]

theorem checkAll_passed : (checkAll locale awk w o repo).Prints PASSED ↔
    ∃ pins, Gives w locale (baselinePath o repo) pins ∧
      (if o.allowNonproduction then Gives w locale o.expected pins else pins = PRODUCTION) ∧
      Genuine w o repo pins := by
  have schema : PASSED ≠ "PASS baseline.schema_version".toList := by decide
  have marked : PASSED ≠ NOTICE := by decide
  have evidence {text : Text} : ¬(checkEvidence awk w o repo text).Prints PASSED :=
    quiet_evidence (.inl rfl)
  have noticed : (notice o).Returns () := by
    rw [notice]
    split <;> rfl
  simp only [checkAll, Report.prints_bind, Report.prints_say, Report.returns_say, notice_prints,
    quiet_validate, quiet_baseline, evidence, schema, marked, validate_iff, and_true, and_false,
    false_or, true_and, exists_const]
  constructor
  · rintro ⟨-, -, ⟨pins, gives⟩, _, agrees, _, passes⟩
    have constants := (checkBaseline_iff gives).mp agrees
    obtain ⟨text, found, assigns⟩ := gives.text
    rw [found, Option.getD_some] at passes
    exact ⟨pins, gives, constants, (checkEvidence_iff gives.complete assigns).mp passes⟩
  · rintro ⟨pins, gives, constants, genuine⟩
    have agrees : (checkBaseline locale awk w o _).Returns () :=
      (checkBaseline_iff gives).mpr constants
    obtain ⟨text, found, assigns⟩ := gives.text
    refine ⟨(), noticed, ⟨pins, gives⟩, (), agrees, (), ?_⟩
    rw [found, Option.getD_some]
    exact (checkEvidence_iff gives.complete assigns).mpr genuine

end run

/-- Without the notice, the last line certifies the constants of the script. -/
theorem production_certified (locale : Locale) (awk : Awk) (w : World) (args : List Text) :
    ((verifyBaseline locale awk w args).Prints PASSED ∧
        ¬(verifyBaseline locale awk w args).Prints NOTICE) ↔
      ∃ o repo, Invoked w args o repo ∧ o.expected = [] ∧ o.allowNonproduction = false ∧
        o.fixtureTools = [] ∧ w.regular (baselinePath o repo) = true ∧
        (∃ text, w.read (baselinePath o repo) = some text ∧ Assigns locale text PRODUCTION) ∧
        Genuine w o repo PRODUCTION := by
  rw [verifyBaseline_prints (.inl rfl), verifyBaseline_prints (.inr rfl)]
  simp only [checkAll_notice, checkAll_passed]
  constructor
  · rintro ⟨⟨o, repo, started, pins, gives, constants, genuine⟩, quiet⟩
    have production : o.allowNonproduction = false := by
      by_contra nonproduction
      exact quiet ⟨o, repo, started, by simpa using nonproduction⟩
    rw [production] at constants
    obtain rfl : pins = PRODUCTION := by simpa using constants
    have tools : o.fixtureTools = [] := by simpa [production] using started.tools
    exact ⟨o, repo, started.toInvoked, started.mode.mpr production, production, tools,
      gives.regular, gives.text, genuine⟩
  · rintro ⟨o, repo, invoked, expected, production, tools, regular, text, genuine⟩
    have mode : o.expected = [] ↔ o.allowNonproduction = false := iff_of_true expected production
    obtain ⟨complete, typed⟩ := production_typed locale
    have gives : Gives w locale (baselinePath o repo) PRODUCTION := ⟨regular, text, complete, typed⟩
    refine ⟨⟨o, repo, ⟨invoked, mode, .inl tools⟩, PRODUCTION, gives, ?_, genuine⟩, ?_⟩
    · simp [production]
    · -- the arguments say which options there are
      rintro ⟨other, _, started, nonproduction⟩
      obtain ⟨root, known, parsed⟩ := invoked.parsed
      obtain ⟨root', known', parsed'⟩ := started.parsed
      obtain rfl := Option.some.inj (known.symm.trans known')
      obtain rfl := Except.ok.inj (parsed.symm.trans parsed')
      rw [production] at nonproduction
      cases nonproduction

/-- With the notice, it certifies the values of the file that was given in their place. -/
theorem fixture_certified (locale : Locale) (awk : Awk) (w : World) (args : List Text) :
    ((verifyBaseline locale awk w args).Prints PASSED ∧
        (verifyBaseline locale awk w args).Prints NOTICE) ↔
      ∃ o repo pins, Invoked w args o repo ∧ o.expected ≠ [] ∧ o.allowNonproduction = true ∧
        Gives w locale (baselinePath o repo) pins ∧ Gives w locale o.expected pins ∧
        Genuine w o repo pins := by
  rw [verifyBaseline_prints (.inl rfl), verifyBaseline_prints (.inr rfl)]
  simp only [checkAll_notice, checkAll_passed]
  constructor
  · rintro ⟨⟨o, repo, started, pins, gives, constants, genuine⟩, other, _, started', nonproduction⟩
    obtain ⟨root, known, parsed⟩ := started.parsed
    obtain ⟨root', known', parsed'⟩ := started'.parsed
    obtain rfl := Option.some.inj (known.symm.trans known')
    obtain rfl := Except.ok.inj (parsed.symm.trans parsed')
    rw [if_pos nonproduction] at constants
    refine ⟨o, repo, pins, started.toInvoked, fun none => ?_, nonproduction, gives, constants,
      genuine⟩
    rw [started.mode.mp none] at nonproduction
    cases nonproduction
  · rintro ⟨o, repo, pins, invoked, expected, nonproduction, gives, constants, genuine⟩
    have started : Started w args o repo :=
      ⟨invoked, iff_of_false expected (by simp [nonproduction]), .inr nonproduction⟩
    refine ⟨⟨o, repo, started, pins, gives, ?_, genuine⟩, o, repo, started, nonproduction⟩
    rwa [if_pos nonproduction]

end VitaLinux.Cart.Provenance
