import VitaLinux.Cart.Provenance.Baseline

/-!
# verify-baseline.sh

The script compares the production baseline with the constants it carries, and then the
evidence bundle, the ARM binary, the repository and its submodules with the baseline. With
`--allow-nonproduction` the constants are read from a file, and a notice is printed.
-/

namespace VitaLinux.Cart.Provenance

open VitaLinux.Base VitaLinux.Toolkit

/-- The exit status of a command, and what `$(...)` makes of its output. -/
structure Reply where
  status : Nat
  output : Text

/-- The output of a command that succeeds. -/
def Reply.ok (reply : Reply) : Option Text := if reply.status = 0 then some reply.output else none

/-- The machine, of which nothing changes while the script runs. -/
structure World where
  /-- `DEFAULT_ROOT`, if the directories lead there -/
  defaultRoot : Option Text
  /-- `VITA_REPO_ROOT` -/
  repoRoot : Text
  /-- `[ -f path ]` -/
  regular : Text → Bool
  /-- `[ -d path ]` -/
  directory : Text → Bool
  /-- `[ -L path ]` -/
  link : Text → Bool
  /-- `[ -r path ]` -/
  readable : Text → Bool
  /-- `[ -x path ]` -/
  executable : Text → Bool
  /-- what an awk reads that is given this operand -/
  read : Text → Option Text
  /-- `cd -- path && pwd -P` -/
  enter : Text → Option Text
  /-- `command -v name` -/
  which : Text → Option Text
  /-- a command with its arguments -/
  run : Text → List Text → Reply

def World.git (w : World) (dir : Text) (args : List Text) : Reply :=
  w.run "git".toList ("-C".toList :: dir :: args)

/-- What `$(... | awk '{ print $n }')` gives. -/
def column (n : Nat) (text : Text) : Text :=
  chomp (unlines ((lines text).map fun line => (words line).getD (n - 1) []))

/-! ## Options -/

structure Options where
  repo : Text
  baseline : Text := []
  expected : Text := []
  armBinary : Text := []
  fixtureTools : Text := []
  allowNonproduction : Bool := false
  deriving DecidableEq, Repr

def USAGE : Text := ("Usage: verify-baseline.sh --arm-binary PATH [--repo PATH] [--baseline PATH] " ++
  "[--expected PATH --allow-nonproduction --fixture-tools DIR]").toList

/-- The options that take a value. -/
def setter (arg : Text) : Option (Options → Text → Options) :=
  if arg = "--repo".toList then some fun o value => { o with repo := value }
  else if arg = "--baseline".toList then some fun o value => { o with baseline := value }
  else if arg = "--expected".toList then some fun o value => { o with expected := value }
  else if arg = "--arm-binary".toList then some fun o value => { o with armBinary := value }
  else if arg = "--fixture-tools".toList then some fun o value => { o with fixtureTools := value }
  else none

/-- What the arguments ask for: a run with these options, or the usage and a status. -/
def parseArgs (o : Options) : List Text → Except Nat Options
  | [] => .ok o
  | arg :: rest =>
    match setter arg with
    | some set =>
      match rest with
      | [] => .error 2
      | value :: rest => parseArgs (set o value) rest
    | none =>
      if arg = "--allow-nonproduction".toList then
        parseArgs { o with allowNonproduction := true } rest
      else if arg = "--help".toList ∨ arg = "-h".toList then .error 0
      else .error 2

/-- The usage goes to the output if it was asked for. -/
def usage (status : Nat) : Shell Options := do
  if status = 0 then
    .say USAGE
    .stop ⟨0, []⟩
  else .stop ⟨status, USAGE⟩

def readArgs (o : Options) (args : List Text) : Shell Options :=
  match parseArgs o args with
  | .ok o => pure o
  | .error status => usage status

/-! ## Constants -/

def PRODUCTION_OUTER_COMMIT : Text := "c071137708a0b157deaae996f7ea01dc74b9c92e".toList
def PRODUCTION_KERNEL_GITLINK : Text := "996f030022f021b19e5c9182fca5cc1c60300969".toList
def PRODUCTION_LOADER_GITLINK : Text := "435791fd6aa70d2458f48be893358f106be0234d".toList
def PRODUCTION_SOURCE_C_SHA256 : Text :=
  "22f4dc5f65a294f01fbb6f96fb99e624e7a7cd86dcd808c7da5dcc1a589240f1".toList
def PRODUCTION_SOURCE_START_SHA256 : Text :=
  "5bf93b22524f16ae95c87c64f7a76443fd4423da64059850b06fcccbbf479a14".toList
def PRODUCTION_SOURCE_STOP_SHA256 : Text :=
  "0daae2bf622b4c07f1509a541f8729ace261dfcd7960605ee917fc935e7f28c0".toList
def PRODUCTION_SOURCE_README_SHA256 : Text :=
  "55f4acb385d4aa047178401d64bdc9a3421829406d40bfc58fbeb9a067d002ab".toList
def PRODUCTION_DEMO_BINARY_SHA256 : Text :=
  "4eee4b0676a546b1d576af8a7f3f97a7ad01d6e9db95a238b3a9ac785fadae0b".toList
def PRODUCTION_TARGET_MODEL : Text := "pstv".toList
def PRODUCTION_TARGET_FRAMEBUFFER : Text := "1280x720".toList
def PRODUCTION_TARGET_LOGICAL_RENDER : Text := "320x180".toList
def PRODUCTION_TARGET_FPS : Text := "30.04".toList
def PRODUCTION_TINYGL_COMMIT : Text := "c2e48591a6bfba1a85f1b87a78dcf1abf7dff57a".toList

/-- What `check_production_value` is called with. -/
def PRODUCTION : List (String × Text) :=
  [("schema_version", ['1']),
    ("production_outer_commit", PRODUCTION_OUTER_COMMIT),
    ("production_kernel_gitlink", PRODUCTION_KERNEL_GITLINK),
    ("production_loader_gitlink", PRODUCTION_LOADER_GITLINK),
    ("known_good_pstv_demo_cart_c_sha256", PRODUCTION_SOURCE_C_SHA256),
    ("known_good_start_demo_cart_sh_sha256", PRODUCTION_SOURCE_START_SHA256),
    ("known_good_stop_demo_cart_sh_sha256", PRODUCTION_SOURCE_STOP_SHA256),
    ("known_good_readme_md_sha256", PRODUCTION_SOURCE_README_SHA256),
    ("known_good_demo_binary_sha256", PRODUCTION_DEMO_BINARY_SHA256),
    ("target_model", PRODUCTION_TARGET_MODEL),
    ("target_framebuffer", PRODUCTION_TARGET_FRAMEBUFFER),
    ("target_logical_render", PRODUCTION_TARGET_LOGICAL_RENDER),
    ("target_fps", PRODUCTION_TARGET_FPS),
    ("tinygl_tested_commit", PRODUCTION_TINYGL_COMMIT)]

def NOTICE : Text := "NOTICE nonproduction_override (explicit test fixture mode)".toList

def PASSED : Text := "PASS baseline.production_provenance".toList

section script

variable (locale : Locale) (awk : Awk) (w : World)

/-- The options that do not go together, and the binary. -/
def checkOptions (o : Options) : Shell Unit := do
  .ensure (o.expected = [] ∨ o.allowNonproduction = true)
    (fail "expected constants require --allow-nonproduction")
  .ensure (o.allowNonproduction = false ∨ o.expected ≠ [])
    (fail "--allow-nonproduction requires --expected PATH")
  .ensure (o.fixtureTools = [] ∨ o.allowNonproduction = true) (fail "fixture_tools.nonproduction")
  .ensure (o.armBinary ≠ []) (fail "arm_binary.required")
  .ensure (w.regular o.armBinary = true ∧ w.link o.armBinary = false ∧
    w.readable o.armBinary = true ∧ w.executable o.armBinary = true) (fail "arm_binary.regular")

def notice (o : Options) : Shell Unit :=
  if o.allowNonproduction then .say NOTICE else pure ()

/-- `validate_file` and `validate_values` of one file. -/
def validate (file : Text) (label : String) : Shell Unit := do
  validateFile locale awk (w.regular file) (w.read file) label
  validateValues awk ((w.read file).getD []) label

/-- The baseline against the constants, or against the file that was given. -/
def checkBaseline (o : Options) (text : Text) : Shell Unit :=
  if o.allowNonproduction then do
    validate locale awk w o.expected "expected"
    forM REQUIRED_KEYS fun key =>
      .ensure (valueFrom awk text key = valueFrom awk ((w.read o.expected).getD []) key)
        (fail ("baseline." ++ key))
  else
    forM PRODUCTION fun field =>
      .ensure (valueFrom awk text field.1 = field.2) (fail ("baseline." ++ field.1))

def checkSha256 (file expectedHash : Text) (label : String) : Shell Unit := do
  .ensure (w.regular file = true ∧ w.link file = false ∧ w.readable file = true) (fail label)
  .ensure (column 1 (w.run "sha256sum".toList [file]).output = expectedHash) (fail label)

/-- The files of the bundle, the keys of their digests and the labels of their checks. -/
def BUNDLE : List (String × String × String) :=
  [("pstv-demo-cart.c", "known_good_pstv_demo_cart_c_sha256",
      "provenance.v0_1.pstv_demo_cart_c_sha256"),
    ("start-demo-cart.sh", "known_good_start_demo_cart_sh_sha256",
      "provenance.v0_1.start_demo_cart_sh_sha256"),
    ("stop-demo-cart.sh", "known_good_stop_demo_cart_sh_sha256",
      "provenance.v0_1.stop_demo_cart_sh_sha256"),
    ("README.md", "known_good_readme_md_sha256", "provenance.v0_1.readme_md_sha256")]

def bundlePath (repo : Text) (name : String) : Text :=
  repo ++ "/cart/provenance/v0.1/".toList ++ name.toList

def checkBundle (repo text : Text) : Shell Unit :=
  forM BUNDLE fun entry =>
    checkSha256 w (bundlePath repo entry.1) (valueFrom awk text entry.2.1) entry.2.2

/-- A tool of the fixture. -/
def fixtureTool (o : Options) (name : String) : Shell Text := do
  let path := o.fixtureTools ++ '/' :: name.toList
  .ensure (w.regular path = true ∧ w.link path = false ∧ w.executable path = true)
    (fail ("fixture_tools." ++ name))
  return path

/-- `readelf_cmd` and `file_cmd` -/
def binaryTools (o : Options) : Shell (Text × Text) :=
  if o.fixtureTools ≠ [] then do
    .ensure (w.directory o.fixtureTools = true ∧ w.link o.fixtureTools = false)
      (fail "fixture_tools.path")
    let readelfCmd ← fixtureTool w o "readelf"
    let fileCmd ← fixtureTool w o "file"
    return (readelfCmd, fileCmd)
  else do
    let readelfCmd ← .demand (w.which "readelf".toList) (fail "arm_binary.readelf")
    let fileCmd ← .demand (w.which "file".toList) (fail "arm_binary.file")
    return (readelfCmd, fileCmd)

/-- What the header has to show, and the label of the check. -/
def HEADER_CHECKS : List (List Text × String) :=
  [(["Class:".toList, "ELF32".toList], "arm_binary.class"),
    (["Data:".toList, "little endian".toList], "arm_binary.endianness"),
    (["Type:".toList, "EXEC".toList], "arm_binary.type"),
    (["Machine:".toList, "ARM".toList], "arm_binary.machine"),
    (["Flags:".toList, "Version5 EABI".toList, "hard-float ABI".toList], "arm_binary.abi")]

def DESCRIPTION : List Text :=
  ["ELF 32-bit LSB executable".toList, "ARM".toList, "EABI5".toList, "statically linked".toList]

def checkBinary (o : Options) (text : Text) : Shell Unit := do
  let (readelfCmd, fileCmd) ← binaryTools w o
  let elfHeader ← .demand (w.run readelfCmd ["-h".toList, o.armBinary]).ok
    (fail "arm_binary.elf_header")
  forM HEADER_CHECKS fun check =>
    .ensure (globMatches check.1 elfHeader = true) (fail check.2)
  let elfProgramHeaders ← .demand (w.run readelfCmd ["-l".toList, o.armBinary]).ok
    (fail "arm_binary.program_headers")
  .ensure (globMatches ["INTERP".toList] elfProgramHeaders = false) (fail "arm_binary.interpreter")
  let elfDynamic ← .demand (w.run readelfCmd ["-d".toList, o.armBinary]).ok
    (fail "arm_binary.dynamic")
  .ensure (globMatches ["There is no dynamic section".toList] elfDynamic = true)
    (fail "arm_binary.dynamic")
  let fileDescription ← .demand (w.run fileCmd ["-b".toList, o.armBinary]).ok
    (fail "arm_binary.file")
  .ensure (globMatches DESCRIPTION fileDescription = true) (fail "arm_binary.file")
  checkSha256 w o.armBinary (valueFrom awk text "known_good_demo_binary_sha256")
    "arm_binary.sha256"

def commitOf (name : Text) : Text := name ++ "^{commit}".toList

/-- The repository is the one at this path, and descends from the commit. -/
def checkOuter (repo productionOuterCommit : Text) : Shell Text := do
  let outerRoot ← .demand (w.git repo ["rev-parse".toList, "--show-toplevel".toList]).ok
    (fail "outer.repository")
  let outerRootReal ← .demand (w.enter outerRoot) (fail "outer.repository")
  .ensure (outerRootReal = repo) (fail "outer.repository")
  let outerHead ← .demand
    (w.git repo ["rev-parse".toList, "--verify".toList, commitOf "HEAD".toList]).ok
    (fail "outer.head")
  .say "PASS outer.head".toList
  .ensure ((w.git repo ["cat-file".toList, "-e".toList, commitOf productionOuterCommit]).status = 0)
    (fail "outer.ancestor")
  let ancestor := (w.git repo ["merge-base".toList, "--is-ancestor".toList,
    productionOuterCommit, outerHead]).status
  .ensure (ancestor = 0) (fail (if ancestor = 1 then "outer.ancestor" else "outer.git_command"))
  .say "PASS outer.ancestor".toList
  return outerRootReal

def checkGitlink (repo : Text) (name : String) (path expectedCommit : Text) : Shell Unit := do
  let tree_line ← .demand
    (w.git repo ["ls-tree".toList, "HEAD".toList, "--".toList, path]).ok
    (fail ("outer." ++ name ++ "_git_command"))
  .ensure (column 1 tree_line = "160000".toList) (fail ("outer." ++ name ++ "_gitlink"))
  .ensure (column 3 tree_line = expectedCommit) (fail ("outer." ++ name ++ "_gitlink"))
  .say ("PASS outer.".toList ++ (name.toList ++ "_gitlink".toList))

/-- `git diff --quiet`, of the index with `--cached` -/
def checkDiff (dir : Text) (options : List Text) (label : String) : Shell Unit := do
  let status := (w.git dir ("diff".toList :: options ++ ["--quiet".toList, "--".toList])).status
  .ensure (status = 0)
    (fail (label ++ if status = 1 then "_clean" else "_git_command"))

def checkSubmodule (repo outerRootReal : Text) (name : String) (path expectedCommit : Text) :
    Shell Unit := do
  let dir := repo ++ '/' :: path
  let label := "submodule." ++ name
  .ensure (w.directory dir = true) (fail (label ++ "_initialized"))
  .ensure (w.link dir = false) (fail (label ++ "_initialized"))
  let path_real ← .demand (w.enter dir) (fail (label ++ "_git_command"))
  .ensure (outerRootReal ++ ['/'] <+: path_real ++ ['/']) (fail (label ++ "_initialized"))
  let subRoot ← .demand (w.git dir ["rev-parse".toList, "--show-toplevel".toList]).ok
    (fail (label ++ "_initialized"))
  let subRootReal ← .demand (w.enter subRoot) (fail (label ++ "_git_command"))
  .ensure (subRootReal = path_real) (fail (label ++ "_initialized"))
  let subHead ← .demand
    (w.git dir ["rev-parse".toList, "--verify".toList, commitOf "HEAD".toList]).ok
    (fail (label ++ "_commit"))
  .ensure (subHead = expectedCommit) (fail (label ++ "_commit"))
  .say ("PASS submodule.".toList ++ (name.toList ++ "_commit".toList))
  checkDiff w dir [] label
  checkDiff w dir ["--cached".toList] label
  let subStatus ← .demand
    (w.git dir ["status".toList, "--porcelain".toList, "--untracked-files=all".toList]).ok
    (fail (label ++ "_git_command"))
  .ensure (subStatus = []) (fail (label ++ "_clean"))
  .say ("PASS submodule.".toList ++ (name.toList ++ "_clean".toList))

/-- The submodules: name, path and the key of the commit. -/
def SUBMODULES : List (String × Text × String) :=
  [("kernel", "linux_vita".toList, "production_kernel_gitlink"),
    ("loader", "vita-baremetal-linux-loader".toList, "production_loader_gitlink")]

/-- The path of the baseline, if none is given. -/
def baselinePath (o : Options) (repo : Text) : Text :=
  if o.baseline = [] then repo ++ "/cart/provenance/production-baseline.txt".toList else o.baseline

/-- The checks after the baseline. -/
def checkEvidence (o : Options) (repo text : Text) : Shell Unit := do
  checkBundle awk w repo text
  .say "PASS provenance.v0_1_bundle".toList
  .say "PASS active renderer compatibility is fixture-governed".toList
  checkBinary awk w o text
  .say "PASS arm_binary.identity".toList
  let outerRootReal ← checkOuter w repo (valueFrom awk text "production_outer_commit")
  forM SUBMODULES fun sub => checkGitlink w repo sub.1 sub.2.1 (valueFrom awk text sub.2.2)
  forM SUBMODULES fun sub =>
    checkSubmodule w repo outerRootReal sub.1 sub.2.1 (valueFrom awk text sub.2.2)

/-- The checks from the baseline on. -/
def checkAll (o : Options) (repo : Text) : Shell Unit := do
  let baseline := baselinePath o repo
  notice o
  validate locale awk w baseline "baseline"
  .say "PASS baseline.schema_version".toList
  let text := (w.read baseline).getD []
  checkBaseline locale awk w o text
  checkEvidence awk w o repo text
  .say PASSED

def verifyBaseline (args : List Text) : Shell Unit := do
  let DEFAULT_ROOT ← .demand w.defaultRoot ⟨1, []⟩
  let o ← readArgs { repo := if w.repoRoot = [] then DEFAULT_ROOT else w.repoRoot } args
  checkOptions w o
  let repo ← .demand (w.enter o.repo) (fail "repository.path")
  checkAll locale awk w o repo

end script

end VitaLinux.Cart.Provenance
