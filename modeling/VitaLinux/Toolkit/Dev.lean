import VitaLinux.Base.ParentSteps
import VitaLinux.Base.Programs
import VitaLinux.Toolkit.Session.Script

/-!
# vita-dev

The actions `build` and `project`, with every command of the script that can fail. The text of
a manifest is a parameter: it is read once. The environment file of the toolchain sets `CC`
and no variable of the script's own.
-/

namespace VitaLinux.Toolkit.Dev

open VitaLinux.Base Prog

/-- A run of the compiler; `-o` and the output come last. -/
structure Command where
  compiler : Text
  /-- `WORKDIR` and `TMPDIR`, as the compiler finds them -/
  workdir : Text
  /-- with `-c` -/
  objectOnly : Bool
  inputs : List Text
  output : Text
  deriving DecidableEq, Repr

inductive Call where
  | isFile (path : Text)
  | isReadable (path : Text)
  | isExecutable (path : Text)
  /-- `. "$ENV_FILE"`, and what it makes of `CC` -/
  | sourceEnv (path : Text)
  /-- `command -v`, and nothing if that fails -/
  | commandPath (name : Text)
  /-- `$(cd -- "$(dirname "$path")" && pwd)` -/
  | parent (path : Text)
  /-- `$(cd -- "$path" && pwd)` -/
  | enter (path : Text)
  | mkdir (path : Text)
  /-- a redirection that opens the file -/
  | opens (path : Text)
  | contents (path : Text)
  | write (path text : Text)
  | append (path line : Text)
  /-- `grep -F -x` -/
  | lists (path line : Text)
  | compile (command : Command)
  | remove (path : Text)
  deriving DecidableEq, Repr

abbrev Reply : Call → Type
  | .sourceEnv _ => Option Text
  | .commandPath _ => Text
  | .parent _ => Option Text
  | .enter _ => Option Text
  | .contents _ => Option Text
  | _ => Bool

/-- How the script exits before its end: its status, and the `status` it reports. -/
structure Ending where
  status : Nat
  report : String
  deriving DecidableEq, Repr

def usage : Ending := ⟨2, ""⟩

def help : Ending := ⟨0, ""⟩

/-- A command that ends the script by `set -e`. -/
def failed : Ending := ⟨1, ""⟩

def fail (report : String) : Ending := ⟨1, report⟩

abbrev Script := Prog Call Reply Ending

def ask (call : Call) : Script (Reply call) := Prog.call call

/-- `command || fail report` -/
def orFail (command : Script Bool) (ending : Ending) : Script Unit := do
  if ← command then return () else throw ending

/-- What a command prints, or the end of the script. -/
def orExit {α : Type} (command : Script (Option α)) : Script α := do
  match ← command with
  | some printed => return printed
  | none => throw failed

/-- `${base%.*}` -/
def stem (base : Text) : Text :=
  if '.' ∈ base then (base.rdropWhile (· ≠ '.')).dropLast else base

def validateLinkFlag : Text → Bool
  | '-' :: 'l' :: rest =>
    decide (rest ≠ []) && rest.all fun c => c.isAlphanum || "_.+-".toList.contains c
  | _ => false

section options

structure BuildOptions where
  machine : Bool
  workdir : Text
  output : Text
  source : Text
  deriving DecidableEq, Repr

/-- The arguments of `build`, on top of what the environment gives. -/
def parseBuild (o : BuildOptions) : List Text → Except Ending BuildOptions
  | [] => .ok o
  | arg :: rest =>
    if arg = "--machine".toList then parseBuild { o with machine := true } rest
    else if arg = "--workdir".toList then
      match rest with
      | [] => .error usage
      | value :: rest => parseBuild { o with workdir := value } rest
    else if arg = "--output".toList then
      match rest with
      | [] => .error usage
      | value :: rest => parseBuild { o with output := value } rest
    else if arg = "--help".toList ∨ arg = "-h".toList then .error help
    else if "-".toList <+: arg then .error usage
    else if o.source ≠ [] then .error usage
    else parseBuild { o with source := arg } rest

structure ProjectOptions where
  machine : Bool
  workdir : Text
  output : Text
  manifest : Text
  /-- `SOURCE_ARGS`, a line for each -/
  sources : Text
  /-- `LINK_ARGS`, a line for each -/
  links : Text
  deriving DecidableEq, Repr

def parseProject (o : ProjectOptions) : List Text → Except Ending ProjectOptions
  | [] => .ok o
  | arg :: rest =>
    if arg = "--machine".toList then parseProject { o with machine := true } rest
    else if arg = "--workdir".toList then
      match rest with
      | [] => .error usage
      | value :: rest => parseProject { o with workdir := value } rest
    else if arg = "--output".toList then
      match rest with
      | [] => .error usage
      | value :: rest => parseProject { o with output := value } rest
    else if arg = "--manifest".toList then
      match rest with
      | [] => .error usage
      | value :: rest => parseProject { o with manifest := value } rest
    else if arg = "--link".toList then
      match rest with
      | [] => .error usage
      | value :: rest =>
        if validateLinkFlag value then
          parseProject { o with links := o.links ++ value ++ ['\n'] } rest
        else .error (fail "invalid_link_flag")
    else if arg = "--help".toList ∨ arg = "-h".toList then .error help
    else if "-".toList <+: arg then .error usage
    else parseProject { o with sources := o.sources ++ arg ++ ['\n'] } rest

end options

section manifest

structure Manifest where
  sources : Text
  output : Text
  expected : Text
  link : Text
  deriving DecidableEq, Repr

/-- A key with its value. -/
def manifestEntry (dir : Text) (m : Manifest) (key value : Text) : Except Ending Manifest :=
  if key = "source".toList then
    if value = [] then .error (fail "manifest_empty_source")
    else
      let resolved := if "/".toList <+: value then value else dir ++ '/' :: value
      .ok { m with sources := m.sources ++ resolved ++ ['\n'] }
  else if key = "output".toList then
    if value = [] then .error (fail "manifest_empty_output")
    else if m.output ≠ [] then .error (fail "manifest_duplicate_output")
    else .ok { m with output := value }
  else if key = "link".toList then
    if value = [] then .error (fail "manifest_empty_link")
    else if validateLinkFlag value then .ok { m with link := m.link ++ value ++ ['\n'] }
    else .error (fail "manifest_invalid_link")
  else if key = "expect_status".toList then
    if value = [] ∨ ¬ value.all Char.isDigit then .error (fail "invalid_expected_status")
    else if m.expected ≠ [] then .error (fail "manifest_duplicate_expect")
    else .ok { m with expected := value }
  else .error (fail "manifest_unknown_key")

/-- One line of the manifest; the key is `${line%%=*}`, the value `${line#*=}`. -/
def manifestLine (dir : Text) (m : Manifest) (line : Text) : Except Ending Manifest :=
  if line = [] ∨ "#".toList <+: line then .ok m
  else if '=' ∉ line then .error (fail "manifest_malformed")
  else manifestEntry dir m (firstField line) (afterEquals line)

def parseManifest (dir text : Text) : Except Ending Manifest :=
  (lines text).foldlM (manifestLine dir) ⟨[], [], [], []⟩

def loadManifest (manifest text : Text) : Script Manifest := do
  let dir ← orExit (ask (.parent manifest))
  orFail (ask (.isFile manifest)) (fail "manifest_missing")
  orFail (ask (.opens manifest)) failed
  match parseManifest dir text with
  | .ok m => return m
  | .error ending => throw ending

end manifest

/-- What the environment sets. -/
structure Settings where
  compiler : Text
  envFile : Text
  workdir : Text
  /-- `SOURCE_ARG`, which the script does not clear -/
  source : Text
  deriving DecidableEq, Repr

section actions

variable (settings : Settings)

def chooseCompiler : Script Text := do
  if settings.compiler ≠ [] then return settings.compiler
  else
    orFail (ask (.isFile settings.envFile)) (fail "missing_toolchain_env")
    let compiler ← orExit (ask (.sourceEnv settings.envFile))
    return if compiler = [] then "cc".toList else compiler

def loadCompiler : Script Text := do
  let compiler ← chooseCompiler settings
  let path ← ask (.commandPath compiler)
  if path = [] then throw (fail "compiler_not_found")
  else
    orFail (ask (.isExecutable path)) (fail "compiler_not_executable")
    return compiler

def absoluteSource (source : Text) : Script Text := do
  orFail (ask (.isFile source)) (fail "source_missing")
  orFail (ask (.isReadable source)) (fail "source_unreadable")
  let dir ← orExit (ask (.parent source))
  return dir ++ '/' :: basename source

def prepareWorkdir (workdir : Text) : Script Text := do
  if workdir = [] then throw (fail "workdir_required")
  else
    orFail (ask (.mkdir workdir)) (fail "workdir_unavailable")
    orExit (ask (.enter workdir))

/-- `OUTPUT` before it is checked. -/
def outputPath (workdir given default : Text) : Text :=
  if given = [] then workdir ++ '/' :: default
  else if isAbsolute given then given
  else workdir ++ '/' :: given

/-- The pattern `"$WORKDIR"/*`. -/
def checkOutput (workdir output : Text) : Script Unit := do
  if workdir ++ ['/'] <+: output then return () else throw (fail "output_outside_workdir")

/-- The output of `build`. -/
def build (o : BuildOptions) : Script Text := do
  if o.source = [] then throw usage
  else
    let compiler ← loadCompiler settings
    let sourcePath ← absoluteSource o.source
    let workdir ← prepareWorkdir o.workdir
    let output := outputPath workdir o.output (stem (basename sourcePath))
    checkOutput workdir output
    orFail (ask (.compile ⟨compiler, workdir, false, [sourcePath], output⟩)) (fail "compile_failed")
    orFail (ask (.isExecutable output)) (fail "output_not_executable")
    return output

/-- What `project` builds: `SOURCE_ARGS`, `OUTPUT` and `LINK_ARGS`. -/
structure Project where
  sources : Text
  output : Text
  links : Text
  deriving DecidableEq, Repr

def gather (o : ProjectOptions) (text : Text) : Script Project := do
  if o.manifest ≠ [] then
    let m ← loadManifest o.manifest text
    if o.sources ≠ [] then throw (fail "manifest_mixed_sources")
    else
      return ⟨m.sources, if o.output ≠ [] then o.output else m.output, o.links ++ m.link⟩
  else return ⟨o.sources, o.output, o.links⟩

def compileSource (compiler workdir objectList source : Text) : Script Unit := do
  let sourcePath ← absoluteSource source
  let object := workdir ++ '/' :: stem (basename sourcePath) ++ ".o".toList
  if ← ask (.lists objectList object) then throw (fail "object_collision")
  else
    orFail (ask (.append objectList object)) failed
    orFail (ask (.compile ⟨compiler, workdir, true, [sourcePath], object⟩)) (fail "compile_failed")
    orFail (ask (.isFile object)) (fail "object_missing")

/-- The link flags, written to a file and read back. -/
def linkFlags (workdir links : Text) : Script (List Text) := do
  if links = [] then return []
  else
    let linkList := workdir ++ "/.vita-dev-link".toList
    orFail (ask (.write linkList links)) failed
    let text ← orExit (ask (.contents linkList))
    let flags := (readLines text).filter (· ≠ [])
    if flags.all validateLinkFlag then
      orFail (ask (.remove linkList)) failed
      return flags
    else throw (fail "invalid_link_flag")

/-- The output of `project`. -/
def project (o : ProjectOptions) (text : Text) : Script Text := do
  let p ← gather o text
  if p.sources = [] then throw usage
  else
    let compiler ← loadCompiler settings
    let workdir ← prepareWorkdir o.workdir
    let sourceList := workdir ++ "/.vita-dev-sources".toList
    orFail (ask (.write sourceList p.sources)) failed
    let output := outputPath workdir p.output "app".toList
    checkOutput workdir output
    let objectList := workdir ++ "/.vita-dev-objects".toList
    orFail (ask (.write objectList [])) failed
    let sources ← orExit (ask (.contents sourceList))
    (readLines sources).forM (compileSource compiler workdir objectList)
    let objects ← orExit (ask (.contents objectList))
    let flags ← linkFlags workdir p.links
    orFail (ask (.compile ⟨compiler, workdir, false, readLines objects ++ flags, output⟩))
      (fail "link_failed")
    orFail (ask (.isExecutable output)) (fail "output_not_executable")
    return output

inductive Action where
  | build
  /-- with the text of the manifest, if there is one -/
  | project (manifest : Text)
  deriving DecidableEq, Repr

def vitaDev (action : Action) (args : List Text) : Script Text :=
  match action with
  | .build =>
    match parseBuild ⟨false, settings.workdir, [], settings.source⟩ args with
    | .ok o => build settings o
    | .error ending => throw ending
  | .project text =>
    match parseProject ⟨false, settings.workdir, [], [], [], []⟩ args with
    | .ok o => project settings o text
    | .error ending => throw ending

end actions

end VitaLinux.Toolkit.Dev
