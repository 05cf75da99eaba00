import VitaLinux.Toolkit.Dev

/-!
# Where vita-dev writes

The compiler is run in a work directory, and its output begins with that directory. It is
inside the directory when the rest of it names its way back from every `..`.
-/

namespace VitaLinux.Toolkit.Dev

open VitaLinux.Base Prog

/-- No compiler is run. -/
def Quiet (call : Call) : Prop := ∀ c, call ≠ .compile c

/-- The output string of the first manifest line that has one. -/
def manifestOutput (text : Text) : Text :=
  (((lines text).find? fun line => firstField line = "output".toList).map afterEquals).getD []

/-- The output string that an action works with. -/
def outputString (settings : Settings) (action : Action) (args : List Text) : Text :=
  match action with
  | .build =>
    match parseBuild ⟨false, settings.workdir, [], settings.source⟩ args with
    | .ok o => if o.output = [] then stem (basename o.source) else o.output
    | .error _ => []
  | .project text =>
    match parseProject ⟨false, settings.workdir, [], [], [], []⟩ args with
    | .ok o =>
      if o.output ≠ [] then o.output
      else if o.manifest ≠ [] ∧ manifestOutput text ≠ [] then manifestOutput text
      else "app".toList
    | .error _ => []

/-- The part of an accepted output string that comes after the work directory. -/
def behind (workdir output : Text) : Text :=
  if isAbsolute output then output.drop (workdir.length + 1) else output

/-- An output string is inside a work directory. -/
def Returns (workdir output : Text) : Prop :=
  (climb (components (behind workdir output))).Returns (resolved workdir)

section manifest

/-- What an entry does to the output of the manifest. -/
theorem manifestEntry_output {dir key value : Text} {m m' : Manifest}
    (read : manifestEntry dir m key value = .ok m') :
    (key = "output".toList ∧ m.output = [] ∧ value ≠ [] ∧ m'.output = value) ∨
    (key ≠ "output".toList ∧ m'.output = m.output) := by
  unfold manifestEntry at read
  split at read
  · next source =>
    have other : key ≠ "output".toList := by
      rw [source]
      decide
    refine .inr ⟨other, ?_⟩
    split at read <;> cases read
    rfl
  split at read
  · next output =>
    split at read
    · cases read
    · next some =>
      split at read <;> cases read
      next first => exact .inl ⟨output, not_not.mp first, some, rfl⟩
  next other =>
  refine .inr ⟨other, ?_⟩
  split at read
  · split at read
    · cases read
    · split at read <;> cases read
      rfl
  · split at read
    · split at read
      · cases read
      · split at read <;> cases read
        rfl
    · cases read

theorem manifestLine_output {dir line : Text} {m m' : Manifest}
    (read : manifestLine dir m line = .ok m') :
    (firstField line = "output".toList ∧ m.output = [] ∧ afterEquals line ≠ [] ∧
      m'.output = afterEquals line) ∨
    (firstField line ≠ "output".toList ∧ m'.output = m.output) := by
  rw [manifestLine] at read
  split at read
  · next skipped =>
    obtain rfl := Except.ok.inj read
    refine .inr ⟨?_, rfl⟩
    obtain rfl | ⟨rest, rfl⟩ := skipped
    · decide
    · simp [firstField]
  · split at read
    · cases read
    · exact manifestEntry_output read

theorem foldlM_manifestLine_output {dir : Text} {ls : List Text} {m m' : Manifest}
    (read : ls.foldlM (manifestLine dir) m = .ok m') :
    m'.output = if m.output ≠ [] then m.output
      else ((ls.find? fun line => firstField line = "output".toList).map afterEquals).getD [] := by
  induction ls generalizing m with
  | nil =>
    obtain rfl := Except.ok.inj read
    by_cases none : m.output = [] <;> simp [none]
  | cons line ls ih =>
    rw [List.foldlM_cons] at read
    cases first : manifestLine dir m line with
    | error ending =>
      rw [first] at read
      cases read
    | ok next =>
      rw [first] at read
      have later := ih read
      let names : Text → Bool := fun line => firstField line = "output".toList
      obtain ⟨key, none, some, output⟩ | ⟨other, same⟩ := manifestLine_output first
      · rw [later, output, if_pos some, none, if_neg (not_not.mpr rfl),
          List.find?_cons_of_pos (p := names) (decide_eq_true key)]
        rfl
      · have passed : ¬ names line = true := fun found => other (of_decide_eq_true found)
        rw [later, same, List.find?_cons_of_neg (p := names) passed]

theorem parseManifest_output {dir text : Text} {m : Manifest}
    (read : parseManifest dir text = .ok m) : m.output = manifestOutput text := by
  rw [foldlM_manifestLine_output read, if_neg (by simp), manifestOutput]

end manifest

section names

theorem basename_whole (path : Text) : '/' ∉ basename path := by
  intro member
  rw [basename, List.rtakeWhile, List.mem_reverse] at member
  exact absurd (List.mem_takeWhile_imp member) (by simp)

theorem basename_append (dir path : Text) :
    basename (dir ++ '/' :: basename path) = basename path := by
  have passes : ∀ c ∈ (basename path).reverse, decide (c ≠ '/') = true := by
    intro c member
    exact decide_eq_true fun same => basename_whole path (List.mem_reverse.mp (same ▸ member))
  rw [basename, List.rtakeWhile, List.reverse_append, List.reverse_cons, List.append_assoc,
    List.takeWhile_append_of_pos passes, List.singleton_append,
    List.takeWhile_cons_of_neg (by simp), List.append_nil, List.reverse_reverse]

theorem isPrefix_stem (base : Text) : stem base <+: base := by
  unfold stem
  split
  · exact (List.dropLast_prefix _).trans (List.rdropWhile_prefix _ base)
  · exact List.prefix_rfl

theorem stem_whole (path : Text) : '/' ∉ stem (basename path) :=
  fun member => basename_whole path ((isPrefix_stem _).subset member)

theorem stem_relative (path : Text) : isAbsolute (stem (basename path)) = false := by
  rw [isAbsolute, beq_eq_false_iff_ne]
  exact fun slash => stem_whole path (List.mem_of_head? slash)

/-- An object file is directly in the work directory. -/
theorem object_inside {workdir : Text} (absolute : isAbsolute workdir = true) (path : Text) :
    StrictlyInside workdir (workdir ++ '/' :: stem (basename path) ++ ".o".toList) := by
  have last : (stem (basename path) ++ ".o".toList).getLast? = some 'o' := by
    rw [List.getLast?_append]
    rfl
  have other : ∀ dots : Text, dots.getLast? ≠ some 'o' → stem (basename path) ++ ".o".toList ≠ dots :=
    fun dots differs same => differs (same ▸ last)
  have named : Named (stem (basename path) ++ ".o".toList) := by
    refine ⟨other [] (by decide), other ['.'] (by decide), fun member => ?_⟩
    obtain inStem | inSuffix := List.mem_append.mp member
    · exact stem_whole path inStem
    · exact absurd inSuffix (by decide)
  rw [List.append_assoc, List.cons_append, strictlyInside_iff absolute, components_named named]
  exact returns_singleton (other parent (by decide)) _

end names

/-- An accepted output is where the output string says. -/
theorem outputPath_iff {workdir given default : Text} (absolute : isAbsolute workdir = true)
    (relative : isAbsolute default = false)
    (accepted : workdir ++ ['/'] <+: outputPath workdir given default) :
    StrictlyInside workdir (outputPath workdir given default) ↔
      Returns workdir (if given = [] then default else given) := by
  unfold outputPath at accepted ⊢
  split at accepted
  · next none =>
    rw [if_pos none, if_pos none, strictlyInside_iff absolute, Returns, behind, relative]
    rfl
  · next some =>
    rw [if_neg some, if_neg some]
    split at accepted
    · next foreign =>
      obtain ⟨rest, rfl⟩ := accepted
      have rest_behind : (workdir ++ ['/'] ++ rest).drop (workdir.length + 1) = rest := by
        rw [List.drop_append_of_le_length (by simp), List.drop_of_length_le (by simp)]
        rfl
      rw [if_pos foreign, Returns, behind, if_pos foreign, rest_behind, List.append_assoc]
      exact strictlyInside_iff absolute rest
    · next own =>
      rw [if_neg own, strictlyInside_iff absolute, Returns, behind, if_neg own]

/-- The runs of the compiler in an execution. -/
def compiled {S : Type} (events : List (Event S Call Reply)) : List Command :=
  events.filterMap fun e => match e.call with
    | .compile c => some c
    | _ => none

/-- Every run of the compiler writes an object into the work directory, or writes where the
output string says. -/
def Lands {S : Type} (given : Text) (e : Event S Call Reply) : Prop :=
  ∀ c, e.call = .compile c →
    (c.objectOnly = true → StrictlyInside c.workdir c.output) ∧
    (c.objectOnly = false → (StrictlyInside c.workdir c.output ↔ Returns c.workdir given))

section spec

variable {S α : Type} {env : Environment S Call Reply} {settings : Settings} {s : S}

theorem uses_orFail {C : Call → Prop} {command : Script Bool} {ending : Ending}
    (h : command.Uses C) : (orFail command ending).Uses C := by
  unfold orFail
  exact h.bind fun _ => (uses_pure _).ite (uses_throw _)

theorem uses_orExit {C : Call → Prop} {command : Script (Option α)} (h : command.Uses C) :
    (orExit command).Uses C := by
  unfold orExit
  apply h.bind
  intro printed
  cases printed with
  | none => exact uses_throw _
  | some printed => exact uses_pure _

theorem quiet_ask {call : Call} (other : Quiet call) : (ask call).Uses Quiet :=
  (uses_call call).mpr other

theorem uses_loadCompiler : (loadCompiler settings).Uses Quiet := by
  have choose : (chooseCompiler settings).Uses Quiet := by
    unfold chooseCompiler
    refine (uses_pure _).ite ?_
    refine (uses_orFail (quiet_ask (by nofun))).bind fun _ => ?_
    exact (uses_orExit (quiet_ask (by nofun))).bind fun _ => uses_pure _
  unfold loadCompiler
  refine choose.bind fun compiler => ?_
  refine (quiet_ask (by nofun)).bind fun path => ?_
  refine (uses_throw _).ite ?_
  exact (uses_orFail (quiet_ask (by nofun))).bind fun _ => uses_pure _

theorem uses_linkFlags (workdir links : Text) : (linkFlags workdir links).Uses Quiet := by
  unfold linkFlags
  refine (uses_pure _).ite ?_
  refine (uses_orFail (quiet_ask (by nofun))).bind fun _ => ?_
  refine (uses_orExit (quiet_ask (by nofun))).bind fun text => ?_
  refine Uses.ite ?_ (uses_throw _)
  exact (uses_orFail (quiet_ask (by nofun))).bind fun _ => uses_pure _

variable {given : Text}

/-- A program that runs no compiler meets what is promised of the compiler. -/
theorem Quiet.meets {p : Script α} (quiet : p.Uses Quiet) :
    p.Meets env (Lands given) (fun _ _ => True) (fun _ _ => True) s :=
  quiet.guarantees (fun _ none c run => absurd run (none c)) s

theorem compile_meets {c : Command} {ending : Ending}
    (object : c.objectOnly = true → StrictlyInside c.workdir c.output)
    (output : c.objectOnly = false → (StrictlyInside c.workdir c.output ↔ Returns c.workdir given)) :
    (orFail (ask (.compile c)) ending).Meets env (Lands given) (fun _ _ => True)
      (fun _ _ => True) s := by
  unfold orFail
  intro reply t _
  refine ⟨?_, Meets.ite (fun _ => trivial) fun _ => trivial⟩
  rintro _ ⟨⟩
  exact ⟨object, output⟩

theorem absoluteSource_meets (source : Text) :
    (absoluteSource source).Meets env (Lands given)
      (fun path _ => ∃ dir, path = dir ++ '/' :: basename source) (fun _ _ => True) s := by
  unfold absoluteSource
  refine (Quiet.meets (uses_orFail (quiet_ask (by nofun)))).seq fun _ _ _ => ?_
  refine (Quiet.meets (uses_orFail (quiet_ask (by nofun)))).seq fun _ _ _ => ?_
  exact (Quiet.meets (uses_orExit (quiet_ask (by nofun)))).seq fun dir _ _ => ⟨dir, rfl⟩

/-- The object of a source is in the work directory. -/
theorem compileSource_guarantees {workdir : Text} (inside : isAbsolute workdir = true)
    (compiler objectList source : Text) :
    Guarantees env (Lands given) (compileSource compiler workdir objectList source) := by
  intro s
  unfold compileSource
  refine (absoluteSource_meets source).seq ?_
  rintro _ t ⟨dir, rfl⟩
  rw [basename_append]
  refine (Quiet.meets (quiet_ask (by nofun))).seq fun _ _ _ => ?_
  refine Meets.ite (fun _ => trivial) fun _ => ?_
  refine (Quiet.meets (uses_orFail (quiet_ask (by nofun)))).seq fun _ _ _ => ?_
  refine (compile_meets (fun _ => object_inside inside source) (by nofun)).seq fun _ _ _ => ?_
  exact Quiet.meets (uses_orFail (quiet_ask (by nofun)))

/-- With a manifest, the output string is the manifest's unless one is given. -/
theorem gather_meets (o : ProjectOptions) (text : Text) :
    (gather o text).Meets env (Lands given)
      (fun p _ => p.output = if o.output ≠ [] then o.output
        else if o.manifest ≠ [] then manifestOutput text else [])
      (fun _ _ => True) s := by
  unfold gather loadManifest
  refine Meets.ite (fun named => ?_) fun unnamed => ?_
  · rw [meets_bind]
    refine (Quiet.meets (uses_orExit (quiet_ask (by nofun)))).seq fun dir _ _ => ?_
    refine (Quiet.meets (uses_orFail (quiet_ask (by nofun)))).seq fun _ _ _ => ?_
    refine (Quiet.meets (uses_orFail (quiet_ask (by nofun)))).seq fun _ _ _ => ?_
    cases read : parseManifest dir text with
    | error ending => trivial
    | ok m =>
      refine Meets.ite (fun _ => trivial) fun _ => ?_
      rw [meets_pure, parseManifest_output read, if_pos named]
  · rw [meets_pure, if_neg unnamed]
    split
    · rfl
    · next none => exact not_not.mp none

section workdir

variable (absolute : ∀ s path workdir t, env s (.enter path) (some workdir) t →
  isAbsolute workdir = true)
include absolute

theorem prepareWorkdir_meets (path : Text) :
    (prepareWorkdir path).Meets env (Lands given) (fun workdir _ => isAbsolute workdir = true)
      (fun _ _ => True) s := by
  unfold prepareWorkdir orExit
  refine Meets.ite (fun _ => trivial) fun _ => ?_
  refine (Quiet.meets (uses_orFail (quiet_ask (by nofun)))).seq fun _ _ _ => ?_
  intro reply t answer
  refine ⟨nofun, ?_⟩
  cases reply with
  | none => trivial
  | some workdir => exact absolute _ _ _ _ answer

theorem build_meets (o : BuildOptions) :
    (build settings o).Meets env
      (Lands (if o.output = [] then stem (basename o.source) else o.output))
      (fun _ _ => True) (fun _ _ => True) s := by
  unfold build checkOutput
  refine Meets.ite (fun _ => trivial) fun _ => ?_
  refine (Quiet.meets uses_loadCompiler).seq fun compiler _ _ => ?_
  refine (absoluteSource_meets o.source).seq ?_
  rintro _ _ ⟨dir, rfl⟩
  rw [basename_append]
  refine (prepareWorkdir_meets absolute o.workdir).seq fun workdir _ inside => ?_
  rw [meets_bind]
  refine Meets.ite (fun accepted => ?_) fun _ => trivial
  have lands := outputPath_iff inside (stem_relative o.source) accepted
  refine (compile_meets (by nofun) fun _ => lands).seq fun _ _ _ => ?_
  exact (Quiet.meets (uses_orFail (quiet_ask (by nofun)))).seq fun _ _ _ => trivial

theorem project_meets (o : ProjectOptions) (text : Text) :
    (project settings o text).Meets env
      (Lands (if o.output ≠ [] then o.output
        else if o.manifest ≠ [] ∧ manifestOutput text ≠ [] then manifestOutput text
        else "app".toList))
      (fun _ _ => True) (fun _ _ => True) s := by
  unfold project checkOutput
  refine (gather_meets o text).seq fun p _ chosen => ?_
  have output : (if o.output ≠ [] then o.output
      else if o.manifest ≠ [] ∧ manifestOutput text ≠ [] then manifestOutput text
      else "app".toList) = if p.output = [] then "app".toList else p.output := by
    rw [chosen]
    by_cases own : o.output = []
    · by_cases named : o.manifest = [] <;> by_cases none : manifestOutput text = [] <;>
        simp [own, named, none]
    · simp [own]
  rw [output]
  refine Meets.ite (fun _ => trivial) fun _ => ?_
  refine (Quiet.meets uses_loadCompiler).seq fun compiler _ _ => ?_
  refine (prepareWorkdir_meets absolute o.workdir).seq fun workdir _ inside => ?_
  refine (Quiet.meets (uses_orFail (quiet_ask (by nofun)))).seq fun _ _ _ => ?_
  rw [meets_bind]
  refine Meets.ite (fun accepted => ?_) fun _ => trivial
  have lands := outputPath_iff inside (by decide) accepted
  refine (Quiet.meets (uses_orFail (quiet_ask (by nofun)))).seq fun _ _ _ => ?_
  refine (Quiet.meets (uses_orExit (quiet_ask (by nofun)))).seq fun sources _ _ => ?_
  refine (Guarantees.forM (readLines sources) (fun source _ =>
    compileSource_guarantees inside compiler _ source) _).seq fun _ _ _ => ?_
  refine (Quiet.meets (uses_orExit (quiet_ask (by nofun)))).seq fun objects _ _ => ?_
  refine (Quiet.meets (uses_linkFlags workdir p.links)).seq fun flags _ _ => ?_
  refine (compile_meets (by nofun) fun _ => lands).seq fun _ _ _ => ?_
  exact (Quiet.meets (uses_orFail (quiet_ask (by nofun)))).seq fun _ _ _ => trivial

end workdir

end spec

/-- An object file is always in the work directory. The output is inside it exactly when the
output string, behind the work directory, names its way back from every `..`. -/
theorem output_inside_iff {S : Type} {env : Environment S Call Reply} {settings : Settings}
    {action : Action} {args : List Text} {s t : S} {events : List (Event S Call Reply)}
    {rest : Script Text} {c : Command}
    (absolute : ∀ s path workdir t, env s (.enter path) (some workdir) t →
      isAbsolute workdir = true)
    (run : Exec env (vitaDev settings action args) s events rest t) (issued : c ∈ compiled events) :
    (c.objectOnly = true → StrictlyInside c.workdir c.output) ∧
    (c.objectOnly = false → (StrictlyInside c.workdir c.output ↔
      Returns c.workdir (outputString settings action args))) := by
  have meets : (vitaDev settings action args).Meets env
      (Lands (outputString settings action args)) (fun _ _ => True) (fun _ _ => True) s := by
    unfold vitaDev outputString
    cases action with
    | build =>
      dsimp only
      cases parseBuild ⟨false, settings.workdir, [], settings.source⟩ args with
      | error ending => trivial
      | ok o => exact build_meets absolute o
    | project text =>
      dsimp only
      cases parseProject ⟨false, settings.workdir, [], [], [], []⟩ args with
      | error ending => trivial
      | ok o => exact project_meets absolute o text
  obtain ⟨e, member, compiles⟩ := List.mem_filterMap.mp issued
  refine (meets.exec run).1 e member c ?_
  split at compiles
  · next call => rw [call, Option.some.inj compiles]
  · cases compiles

section sample

/-- A system on which every command works, with the work directory `/work`. -/
def bench : (call : Call) → Reply call
  | .sourceEnv _ => some "cc".toList
  | .commandPath _ => "/usr/bin/cc".toList
  | .parent _ => some "/src".toList
  | .enter _ => some "/work".toList
  | .contents _ => some "/src/main.c\n".toList
  | .lists _ _ => false
  | .isFile _ | .isReadable _ | .isExecutable _ | .mkdir _ | .opens _ | .write _ _ | .append _ _
  | .compile _ | .remove _ => true

def onBench : Environment Unit Call Reply := fun _ call reply _ => reply = bench call

theorem onBench_enter (s : Unit) (path workdir : Text) (t : Unit)
    (answer : onBench s (.enter path) (some workdir) t) : isAbsolute workdir = true := by
  obtain rfl : workdir = "/work".toList := Option.some.inj answer
  decide

def onBenchAnswer (_ : Unit) (call : Call) : Option (Reply call × Unit) := some (bench call, ())

/-- A run of the script on this system, with no setting from the environment. -/
theorem exec_bench (p : Script Text) (output : Text)
    (ran : p.run onBenchAnswer () = some (.ok output, ())) :
    Exec onBench p () (p.calls id onBenchAnswer ()) (.done output) () := by
  have possible : ∀ h c r k, onBenchAnswer h c = some (r, k) → onBench (id h) c r (id k) := by
    intro h c r k answer
    cases answer
    rfl
  exact exec_run possible ran

def buildOn (args : List String) : Script Text :=
  vitaDev ⟨[], [], [], []⟩ .build (args.map String.toList)

def projectOn (manifest : String) (args : List String) : Script Text :=
  vitaDev ⟨[], [], [], []⟩ (.project manifest.toList) (args.map String.toList)

/-- An output that leaves the work directory and comes back. -/
theorem output_inside_iff_back : ∃ events, Exec onBench
    (buildOn ["--workdir", "/work", "--output", "../work/app", "main.c"]) () events
      (.done "/work/../work/app".toList) () ∧
    StrictlyInside "/work".toList "/work/../work/app".toList := by
  have run := exec_bench (buildOn ["--workdir", "/work", "--output", "../work/app", "main.c"])
    "/work/../work/app".toList (by decide +kernel)
  have issued : ⟨"cc".toList, "/work".toList, false, ["/src/main.c".toList],
      "/work/../work/app".toList⟩ ∈ compiled ((buildOn ["--workdir", "/work", "--output",
        "../work/app", "main.c"]).calls id onBenchAnswer ()) := by decide +kernel
  refine ⟨_, run, ((output_inside_iff onBench_enter run issued).2 rfl).mpr ?_⟩
  exact ⟨["app".toList], by decide, by decide +kernel⟩

/-- Both actions write outside the work directory, for an output string of the command line and
for one of a manifest. -/
theorem output_escapes :
    (∃ events c, Exec onBench (buildOn ["--workdir", "/work", "--output", "../outside", "main.c"])
      () events (.done "/work/../outside".toList) () ∧ c ∈ compiled events ∧
      c.workdir = "/work".toList ∧ c.output = "/work/../outside".toList) ∧
    (∃ events c, Exec onBench (projectOn "output=../outside\nsource=main.c\n"
        ["--workdir", "/work", "--manifest", "vita.project"])
      () events (.done "/work/../outside".toList) () ∧ c ∈ compiled events ∧
      c.workdir = "/work".toList ∧ c.output = "/work/../outside".toList) ∧
    ¬ StrictlyInside "/work".toList "/work/../outside".toList := by
  refine ⟨?_, ?_, ?_⟩
  · have run := exec_bench (buildOn ["--workdir", "/work", "--output", "../outside", "main.c"])
      "/work/../outside".toList (by decide +kernel)
    exact ⟨_, ⟨"cc".toList, "/work".toList, false, ["/src/main.c".toList],
      "/work/../outside".toList⟩, run, by decide +kernel, rfl, rfl⟩
  · have run := exec_bench (projectOn "output=../outside\nsource=main.c\n"
      ["--workdir", "/work", "--manifest", "vita.project"])
      "/work/../outside".toList (by decide +kernel)
    exact ⟨_, ⟨"cc".toList, "/work".toList, false, ["/src/main.c".toList],
      "/work/../outside".toList⟩, run, by decide +kernel, rfl, rfl⟩
  · rintro ⟨_, more, _, leads⟩
    have outside : resolved "/work/../outside".toList = ["outside".toList] := by decide +kernel
    have inside : resolved "/work".toList = ["work".toList] := by decide +kernel
    rw [outside, inside] at leads
    exact absurd (List.cons.inj leads).1 (by decide)

end sample

end VitaLinux.Toolkit.Dev
