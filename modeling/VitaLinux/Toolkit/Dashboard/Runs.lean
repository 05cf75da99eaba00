import VitaLinux.Toolkit.Dashboard.Passes

/-!
# Whole runs of the dashboard

However a run ends, the framebuffer is handed back as it was found: the release is the last
call on the owner, and the console stays unbound only where its rebind could not be written,
with a status that says so. In between, each frame is the one its screen, its limits and the
earlier key presses call for.
-/

namespace VitaLinux.Toolkit.Dashboard

variable {abi : Abi} {options : Options abi} {started : SizeT abi} {first loop : Loop abi}

/-- The passes that went on, with their turns and frames, lead to this loop. -/
inductive Reaches (options : Options abi) (started : SizeT abi) (first : Loop abi) :
    List (Turn abi) → List (Shot abi) → Loop abi → Prop where
  | start : Reaches options started first [] [] first
  | pass {turns : List (Turn abi)} {shots : List (Shot abi)} {loop : Loop abi} (t : Turn abi)
      (shot : Shot abi) (renderer : Renderer abi)
      (earlier : Reaches options started first turns shots loop)
      (goes : shot.Goes options started loop t renderer) :
      Reaches options started first (turns ++ [t]) (shots ++ [shot]) (loop.after t shot renderer)

/-- Any pass of a run began where the earlier ones led. -/
theorem Reaches.split {turns : List (Turn abi)} {earlier later : List (Shot abi)}
    {shot : Shot abi}
    (h : Reaches options started first turns (earlier ++ shot :: later) loop) :
    ∃ made t rest before renderer, turns = made ++ t :: rest ∧
      Reaches options started first made earlier before ∧
      shot.Goes options started before t renderer := by
  generalize same : earlier ++ shot :: later = shots at h
  induction h generalizing later with
  | start => simp at same
  | @pass turns shots loop t last renderer reached goes ih =>
    rcases List.eq_nil_or_concat later with rfl | ⟨later, final, rfl⟩
    · obtain ⟨rfl, e⟩ := List.append_inj' same rfl
      obtain rfl := List.singleton_inj.mp e
      exact ⟨turns, t, [], loop, renderer, rfl, reached, goes⟩
    · have split : (earlier ++ shot :: later) ++ [final] = shots ++ [last] := by
        simpa using same
      obtain ⟨e, -⟩ := List.append_inj' split rfl
      obtain ⟨made, t', rest, before, renderer', rfl, led⟩ := ih e
      exact ⟨made, t', rest ++ [t], before, renderer', by simp, led⟩

/-- All passes of the loop but the last went on. By induction on the turns. -/
theorem runLoop_reaches {past : List (Turn abi)} {shots : List (Shot abi)}
    (h : Reaches options started first past shots loop) (turns : List (Turn abi)) :
    ((runLoop options started loop turns).ends = .goesOn ∧
      Reaches options started first (past ++ turns)
        (shots ++ (runLoop options started loop turns).shots)
        (runLoop options started loop turns).loop) ∨
    ∃ before made t rest result middle, turns = before ++ t :: rest ∧
      Reaches options started first (past ++ before) (shots ++ made) middle ∧
      Passed options started middle t result ∧ result.ends ≠ .goesOn ∧
      runLoop options started loop turns =
        { loop := result.loop, shots := made ++ result.shot.toList, ends := result.ends } := by
  induction turns generalizing past shots loop with
  | nil => exact .inl ⟨rfl, by simpa [runLoop] using h⟩
  | cons t turns ih =>
    have passed := turn_passed options started loop t
    by_cases goes : (turn options started loop t).ends = .goesOn
    · simp only [runLoop, goes]
      generalize turn options started loop t = result at passed goes
      cases passed with
      | left | undefined | writing | unwritten | stops => cases goes
      | goesOn shot renderer step =>
        rcases ih (h.pass t shot renderer step) with ⟨ends, reached⟩ |
          ⟨before, made, t', rest, result, middle, rfl, reached, last, ends, run⟩
        · exact .inl ⟨ends, by simpa using reached⟩
        · refine .inr ⟨t :: before, shot :: made, t', rest, result, middle, rfl, ?_, last, ends,
            ?_⟩
          · simpa using reached
          · rw [run]
            rfl
    · refine .inr ⟨[], [], t, turns, _, loop, rfl, by simpa using h, passed, goes, ?_⟩
      rw [runLoop]
      split
      · contradiction
      · rfl

/-- Every frame of a run was composed where the frames before it led. -/
theorem runLoop_composed {turns : List (Turn abi)} {earlier later : List (Shot abi)}
    {shot : Shot abi}
    (split : (runLoop options started first turns).shots = earlier ++ shot :: later) :
    ∃ made t rest before renderer, turns = made ++ t :: rest ∧
      Reaches options started first made earlier before ∧
      shot.Composed options started before t renderer := by
  rcases runLoop_reaches .start turns with ⟨-, reached⟩ |
    ⟨front, made, t, rest, result, middle, rfl, reached, last, ends, run⟩
  · rw [List.nil_append, List.nil_append, split] at reached
    obtain ⟨made, t, rest, before, renderer, same, led, goes⟩ := reached.split
    exact ⟨made, t, rest, before, renderer, same, led, goes.toComposed⟩
  rw [run] at split
  rw [List.nil_append, List.nil_append] at reached
  have inMade {later' : List (Shot abi)} (split : made = earlier ++ shot :: later') :
      ∃ made t' rest' before renderer, front ++ t :: rest = made ++ t' :: rest' ∧
        Reaches options started first made earlier before ∧
        shot.Composed options started before t' renderer := by
    obtain ⟨made', t', rest', before, renderer, rfl, led, goes⟩ := (split ▸ reached).split
    exact ⟨made', t', rest' ++ t :: rest, before, renderer, by simp, led, goes.toComposed⟩
  have atLast {final : Shot abi} {renderer : Renderer abi}
      (composed : final.Composed options started middle t renderer)
      (split : made ++ [final] = earlier ++ shot :: later) :
      ∃ made t' rest' before renderer, front ++ t :: rest = made ++ t' :: rest' ∧
        Reaches options started first made earlier before ∧
        shot.Composed options started before t' renderer := by
    rcases List.eq_nil_or_concat later with rfl | ⟨later, other, rfl⟩
    · obtain ⟨rfl, e⟩ := List.append_inj' split rfl
      obtain rfl := List.singleton_inj.mp e
      exact ⟨front, t, rest, middle, renderer, rfl, reached, composed⟩
    · have split : made ++ [final] = (earlier ++ shot :: later) ++ [other] := by
        simpa using split
      exact inMade (List.append_inj' split rfl).1
  cases last with
  | left | undefined => exact inMade (by simpa using split)
  | writing final renderer composed | unwritten final renderer composed
  | stops final renderer text rc composed => exact atLast composed split
  | goesOn => exact absurd rfl ends

/-! ## The framebuffer is handed back -/

/-- The owner's record is true of the calls so far, and a console it unbound is unbound. -/
structure Holds (bind0 : Option Bool) (past : List (Entry abi)) (session : Session abi) : Prop
    extends Traced bind0 past session where
  dark : session.owner.fbconUnboundByUs = true → session.bindFile = some false

variable {bind0 : Option Bool} {past : List (Entry abi)} {session : Session abi}

theorem Holds.write (h : Holds bind0 past session) (frame : Option (Nat → UInt8))
    (len : SizeT abi) (io : FrameIo) :
    Holds bind0 (past ++ [⟨session, .writeFrame frame len io⟩])
      (session.writeFrame frame len io).session := by
  obtain ⟨bindFile, -, ours, -⟩ := session.writeFrame_record frame len io
  refine ⟨h.toTraced.writeFrame frame len io, fun unbound => ?_⟩
  rw [bindFile]
  exact h.dark (ours ▸ unbound)

theorem Shot.Composed.holds {t : Turn abi} {shot : Shot abi} {renderer : Renderer abi}
    (composed : shot.Composed options started loop t renderer)
    (h : Holds bind0 past loop.session) :
    Holds bind0 (past ++ [shot.entry]) shot.entry.outcome.session := by
  rw [composed.entry]
  exact h.write ..

theorem Reaches.holds {turns : List (Turn abi)} {shots : List (Shot abi)}
    (h : Reaches options started first turns shots loop) (holds : Holds bind0 past first.session) :
    Holds bind0 (past ++ shots.map Shot.entry) loop.session := by
  induction h with
  | start => simpa using holds
  | @pass turns shots loop t shot renderer earlier goes ih =>
    rw [loop.after_session]
    simpa using goes.toComposed.holds ih

theorem Passed.holds {t : Turn abi} {result : TurnResult abi}
    (h : Passed options started loop t result) (holds : Holds bind0 past loop.session)
    (ends : result.ends ≠ .goesOn) :
    Holds bind0 (past ++ result.shot.toList.map Shot.entry) result.loop.session := by
  cases h with
  | left | undefined => simpa using holds
  | writing shot renderer composed | unwritten shot renderer composed
  | stops shot renderer text rc composed => exact composed.holds holds
  | goesOn => exact absurd rfl ends

theorem runLoop_holds (holds : Holds bind0 past first.session) (turns : List (Turn abi)) :
    Holds bind0 (past ++ (runLoop options started first turns).shots.map Shot.entry)
      (runLoop options started first turns).loop.session := by
  rcases runLoop_reaches .start turns with ⟨-, reached⟩ |
    ⟨front, made, t, rest, result, middle, rfl, reached, last, ends, run⟩
  · exact reached.holds holds
  · rw [run]
    simpa using last.holds (reached.holds holds) ends

/-- Every step of `write_bind` succeeds. -/
def BindIo.Writes (io : BindIo) : Prop := io.opens ∧ io.prints ∧ io.closes

/-- The calls on the owner between the probe and the release: the acquire that took the
framebuffer, and then frame writes alone. -/
structure Run.Held (io : DashboardIo abi) (run : Run abi) : Prop where
  entries : ∃ probe acquire release : Entry abi,
    run.entries = probe :: acquire :: (run.shots.map Shot.entry ++ [release]) ∧
      probe.call = .probe io.probe ∧ acquire.call = .acquire io.acquire ∧ acquire.Acquires ∧
      release.call = .release io.release
  writes : ∀ shot ∈ run.shots, ∃ frame len io, shot.entry.call = .writeFrame frame len io

/-- What a run that has returned leaves behind. -/
structure Run.Restored (io : DashboardIo abi) (bind0 : Option Bool) (code : Int) (run : Run abi) :
    Prop where
  /-- The input device is closed. -/
  closed : run.input.fd = none
  /-- It owned the framebuffer and released it, or it never touched it. -/
  held : run.Held io ∨
    run.shots = [] ∧ ∀ entry ∈ run.entries, ¬entry.Acquires ∧ entry.outcome.effects = []
  /-- The console is as it was, or its rebind failed and the status is not 0. -/
  console : run.session.bindFile = bind0 ∨
    bind0 = some true ∧ run.session.bindFile = some false ∧ ¬io.release.Writes ∧ code ≠ 0

/-- A release leaves the console as the run found it, or reports that it could not. -/
theorem Holds.release (h : Holds bind0 past session) (io : BindIo) :
    (session.release io).session.bindFile = bind0 ∨
      bind0 = some true ∧ (session.release io).session.bindFile = some false ∧ ¬io.Writes ∧
        (session.release io).status ≠ some 0 := by
  by_cases ok : (session.release io).status = some 0
  · exact .inl (h.restored ok)
  rcases session.release_cases io with ⟨-, e⟩ | ⟨ours, e⟩ | ⟨-, e⟩ | ⟨-, _, e⟩
  · exact absurd (congrArg Outcome.status e) ok
  · refine .inr ⟨h.taken ours, ?_, ?_, ok⟩
    · rw [e]
      exact h.dark ours
    · rintro ⟨opens, prints, closes⟩
      apply ok
      unfold Session.release
      split
      · rfl
      · simp [writeBind, opens, prints, closes]
  · exact absurd (congrArg Outcome.status e) ok
  · exact absurd (congrArg Outcome.status e) ok

theorem Shot.Composed.writes {t : Turn abi} {shot : Shot abi} {renderer : Renderer abi}
    (composed : shot.Composed options started loop t renderer) :
    ∃ frame len io, shot.entry.call = .writeFrame frame len io :=
  ⟨renderer.shadow, renderer.frameBytes, t.frame, congrArg Entry.call composed.entry⟩

theorem runLoop_writes {turns : List (Turn abi)} :
    ∀ shot ∈ (runLoop options started first turns).shots,
      ∃ frame len io, shot.entry.call = .writeFrame frame len io := by
  intro shot mem
  obtain ⟨earlier, later, split⟩ := List.append_of_mem mem
  obtain ⟨_, _, _, _, _, -, -, composed⟩ := runLoop_composed split
  exact composed.writes

/-- The end of `main`: the release, whatever ended the loop. -/
theorem finish_restored {io : DashboardIo abi} {probe acquire : Entry abi} {ran : LoopRun abi}
    {code : Int} (probes : probe.call = .probe io.probe) (acquires : acquire.call = .acquire io.acquire)
    (acquired : acquire.Acquires)
    (writes : ∀ shot ∈ ran.shots, ∃ frame len io, shot.entry.call = .writeFrame frame len io)
    (holds : Holds bind0 past ran.loop.session)
    (returned : (finish options io [probe, acquire] ran).exit = .exited code) :
    (finish options io [probe, acquire] ran).Restored io bind0 code := by
  obtain ⟨loop, shots, ends⟩ := ran
  cases ends with
  | goesOn | writing | undefined => cases returned
  | breaks text rc =>
    refine ⟨rfl, .inl ⟨⟨probe, acquire, _, rfl, probes, acquires, acquired, rfl⟩, writes⟩, ?_⟩
    rcases holds.release io.release with same | ⟨was, dark, fails, status⟩
    · exact .inl same
    · refine .inr ⟨was, dark, fails, ?_⟩
      have code_eq : code = if io.flushes then
          (if (loop.session.release io.release).status ≠ some 0 ∧ rc = 0 then 9 else rc) else 10 :=
        (Exit.exited.inj returned).symm
      rw [code_eq]
      split
      · split
        · decide
        · rename_i kept
          exact fun zero => kept ⟨status, zero⟩
      · decide

theorem Holds.start (abi : Abi) (bind0 : Option Bool) :
    Holds bind0 [] (⟨.init abi, bind0⟩ : Session abi) :=
  ⟨.start abi bind0, by simp [FbOwner.init]⟩

/-- A probe writes nothing, and takes no console. -/
theorem Holds.probe (h : Holds bind0 past session) (io : ProbeIo) :
    Holds bind0 (past ++ [⟨session, .probe io⟩]) (session.probe io).session := by
  refine ⟨h.toTraced.probe io, fun ours => ?_⟩
  have kept : (session.probe io).session.owner.fbconUnboundByUs =
      session.owner.fbconUnboundByUs := by
    rcases session.owner.probe_cases io session.bindFile with ⟨-, -, -, same⟩ | ⟨-, -, -, -, same⟩
    · exact same
    · exact same
  exact h.dark (kept ▸ ours)

theorem Holds.acquire (h : Holds bind0 past session) (io : BindIo) :
    Holds bind0 (past ++ [⟨session, .acquire io⟩]) (session.acquire io).session := by
  refine ⟨h.toTraced.acquire io, fun ours => ?_⟩
  rcases session.acquire_cases io with ⟨-, -, message, e⟩ | ⟨-, -, e⟩ | ⟨-, -, e⟩
  · rw [e] at ours ⊢
    exact h.dark ours
  · rw [e]
  · rw [e] at ours ⊢
    exact h.dark ours

/-- A run that never came to own the framebuffer. -/
theorem refuse_restored {io : DashboardIo abi} {entries : List (Entry abi)} {code code' : Int}
    (quiet : ∀ entry ∈ entries, ¬entry.Acquires ∧ entry.outcome.effects = [])
    (same : session.bindFile = bind0) : (refuse entries session code').Restored io bind0 code :=
  ⟨rfl, .inr ⟨rfl, quiet⟩, .inl same⟩

theorem probe_quiet (session : Session abi) (io : ProbeIo) :
    ¬(⟨session, .probe io⟩ : Entry abi).Acquires ∧
      (⟨session, .probe io⟩ : Entry abi).outcome.effects = [] := by
  refine ⟨?_, rfl⟩
  rintro ⟨_, e, -⟩
  cases e

theorem acquire_refused {session : Session abi} {io : BindIo}
    (failed : (session.acquire io).status ≠ some 0) :
    (¬(⟨session, .acquire io⟩ : Entry abi).Acquires ∧
      (⟨session, .acquire io⟩ : Entry abi).outcome.effects = []) ∧
      (session.acquire io).session.bindFile = session.bindFile := by
  rcases session.acquire_cases io with ⟨-, quiet, message, e⟩ | ⟨-, -, e⟩ | ⟨-, -, e⟩
  · refine ⟨⟨?_, quiet⟩, by rw [e]⟩
    rintro ⟨_, -, ok⟩
    exact failed ok
  · exact absurd (congrArg Outcome.status e) failed
  · exact absurd (congrArg Outcome.status e) failed

/-- The steps of `main` before the loop, all of which succeeded. -/
structure Begun (io : DashboardIo abi) (bind0 : Option Bool) (args : List (List UInt8))
    (options : Options abi) (probe acquire : Entry abi) (loop : Loop abi) : Prop where
  parsed : parseArgs (.default abi) args = .options options
  device : DashboardInput.inputOpen io.files options.root
    (printed 256 (options.root ++ chars "/dev/input")) options.wantedPhys = some loop.input
  probe_eq : probe = ⟨⟨.init abi, bind0⟩, .probe io.probe⟩
  probed : probe.outcome.status = some 0
  made : Renderer.init io.malloc probe.outcome.session.owner.width
    probe.outcome.session.owner.height probe.outcome.session.owner.bpp
    probe.outcome.session.owner.stride = (loop.renderer, 0)
  acquire_eq : acquire = ⟨probe.outcome.session, .acquire io.acquire⟩
  acquired : acquire.outcome.status = some 0
  session : loop.session = acquire.outcome.session
  status : loop.status = io.status
  screen : loop.screen = 0
  screensVisited : loop.screensVisited = 1

/-- The run that the loop and what follows it make. -/
def Begun.run (options : Options abi) (io : DashboardIo abi) (probe acquire : Entry abi)
    (loop : Loop abi) : Run abi :=
  finish options io [probe, acquire] (runLoop options io.started loop io.turns)

/-- A run is refused before it owns the framebuffer, or it gets as far as the loop. -/
theorem main_cases (io : DashboardIo abi) (bind0 : Option Bool) (args : List (List UInt8)) :
    (∃ entries session code, main io bind0 args = refuse entries session code ∧
      (∀ entry ∈ entries, ¬entry.Acquires ∧ entry.outcome.effects = []) ∧
      session.bindFile = bind0) ∨
    (parseArgs (.default abi) args = .undefined ∧ (main io bind0 args).exit = .undefined ∧
      (main io bind0 args).shots = []) ∨
    ∃ options probe acquire loop, Begun io bind0 args options probe acquire loop ∧
      main io bind0 args = Begun.run options io probe acquire loop := by
  unfold main
  dsimp only
  split
  · exact .inl ⟨_, _, _, rfl, by simp, rfl⟩
  · rename_i parsed
    exact .inr (.inl ⟨parsed, rfl, rfl⟩)
  rename_i options parsed
  split
  · exact .inl ⟨_, _, _, rfl, by simp, rfl⟩
  rename_i input device
  have quiet := probe_quiet (⟨.init abi, bind0⟩ : Session abi) io.probe
  unfold runWith
  dsimp only
  split
  · exact .inl ⟨_, _, _, rfl, by simpa using quiet, rfl⟩
  rename_i probed
  split
  · exact .inl ⟨_, _, _, rfl, by simpa using quiet, rfl⟩
  rename_i made
  split
  · rename_i failed
    obtain ⟨refused, same⟩ := acquire_refused failed
    exact .inl ⟨_, _, _, rfl, by simpa using ⟨quiet, refused⟩, same⟩
  rename_i acquired
  exact .inr (.inr ⟨options, _, _, _,
    { parsed, device, probe_eq := rfl, probed := not_not.mp probed
      made := Prod.ext rfl (not_not.mp made), acquire_eq := rfl
      acquired := not_not.mp acquired, session := rfl, status := rfl, screen := rfl
      screensVisited := rfl }, rfl⟩)

theorem Begun.holds {io : DashboardIo abi} {args : List (List UInt8)} {probe acquire : Entry abi}
    (begun : Begun io bind0 args options probe acquire loop) :
    Holds bind0 [probe, acquire] loop.session := by
  have probed := (Holds.start abi bind0).probe io.probe
  rw [begun.session, begun.acquire_eq, begun.probe_eq]
  exact probed.acquire io.acquire

theorem Begun.found {io : DashboardIo abi} {args : List (List UInt8)}
    {probe acquire : Entry abi} (begun : Begun io bind0 args options probe acquire loop) :
    loop.input.fd ≠ none ∧ loop.input.Bounded := by
  have device := begun.device
  unfold DashboardInput.inputOpen at device
  split at device
  · cases device
  · exact search_found device

/-- The loop starts with the shadow blank and the framebuffer owned. -/
theorem Begun.blank {io : DashboardIo abi} {args : List (List UInt8)}
    {probe acquire : Entry abi} (begun : Begun io bind0 args options probe acquire loop)
    (depth : 24 ≤ probe.outcome.session.owner.bpp.toNat)
    (unwrapped : Unwrapped abi probe.outcome.session.owner.width
      probe.outcome.session.owner.height probe.outcome.session.owner.bpp
      probe.outcome.session.owner.stride) :
    Blank loop.renderer ∧ Drawing loop.renderer loop := by
  obtain ⟨checked, -, -, -⟩ := Renderer.init_checked begun.made
  have accepted : ((FbOwner.init abi).probe io.probe bind0).2 = 0 := by
    have probed := begun.probed
    rw [begun.probe_eq] at probed
    exact Option.some.inj probed
  obtain ⟨sized, row⟩ := FbOwner.probe_sized accepted
  have probe_eq := begun.probe_eq
  subst probe_eq
  have owner : loop.session.owner.state = .owned ∧
      loop.session.owner.frameBytes = ((FbOwner.init abi).probe io.probe bind0).1.frameBytes := by
    have acquired := begun.acquired
    rw [begun.acquire_eq] at acquired
    rw [begun.session, begun.acquire_eq]
    exact Session.acquired_owner acquired
  refine ⟨Renderer.init_blank begun.made depth unwrapped,
    ⟨⟨[], rfl⟩, owner.1, ?_, begun.found.2⟩⟩
  rw [owner.2, sized, checked.frame_eq, checked.same_size row]
  rfl

theorem finish_shots (options : Options abi) (io : DashboardIo abi) (entries : List (Entry abi))
    (ran : LoopRun abi) : (finish options io entries ran).shots = ran.shots := by
  obtain ⟨loop, shots, ends⟩ := ran
  cases ends <;> rfl

/-- What `main` does once its first steps have succeeded. -/
theorem Begun.main_eq {io : DashboardIo abi} {args : List (List UInt8)}
    {probe acquire : Entry abi} (begun : Begun io bind0 args options probe acquire loop) :
    main io bind0 args = Begun.run options io probe acquire loop := by
  obtain ⟨session, renderer, status, input, screen, screensVisited⟩ := loop
  obtain ⟨parsed, device, rfl, probed, made, rfl, acquired, rfl, rfl, rfl, rfl⟩ := begun
  unfold main
  rw [parsed]
  dsimp only
  rw [device]
  dsimp only at made ⊢
  unfold runWith
  dsimp only
  rw [if_neg (not_not.mpr probed), made, if_neg (not_not.mpr rfl), if_neg (not_not.mpr acquired)]
  rfl

theorem runLoop_goes {t : Turn abi} {shot : Shot abi} {after : Loop abi}
    (goes : turn options started loop t = { loop := after, shot := some shot, ends := .goesOn })
    (turns : List (Turn abi)) :
    runLoop options started loop (t :: turns) =
      { runLoop options started after turns with
        shots := shot :: (runLoop options started after turns).shots } := by
  rw [runLoop, goes]
  rfl

/-! ## A machine with padded rows -/

def unknown : StatusField := ⟨chars "UNKNOWN", by decide⟩

def unknownStatus : DashboardStatus :=
  { kernel := unknown, arch := unknown, cpusOnline := unknown, memoryAvailable := unknown
    uptime := unknown, interface := unknown, address := unknown, storage := unknown
    toolkit := unknown, compiler := unknown, workspace := unknown }

/-- One event node, and a framebuffer of PSTV's size, whose rows are padded to 6144 bytes, below
a bound console. -/
def padded (turns : List (Turn .ilp32)) : DashboardIo .ilp32 where
  files :=
    { read := fun path =>
        if path = chars "/sys/class/input/event0/device/phys" then
          some (chars "vita_syscon_buttons\n")
        else none
      node := fun path => if path = chars "/dev/input/event0" then some 3 else none }
  probe := ⟨some (1280, 720), some 32, some 6144, .regular 4423680, true, true⟩
  malloc := some fun _ => 0
  acquire := ⟨true, true, true⟩
  status := unknownStatus
  started := 100
  turns
  ended := 400
  release := ⟨true, true, true⟩
  flushes := true

/-- The frame goes out in two pieces, and SPACE is pressed. -/
def spacePressed (now : SizeT .ilp32) : Turn .ilp32 where
  now
  stopped := false
  frame := ⟨true, true, [.wrote 4000000, .interrupted, .wrote 423680]⟩
  poll := ⟨.ready true, [.got [0, 0, 0, 0, 0, 0, 0, 0, 1, 0, 57, 0, 1, 0, 0, 0], .again]⟩
  status := unknownStatus

/-- A signal has come. -/
def interrupted : Turn .ilp32 := { spacePressed 200 with stopped := true }

def paddedProbe : Entry .ilp32 :=
  ⟨⟨.init .ilp32, some true⟩, .probe (padded []).probe⟩

def paddedAcquire : Entry .ilp32 := ⟨paddedProbe.outcome.session, .acquire (padded []).acquire⟩

/-- The loop as it starts on that machine. -/
def paddedLoop : Loop .ilp32 where
  session := paddedAcquire.outcome.session
  renderer := (Renderer.init (some fun _ => 0) 1280 720 32 6144).1
  status := unknownStatus
  input :=
    { fd := some 3, number := 0, name := chars "UNKNOWN", phys := chars "vita_syscon_buttons"
      path := chars "/dev/input/event0", eventsSeen := 0, malformed := 0 }
  screen := 0
  screensVisited := 1

theorem padded_begun (turns : List (Turn .ilp32)) :
    Begun (padded turns) (some true) [] (.default .ilp32) paddedProbe paddedAcquire
      paddedLoop where
  parsed := rfl
  device := rfl
  probe_eq := rfl
  probed := rfl
  made := rfl
  acquire_eq := rfl
  acquired := rfl
  session := rfl
  status := rfl
  screen := rfl
  screensVisited := rfl

theorem padded_blank : Blank paddedLoop.renderer ∧ Drawing paddedLoop.renderer paddedLoop :=
  (padded_begun []).blank (by decide) ⟨by decide, by decide⟩

/-- On that machine a turn in time draws its frame, and SPACE leads to the next screen. -/
theorem padded_goes {loop : Loop .ilp32} (drawing : Drawing paddedLoop.renderer loop)
    (device : loop.input.fd ≠ none) (now : SizeT .ilp32)
    (inTime : now - 100 < (Options.default .ilp32).durationMs) :
    ∃ shot renderer, shot.Goes (.default .ilp32) 100 loop (spacePressed now) renderer ∧
      turn (.default .ilp32) 100 loop (spacePressed now) =
        { loop := loop.after (spacePressed now) shot renderer, shot := some shot
          ends := .goesOn } := by
  have delivers : Delivers paddedLoop.renderer.frameBytes.toNat (spacePressed now).frame.writes :=
    ⟨[.wrote 4000000, .interrupted, .wrote 423680], [], rfl, by simp, by decide⟩
  refine drawing.goes padded_blank.1 rfl (.inr inTime) rfl rfl rfl delivers ?_ ?_
  · unfold DashboardInput.poll
    rw [if_neg device]
    rfl
  · rw [loop.input.poll_action device]
    exact (by decide : PollIo.request .ilp32 (spacePressed 0).poll ≠ .exit)

/-- **The framebuffer is handed back on every path.** Whatever the arguments, the device and
the outside do, a run that returns has released what it took. -/
theorem dashboard_restores (io : DashboardIo abi) (bind0 : Option Bool)
    (args : List (List UInt8)) (code : Int) (returned : (main io bind0 args).exit = .exited code) :
    (main io bind0 args).Restored io bind0 code := by
  rcases main_cases io bind0 args with ⟨entries, session, code', e, quiet, same⟩ |
    ⟨-, undefined, -⟩ | ⟨options, probe, acquire, loop, begun, e⟩
  · rw [e]
    exact refuse_restored quiet same
  · rw [undefined] at returned
    cases returned
  · rw [e] at returned ⊢
    refine finish_restored ?_ ?_ ?_ runLoop_writes (runLoop_holds begun.holds io.turns) returned
    · rw [begun.probe_eq]
    · rw [begun.acquire_eq]
    · exact ⟨io.acquire, by rw [begun.acquire_eq], begun.acquired⟩

/-- A frame is written, then a signal comes: the console is bound again. -/
theorem interrupted_restored :
    ∃ shot bytes, (main (padded [spacePressed 150, interrupted]) (some true) []).shots = [shot] ∧
      shot.entry.outcome.effects = [.frame bytes] ∧
      (main (padded [spacePressed 150, interrupted]) (some true) []).Restored
        (padded [spacePressed 150, interrupted]) (some true) 0 := by
  obtain ⟨shot, renderer, goes, first⟩ := padded_goes padded_blank.2 (by decide) 150
    (by decide)
  have run := (padded_begun [spacePressed 150, interrupted]).main_eq
  have looped : runLoop (.default .ilp32) 100 paddedLoop [spacePressed 150, interrupted] =
      { loop := paddedLoop.after (spacePressed 150) shot renderer, shots := [shot]
        ends := .breaks "signal" 0 } := runLoop_goes first [interrupted]
  have written := goes.written
  rw [goes.entry] at written
  obtain ⟨shadow, -, session, effects⟩ := Session.writeFrame_written written
  have released : ((paddedLoop.after (spacePressed 150) shot renderer).session.release
      (padded []).release).status = some 0 := by
    rw [Loop.after_session, goes.entry]
    exact congrArg (fun session => (Session.release session (padded []).release).status) session
  refine ⟨shot, slice shadow 0 renderer.frameBytes.toNat, ?_, ?_, dashboard_restores _ _ _ 0 ?_⟩
  · rw [run, Begun.run, finish_shots]
    exact congrArg LoopRun.shots looped
  · rw [goes.entry]
    exact effects
  · have looped' : runLoop (.default .ilp32) (padded [spacePressed 150, interrupted]).started
        paddedLoop (padded [spacePressed 150, interrupted]).turns = _ := looped
    rw [run, Begun.run, looped']
    change Exit.exited (if _ ≠ _ ∧ _ = _ then _ else _) = _
    rw [if_neg (fun bad => bad.1 released)]

end VitaLinux.Toolkit.Dashboard
