import VitaLinux.Toolkit.Dashboard.Runs

/-!
# What the dashboard shows

The loop's variables are functions of the turns that went on, and the shadow is what their
frames leave on it.
-/

namespace VitaLinux.Toolkit.Dashboard

variable {abi : Abi} {options : Options abi} {started : SizeT abi} {first loop : Loop abi}
  {bind0 : Option Bool}

theorem Reaches.length_eq {turns : List (Turn abi)} {shots : List (Shot abi)}
    (h : Reaches options started first turns shots loop) : turns.length = shots.length := by
  induction h with
  | start => rfl
  | pass t shot renderer earlier goes ih => simpa using ih

def Turn.request (t : Turn abi) : DashboardAction := t.poll.request abi

/-- The facts collected last, by the turns so far. -/
def lastStatus (first : DashboardStatus) (turns : List (Turn abi)) : DashboardStatus :=
  ((turns.filter fun t => t.request = .next).getLast?.map Turn.status).getD first

/-- The input after these turns. -/
def inputAfter (first : DashboardInput abi) (turns : List (Turn abi)) : DashboardInput abi :=
  turns.foldl (fun input t => (input.poll t.poll).1) first

/-- Drawing the frame of a shot. -/
def Renderer.compose (r : Renderer abi) (shot : Shot abi) : Option (Renderer abi) :=
  (drawScreen r shot.screen shot.status shot.input shot.runtime shot.frames).bind r.drawAll

/-- Drawing the frames of these shots, each over the one before. -/
def Renderer.composeAll (r : Renderer abi) (shots : List (Shot abi)) : Option (Renderer abi) :=
  shots.foldlM Renderer.compose r

theorem Renderer.composeAll_snoc {r middle : Renderer abi} {shots : List (Shot abi)}
    {shot : Shot abi} (drawn : r.composeAll shots = some middle) :
    r.composeAll (shots ++ [shot]) = middle.compose shot := by
  unfold composeAll at drawn ⊢
  rw [List.foldlM_append, drawn]
  exact Option.bind_fun_some (middle.compose shot)

theorem Shot.Composed.compose {t : Turn abi} {shot : Shot abi} {renderer : Renderer abi}
    (composed : shot.Composed options started loop t renderer) :
    loop.renderer.compose shot = some renderer := by
  rw [Renderer.compose, composed.screen, composed.status, composed.input]
  exact composed.drawn

/-- The loop's variables as functions of the turns that went on, and of their frames. -/
structure Counted (options : Options abi) (first : Loop abi) (turns : List (Turn abi))
    (shots : List (Shot abi)) (loop : Loop abi) : Prop where
  device : loop.input.fd ≠ none
  input : loop.input = inputAfter first.input turns
  screen : loop.screen = (turns.countP fun t => t.request = .next) % SCREEN_COUNT
  visited : loop.screensVisited = Int32.ofNat (1 + turns.countP fun t => t.request = .next)
  status : loop.status = lastStatus first.status turns
  frames : loop.session.owner.framesWritten = Int32.ofNat turns.length
  painted : first.renderer.composeAll shots = some loop.renderer
  limit : options.framesMax ≠ 0 → turns.length < 2 ^ 31 →
    turns.length ≤ options.framesMax.toNat
  undisturbed : ∀ t ∈ turns, t.request ≠ .exit ∧ t.stopped = false

theorem lastStatus_snoc (first : DashboardStatus) (turns : List (Turn abi)) (t : Turn abi) :
    lastStatus first (turns ++ [t]) =
      if t.request = .next then t.status else lastStatus first turns := by
  by_cases next : t.request = .next
  · simp [lastStatus, next]
  · simp [lastStatus, next]

theorem Counted.start (options : Options abi) {first : Loop abi} (device : first.input.fd ≠ none)
    (screen : first.screen = 0) (visited : first.screensVisited = 1)
    (frames : first.session.owner.framesWritten = 0) : Counted options first [] [] first where
  device := device
  input := rfl
  screen := screen
  visited := visited
  status := rfl
  frames := frames
  painted := rfl
  limit _ _ := Nat.zero_le _
  undisturbed := by simp

/-- Below 2^31 the frame count is what it says. -/
theorem frames_eq {turns : Nat} {written : Int32} (count : written = Int32.ofNat turns)
    (small : turns < 2 ^ 31) :
    (BitVec.ofInt abi.sizeBits written.toInt) = BitVec.ofNat abi.sizeBits turns := by
  rw [count, Int32.toInt_ofNat_of_lt small, BitVec.ofInt_natCast]

theorem Counted.limited {turns : List (Turn abi)} {shots : List (Shot abi)} {t : Turn abi}
    {shot : Shot abi} {renderer : Renderer abi} (h : Counted options first turns shots loop)
    (composed : shot.Composed options started loop t renderer) (limited : options.framesMax ≠ 0)
    (small : turns.length < 2 ^ 31) : turns.length < options.framesMax.toNat := by
  have wanted := composed.wanted limited
  have fits := abi.toNat_ofNat (n := turns.length) (small.trans (by decide))
  rw [composed.frames, frames_eq h.frames small, BitVec.lt_def, fits] at wanted
  exact wanted

/-- A pass that goes on adds its turn. -/
theorem Counted.pass {turns : List (Turn abi)} {shots : List (Shot abi)} {t : Turn abi}
    {shot : Shot abi} {renderer : Renderer abi} (h : Counted options first turns shots loop)
    (goes : shot.Goes options started loop t renderer) :
    Counted options first (turns ++ [t]) (shots ++ [shot]) (loop.after t shot renderer) := by
  have action : shot.action = t.request :=
    goes.asked.trans (loop.input.poll_action h.device t.poll)
  constructor
  case device =>
    rw [loop.after_input, (loop.input.poll_device t.poll).1]
    exact h.device
  case input =>
    rw [loop.after_input, h.input, inputAfter, inputAfter, List.foldl_append]
    rfl
  case frames =>
    have written := goes.written
    rw [loop.after_session]
    rw [goes.entry] at written ⊢
    obtain ⟨-, -, counted, -⟩ := Session.writeFrame_written written
    rw [List.length_append, List.length_singleton, Int32.ofNat_add, ← h.frames]
    exact congrArg (fun session => session.owner.framesWritten) counted
  case painted =>
    rw [loop.after_renderer, Renderer.composeAll_snoc h.painted]
    exact goes.compose
  case limit =>
    intro limited small
    rw [List.length_append, List.length_singleton] at small ⊢
    exact h.limited goes.toComposed limited (by omega)
  case undisturbed =>
    intro u mem
    obtain mem | mem := List.mem_append.mp mem
    · exact h.undisturbed u mem
    · rw [List.mem_singleton.mp mem]
      exact ⟨action ▸ goes.stays, goes.unstopped⟩
  case screen =>
    unfold Loop.after
    by_cases next : t.request = .next
    · simp [action, h.screen, List.countP_append, next]
    · simp [action, h.screen, List.countP_append, next]
  case visited =>
    unfold Loop.after
    by_cases next : t.request = .next
    · simp [action, h.visited, List.countP_append, next, ← Nat.add_assoc, Int32.ofNat_add]
    · simp [action, h.visited, List.countP_append, next]
  case status =>
    unfold Loop.after
    rw [lastStatus_snoc]
    by_cases next : t.request = .next
    · simp [action, next]
    · simp [action, next, h.status]

theorem Reaches.counted {turns : List (Turn abi)} {shots : List (Shot abi)}
    (h : Reaches options started first turns shots loop)
    (start : Counted options first [] [] first) : Counted options first turns shots loop := by
  induction h with
  | start => exact start
  | pass t shot renderer earlier goes ih => exact ih.pass goes

theorem duration_toNat (abi : Abi) {value : Int}
    (inside : ¬(value ≤ 0 ∨ MAX_DURATION_MS < value)) :
    0 < (BitVec.ofInt abi.sizeBits value).toNat ∧
      (BitVec.ofInt abi.sizeBits value).toNat ≤ MAX_DURATION_MS := by
  have most : MAX_DURATION_MS = 600000 := rfl
  obtain ⟨n, rfl⟩ : ∃ n : Nat, value = n := ⟨value.toNat, by omega⟩
  rw [BitVec.ofInt_natCast, abi.toNat_ofNat (by have : UInt32.size = 4294967296 := rfl; omega)]
  omega

theorem parseOther_refuses (arg : List UInt8) (parsed : Options abi) :
    parseOther arg ≠ .options parsed := by
  unfold parseOther
  split <;> simp

/-- By induction on the arguments: a duration is taken over only within its bounds. -/
theorem parseArgs_bounded {options parsed : Options abi} {args : List (List UInt8)}
    (h : parseArgs options args = .options parsed)
    (bounded : 0 < options.durationMs.toNat ∧ options.durationMs.toNat ≤ MAX_DURATION_MS) :
    0 < parsed.durationMs.toNat ∧ parsed.durationMs.toNat ≤ MAX_DURATION_MS := by
  fun_induction parseArgs options args with
  | case1 =>
    cases h
    exact bounded
  | case2 _ _ ih | case3 _ _ _ ih | case5 _ _ _ _ _ ih | case6 _ _ _ _ _ _ ih
  | case12 _ _ _ _ _ _ _ _ _ _ _ ih => exact ih h bounded
  | case4 | case13 => exact absurd h (parseOther_refuses _ _)
  | case7 | case8 | case10 | case11 => cases h
  | case9 _ _ _ _ _ inside _ _ _ _ ih => exact ih h (duration_toNat abi inside)

/-- What a composed frame owes to the turns and the frames before it. -/
structure Shot.Shows (io : DashboardIo abi) (options : Options abi) (input : DashboardInput abi)
    (blank : Renderer abi) (earlier : List (Shot abi)) (turns : List (Turn abi)) (t : Turn abi)
    (shot : Shot abi) : Prop where
  screen : shot.screen = (turns.countP fun t => t.request = .next) % SCREEN_COUNT
  status : shot.status = lastStatus io.status turns
  input : shot.input = inputAfter input turns
  frames : turns.length < 2 ^ 31 → shot.frames = BitVec.ofNat _ turns.length
  runtime : shot.runtime = t.now - io.started
  /-- The owner is handed the shadow on which the screen has been drawn. -/
  handed : ∃ renderer, blank.composeAll (earlier ++ [shot]) = some renderer ∧
    shot.entry.call = .writeFrame renderer.shadow renderer.frameBytes t.frame
  inTime : options.forever = false → shot.runtime.toNat < options.durationMs.toNat
  limit : options.framesMax ≠ 0 → turns.length < 2 ^ 31 →
    turns.length < options.framesMax.toNat
  unstopped : ∀ u ∈ turns ++ [t], u.stopped = false
  stays : ∀ u ∈ turns, u.request ≠ .exit

theorem FbOwner.probe_frames (owner : FbOwner abi) (io : ProbeIo) (bindFile : Option Bool) :
    (owner.probe io bindFile).1.framesWritten = owner.framesWritten := by
  simp only [FbOwner.probe]
  split
  · rfl
  split
  · rfl
  split
  · rfl
  split
  · rfl
  split
  · rfl
  split
  · rfl
  split <;> rfl

theorem Session.acquire_frames (session : Session abi) (io : BindIo) :
    (session.acquire io).session.owner.framesWritten = session.owner.framesWritten := by
  rcases session.acquire_cases io with ⟨-, -, _, e⟩ | ⟨-, -, e⟩ | ⟨-, -, e⟩ <;> rw [e]
  rfl

theorem Begun.counted {io : DashboardIo abi} {args : List (List UInt8)}
    {probe acquire : Entry abi} (begun : Begun io bind0 args options probe acquire loop) :
    Counted options loop [] [] loop := by
  refine .start options begun.found.1 begun.screen begun.screensVisited ?_
  rw [begun.session, begun.acquire_eq, begun.probe_eq]
  exact (Session.acquire_frames _ _).trans (FbOwner.probe_frames (.init abi) io.probe bind0)

/-- **Each frame is the one its turn calls for.** The k-th frame of a run is drawn from the
screen, the facts and the counts that its first k turns lead to, and handed over; none is
composed after a stop, an exit key, the deadline or the frame limit. -/
theorem dashboard_shows (io : DashboardIo abi) (bind0 : Option Bool) (args : List (List UInt8))
    (earlier later : List (Shot abi)) (shot : Shot abi)
    (split : (main io bind0 args).shots = earlier ++ shot :: later) :
    ∃ options input blank turns t rest, parseArgs (.default abi) args = .options options ∧
      options.durationMs.toNat ≤ MAX_DURATION_MS ∧
      DashboardInput.inputOpen io.files options.root
        (printed 256 (options.root ++ chars "/dev/input")) options.wantedPhys = some input ∧
      Renderer.init io.malloc ((FbOwner.init abi).probe io.probe bind0).1.width
        ((FbOwner.init abi).probe io.probe bind0).1.height
        ((FbOwner.init abi).probe io.probe bind0).1.bpp
        ((FbOwner.init abi).probe io.probe bind0).1.stride = (blank, 0) ∧
      io.turns = turns ++ t :: rest ∧ turns.length = earlier.length ∧
      shot.Shows io options input blank earlier turns t := by
  rcases main_cases io bind0 args with ⟨entries, session, code', e, -⟩ |
    ⟨-, -, none⟩ | ⟨options, probe, acquire, loop, begun, e⟩
  · rw [e] at split
    simp [refuse] at split
  · rw [none] at split
    simp at split
  rw [e, Begun.run, finish_shots] at split
  obtain ⟨turns, t, rest, before, renderer, same, led, composed⟩ := runLoop_composed split
  have counted := led.counted begun.counted
  have normal : 0 < (Options.default abi).durationMs.toNat ∧
      (Options.default abi).durationMs.toNat ≤ MAX_DURATION_MS :=
    duration_toNat abi (by decide : ¬((DEFAULT_DURATION_MS : Int) ≤ 0 ∨
      (MAX_DURATION_MS : Int) < DEFAULT_DURATION_MS))
  have bounds := parseArgs_bounded begun.parsed normal
  have made := begun.made
  rw [begun.probe_eq] at made
  refine ⟨options, loop.input, loop.renderer, turns, t, rest, begun.parsed, bounds.2,
    begun.device, made, same, led.length_eq, ?_⟩
  constructor
  case screen => exact composed.screen.trans counted.screen
  case status => rw [composed.status, counted.status, begun.status]
  case input => exact composed.input.trans counted.input
  case frames =>
    intro small
    exact composed.frames.trans (frames_eq counted.frames small)
  case runtime => exact composed.runtime
  case handed =>
    refine ⟨renderer, ?_, congrArg Entry.call composed.entry⟩
    rw [Renderer.composeAll_snoc counted.painted]
    exact composed.compose
  case inTime =>
    intro bounded
    exact composed.inTime bounded
  case limit => exact fun limited small => counted.limited composed limited small
  case unstopped =>
    intro u mem
    obtain mem | mem := List.mem_append.mp mem
    · exact (counted.undisturbed u mem).2
    · rw [List.mem_singleton.mp mem]
      exact composed.unstopped
  case stays =>
    intro u mem
    exact (counted.undisturbed u mem).1

/-- Two turns of that machine: two frames. -/
theorem padded_shots : ∃ first second,
    (main (padded [spacePressed 150, spacePressed 300]) (some true) []).shots =
      [first, second] := by
  obtain ⟨first, renderer, goes, pass⟩ := padded_goes padded_blank.2 (by decide) 150
    (by decide)
  have device : (paddedLoop.after (spacePressed 150) first renderer).input.fd ≠ none := by
    rw [Loop.after_input, (paddedLoop.input.poll_device _).1]
    decide
  obtain ⟨second, renderer', -, pass'⟩ := padded_goes (padded_blank.2.pass goes)
    device 300 (by decide)
  refine ⟨first, second, ?_⟩
  rw [(padded_begun _).main_eq, Begun.run, finish_shots]
  refine (congrArg LoopRun.shots (runLoop_goes pass [spacePressed 300])).trans ?_
  exact congrArg (first :: ·) (congrArg LoopRun.shots (runLoop_goes pass' []))

/-- After SPACE the second frame shows the second screen, drawn over the first frame. -/
theorem second_frame_shows : ∃ (first second : Shot .ilp32) (blank renderer : Renderer .ilp32),
    (main (padded [spacePressed 150, spacePressed 300]) (some true) []).shots =
        [first, second] ∧
      second.screen = 1 ∧ second.frames = 1 ∧ second.runtime = 200 ∧
      second.input.eventsSeen = 1 ∧
      Renderer.init (some fun _ => 0) 1280 720 32 6144 = (blank, 0) ∧
      blank.composeAll [first, second] = some renderer ∧
      second.entry.call =
        .writeFrame renderer.shadow renderer.frameBytes (spacePressed 300).frame := by
  obtain ⟨first, second, shots⟩ := padded_shots
  obtain ⟨options, input, blank, turns, t, rest, parsed, -, device, made, split, count, shows⟩ :=
    dashboard_shows (padded [spacePressed 150, spacePressed 300]) (some true) [] [first] []
      second shots
  obtain ⟨u, rfl⟩ := List.length_eq_one_iff.mp count
  obtain ⟨pressed, later⟩ := List.cons.inj split
  obtain ⟨rfl, -⟩ := List.cons.inj later
  subst pressed
  obtain rfl : .default .ilp32 = options := Parsed.options.inj parsed
  obtain rfl : paddedLoop.input = input := Option.some.inj device
  obtain ⟨renderer, drawn, handed⟩ := shows.handed
  refine ⟨first, second, blank, renderer, shots, shows.screen, ?_, shows.runtime, ?_, made, drawn,
    handed⟩
  · exact shows.frames (by decide)
  · rw [shows.input]
    rfl

end VitaLinux.Toolkit.Dashboard
