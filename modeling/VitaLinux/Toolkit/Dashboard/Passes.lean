import VitaLinux.Toolkit.Dashboard.Blank
import VitaLinux.Toolkit.Dashboard.Main
import VitaLinux.Toolkit.Dashboard.Ownership

/-!
# What one pass of the dashboard does

A pass either leaves the loop as it found it, or composes one frame from the loop's variables
and hands it to the framebuffer owner. It goes on exactly if the frame was written and the
input asked for the next screen or for nothing.
-/

namespace VitaLinux.Toolkit.Dashboard

variable {abi : Abi} {options : Options abi} {started : SizeT abi} {loop : Loop abi}
  {t : Turn abi} {shot : Shot abi}

/-! ## Input -/

theorem DashboardInput.drain_device (input : DashboardInput abi) (action : DashboardAction)
    (reads : List Cart.ReadResult) :
    (input.drain action reads).1.fd = input.fd ∧ (input.drain action reads).1.name = input.name ∧
      (input.drain action reads).1.phys = input.phys ∧
      (input.drain action reads).1.path = input.path := by
  induction reads generalizing input action with
  | nil => exact ⟨rfl, rfl, rfl, rfl⟩
  | cons result reads ih =>
    cases result with
    | got bytes =>
      rw [drain]
      split
      · exact ⟨rfl, rfl, rfl, rfl⟩
      · split
        · exact ⟨rfl, rfl, rfl, rfl⟩
        · exact ih ..
    | interrupted | again | failed => exact ⟨rfl, rfl, rfl, rfl⟩

/-- Polling never changes which device it is. -/
theorem DashboardInput.poll_device (input : DashboardInput abi) (io : PollIo) :
    (input.poll io).1.fd = input.fd ∧ (input.poll io).1.name = input.name ∧
      (input.poll io).1.phys = input.phys ∧ (input.poll io).1.path = input.path := by
  unfold poll
  split
  · exact ⟨rfl, rfl, rfl, rfl⟩
  split
  · exact ⟨rfl, rfl, rfl, rfl⟩
  · exact ⟨rfl, rfl, rfl, rfl⟩
  · exact ⟨rfl, rfl, rfl, rfl⟩
  · split
    · exact ⟨rfl, rfl, rfl, rfl⟩
    · exact drain_device ..

theorem readText_length {content : Option (List UInt8)} {text : List UInt8}
    (read : readText content INPUT_TEXT = some text) : text.length < 256 := by
  cases content with
  | none => cases read
  | some bytes =>
    simp only [readText] at read
    split at read
    · cases read
    obtain rfl := Option.some.inj read
    have kept := (List.rdropWhile_prefix (fun c : UInt8 => decide (c = 10 ∨ c = 13))
      (bytes.take (INPUT_TEXT - 1))).length_le
    have short := (cString_length _).trans (kept.trans (List.length_take_le _ _))
    exact Nat.lt_of_le_of_lt short (by decide)

theorem sset_length (source : List UInt8) : (sset INPUT_TEXT source).length < 256 :=
  Nat.lt_of_le_of_lt (List.length_take_le _ _) (by decide)

/-- A device that is found is open, and its texts fit their buffers. By induction on the
numbers that are left. -/
theorem search_found {files : InputFiles} {sysroot devroot wantedPhys : List UInt8}
    {numbers : List Nat} {input : DashboardInput abi}
    (found : DashboardInput.search files sysroot devroot wantedPhys numbers = some input) :
    input.fd ≠ none ∧ input.Bounded := by
  induction numbers with
  | nil => cases found
  | cons number numbers ih =>
    rw [DashboardInput.search] at found
    split at found
    · exact ih found
    dsimp only at found
    split at found
    · exact ih found
    split at found
    · exact ih found
    obtain rfl := Option.some.inj found
    refine ⟨by simp, ?_, sset_length _, sset_length _⟩
    dsimp only
    split
    · rename_i name
      exact readText_length name
    · exact sset_length _

/-- The whole records among the reads, up to the first that is none. -/
def records (abi : Abi) : List Cart.ReadResult → List Cart.InputEvent
  | .got bytes :: reads =>
    if bytes.length = Cart.inputEventSize abi then
      Cart.InputEvent.ofBytes abi bytes :: records abi reads
    else []
  | _ => []

/-- The last press that means something among the records that a poll finds. -/
def PollIo.request (abi : Abi) (io : PollIo) : DashboardAction :=
  match io.poll with
  | .ready true =>
    (((records abi io.reads).map InputEvent.action).filter (· ≠ .none)).getLast?.getD .none
  | _ => .none

/-- By induction on the reads; what was asked for so far is the default. -/
theorem DashboardInput.drain_action (input : DashboardInput abi) (action : DashboardAction)
    (reads : List Cart.ReadResult) :
    (input.drain action reads).2 =
      (((records abi reads).map InputEvent.action).filter (· ≠ .none)).getLast?.getD action := by
  induction reads generalizing input action with
  | nil => rfl
  | cons result reads ih =>
    cases result with
    | interrupted | again | failed => rfl
    | got bytes =>
      rw [drain, records]
      by_cases empty : bytes = []
      · have short : bytes.length ≠ Cart.inputEventSize abi := by
          rw [empty]
          cases abi <;> decide
        rw [if_pos empty, if_neg short]
        rfl
      by_cases whole : bytes.length = Cart.inputEventSize abi
      · rw [if_neg empty, if_neg (not_not.mpr whole), if_pos whole, ih]
        by_cases none : InputEvent.action (Cart.InputEvent.ofBytes abi bytes) = .none
        · simp [none]
        · simp [none, List.getLast?_cons]
      · rw [if_neg empty, if_pos whole, if_neg whole]
        rfl

/-- An open device answers with the last press. -/
theorem DashboardInput.poll_action (input : DashboardInput abi) (opened : input.fd ≠ none)
    (io : PollIo) : (input.poll io).2.2 = io.request abi := by
  unfold poll PollIo.request
  rw [if_neg opened]
  cases io.poll with
  | interrupted | failed | timeout => rfl
  | ready readable =>
    cases readable with
    | false => rfl
    | true => exact input.drain_action .none io.reads

/-! ## One pass -/

/-- What a composed frame was composed from, and what let it be composed. -/
structure Shot.Composed (options : Options abi) (started : SizeT abi) (loop : Loop abi)
    (t : Turn abi) (shot : Shot abi) (renderer : Renderer abi) : Prop where
  screen : shot.screen = loop.screen
  status : shot.status = loop.status
  input : shot.input = loop.input
  runtime : shot.runtime = t.now - started
  frames : shot.frames = BitVec.ofInt _ loop.session.owner.framesWritten.toInt
  drawn : (drawScreen loop.renderer loop.screen loop.status loop.input shot.runtime
    shot.frames).bind loop.renderer.drawAll = some renderer
  entry : shot.entry = ⟨loop.session, .writeFrame renderer.shadow renderer.frameBytes t.frame⟩
  unstopped : t.stopped = false
  inTime : options.forever = false → shot.runtime < options.durationMs
  wanted : options.framesMax ≠ 0 → shot.frames < options.framesMax

/-- Besides, the frame was written, and the input did not end the loop. -/
structure Shot.Goes (options : Options abi) (started : SizeT abi) (loop : Loop abi)
    (t : Turn abi) (shot : Shot abi) (renderer : Renderer abi) : Prop
    extends shot.Composed options started loop t renderer where
  written : shot.entry.outcome.status = some 0
  asked : shot.action = (loop.input.poll t.poll).2.2
  polled : (loop.input.poll t.poll).2.1 = 0
  stays : shot.action ≠ .exit

/-- The loop after a pass that goes on. -/
def Loop.after (loop : Loop abi) (t : Turn abi) (shot : Shot abi) (renderer : Renderer abi) :
    Loop abi :=
  let loop := { loop with
    renderer, session := shot.entry.outcome.session, input := (loop.input.poll t.poll).1 }
  if shot.action = .next then
    { loop with
      screen := (loop.screen + 1) % SCREEN_COUNT, screensVisited := loop.screensVisited + 1
      status := t.status }
  else loop

@[simp] theorem Loop.after_session (loop : Loop abi) (t : Turn abi) (shot : Shot abi)
    (renderer : Renderer abi) : (loop.after t shot renderer).session = shot.entry.outcome.session := by
  unfold after
  split <;> rfl

@[simp] theorem Loop.after_renderer (loop : Loop abi) (t : Turn abi) (shot : Shot abi)
    (renderer : Renderer abi) : (loop.after t shot renderer).renderer = renderer := by
  unfold after
  split <;> rfl

@[simp] theorem Loop.after_input (loop : Loop abi) (t : Turn abi) (shot : Shot abi)
    (renderer : Renderer abi) : (loop.after t shot renderer).input = (loop.input.poll t.poll).1 := by
  unfold after
  split <;> rfl

/-- The ways a pass can go. -/
inductive Passed (options : Options abi) (started : SizeT abi) (loop : Loop abi) (t : Turn abi) :
    TurnResult abi → Prop where
  | left (text : String)
      (why : (text = "signal" ∧ t.stopped = true) ∨
        (text = "duration_reached" ∧ options.forever = false ∧
          options.durationMs ≤ t.now - started) ∨
        (text = "frames_reached" ∧ options.framesMax ≠ 0 ∧
          options.framesMax ≤ BitVec.ofInt _ loop.session.owner.framesWritten.toInt)) :
      Passed options started loop t { loop, shot := none, ends := .breaks text 0 }
  | undefined
      (nothing : (drawScreen loop.renderer loop.screen loop.status loop.input (t.now - started)
        (BitVec.ofInt _ loop.session.owner.framesWritten.toInt)).bind loop.renderer.drawAll = none) :
      Passed options started loop t { loop, shot := none, ends := .undefined }
  | writing (shot : Shot abi) (renderer : Renderer abi)
      (composed : shot.Composed options started loop t renderer)
      (status : shot.entry.outcome.status = none) :
      Passed options started loop t
        { loop := { loop with renderer, session := shot.entry.outcome.session }
          shot := some shot, ends := .writing }
  | unwritten (shot : Shot abi) (renderer : Renderer abi)
      (composed : shot.Composed options started loop t renderer)
      (failed : shot.entry.outcome.status ≠ some 0) (quiet : shot.action = .none) :
      Passed options started loop t
        { loop := { loop with renderer, session := shot.entry.outcome.session }
          shot := some shot, ends := .breaks "frame_write_failed" 7 }
  | stops (shot : Shot abi) (renderer : Renderer abi) (text : String) (rc : Int)
      (composed : shot.Composed options started loop t renderer)
      (status : shot.entry.outcome.status = some 0)
      (asked : shot.action = (loop.input.poll t.poll).2.2)
      (ending : (text = "input_error" ∧ rc = 8 ∧ (loop.input.poll t.poll).2.1 ≠ 0) ∨
        (text = "user_exit" ∧ rc = 0 ∧ shot.action = .exit)) :
      Passed options started loop t
        { loop := { loop with
            renderer, session := shot.entry.outcome.session, input := (loop.input.poll t.poll).1 }
          shot := some shot, ends := .breaks text rc }
  | goesOn (shot : Shot abi) (renderer : Renderer abi)
      (goes : shot.Goes options started loop t renderer) :
      Passed options started loop t
        { loop := loop.after t shot renderer, shot := some shot, ends := .goesOn }

theorem turn_passed (options : Options abi) (started : SizeT abi) (loop : Loop abi)
    (t : Turn abi) : Passed options started loop t (turn options started loop t) := by
  unfold turn
  dsimp only
  split
  · rename_i stopped
    exact .left "signal" (.inl ⟨rfl, stopped⟩)
  rename_i unstopped
  split
  · rename_i late
    exact .left "duration_reached" (.inr (.inl ⟨rfl, by simpa using late.1, late.2⟩))
  rename_i inTime
  split
  · rename_i reached
    exact .left "frames_reached" (.inr (.inr ⟨rfl, reached⟩))
  rename_i wanted
  split
  · rename_i nothing
    exact .undefined nothing
  rename_i renderer drawn
  have composed (action : DashboardAction) :
      Shot.Composed options started loop t
        { screen := loop.screen, status := loop.status, input := loop.input
          runtime := t.now - started
          frames := BitVec.ofInt _ loop.session.owner.framesWritten.toInt
          entry := ⟨loop.session, .writeFrame renderer.shadow renderer.frameBytes t.frame⟩
          action } renderer :=
    { screen := rfl, status := rfl, input := rfl, runtime := rfl, frames := rfl, drawn
      entry := rfl
      unstopped := Bool.eq_false_iff.mpr unstopped
      inTime := fun bounded => BitVec.not_le.mp fun late => inTime ⟨by simp [bounded], late⟩
      wanted := fun limited => BitVec.not_le.mp fun reached => wanted ⟨limited, reached⟩ }
  split
  · rename_i status
    exact .writing _ renderer (composed .none) status
  rename_i written status
  split
  · rename_i failed
    exact .unwritten _ renderer (composed .none)
      (fun zero => failed (Option.some.inj (status.symm.trans zero))) rfl
  rename_i zero
  obtain rfl : written = 0 := not_not.mp zero
  unfold react
  dsimp only
  split
  · rename_i failed
    exact .stops _ renderer _ _ (composed _) status rfl (.inl ⟨rfl, rfl, failed⟩)
  rename_i polled
  have polled := not_not.mp polled
  split
  · rename_i asked
    exact .stops _ renderer _ _ (composed .exit) status asked.symm (.inr ⟨rfl, rfl, rfl⟩)
  · rename_i asked
    exact .goesOn _ renderer ⟨composed .next, status, asked.symm, polled, by simp⟩
  · rename_i asked
    exact .goesOn _ renderer ⟨composed .none, status, asked.symm, polled, by simp⟩

/-! ## A pass that can draw -/

/-- What the passes that went on keep: the owner is live and of the shadow's size, and the
shadow was drawn from a blank one. -/
structure Drawing (blank : Renderer abi) (loop : Loop abi) : Prop where
  drawn : ∃ calls, blank.drawAll calls = some loop.renderer
  owned : loop.session.owner.state = .owned
  size : loop.session.owner.frameBytes = blank.frameBytes
  bounded : loop.input.Bounded

theorem Drawing.pass {blank : Renderer abi} {t : Turn abi} {shot : Shot abi}
    {renderer : Renderer abi} (h : Drawing blank loop)
    (goes : shot.Goes options started loop t renderer) :
    Drawing blank (loop.after t shot renderer) := by
  obtain ⟨calls, drawn⟩ := h.drawn
  obtain ⟨later, -, painted⟩ := Option.bind_eq_some_iff.mp goes.drawn
  have written := goes.written
  rw [goes.entry] at written
  obtain ⟨-, -, session, -⟩ := Session.writeFrame_written written
  obtain ⟨-, name, phys, path⟩ := loop.input.poll_device t.poll
  constructor
  · rw [loop.after_renderer]
    exact ⟨calls ++ later, (Renderer.drawAll_append drawn).trans painted⟩
  · rw [loop.after_session, goes.entry]
    exact (congrArg (fun s => s.owner.state) session).trans h.owned
  · rw [loop.after_session, goes.entry]
    exact (congrArg (fun s => s.owner.frameBytes) session).trans h.size
  · rw [loop.after_input]
    exact ⟨name ▸ h.bounded.name, phys ▸ h.bounded.phys, path ▸ h.bounded.path⟩

/-- Every pass can compose its frame. -/
theorem Drawing.defined {blank : Renderer abi} (h : Drawing blank loop) (empty : Blank blank)
    (runtimeMs frames : SizeT abi) :
    (drawScreen loop.renderer loop.screen loop.status loop.input runtimeMs frames).bind
      loop.renderer.drawAll ≠ none := by
  obtain ⟨earlier, drawn⟩ := h.drawn
  exact empty.drawable drawn h.bounded loop.screen loop.status runtimeMs frames

/-- A frame is delivered where write(2) brings it out. -/
theorem Drawing.written {blank renderer : Renderer abi} (h : Drawing blank loop)
    (empty : Blank blank) (composed : shot.Composed options started loop t renderer)
    (opens : t.frame.opens = true) (seeks : t.frame.seeks = true)
    (delivers : Delivers blank.frameBytes.toNat t.frame.writes) :
    shot.entry.outcome.status = some 0 := by
  obtain ⟨earlier, drawn⟩ := h.drawn
  obtain ⟨calls, -, painted⟩ := Option.bind_eq_some_iff.mp composed.drawn
  obtain ⟨⟨picture, shadow⟩, size⟩ := empty.holds ((Renderer.drawAll_append drawn).trans painted)
  have accepted : ¬loop.session.Refuses (some picture) blank.frameBytes := by
    rintro (state | null | length)
    · exact state h.owned
    · cases null
    · exact length h.size.symm
  rw [composed.entry, shadow, size]
  refine (Session.writeFrame_delivers accepted opens seeks).2.mpr ?_
  exact (writeLoop_complete_iff picture _ _ 0 (Nat.zero_le _)).mpr delivers

/-- A pass that nothing stops goes on: its frame is drawn, taken and delivered. -/
theorem Drawing.goes {blank : Renderer abi} (h : Drawing blank loop) (empty : Blank blank)
    (unstopped : t.stopped = false)
    (inTime : options.forever = true ∨ t.now - started < options.durationMs)
    (unlimited : options.framesMax = 0) (opens : t.frame.opens = true)
    (seeks : t.frame.seeks = true) (delivers : Delivers blank.frameBytes.toNat t.frame.writes)
    (polled : (loop.input.poll t.poll).2.1 = 0) (stays : (loop.input.poll t.poll).2.2 ≠ .exit) :
    ∃ shot renderer, shot.Goes options started loop t renderer ∧
      turn options started loop t =
        { loop := loop.after t shot renderer, shot := some shot, ends := .goesOn } := by
  have written {shot : Shot abi} {renderer : Renderer abi}
      (composed : shot.Composed options started loop t renderer) :
      shot.entry.outcome.status = some 0 :=
    h.written empty composed opens seeks delivers
  have passed := turn_passed options started loop t
  generalize turn options started loop t = result at passed ⊢
  cases passed with
  | goesOn shot renderer goes => exact ⟨shot, renderer, goes, rfl⟩
  | undefined nothing => exact absurd nothing (h.defined empty _ _)
  | writing shot renderer composed status =>
    rw [written composed] at status
    cases status
  | unwritten shot renderer composed failed => exact absurd (written composed) failed
  | stops shot renderer text rc composed status asked ending =>
    obtain ⟨-, -, failed⟩ | ⟨-, -, exits⟩ := ending
    · exact absurd polled failed
    · exact absurd (asked.symm.trans exits) stays
  | left text why =>
    obtain ⟨-, stopped⟩ | ⟨-, bounded, late⟩ | ⟨-, limited, -⟩ := why
    · rw [unstopped] at stopped
      cases stopped
    · rcases inTime with forever | soon
      · rw [bounded] at forever
        cases forever
      · exact absurd soon (BitVec.not_lt.mpr late)
    · exact absurd unlimited limited

end VitaLinux.Toolkit.Dashboard
