import VitaLinux.Cart.MainLoop
import VitaLinux.Cart.RateLimit

/-!
# Scene changes are never hard cuts

The loop couples the runtime's selection, the transition and the displayed
scene. Between two turns they always stand for one state of a crossfading
display (`Shows`); a turn is one step of it, so the frames of a run are smooth.
-/

namespace VitaLinux.Cart

open VitaLinux.Base Scene2dLegacy

variable {abi : Abi}

/-- The picture of a scene, rendered inline on a clear buffer. -/
def sceneShot (sins : SineTable) (scene : SizeT abi) (frame : U64) : Picture :=
  picture (renderSceneInto sins abi ⟨0, Nat.zero_le _⟩ (.inOrder 0) (fun _ => 0)
    (intOfSize scene) frame)

/-- The display the loop drives: scenes, frame numbers and 15-step blends. -/
def cartFade (abi : Abi) (sins : SineTable) : Crossfade (SizeT abi) U64 Picture :=
  { image := sceneShot sins
    blend := fun source target step => blendPicture source target (BitVec.ofNat 64 step)
    length := CART_TRANSITION_FRAMES.toNat }

/-- What holds of the runtime and the displayed scene between two turns. -/
structure LoopState.Sane (state : LoopState abi) : Prop where
  sound : state.runtime.Sound
  scenes : state.runtime.sceneCount = cartSceneCount abi
  displayed : state.displayedScene < cartSceneCount abi

/-- The loop state stands for this state of the display. -/
def LoopState.Shows (sins : SineTable) (state : LoopState abi) : Display (SizeT abi) U64 → Prop
  | .steady scene => state.transition.active = false ∧ state.displayedScene = scene
  | .fading source target frame step =>
    state.transition.active = true ∧ state.transition.toScene = target ∧
      target < cartSceneCount abi ∧
      state.transition.elapsedFrames = BitVec.ofNat 64 step ∧ step < 15 ∧
      picture state.lowFrom = sceneShot sins source frame ∧
      picture state.lowTo = sceneShot sins target frame

theorem intOfSize_scene {scene : SizeT abi} (h : scene < cartSceneCount abi) :
    ∃ which : Fin 6, intOfSize scene = (which : Nat) := by
  have small : scene.toNat < 6 := by
    have count : (cartSceneCount abi).toNat = 6 := abi.toNat_ofNat (by decide)
    rw [← count]
    exact h
  refine ⟨⟨scene.toNat, small⟩, ?_⟩
  have low : (scene.setWidth 32).toNat = scene.toNat := by
    rw [BitVec.toNat_setWidth]
    exact Nat.mod_eq_of_lt (by omega)
  rw [intOfSize, BitVec.toInt_eq_toNat_of_lt (by omega), low]

/-- Rendering a built-in scene leaves its picture, for every pool and earlier content. -/
theorem picture_renderFrame (sins : SineTable) {scene : SizeT abi}
    (h : scene < cartSceneCount abi) (pool : RenderPool) (order : BandOrder pool.workerCount)
    (before : Pixels) (frame : U64) :
    picture (renderFrame sins pool order (intOfSize scene) frame (lowCanvas abi before)).pixels =
      sceneShot sins scene frame := by
  obtain ⟨which, same⟩ := intOfSize_scene h
  simp only [sceneShot, renderSceneInto, same]
  rw [renderFrame_picture, renderFrame_picture]

/-- The signal flag is at most a request to the runtime. -/
theorem handleSignal_eq {state : LoopState abi} (sound : state.runtime.Sound) (nowNs : U64)
    (i : Iteration) : ∃ runtime, state.handleSignal nowNs i = { state with runtime } ∧
      CartRuntime.Outcome nowNs state.runtime runtime := by
  unfold LoopState.handleSignal
  split
  · exact ⟨_, rfl, CartRuntime.requestNext_outcome sound nowNs _⟩
  · exact ⟨_, rfl, .refl _, sound, .inl (.refl _)⟩

/-- The polled action is at most a request to the runtime, or ends the loop. -/
theorem handlePoll_eq (state : LoopState abi) (sound : state.runtime.Sound) (nowNs : U64)
    (i : Iteration) : ∃ runtime running,
      state.handlePoll nowNs i = { state with runtime, running } ∧
        CartRuntime.Outcome nowNs state.runtime runtime := by
  unfold LoopState.handlePoll
  split
  · exact ⟨_, _, rfl, .refl _, sound, .inl (.refl _)⟩
  · exact ⟨_, _, rfl, CartRuntime.requestNext_outcome sound nowNs _⟩
  · exact ⟨_, _, rfl, CartRuntime.requestPrevious_outcome sound nowNs _⟩
  · exact ⟨_, _, rfl, .refl _, sound, .inl (.refl _)⟩

theorem handle_sane {state : LoopState abi} (sane : state.Sane) (nowNs : U64) (i : Iteration) :
    ((state.handleSignal nowNs i).handlePoll nowNs i).Sane := by
  obtain ⟨runtime, signalled, setup, sound, _⟩ := handleSignal_eq sane.sound nowNs i
  rw [signalled]
  obtain ⟨runtime', running, polled, setup', sound', _⟩ :=
    handlePoll_eq { state with runtime } sound nowNs i
  rw [polled]
  exact ⟨sound', (setup.trans setup').sceneCount.trans sane.scenes, sane.displayed⟩

/-- A request does not touch the fade in flight. -/
theorem handle_shows {sins : SineTable} {state : LoopState abi} {display : Display (SizeT abi) U64}
    (sound : state.runtime.Sound) (shows : state.Shows sins display) (nowNs : U64)
    (i : Iteration) : ((state.handleSignal nowNs i).handlePoll nowNs i).Shows sins display := by
  obtain ⟨runtime, signalled, _, sound', _⟩ := handleSignal_eq sound nowNs i
  rw [signalled]
  obtain ⟨runtime', running, polled, _⟩ :=
    handlePoll_eq { state with runtime } sound' nowNs i
  rw [polled]
  cases display <;> exact shows

/-- The last step of a fade hands over to the target; the others stay in the fade. -/
theorem advance_shows {sins : SineTable} {state : LoopState abi}
    {source target : SizeT abi} {frame : U64} {step : Nat} (i : Iteration)
    (shows : state.Shows sins (.fading source target frame step)) :
    (state.drawFrame sins i).Shows sins ((cartFade abi sins).after source target frame (step + 1)) ∧
      picture (state.drawFrame sins i).low =
        (cartFade abi sins).blend (sceneShot sins source frame) (sceneShot sins target frame)
          step ∧
      ((state.drawFrame sins i).displayedScene = state.displayedScene ∨
        (state.drawFrame sins i).displayedScene = target) := by
  obtain ⟨active, towards, known, elapsed, inside, sourceShot, targetShot⟩ := shows
  have length : (cartFade abi sins).length = 15 := rfl
  have next : BitVec.ofNat 64 step + 1 = BitVec.ofNat 64 (step + 1) := by
    rw [BitVec.ofNat_add]
    rfl
  have last : CART_TRANSITION_FRAMES ≤ BitVec.ofNat 64 (step + 1) ↔ 15 ≤ step + 1 := by
    rw [BitVec.le_def, BitVec.toNat_ofNat, Nat.mod_eq_of_lt (by omega)]
    rfl
  have blended : picture (state.drawFrame sins i).low =
      blendPicture (sceneShot sins source frame) (sceneShot sins target frame)
        (BitVec.ofNat 64 step) := by
    simp only [LoopState.drawFrame, active, if_true]
    rw [picture_transitionBlend, sourceShot, targetShot, elapsed]
  refine ⟨?_, blended, ?_⟩
  · rw [Crossfade.after, length]
    by_cases more : step + 1 < 15
    · have goesOn : ¬ 15 ≤ step + 1 := by omega
      simp only [more, if_true, LoopState.Shows, LoopState.drawFrame, active,
        CartTransition.advance, elapsed, next, last, goesOn, Bool.not_true, Bool.false_eq_true,
        if_false]
      exact ⟨trivial, towards, known, trivial, trivial, sourceShot, targetShot⟩
    · have done : 15 ≤ step + 1 := by omega
      simp only [more, if_false, LoopState.Shows, LoopState.drawFrame, active, if_true,
        CartTransition.advance, elapsed, next, last, done, Bool.not_true, Bool.false_eq_true,
        Bool.not_false]
      exact ⟨trivial, towards⟩
  · simp only [LoopState.drawFrame, active, if_true]
    split
    · refine .inr ?_
      rw [← towards]
      simp only [CartTransition.advance, active, Bool.not_true, Bool.false_eq_true, if_false]
      split <;> rfl
    · exact .inl rfl

theorem beginFade_runtime (sins : SineTable) (state : LoopState abi) (i : Iteration) :
    (state.beginFade sins i).runtime = state.runtime ∧
      (state.beginFade sins i).displayedScene = state.displayedScene ∧
      (state.beginFade sins i).running = state.running := by
  simp only [LoopState.beginFade]
  split
  · split <;> exact ⟨rfl, rfl, rfl⟩
  · exact ⟨rfl, rfl, rfl⟩

theorem drawFrame_runtime (sins : SineTable) (state : LoopState abi) (i : Iteration) :
    (state.drawFrame sins i).runtime = state.runtime ∧
      (state.drawFrame sins i).running = state.running := by
  simp only [LoopState.drawFrame]
  split <;> exact ⟨rfl, rfl⟩

/-- A fade that begins samples both endpoints at this turn's frame number. -/
theorem beginFade_shows (sins : SineTable) {state : LoopState abi} (sane : state.Sane)
    (i : Iteration) (idle : state.transition.active = false)
    (other : state.runtime.sceneIndex ≠ state.displayedScene) :
    (state.beginFade sins i).Shows sins
      (.fading state.displayedScene state.runtime.sceneIndex state.runtime.frame 0) := by
  have differ : (state.displayedScene != state.runtime.sceneIndex) = true :=
    bne_iff_ne.mpr other.symm
  have selected : state.runtime.sceneIndex < cartSceneCount abi := by
    rw [← sane.scenes]
    exact sane.sound.selected
  simp only [LoopState.beginFade, other, idle, ne_eq, not_false_eq_true, Bool.not_false,
    and_self, if_true, CartTransition.begin, differ, CartTransition.sourcesNeedRender,
    CartTransition.markSourcesRendered, LoopState.Shows, Bool.and_self, renderSceneInto]
  exact ⟨trivial, trivial, selected, rfl, by decide,
    picture_renderFrame sins sane.displayed _ _ _ _, picture_renderFrame sins selected _ _ _ _⟩

theorem beginFade_idle (sins : SineTable) {state : LoopState abi} (i : Iteration)
    (h : state.transition.active = true ∨ state.runtime.sceneIndex = state.displayedScene) :
    state.beginFade sins i = state := by
  refine if_neg fun begins => ?_
  cases h with
  | inl active => simp [active] at begins
  | inr same => exact begins.1 same

/-- **A turn is one step of the display**, whatever it was asked. -/
theorem draw_step {sins : SineTable} {state : LoopState abi} (sane : state.Sane)
    {display : Display (SizeT abi) U64} (shows : state.Shows sins display) (i : Iteration) :
    ∃ display', (cartFade abi sins).Step display ((state.beginFade sins i).drawFrame sins i).shot
        display' ∧
      ((state.beginFade sins i).drawFrame sins i).Shows sins display' ∧
      ((state.beginFade sins i).drawFrame sins i).Sane := by
  obtain ⟨begun, stays, _⟩ := beginFade_runtime sins state i
  have drawn := (drawFrame_runtime sins (state.beginFade sins i) i).1.trans begun
  have selected : state.runtime.sceneIndex < cartSceneCount abi := by
    rw [← sane.scenes]
    exact sane.sound.selected
  have sound {scene : SizeT abi} (h : scene < cartSceneCount abi)
      (shown : ((state.beginFade sins i).drawFrame sins i).displayedScene = scene) :
      ((state.beginFade sins i).drawFrame sins i).Sane :=
    ⟨by rw [drawn]; exact sane.sound, by rw [drawn]; exact sane.scenes, by rw [shown]; exact h⟩
  cases display with
  | steady scene =>
    obtain ⟨idle, displayed⟩ := shows
    by_cases other : state.runtime.sceneIndex = state.displayedScene
    · have same := beginFade_idle sins i (.inr other)
      rw [same] at drawn sound ⊢
      have render : state.drawFrame sins i =
          { state with
            low := (renderFrame sins renderPool i.frameOrder (intOfSize state.displayedScene)
              state.runtime.frame (lowCanvas abi state.low)).pixels } := by
        rw [LoopState.drawFrame, if_neg (by simp [idle])]
      have shown : (state.drawFrame sins i).displayedScene = state.displayedScene := by
        rw [render]
      have wanted : (state.drawFrame sins i).shot.wanted = scene := by
        rw [← displayed, ← other]
        exact congrArg CartRuntime.sceneIndex drawn
      refine ⟨.steady scene, ?_, ?_, sound sane.displayed shown⟩
      · have seen : (state.drawFrame sins i).shot.picture =
            sceneShot sins (state.drawFrame sins i).shot.wanted
              (state.drawFrame sins i).shot.moment := by
          rw [wanted, ← displayed]
          simp only [render, LoopState.shot]
          exact picture_renderFrame sins sane.displayed _ _ _ _
        have step := Crossfade.Step.steady (F := cartFade abi sins) seen
        rwa [wanted] at step
      · rw [render]
        exact ⟨idle, displayed⟩
    · have fading := beginFade_shows sins sane i idle other
      obtain ⟨shows', seen, shown⟩ := advance_shows i fading
      have wanted : ((state.beginFade sins i).drawFrame sins i).shot.wanted =
          state.runtime.sceneIndex := congrArg CartRuntime.sceneIndex drawn
      have moment : ((state.beginFade sins i).drawFrame sins i).shot.moment =
          state.runtime.frame := congrArg CartRuntime.frame drawn
      refine ⟨(cartFade abi sins).after scene state.runtime.sceneIndex state.runtime.frame 1,
        ?_, ?_, ?_⟩
      · rw [← displayed, ← wanted, ← moment]
        apply Crossfade.Step.start
        · rw [wanted]
          exact other
        · rw [wanted, moment]
          exact seen
      · rw [← displayed]
        exact shows'
      · cases shown with
        | inl kept => exact sound sane.displayed (kept.trans stays)
        | inr target => exact sound selected target
  | fading source target frame step =>
    have same := beginFade_idle sins i (.inl shows.1)
    rw [same] at drawn sound ⊢
    obtain ⟨shows', seen, shown⟩ := advance_shows i shows
    refine ⟨_, .fade seen, shows', ?_⟩
    cases shown with
    | inl kept => exact sound sane.displayed kept
    | inr target => exact sound shows.2.2.1 target

/-- All that a turn can do: end before presentation, end after it, or pass the
second tick as well. -/
theorem turn_cases (sins : SineTable) (state : LoopState abi) (i : Iteration) :
    ((turn sins state i).presented = none ∧ (turn sins state i).goesOn = false) ∨
      ∃ nowNs drawn, i.firstNowNs = some nowNs ∧
        drawn = { state with runtime := (state.runtime.tick nowNs).1 }.present sins nowNs i ∧
        (turn sins state i).presented = some drawn.shot ∧
        ((turn sins state i).state = drawn ∧ (turn sins state i).goesOn = false ∨
          ∃ nowNs', i.secondNowNs = some nowNs' ∧
            (turn sins state i).state =
              { drawn with runtime := (drawn.runtime.tick nowNs').1 }) := by
  unfold turn
  cases i.firstNowNs with
  | none => exact .inl ⟨rfl, rfl⟩
  | some nowNs =>
    by_cases failed : (state.runtime.tick nowNs).2 ≠ 0
    · simp only [if_pos failed]
      exact .inl ⟨trivial, trivial⟩
    · simp only [if_neg failed]
      refine .inr ⟨nowNs, _, rfl, rfl, ?_⟩
      cases i.secondNowNs with
      | none => exact ⟨rfl, .inl ⟨rfl, rfl⟩⟩
      | some nowNs' => exact ⟨rfl, .inr ⟨nowNs', rfl, rfl⟩⟩

/-- A turn that presents a frame is one step of the display; any other ends the run. -/
theorem turn_step {sins : SineTable} {state : LoopState abi} (sane : state.Sane)
    {display : Display (SizeT abi) U64} (shows : state.Shows sins display) (i : Iteration) :
    ((turn sins state i).presented = none ∧ (turn sins state i).goesOn = false) ∨
      ∃ shot display', (turn sins state i).presented = some shot ∧
        shot.wanted < cartSceneCount abi ∧ (cartFade abi sins).Step display shot display' ∧
        (turn sins state i).state.Shows sins display' ∧ (turn sins state i).state.Sane := by
  cases turn_cases sins state i with
  | inl ended => exact .inl ended
  | inr drew =>
    obtain ⟨nowNs, drawn, -, hdrawn, seen, left⟩ := drew
    obtain ⟨setup, sound, _⟩ := CartRuntime.tick_outcome sane.sound nowNs
    generalize hticked : { state with runtime := (state.runtime.tick nowNs).1 } = ticked at hdrawn
    have sane' : ticked.Sane := by
      subst hticked
      exact ⟨sound, setup.sceneCount.trans sane.scenes, sane.displayed⟩
    have shows' : ticked.Shows sins display := by
      subst hticked
      cases display <;> exact shows
    obtain ⟨display', step, shown, sane''⟩ :=
      draw_step (handle_sane sane' nowNs i) (handle_shows sane'.sound shows' nowNs i) i
    rw [← LoopState.present, ← hdrawn] at step shown sane''
    have known : drawn.runtime.sceneIndex < cartSceneCount abi := by
      rw [← sane''.scenes]
      exact sane''.sound.selected
    refine .inr ⟨_, display', seen, known, step, ?_⟩
    cases left with
    | inl stopped =>
      rw [stopped.1]
      exact ⟨shown, sane''⟩
    | inr ticks =>
      obtain ⟨nowNs', -, after⟩ := ticks
      obtain ⟨setup', sound', _⟩ := CartRuntime.tick_outcome sane''.sound nowNs'
      rw [after]
      constructor
      · cases display' <;> exact shown
      · exact ⟨sound', setup'.sceneCount.trans sane''.scenes, sane''.displayed⟩

theorem presented_cons (sins : SineTable) (state : LoopState abi) (i : Iteration)
    (is : List Iteration) :
    presented sins state (i :: is) =
      if !state.running || i.stopped then []
      else
        (turn sins state i).presented.toList ++
          if (turn sins state i).goesOn then presented sins (turn sins state i).state is
          else [] := by
  rw [presented, visits]
  split
  · rfl
  · rw [List.filterMap_cons]
    cases (turn sins state i).presented <;> cases (turn sins state i).goesOn <;> rfl

/-- The frames of a run are a run of the display over built-in scenes. -/
theorem presented_run {sins : SineTable} (is : List Iteration) {state : LoopState abi}
    (sane : state.Sane) {display : Display (SizeT abi) U64} (shows : state.Shows sins display) :
    (cartFade abi sins).Run display (presented sins state is) ∧
      ∀ shot ∈ presented sins state is, shot.wanted < cartSceneCount abi := by
  have stop (display : Display (SizeT abi) U64) :
      (cartFade abi sins).Run display [] ∧
        ∀ shot ∈ ([] : List (Shot (SizeT abi) U64 Picture)), shot.wanted < cartSceneCount abi :=
    ⟨.stop display, fun _ h => absurd h List.not_mem_nil⟩
  induction is generalizing state display with
  | nil => exact stop _
  | cons i is ih =>
    rw [presented_cons]
    split
    · exact stop _
    · cases turn_step sane shows i with
      | inl ended =>
        rw [ended.1, ended.2]
        exact stop _
      | inr drew =>
        obtain ⟨shot, display', seen, known, first, shows', sane'⟩ := drew
        rw [seen, Option.toList_some, List.singleton_append]
        split
        · obtain ⟨run, rest⟩ := ih sane' shows'
          exact ⟨.step first run, List.forall_mem_cons.mpr ⟨known, rest⟩⟩
        · obtain ⟨run, rest⟩ := stop display'
          exact ⟨.step first run, List.forall_mem_cons.mpr ⟨known, rest⟩⟩

theorem start_sane {nowNs : U64} {state : LoopState abi}
    (h : LoopState.start abi nowNs = some state) :
    state.Sane ∧ state.transition.active = false ∧ state.displayedScene = 0 := by
  unfold LoopState.start at h
  split at h
  · cases h
  · rename_i runtime init
    obtain ⟨sound, -, -, -, count, first⟩ := CartRuntime.init_sound init
    obtain rfl := Option.some.inj h
    refine ⟨⟨sound, count, ?_⟩, rfl, first⟩
    rw [← count]
    exact sound.selected

/-- **Scene changes are never hard cuts.** Whatever the clock reads and whatever is
requested, the frames of a run are steady pictures of one scene and complete
15-step fades between two fixed pictures; only the end of the run cuts a fade short. -/
theorem no_hard_cuts (sins : SineTable) {nowNs : U64} {state : LoopState abi}
    (start : LoopState.start abi nowNs = some state) (is : List Iteration) :
    (cartFade abi sins).Smooth 0 (presented sins state is) ∧
      ∀ shot ∈ presented sins state is, shot.wanted < cartSceneCount abi := by
  obtain ⟨sane, idle, first⟩ := start_sane start
  have shows : state.Shows sins (.steady 0) := ⟨idle, first⟩
  obtain ⟨run, known⟩ := presented_run is sane shows
  have steps : 0 < (cartFade abi sins).length := Nat.zero_lt_succ 14
  exact ⟨run.smooth steps, known⟩

/-- A turn with its two clock readings and a polled action. -/
def Iteration.at (firstNowNs secondNowNs : U64) (polled : CartInputAction) : Iteration :=
  { stopped := false, firstNowNs := some firstNowNs, nextSceneRequested := false
    polled := some polled
    fromOrder := .inOrder _, toOrder := .inOrder _, frameOrder := .inOrder _
    secondNowNs := some secondNowNs, slept := true }

/-- The sine table of zeros. -/
def flatSines : SineTable := ⟨fun _ => 0, fun _ => by decide, fun _ => by decide⟩

/-- A steady frame, then a request that begins a fade the end of the run cuts short. -/
theorem no_hard_cuts_request : ∃ state : LoopState .ilp32, LoopState.start .ilp32 0 = some state ∧
    (presented flatSines state
        [.at 33333333 34000000 .none, .at 66666666 67000000 .next]).map Shot.wanted = [0, 1] ∧
    (cartFade .ilp32 flatSines).Smooth 0
      (presented flatSines state
        [.at 33333333 34000000 .none, .at 66666666 67000000 .next]) := by
  have start : LoopState.start .ilp32 0 = some _ := rfl
  exact ⟨_, start, by decide +kernel, (no_hard_cuts flatSines start _).1⟩

end VitaLinux.Cart
