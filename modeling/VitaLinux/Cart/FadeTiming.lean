import VitaLinux.Cart.NoHardCuts
import VitaLinux.Cart.SceneChange

/-!
# Changes during a fade

A comment in the render loop relies on the rate limiter: "the next change
cannot arrive before this one completes". The limiter counts nanoseconds and
the fade counts frames, so this holds exactly as long as no turn of the fade is
late (`InTime`). One long frame is enough to break it.
-/

namespace VitaLinux.Cart

open VitaLinux.Base Scene2dLegacy

variable {abi : Abi}

/-- The values the runtime takes in a turn, one after each call made on it. -/
def runtimes (state : LoopState abi) (i : Iteration) : List (CartRuntime abi) :=
  match i.firstNowNs with
  | none => []
  | some nowNs =>
    let ticked := state.runtime.tick nowNs
    let state := { state with runtime := ticked.1 }
    if ticked.2 ≠ 0 then [state.runtime]
    else
      let signalled := state.handleSignal nowNs i
      let polled := signalled.handlePoll nowNs i
      state.runtime :: signalled.runtime :: polled.runtime ::
        match i.secondNowNs with
        | none => []
        | some nowNs => [(polled.runtime.tick nowNs).1]

/-- The selected scene is the same throughout a turn. -/
def Undisturbed (state : LoopState abi) (i : Iteration) : Prop :=
  ∀ runtime ∈ runtimes state i, runtime.sceneIndex = state.runtime.sceneIndex

/-- SIGUSR1 or a polled action asks for another scene. -/
def Iteration.Asks (i : Iteration) : Prop :=
  i.nextSceneRequested = true ∨ i.polled = some .next ∨ i.polled = some .previous

/-- With the first reading `nowNs`, every reading of the turn at which another scene
is wanted comes before the cooldown is over. -/
structure Punctual (runtime : CartRuntime abi) (i : Iteration) (nowNs : U64) : Prop where
  rotation : runtime.RotationDue (runtime.clampNow nowNs) →
    ¬ runtime.Cooled (runtime.clampNow nowNs)
  request : ¬ runtime.Exhausted (runtime.clampNow nowNs) → i.Asks → ¬ runtime.Cooled nowNs
  second : ¬ runtime.Exhausted (runtime.clampNow nowNs) →
    ∀ nowNs', i.secondNowNs = some nowNs' →
      ¬ (runtime.Holding (runtime.clampNow nowNs) ∧
        runtime.Holding (runtime.clampNow nowNs')) →
      runtime.automatic (runtime.clampNow nowNs') ≠ runtime.sceneIndex →
      ¬ runtime.Cooled (runtime.clampNow nowNs')

def InTime (runtime : CartRuntime abi) (i : Iteration) : Prop :=
  ∀ nowNs, i.firstNowNs = some nowNs → Punctual runtime i nowNs

instance (i : Iteration) : Decidable i.Asks := inferInstanceAs (Decidable (_ ∨ _ ∨ _))

/-- What holds of the runtime between two turns: a fade only follows a recorded change. -/
structure LoopState.Timed (state : LoopState abi) : Prop where
  started : state.runtime.Started
  six : state.runtime.sceneCount = 6
  recorded : state.runtime.hadChange = false →
    state.transition.active = false ∧ state.runtime.sceneIndex = state.displayedScene

theorem LoopState.Timed.move {state : LoopState abi} (h : state.Timed)
    {runtime : CartRuntime abi} {nowNs : U64}
    (outcome : CartRuntime.Outcome nowNs state.runtime runtime) :
    { state with runtime : LoopState abi }.Timed := by
  refine ⟨h.started.step outcome, outcome.1.sceneCount.trans h.six, ?_⟩
  intro quiet
  cases outcome.2.2 with
  | inl kept =>
    obtain ⟨idle, shown⟩ := h.recorded (kept.hadChange ▸ quiet)
    exact ⟨idle, kept.sceneIndex.trans shown⟩
  | inr committed => exact absurd (quiet.symm.trans committed.hadChange) Bool.false_ne_true

theorem LoopState.Timed.draw {state : LoopState abi} (h : state.Timed) (sins : SineTable)
    (i : Iteration) : ((state.beginFade sins i).drawFrame sins i).Timed := by
  have runtime := (drawFrame_runtime sins (state.beginFade sins i) i).1.trans
    (beginFade_runtime sins state i).1
  refine ⟨runtime ▸ h.started, runtime ▸ h.six, ?_⟩
  intro quiet
  rw [runtime] at quiet ⊢
  obtain ⟨idle, shown⟩ := h.recorded quiet
  rw [beginFade_idle sins i (.inr shown), LoopState.drawFrame, if_neg (by simp [idle])]
  exact ⟨idle, shown⟩

theorem handle_timed {state : LoopState abi} (h : state.Timed) (nowNs : U64) (i : Iteration) :
    ((state.handleSignal nowNs i).handlePoll nowNs i).Timed := by
  obtain ⟨runtime, signalled, outcome⟩ := handleSignal_eq h.started.sound nowNs i
  rw [signalled]
  obtain ⟨runtime', running, polled, outcome'⟩ :=
    handlePoll_eq { state with runtime } outcome.2.1 nowNs i
  rw [polled]
  obtain ⟨started, six, recorded⟩ := (h.move outcome).move outcome'
  exact ⟨started, six, recorded⟩

theorem turn_timed {state : LoopState abi} (h : state.Timed) (sins : SineTable) (i : Iteration)
    (goesOn : (turn sins state i).goesOn = true) : (turn sins state i).state.Timed := by
  cases turn_cases sins state i with
  | inl ended => exact absurd (goesOn.symm.trans ended.2) (by decide)
  | inr drew =>
    obtain ⟨nowNs, drawn, -, hdrawn, -, left⟩ := drew
    have ticked := h.move (CartRuntime.tick_outcome h.started.sound nowNs)
    have timed : drawn.Timed := hdrawn ▸ (handle_timed ticked nowNs i).draw sins i
    cases left with
    | inl stopped => exact absurd (goesOn.symm.trans stopped.2) (by decide)
    | inr ticks =>
      obtain ⟨nowNs', -, after⟩ := ticks
      rw [after]
      exact timed.move (CartRuntime.tick_outcome timed.started.sound nowNs')

/-- Requests that the guard refuses leave the runtime alone. -/
theorem handle_refused (state : LoopState abi) {nowNs : U64} {i : Iteration}
    (refused : i.Asks → ¬ state.runtime.changeAllowed nowNs = true) :
    (state.handleSignal nowNs i).runtime = state.runtime ∧
      ((state.handleSignal nowNs i).handlePoll nowNs i).runtime = state.runtime := by
  have signalled : (state.handleSignal nowNs i).runtime = state.runtime := by
    unfold LoopState.handleSignal
    split
    · rename_i asked
      exact (CartRuntime.request_refused (refused (.inl asked)) _).1
    · rfl
  refine ⟨signalled, ?_⟩
  unfold LoopState.handlePoll
  split
  · exact signalled
  · rename_i asked
    rw [signalled]
    exact (CartRuntime.request_refused (refused (.inr (.inl asked))) _).1
  · rename_i asked
    rw [signalled]
    exact (CartRuntime.request_refused (refused (.inr (.inr asked))) _).2
  · exact signalled

/-- A request that the guard admits moves the selection at once. -/
theorem handle_moves {state : LoopState abi} (h : state.Timed) {nowNs : U64} {i : Iteration}
    (asks : i.Asks) (allowed : state.runtime.changeAllowed nowNs = true) :
    (state.handleSignal nowNs i).runtime.sceneIndex ≠ state.runtime.sceneIndex ∨
      ((state.handleSignal nowNs i).handlePoll nowNs i).runtime.sceneIndex ≠
        state.runtime.sceneIndex := by
  have moves := CartRuntime.request_moves h.started.sound h.six allowed
  unfold LoopState.handleSignal
  by_cases signal : i.nextSceneRequested = true
  · rw [if_pos signal]
    exact .inl (moves _).1
  · rw [if_neg signal]
    unfold LoopState.handlePoll
    obtain asked | asked := asks.resolve_left signal
    · rw [asked]
      exact .inr (moves _).1
    · rw [asked]
      exact .inr (moves _).2

/-- What a tick that leaves the selection alone leaves of the runtime. -/
theorem tick_unmoved {r : CartRuntime abi} (h : r.Started) {nowNs : U64}
    (same : (r.tick nowNs).1.sceneIndex = r.sceneIndex) :
    (r.tick nowNs).1.Started ∧ r.SameSetup (r.tick nowNs).1 ∧ r.Kept (r.tick nowNs).1 ∧
      ∀ nowNs', (r.tick nowNs).1.Holding nowNs' ↔
        r.Holding (r.clampNow nowNs) ∧ r.Holding nowNs' := by
  obtain ⟨setup, sound, change⟩ := CartRuntime.tick_outcome h.sound nowNs
  have started := h.step ⟨setup, sound, change⟩
  refine ⟨started, setup, ?_, ?_⟩
  · cases change with
    | inl kept => exact kept
    | inr committed => exact absurd same committed.moved
  · intro nowNs'
    obtain ⟨-, -, until', active⟩ := CartRuntime.tickScene_clock r (r.clampNow nowNs)
    obtain ⟨-, -, active', -, until'', -⟩ :=
      CartRuntime.tickDeadline_keeps (r.tickScene (r.clampNow nowNs)) (r.clampNow nowNs)
    unfold CartRuntime.Holding at active ⊢
    rw [CartRuntime.tick_eq h, active', until'', until', active]
    constructor
    · rintro ⟨⟨held, early⟩, late⟩
      exact ⟨⟨held, early⟩, held, late⟩
    · rintro ⟨first, _, late⟩
      exact ⟨first, late⟩

/-- When the second tick of a turn leaves the selection alone as well. -/
theorem second_unmoved {r : CartRuntime abi} (h : r.Started) (had : r.hadChange = true)
    {nowNs : U64} (same : (r.tick nowNs).1.sceneIndex = r.sceneIndex) (nowNs' : U64) :
    ((r.tick nowNs).1.tick nowNs').1.sceneIndex = r.sceneIndex ↔
      (¬ (r.Holding (r.clampNow nowNs) ∧ r.Holding (r.clampNow nowNs')) →
        r.automatic (r.clampNow nowNs') ≠ r.sceneIndex → ¬ r.Cooled (r.clampNow nowNs')) := by
  obtain ⟨started, setup, kept, holding⟩ := tick_unmoved h same
  have clamp : (r.tick nowNs).1.clampNow nowNs' = r.clampNow nowNs' := by
    rw [CartRuntime.clampNow, CartRuntime.clampNow, setup.originNs]
  have wanted : (r.tick nowNs).1.automatic (r.clampNow nowNs') =
      r.automatic (r.clampNow nowNs') := by
    rw [CartRuntime.automatic, CartRuntime.automatic, setup.originNs, setup.scenePeriodNs,
      setup.sceneCount]
  have moves := CartRuntime.tick_moves started nowNs'
  have cooled := CartRuntime.changeAllowed_iff started.minChange (kept.hadChange.trans had)
    (r.clampNow nowNs')
  rw [CartRuntime.RotationDue, clamp, wanted, holding, kept.sceneIndex, cooled,
    CartRuntime.Cooled, kept.lastChangeNs, setup.minChangeNs, ← CartRuntime.Cooled] at moves
  constructor
  · intro still free other late
    exact moves.mpr ⟨⟨free, other⟩, late⟩ still
  · intro inTime
    by_contra moved
    obtain ⟨⟨free, other⟩, late⟩ := moves.mp moved
    exact inTime free other late

/-- **A turn inside a fade is undisturbed exactly when it is in time.** -/
theorem undisturbed_iff {state : LoopState abi} (h : state.Timed)
    (fading : state.transition.active = true) (i : Iteration) :
    Undisturbed state i ↔ InTime state.runtime i := by
  have had : state.runtime.hadChange = true := by
    cases quiet : state.runtime.hadChange with
    | true => rfl
    | false => exact absurd (fading.symm.trans (h.recorded quiet).1) (by decide)
  have cooled := CartRuntime.changeAllowed_iff h.started.minChange had
  unfold Undisturbed runtimes InTime
  cases i.firstNowNs with
  | none => simp
  | some nowNs =>
    simp only [Option.some.injEq, forall_eq']
    have moves := CartRuntime.tick_moves h.started nowNs
    have status := CartRuntime.tick_status h.started nowNs
    by_cases moved : (state.runtime.tick nowNs).1.sceneIndex ≠ state.runtime.sceneIndex
    · -- the first tick itself rotates
      obtain ⟨due, allowed⟩ := moves.mp moved
      constructor
      · intro undisturbed
        refine absurd (undisturbed (state.runtime.tick nowNs).1 ?_) moved
        split <;> exact List.mem_cons_self
      · intro punctual
        exact absurd ((cooled _).mp allowed) (punctual.rotation due)
    have same : (state.runtime.tick nowNs).1.sceneIndex = state.runtime.sceneIndex :=
      not_not.mp moved
    have rotation : state.runtime.RotationDue (state.runtime.clampNow nowNs) →
        ¬ state.runtime.Cooled (state.runtime.clampNow nowNs) :=
      fun due late => moved (moves.mpr ⟨due, (cooled _).mpr late⟩)
    by_cases failed : (state.runtime.tick nowNs).2 ≠ 0
    · -- the loop ends before it looks at requests
      have exhausted : state.runtime.Exhausted (state.runtime.clampNow nowNs) :=
        not_not.mp fun more => failed (status.mpr more)
      simp only [if_pos failed, List.mem_singleton, forall_eq]
      constructor
      · intro _
        exact ⟨rotation, fun more => absurd exhausted more, fun more => absurd exhausted more⟩
      · intro _
        exact same
    have more : ¬ state.runtime.Exhausted (state.runtime.clampNow nowNs) :=
      status.mp (not_not.mp failed)
    have ticked := h.move (CartRuntime.tick_outcome h.started.sound nowNs)
    obtain ⟨-, setup, kept, -⟩ := tick_unmoved h.started same
    have allowed : (state.runtime.tick nowNs).1.changeAllowed nowNs =
        state.runtime.changeAllowed nowNs := by
      simp only [CartRuntime.changeAllowed, kept.lastChangeNs, kept.hadChange, setup.minChangeNs]
    simp only [if_neg failed]
    by_cases asks : i.Asks ∧ state.runtime.changeAllowed nowNs = true
    · -- a request goes through
      have stages := handle_moves ticked asks.1 (allowed.trans asks.2)
      constructor
      · intro undisturbed
        cases stages with
        | inl signalled => exact absurd ((undisturbed _ (by simp)).trans same.symm) signalled
        | inr polled => exact absurd ((undisturbed _ (by simp)).trans same.symm) polled
      · intro punctual
        exact absurd ((cooled _).mp asks.2) (punctual.request more asks.1)
    · have refused : i.Asks → ¬ (state.runtime.tick nowNs).1.changeAllowed nowNs = true :=
        fun asked open' => asks ⟨asked, allowed.symm.trans open'⟩
      obtain ⟨signalled, polled⟩ :=
        handle_refused { state with runtime := (state.runtime.tick nowNs).1 } refused
      simp only [signalled, polled, List.forall_mem_cons, same, true_and]
      have request : ¬ state.runtime.Exhausted (state.runtime.clampNow nowNs) → i.Asks →
          ¬ state.runtime.Cooled nowNs :=
        fun _ asked late => asks ⟨asked, (cooled _).mpr late⟩
      have second := second_unmoved h.started had same
      cases hsecond : i.secondNowNs with
      | none =>
        constructor
        · intro _
          refine ⟨rotation, request, fun _ nowNs' taken => ?_⟩
          cases hsecond.symm.trans taken
        · intro _ runtime none
          cases none
      | some nowNs' =>
        simp only [List.mem_singleton, forall_eq]
        rw [second nowNs']
        constructor
        · intro inTime
          refine ⟨rotation, request, fun _ taken read => ?_⟩
          obtain rfl := Option.some.inj (hsecond.symm.trans read)
          exact inTime
        · intro punctual
          exact punctual.second more nowNs' hsecond

/-- The loop is timed wherever a run takes it. -/
theorem visits_timed (sins : SineTable) (is : List Iteration) {state : LoopState abi}
    (h : state.Timed) : ∀ visit ∈ visits sins state is, visit.1.Timed := by
  induction is generalizing state with
  | nil => exact fun _ hv => absurd hv List.not_mem_nil
  | cons i is ih =>
    rw [visits]
    split
    · exact fun _ hv => absurd hv List.not_mem_nil
    · refine List.forall_mem_cons.mpr ⟨h, ?_⟩
      split
      · rename_i goesOn
        exact ih (turn_timed h sins i goesOn)
      · exact fun _ hv => absurd hv List.not_mem_nil

theorem start_timed {nowNs : U64} {state : LoopState abi}
    (h : LoopState.start abi nowNs = some state) : state.Timed := by
  unfold LoopState.start at h
  split at h
  · cases h
  · rename_i runtime init
    obtain ⟨sound, -, minChange, quiet, six, -⟩ := CartRuntime.init_sound init
    obtain rfl := Option.some.inj h
    have periods := CartRuntime.init_periods init
    refine ⟨⟨sound, ?_, ?_, ?_⟩, six, fun _ => ⟨rfl, rfl⟩⟩
    · rw [periods.1]
      decide
    · rw [periods.2]
      decide
    · rw [minChange]
      decide

/-- **The scene stays put during the fades of a run exactly when every turn of them
is in time.** -/
theorem fade_undisturbed_iff (sins : SineTable) {nowNs : U64} {state : LoopState abi}
    (start : LoopState.start abi nowNs = some state) (is : List Iteration) :
    (∀ visit ∈ visits sins state is,
        visit.1.transition.active = true → Undisturbed visit.1 visit.2) ↔
      ∀ visit ∈ visits sins state is,
        visit.1.transition.active = true → InTime visit.1.runtime visit.2 := by
  have timed := visits_timed sins is (start_timed start)
  constructor
  · intro undisturbed visit hv fading
    exact (undisturbed_iff (timed visit hv) fading visit.2).mp (undisturbed visit hv fading)
  · intro inTime visit hv fading
    exact (undisturbed_iff (timed visit hv) fading visit.2).mpr (inTime visit hv fading)

def readings (is : List Iteration) : List U64 :=
  is.flatMap fun i => i.firstNowNs.toList ++ i.secondNowNs.toList

/-- The loop begun at time 0. -/
def cartStart : LoopState .ilp32 := (LoopState.start .ilp32 0).get rfl

/-- The turn at 8 s, where the scene rotates. -/
def cartRotation : Iteration := .at 8000000000 8010000000 .none

/-- The loop after it, in a fade. -/
def cartFading : LoopState .ilp32 := (turn flatSines cartStart cartRotation).state

theorem cartFading_active : cartFading.transition.active = true := by decide +kernel

theorem visits_cartRotation {request : Iteration} (heard : request.stopped = false) :
    visits flatSines cartStart [cartRotation, request] =
      [(cartStart, cartRotation), (cartFading, request)] := by
  have goesOn : (turn flatSines cartStart cartRotation).goesOn = true := by decide +kernel
  have running : (turn flatSines cartStart cartRotation).state.running = true := by decide +kernel
  rw [visits, if_neg (by decide), if_pos goesOn, visits, if_neg (by simp [running, heard]), visits,
    ite_self]
  rfl

/-- A turn after the rotation. -/
def cartRequest : Iteration := .at 8033333333 8053333333 .next

/-- The turn after the rotation asks for another scene 33 ms later, in vain. -/
theorem fade_undisturbed_iff_rotation :
    cartFading.transition.active = true ∧ Undisturbed cartFading cartRequest := by
  have start : LoopState.start .ilp32 0 = some cartStart := rfl
  have visited := @visits_cartRotation cartRequest rfl
  have steady : cartStart.transition.active = false := by decide +kernel
  have inTime : InTime cartFading.runtime cartRequest := by
    intro nowNs first
    obtain rfl := Option.some.inj first
    refine ⟨by decide +kernel, by decide +kernel, fun _ nowNs' second => ?_⟩
    obtain rfl := Option.some.inj second
    decide +kernel
  have all : ∀ visit ∈ visits flatSines cartStart [cartRotation, cartRequest],
      visit.1.transition.active = true → InTime visit.1.runtime visit.2 := by
    rw [visited]
    intro visit member fading
    obtain rfl | here := List.mem_cons.mp member
    · rw [steady] at fading
      cases fading
    · rw [List.mem_singleton.mp here]
      exact inTime
  have second : (cartFading, cartRequest) ∈
      visits flatSines cartStart [cartRotation, cartRequest] := by
    rw [visited]
    exact List.mem_cons_of_mem _ List.mem_cons_self
  exact ⟨cartFading_active, (fade_undisturbed_iff flatSines start _).mpr all
    (cartFading, cartRequest) second cartFading_active⟩

/-- The turn after the rotation comes 500 ms later with a request, and the scene changes with
one step of the fade presented. -/
theorem late_turn_disturbs :
    ¬ ∀ (sins : SineTable) (nowNs : U64) (state : LoopState .ilp32) (is : List Iteration),
      LoopState.start .ilp32 nowNs = some state →
      (nowNs :: readings is).Pairwise (fun a b => a ≤ b) →
      ∀ visit ∈ visits sins state is,
        visit.1.transition.active = true → Undisturbed visit.1 visit.2 := by
  intro claim
  let request : Iteration := .at 8500000000 8510000000 .next
  have second : (cartFading, request) ∈ visits flatSines cartStart [cartRotation, request] := by
    rw [visits_cartRotation rfl]
    exact List.mem_cons_of_mem _ List.mem_cons_self
  have undisturbed := claim flatSines 0 cartStart [cartRotation, request] rfl (by decide)
    (cartFading, request) second cartFading_active
  have scenes : (runtimes cartFading request).map CartRuntime.sceneIndex = [1, 1, 2, 2] := by
    decide +kernel
  have moved : (2 : SizeT .ilp32) ∈ (runtimes cartFading request).map CartRuntime.sceneIndex := by
    rw [scenes]
    decide
  obtain ⟨runtime, during, changed⟩ := List.mem_map.mp moved
  have before : cartFading.runtime.sceneIndex = 1 := by decide +kernel
  exact absurd (changed.symm.trans ((undisturbed runtime during).trans before)) (by decide)

end VitaLinux.Cart
