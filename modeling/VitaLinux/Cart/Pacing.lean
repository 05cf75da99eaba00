import VitaLinux.Cart.SceneChange

/-!
# The pace of the frames

A tick finds its deadline ahead, just passed, or passed by a frame period and more. In
the first case it waits for the deadline, in the second it moves to the next one, and in
the third it drops the periods it missed. `Paced` is what the three share: every deadline
reached or dropped has taken a frame period of the time since the origin.
-/

namespace VitaLinux.Cart.CartRuntime

variable {abi : Abi}

/-- The runtime after a sequence of calls. -/
def calls (runtime : CartRuntime abi) (cs : List Call) : CartRuntime abi :=
  cs.foldl call runtime

@[simp] theorem calls_nil (r : CartRuntime abi) : r.calls [] = r := rfl

@[simp] theorem calls_cons (r : CartRuntime abi) (c : Call) (cs : List Call) :
    r.calls (c :: cs) = (r.call c).calls cs := rfl

/-- The time of the latest tick, once the call is made. -/
def Call.tickedNs (sinceNs : U64) : Call → U64
  | .tick nowNs => nowNs
  | .requestNext .. | .requestPrevious .. => sinceNs

/-- The timestamps of the ticks never go back, and none is before `sinceNs`. -/
def Ticking (sinceNs : U64) : List Call → Prop
  | [] => True
  | c :: cs => sinceNs ≤ c.tickedNs sinceNs ∧ Ticking (c.tickedNs sinceNs) cs

instance decidableTicking : (sinceNs : U64) → (cs : List Call) → Decidable (Ticking sinceNs cs)
  | _, [] => inferInstanceAs (Decidable True)
  | sinceNs, c :: cs =>
    have := decidableTicking (c.tickedNs sinceNs) cs
    inferInstanceAs (Decidable (sinceNs ≤ c.tickedNs sinceNs ∧ _))

/-- A tick that succeeds at or past the deadline it finds. -/
def reaches (runtime : CartRuntime abi) : Call → Bool
  | .tick nowNs => (runtime.tick nowNs).2 = 0 ∧ runtime.nextDeadlineNs ≤ nowNs
  | .requestNext .. | .requestPrevious .. => false

/-- The number of ticks of a sequence that reach their deadline. -/
def reached (runtime : CartRuntime abi) : List Call → Nat
  | [] => 0
  | c :: cs => (runtime.reaches c).toNat + (runtime.call c).reached cs

/-- The account of the deadlines at `nowNs`, when `reached` of them have been reached. -/
structure Paced (r : CartRuntime abi) (nowNs : U64) (reached : Nat) : Prop where
  sound : r.Sound
  period : 0 < r.framePeriodNs.toNat
  scenePeriod : r.scenePeriodNs ≠ 0
  since : r.originNs ≤ nowNs
  spent : r.originNs.toNat + (reached + r.droppedDeadlines.toNat + 1) * r.framePeriodNs.toNat ≤
    r.nextDeadlineNs.toNat
  near : r.nextDeadlineNs.toNat ≤ nowNs.toNat + r.framePeriodNs.toNat
  counted : reached + r.droppedDeadlines.toNat ≤ r.frame.toNat
  elapsed : r.frame.toNat * r.framePeriodNs.toNat ≤ nowNs.toNat - r.originNs.toNat

/-- What the second half of a tick does, from where the reading lies. -/
inductive Deadlined (r : CartRuntime abi) (nowNs : U64) : CartRuntime abi × Int → Prop where
  | early (ahead : nowNs.toNat < r.nextDeadlineNs.toNat) :
    Deadlined r nowNs ({ r with sleepNs := r.nextDeadlineNs - nowNs }, 0)
  | exhausted (due : r.nextDeadlineNs.toNat ≤ nowNs.toNat)
      (wraps : UINT64_MAX - r.framePeriodNs < nowNs) : Deadlined r nowNs (r, -1)
  | next (due : r.nextDeadlineNs.toNat ≤ nowNs.toNat)
      (fits : nowNs.toNat + r.framePeriodNs.toNat ≤ UINT64_MAX.toNat)
      (close : nowNs.toNat < r.nextDeadlineNs.toNat + r.framePeriodNs.toNat) :
    Deadlined r nowNs ({ r with
      nextDeadlineNs := r.nextDeadlineNs + r.framePeriodNs
      sleepNs := r.nextDeadlineNs + r.framePeriodNs - nowNs }, 0)
  | dropped (due : r.nextDeadlineNs.toNat ≤ nowNs.toNat)
      (fits : nowNs.toNat + r.framePeriodNs.toNat ≤ UINT64_MAX.toNat)
      (far : r.nextDeadlineNs.toNat + r.framePeriodNs.toNat ≤ nowNs.toNat) :
    Deadlined r nowNs ({ r with
      droppedDeadlines := r.droppedDeadlines + (nowNs - r.nextDeadlineNs) / r.framePeriodNs
      nextDeadlineNs := nowNs + r.framePeriodNs
      sleepNs := nowNs + r.framePeriodNs - nowNs }, 0)

theorem fits_iff (a b : U64) : ¬ UINT64_MAX - b < a ↔ a.toNat + b.toNat ≤ UINT64_MAX.toNat := by
  have all : UINT64_MAX.toNat = 18446744073709551615 := rfl
  bv_omega

theorem tickDeadline_deadlined (r : CartRuntime abi) (nowNs : U64) :
    Deadlined r nowNs (r.tickDeadline nowNs) := by
  unfold tickDeadline
  split
  · next ahead => exact .early ahead
  · next due =>
    have due : r.nextDeadlineNs.toNat ≤ nowNs.toNat := BitVec.not_lt.mp due
    split
    · next wraps => exact .exhausted due wraps
    · next fits =>
      have fits := (fits_iff _ _).mp fits
      have late : (nowNs - r.nextDeadlineNs).toNat = nowNs.toNat - r.nextDeadlineNs.toNat := by
        bv_omega
      simp only
      split
      · next close =>
        rw [BitVec.lt_def, late] at close
        have fits' : ¬ UINT64_MAX - r.framePeriodNs < r.nextDeadlineNs :=
          (fits_iff _ _).mpr (by omega)
        rw [if_neg fits']
        exact .next due fits (by omega)
      · next far =>
        rw [BitVec.lt_def, late] at far
        exact .dropped due fits (by omega)

/-- The first half of a tick counts the frames and leaves the deadline alone. -/
theorem tickScene_counts (r : CartRuntime abi) (nowNs : U64) :
    (r.tickScene nowNs).frame = (nowNs - r.originNs) / r.framePeriodNs ∧
      (r.tickScene nowNs).droppedDeadlines = r.droppedDeadlines := by
  obtain ⟨active, expired, -⟩ :=
    expireHold_eq { r with frame := (nowNs - r.originNs) / r.framePeriodNs } nowNs
  simp only [tickScene, expired]
  repeat' split
  all_goals exact ⟨rfl, rfl⟩

theorem tickScene_paced {r : CartRuntime abi} {lastNs nowNs : U64} {n : Nat}
    (h : Paced r lastNs n) (later : lastNs ≤ nowNs) :
    Paced (r.tickScene nowNs) nowNs n ∧ r.frame ≤ (r.tickScene nowNs).frame ∧
      (r.tickScene nowNs).frame.toNat =
        (nowNs.toNat - r.originNs.toNat) / r.framePeriodNs.toNat := by
  obtain ⟨frame, dropped⟩ := tickScene_counts r nowNs
  obtain ⟨deadline, -, -, -⟩ := tickScene_clock r nowNs
  obtain ⟨setup, sound, -⟩ := tickScene_outcome h.sound nowNs
  have later : lastNs.toNat ≤ nowNs.toNat := later
  have since : r.originNs.toNat ≤ nowNs.toNat := Nat.le_trans h.since later
  have elapsed : (nowNs - r.originNs).toNat = nowNs.toNat - r.originNs.toNat := by
    bv_omega
  have frames : (r.tickScene nowNs).frame.toNat =
      (nowNs.toNat - r.originNs.toNat) / r.framePeriodNs.toNat := by
    rw [frame, BitVec.toNat_udiv, elapsed]
  have more : r.frame.toNat ≤ (r.tickScene nowNs).frame.toNat := by
    rw [frames, Nat.le_div_iff_mul_le h.period]
    have before := h.elapsed
    omega
  refine ⟨⟨sound, ?_, ?_, ?_, ?_, ?_, ?_, ?_⟩, more, frames⟩
  · rw [setup.framePeriodNs]
    exact h.period
  · rw [setup.scenePeriodNs]
    exact h.scenePeriod
  · rw [setup.originNs]
    exact since
  · rw [setup.originNs, setup.framePeriodNs, dropped, deadline]
    exact h.spent
  · rw [setup.framePeriodNs, deadline]
    have near := h.near
    omega
  · rw [dropped]
    exact Nat.le_trans h.counted more
  · rw [setup.originNs, setup.framePeriodNs, frames]
    exact Nat.div_mul_le_self _ _

/-- `Sound` is about the scenes alone. -/
theorem Sound.redated {r : CartRuntime abi} (h : r.Sound) (dropped deadline sleep : U64) :
    Sound { r with droppedDeadlines := dropped, nextDeadlineNs := deadline, sleepNs := sleep } :=
  ⟨h.nonempty, h.selected, h.held⟩

/-- A tick accounts for the deadline it reaches and for those it drops. -/
theorem Deadlined.paced {s : CartRuntime abi} {nowNs : U64} {n : Nat} {t : CartRuntime abi × Int}
    (step : Deadlined s nowNs t) (h : Paced s nowNs n)
    (frame : s.frame.toNat = (nowNs.toNat - s.originNs.toNat) / s.framePeriodNs.toNat) :
    Paced t.1 nowNs (n + (decide (t.2 = 0 ∧ s.nextDeadlineNs ≤ nowNs)).toNat) := by
  have spent := h.spent
  have period := h.period
  have since : s.originNs.toNat ≤ nowNs.toNat := h.since
  have all : UINT64_MAX.toNat = 18446744073709551615 := rfl
  cases step with
  | early ahead =>
    have ahead : ¬ s.nextDeadlineNs ≤ nowNs := by
      bv_omega
    simp only [ahead, and_false, decide_false, Bool.toNat_false, Nat.add_zero]
    exact ⟨h.sound.redated _ _ _, h.period, h.scenePeriod, h.since, h.spent, h.near, h.counted,
      h.elapsed⟩
  | exhausted due wraps => exact h
  | next due fits close =>
    have due' : s.nextDeadlineNs ≤ nowNs := due
    simp only [due', and_self, decide_true, Bool.toNat_true]
    have deadline : (s.nextDeadlineNs + s.framePeriodNs).toNat =
        s.nextDeadlineNs.toNat + s.framePeriodNs.toNat := by
      bv_omega
    have another : n + 1 + s.droppedDeadlines.toNat = n + s.droppedDeadlines.toNat + 1 := by
      omega
    refine ⟨h.sound.redated _ _ _, h.period, h.scenePeriod, h.since, ?_, ?_, ?_, h.elapsed⟩
    · rw [another, Nat.succ_mul]
      simp only [deadline]
      omega
    · simp only [deadline]
      omega
    · simp only [another, frame, Nat.le_div_iff_mul_le period]
      omega
  | dropped due fits far =>
    have due' : s.nextDeadlineNs ≤ nowNs := due
    simp only [due', and_self, decide_true, Bool.toNat_true]
    have deadline : (nowNs + s.framePeriodNs).toNat =
        nowNs.toNat + s.framePeriodNs.toNat := by
      bv_omega
    generalize missed : (nowNs - s.nextDeadlineNs) / s.framePeriodNs = q
    have late : (nowNs - s.nextDeadlineNs).toNat = nowNs.toNat - s.nextDeadlineNs.toNat := by
      bv_omega
    have passed : q.toNat * s.framePeriodNs.toNat ≤ nowNs.toNat - s.nextDeadlineNs.toNat := by
      rw [← missed, BitVec.toNat_udiv, late]
      exact Nat.div_mul_le_self _ _
    have total : s.originNs.toNat +
        (n + s.droppedDeadlines.toNat + 1 + q.toNat) * s.framePeriodNs.toNat ≤ nowNs.toNat := by
      rw [Nat.add_mul]
      omega
    have count := Nat.le_mul_of_pos_right (n + s.droppedDeadlines.toNat + 1 + q.toNat) period
    have dropped : (s.droppedDeadlines + q).toNat = s.droppedDeadlines.toNat + q.toNat := by
      bv_omega
    have another : n + 1 + (s.droppedDeadlines.toNat + q.toNat) =
        n + s.droppedDeadlines.toNat + 1 + q.toNat := by
      omega
    refine ⟨h.sound.redated _ _ _, h.period, h.scenePeriod, h.since, ?_, ?_, ?_, h.elapsed⟩
    · simp only [dropped, another, deadline]
      rw [Nat.succ_mul]
      omega
    · simp only [deadline]
      omega
    · simp only [dropped, another, frame, Nat.le_div_iff_mul_le period]
      omega

theorem Deadlined.sleeps {s : CartRuntime abi} {nowNs : U64} {n : Nat} {t : CartRuntime abi × Int}
    (step : Deadlined s nowNs t) (h : Paced s nowNs n) (success : t.2 = 0) :
    0 < t.1.sleepNs ∧ t.1.sleepNs ≤ t.1.framePeriodNs ∧
      t.1.nextDeadlineNs.toNat = nowNs.toNat + t.1.sleepNs.toNat := by
  have near := h.near
  have period := h.period
  have all : UINT64_MAX.toNat = 18446744073709551615 := rfl
  cases step with
  | early ahead =>
    simp only
    refine ⟨by bv_omega, by bv_omega, by bv_omega⟩
  | exhausted due wraps => simp at success
  | next due fits close =>
    simp only
    refine ⟨by bv_omega, by bv_omega, by bv_omega⟩
  | dropped due fits far =>
    simp only
    refine ⟨by bv_omega, by bv_omega, by bv_omega⟩

theorem init_paced {count : SizeT abi} {origin framePeriod scenePeriod minChange : U64}
    {r : CartRuntime abi} (h : init count origin framePeriod scenePeriod minChange = some r) :
    Paced r origin 0 := by
  have sound := (init_sound h).1
  simp only [init] at h
  split at h
  · cases h
  · next valid =>
    simp only [not_or, BitVec.not_le] at valid
    obtain ⟨-, frames, scenes, fits⟩ := valid
    obtain rfl := Option.some.inj h
    have deadline : (origin + framePeriod).toNat = origin.toNat + framePeriod.toNat := by
      have fits := (fits_iff origin framePeriod).mp (BitVec.lt_asymm fits)
      have all : UINT64_MAX.toNat = 18446744073709551615 := rfl
      bv_omega
    have period : 0 < framePeriod.toNat := (BitVec.toNat_pos _).mpr
      ((BitVec.pos_iff_ne_zero _).mpr frames)
    refine ⟨sound, period, scenes, BitVec.le_refl _, ?_, ?_, ?_, ?_⟩
    · simp [deadline]
    · simp [deadline]
    · simp
    · simp

/-- A request leaves the clock of the frames alone. -/
theorem selectManual_clock (r : CartRuntime abi) (scene : SizeT abi) (nowNs holdNs : U64) :
    (r.selectManual scene nowNs holdNs).nextDeadlineNs = r.nextDeadlineNs ∧
      (r.selectManual scene nowNs holdNs).droppedDeadlines = r.droppedDeadlines ∧
      (r.selectManual scene nowNs holdNs).frame = r.frame := by
  simp only [selectManual]
  repeat' split
  all_goals exact ⟨rfl, rfl, rfl⟩

theorem requestNext_clock (r : CartRuntime abi) (nowNs holdNs : U64) :
    (r.requestNext nowNs holdNs).nextDeadlineNs = r.nextDeadlineNs ∧
      (r.requestNext nowNs holdNs).droppedDeadlines = r.droppedDeadlines ∧
      (r.requestNext nowNs holdNs).frame = r.frame := by
  unfold requestNext
  repeat' split
  · exact ⟨rfl, rfl, rfl⟩
  · exact ⟨rfl, rfl, rfl⟩
  · exact selectManual_clock r _ nowNs holdNs

theorem requestPrevious_clock (r : CartRuntime abi) (nowNs holdNs : U64) :
    (r.requestPrevious nowNs holdNs).nextDeadlineNs = r.nextDeadlineNs ∧
      (r.requestPrevious nowNs holdNs).droppedDeadlines = r.droppedDeadlines ∧
      (r.requestPrevious nowNs holdNs).frame = r.frame := by
  unfold requestPrevious
  repeat' split
  · exact ⟨rfl, rfl, rfl⟩
  · exact ⟨rfl, rfl, rfl⟩
  · exact selectManual_clock r _ nowNs holdNs

/-- What keeps the parameters, the deadline and the counts keeps the account. -/
theorem Paced.kept {r s : CartRuntime abi} {lastNs nowNs : U64} {n : Nat} (h : Paced r lastNs n)
    (outcome : Outcome nowNs r s)
    (clock : s.nextDeadlineNs = r.nextDeadlineNs ∧ s.droppedDeadlines = r.droppedDeadlines ∧
      s.frame = r.frame) : Paced s lastNs n := by
  obtain ⟨setup, sound, -⟩ := outcome
  obtain ⟨deadline, dropped, frame⟩ := clock
  refine ⟨sound, ?_, ?_, ?_, ?_, ?_, ?_, ?_⟩
  · rw [setup.framePeriodNs]
    exact h.period
  · rw [setup.scenePeriodNs]
    exact h.scenePeriod
  · rw [setup.originNs]
    exact h.since
  · rw [setup.originNs, setup.framePeriodNs, dropped, deadline]
    exact h.spent
  · rw [setup.framePeriodNs, deadline]
    exact h.near
  · rw [dropped, frame]
    exact h.counted
  · rw [setup.originNs, setup.framePeriodNs, frame]
    exact h.elapsed

/-- From the origin on, a tick is its two halves. -/
theorem Paced.tick_eq {r : CartRuntime abi} {lastNs nowNs : U64} {n : Nat} (h : Paced r lastNs n)
    (later : lastNs ≤ nowNs) : r.tick nowNs = (r.tickScene nowNs).tickDeadline nowNs := by
  have frames : r.framePeriodNs ≠ 0 := fun none => by
    have period := h.period
    rw [none] at period
    exact absurd period (by decide)
  rw [tick_halves h.sound frames h.scenePeriod, clampNow_eq (BitVec.le_trans h.since later)]

/-- **A call keeps the account and never takes a frame back.** -/
theorem call_paced {r : CartRuntime abi} {lastNs : U64} {n : Nat} (h : Paced r lastNs n)
    {c : Call} (later : lastNs ≤ c.tickedNs lastNs) :
    Paced (r.call c) (c.tickedNs lastNs) (n + (r.reaches c).toNat) ∧ r.frame ≤ (r.call c).frame := by
  cases c with
  | tick nowNs =>
    have later : lastNs ≤ nowNs := later
    obtain ⟨paced, more, frame⟩ := tickScene_paced h later
    obtain ⟨deadline, period, -, -⟩ := tickScene_clock r nowNs
    obtain ⟨setup, -, -⟩ := tickScene_outcome h.sound nowNs
    have step := tickDeadline_deadlined (r.tickScene nowNs) nowNs
    have after := step.paced paced (by rw [frame, setup.originNs, period])
    rw [deadline] at after
    refine ⟨?_, ?_⟩
    · simp only [call, reaches]
      rw [h.tick_eq later]
      exact after
    · simp only [call]
      rw [h.tick_eq later, (tickDeadline_keeps _ _).2.2.2.2.2]
      exact more
  | requestNext nowNs holdNs =>
    have clock := requestNext_clock r nowNs holdNs
    refine ⟨h.kept (requestNext_outcome h.sound nowNs holdNs) clock, ?_⟩
    simp only [call]
    rw [clock.2.2]
    exact BitVec.le_refl _
  | requestPrevious nowNs holdNs =>
    have clock := requestPrevious_clock r nowNs holdNs
    refine ⟨h.kept (requestPrevious_outcome h.sound nowNs holdNs) clock, ?_⟩
    simp only [call]
    rw [clock.2.2]
    exact BitVec.le_refl _

/-- The time of the latest tick of a sequence of calls. -/
def lastTickNs (sinceNs : U64) (cs : List Call) : U64 := cs.foldl Call.tickedNs sinceNs

theorem calls_paced {r : CartRuntime abi} {sinceNs : U64} {n : Nat} (h : Paced r sinceNs n)
    (cs : List Call) (ticking : Ticking sinceNs cs) :
    Paced (r.calls cs) (lastTickNs sinceNs cs) (n + r.reached cs) := by
  induction cs generalizing r sinceNs n with
  | nil => exact h
  | cons c cs ih =>
    have next := ih (call_paced h ticking.1).1 ticking.2
    rw [Nat.add_assoc] at next
    exact next

theorem Ticking.append {sinceNs : U64} {cs ds : List Call} :
    Ticking sinceNs (cs ++ ds) ↔ Ticking sinceNs cs ∧ Ticking (lastTickNs sinceNs cs) ds := by
  induction cs generalizing sinceNs with
  | nil => simp [Ticking, lastTickNs]
  | cons c cs ih =>
    rw [List.cons_append, Ticking, Ticking, ih, and_assoc]
    rfl

/-- Calls keep the parameters. -/
theorem calls_setup {r : CartRuntime abi} (h : r.Sound) (cs : List Call) :
    SameSetup r (r.calls cs) ∧ (r.calls cs).Sound := by
  induction cs generalizing r with
  | nil => exact ⟨.refl r, h⟩
  | cons c cs ih =>
    obtain ⟨nowNs, setup, sound, -⟩ : ∃ nowNs, Outcome nowNs r (r.call c) := by
      cases c with
      | tick nowNs => exact ⟨_, tick_outcome h nowNs⟩
      | requestNext nowNs holdNs => exact ⟨nowNs, requestNext_outcome h nowNs holdNs⟩
      | requestPrevious nowNs holdNs => exact ⟨nowNs, requestPrevious_outcome h nowNs holdNs⟩
    obtain ⟨setup', sound'⟩ := ih sound
    exact ⟨setup.trans setup', sound'⟩

theorem reached_append (r : CartRuntime abi) (cs ds : List Call) :
    r.reached (cs ++ ds) = r.reached cs + (r.calls cs).reached ds := by
  induction cs generalizing r with
  | nil => simp [reached]
  | cons c cs ih => rw [List.cons_append, reached, reached, ih, calls_cons, Nat.add_assoc]

/-- A tick that succeeds sleeps up to its next deadline, and one that fails is out of time. -/
theorem Paced.tick_sleeps {r : CartRuntime abi} {lastNs nowNs : U64} {n : Nat}
    (h : Paced r lastNs n) (later : lastNs ≤ nowNs) :
    ((r.tick nowNs).2 = 0 →
      0 < (r.tick nowNs).1.sleepNs ∧ (r.tick nowNs).1.sleepNs ≤ r.framePeriodNs ∧
        (r.tick nowNs).1.nextDeadlineNs.toNat =
          nowNs.toNat + (r.tick nowNs).1.sleepNs.toNat) ∧
      ((r.tick nowNs).2 = 0 ∨
        (r.tick nowNs).2 = -1 ∧ UINT64_MAX - r.framePeriodNs < nowNs) := by
  have paced := (tickScene_paced h later).1
  have step := tickDeadline_deadlined (r.tickScene nowNs) nowNs
  have period := (tickScene_clock r nowNs).2.1
  rw [h.tick_eq later]
  constructor
  · intro success
    have sleeps := step.sleeps paced success
    rwa [(tickDeadline_keeps _ _).1.framePeriodNs, period] at sleeps
  · rw [← period]
    generalize (r.tickScene nowNs).tickDeadline nowNs = t at step
    cases step with
    | early _ => exact Or.inl rfl
    | exhausted _ wraps => exact Or.inr ⟨rfl, wraps⟩
    | next _ _ _ => exact Or.inl rfl
    | dropped _ _ _ => exact Or.inl rfl

/-- **The pace of the frames.** Over ticks with times that never go back, the frame number
never decreases, and it counts at least the deadlines reached and dropped. A tick that
succeeds sleeps for at most a frame period, up to the next deadline, and a tick fails only
when another frame period does not fit. -/
theorem tick_paced {count : SizeT abi} {origin framePeriod scenePeriod minChange : U64}
    {r : CartRuntime abi} (start : init count origin framePeriod scenePeriod minChange = some r)
    (cs : List Call) (c : Call) (ticking : Ticking origin (cs ++ [c])) :
    let before := r.calls cs
    let after := before.call c
    before.frame ≤ after.frame ∧
      r.reached (cs ++ [c]) + after.droppedDeadlines.toNat ≤ after.frame.toNat ∧
      ∀ nowNs, c = .tick nowNs →
        ((before.tick nowNs).2 = 0 →
          0 < after.sleepNs ∧ after.sleepNs ≤ framePeriod ∧
            after.nextDeadlineNs.toNat = nowNs.toNat + after.sleepNs.toNat) ∧
        ((before.tick nowNs).2 = 0 ∨
          (before.tick nowNs).2 = -1 ∧ UINT64_MAX - framePeriod < nowNs) := by
  intro before after
  obtain ⟨past, later, -⟩ := Ticking.append.mp ticking
  have paced := calls_paced (init_paced start) cs past
  obtain ⟨paced', more⟩ := call_paced paced later
  have period : before.framePeriodNs = framePeriod := by
    rw [(calls_setup (init_sound start).1 cs).1.framePeriodNs, (init_periods start).1]
  refine ⟨more, ?_, ?_⟩
  · rw [reached_append]
    simpa [reached] using paced'.counted
  · rintro nowNs rfl
    rw [← period]
    exact paced.tick_sleeps later

/-- Three ticks of a run at a period of 10 ns: the second reaches its deadline, the third
drops four. -/
theorem tick_paced_run :
    ∃ r : CartRuntime .ilp32, init 6 100 10 1000 500 = some r ∧
      ((r.calls [.tick 103, .requestNext 105 0, .tick 112]).tick 165).2 = 0 ∧
      (r.calls [.tick 103, .requestNext 105 0, .tick 112, .tick 165]).droppedDeadlines = 4 ∧
      r.reached [.tick 103, .requestNext 105 0, .tick 112, .tick 165] + 4 ≤ 6 := by
  have start : init (6 : SizeT .ilp32) 100 10 1000 500 = some _ := rfl
  refine ⟨_, start, by decide, by decide, ?_⟩
  exact (tick_paced start [.tick 103, .requestNext 105 0, .tick 112] (.tick 165) (by decide)).2.1

end VitaLinux.Cart.CartRuntime
