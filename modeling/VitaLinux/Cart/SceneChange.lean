import VitaLinux.Cart.RateLimit

/-!
# When a call changes the scene

The guard says what a call may do at most. Here is exactly when a call does
change the selection, in terms of the runtime before it and the reading.
-/

namespace VitaLinux.Cart.CartRuntime

variable {abi : Abi}

/-- The cooldown of the last committed change is over. -/
def Cooled (runtime : CartRuntime abi) (nowNs : U64) : Prop :=
  runtime.lastChangeNs.toNat + runtime.minChangeNs.toNat ≤ nowNs.toNat

/-- A manual hold that a tick at this reading leaves in force. -/
def Holding (runtime : CartRuntime abi) (nowNs : U64) : Prop :=
  runtime.manualHoldActive = true ∧ nowNs < runtime.manualHoldUntilNs

/-- The attract loop wants another scene and no hold keeps it from it. -/
def RotationDue (runtime : CartRuntime abi) (nowNs : U64) : Prop :=
  ¬ runtime.Holding nowNs ∧ runtime.automatic nowNs ≠ runtime.sceneIndex

/-- The deadlines run out of 64-bit time, and the tick fails. -/
def Exhausted (runtime : CartRuntime abi) (nowNs : U64) : Prop :=
  runtime.nextDeadlineNs ≤ nowNs ∧
    (UINT64_MAX - runtime.framePeriodNs < nowNs ∨
      nowNs - runtime.nextDeadlineNs < runtime.framePeriodNs ∧
        UINT64_MAX - runtime.framePeriodNs < runtime.nextDeadlineNs)

instance (runtime : CartRuntime abi) (nowNs : U64) : Decidable (runtime.Cooled nowNs) :=
  inferInstanceAs (Decidable (_ ≤ _))

instance (runtime : CartRuntime abi) (nowNs : U64) : Decidable (runtime.Holding nowNs) :=
  inferInstanceAs (Decidable (_ ∧ _))

instance (runtime : CartRuntime abi) (nowNs : U64) : Decidable (runtime.RotationDue nowNs) :=
  inferInstanceAs (Decidable (_ ∧ _))

instance (runtime : CartRuntime abi) (nowNs : U64) : Decidable (runtime.Exhausted nowNs) :=
  inferInstanceAs (Decidable (_ ∧ _))

/-- The parameters a tick needs. -/
structure Started (runtime : CartRuntime abi) : Prop where
  sound : runtime.Sound
  framePeriod : runtime.framePeriodNs ≠ 0
  scenePeriod : runtime.scenePeriodNs ≠ 0
  minChange : 0 < runtime.minChangeNs

theorem init_periods {count : SizeT abi} {origin framePeriod scenePeriod minChange : U64}
    {r : CartRuntime abi} (h : init count origin framePeriod scenePeriod minChange = some r) :
    r.framePeriodNs = framePeriod ∧ r.scenePeriodNs = scenePeriod := by
  simp only [init] at h
  split at h
  · cases h
  · obtain rfl := Option.some.inj h
    exact ⟨rfl, rfl⟩

theorem Started.step {before after : CartRuntime abi} {nowNs : U64} (h : before.Started)
    (outcome : Outcome nowNs before after) : after.Started := by
  obtain ⟨setup, sound, _⟩ := outcome
  refine ⟨sound, ?_, ?_, ?_⟩
  · rw [setup.framePeriodNs]
    exact h.framePeriod
  · rw [setup.scenePeriodNs]
    exact h.scenePeriod
  · rw [setup.minChangeNs]
    exact h.minChange

theorem changeAllowed_iff {r : CartRuntime abi} (limited : 0 < r.minChangeNs)
    (had : r.hadChange = true) (nowNs : U64) : r.changeAllowed nowNs = true ↔ r.Cooled nowNs := by
  constructor
  · intro allowed
    exact allowed_after limited allowed had
  · intro cooled
    have positive : r.minChangeNs ≠ 0 := (BitVec.pos_iff_ne_zero _).mp limited
    unfold Cooled at cooled
    have forward : ¬ nowNs < r.lastChangeNs := by
      rw [BitVec.lt_def]
      omega
    rw [changeAllowed, if_neg positive, if_neg (by simp [had]), if_neg forward]
    apply decide_eq_true
    bv_omega

theorem expireHold_eq (r : CartRuntime abi) (nowNs : U64) :
    ∃ active, r.expireHold nowNs = { r with manualHoldActive := active } ∧
      (active = true ↔ r.Holding nowNs) := by
  unfold expireHold Holding
  split
  · rename_i expired
    refine ⟨false, rfl, ?_⟩
    rw [← BitVec.not_le]
    simp [expired.2]
  · rename_i open'
    refine ⟨r.manualHoldActive, rfl, ?_⟩
    rw [← BitVec.not_le]
    constructor
    · intro active
      exact ⟨active, fun late => open' ⟨active, late⟩⟩
    · exact And.left

/-- **The scene half of a tick moves the selection exactly when a rotation is due
and allowed.** -/
theorem tickScene_moves {r : CartRuntime abi} (h : r.Sound) (nowNs : U64) :
    (r.tickScene nowNs).sceneIndex ≠ r.sceneIndex ↔
      r.RotationDue nowNs ∧ r.changeAllowed nowNs = true := by
  generalize hf : { r with frame := (nowNs - r.originNs) / r.framePeriodNs } = f
  obtain ⟨active, expired, holding⟩ := expireHold_eq f nowNs
  have holding' : active = true ↔ r.Holding nowNs := by
    rw [holding, ← hf]
    rfl
  simp only [tickScene, hf]
  generalize f.expireHold nowNs = g at expired
  have flag : g.manualHoldActive = active := by rw [expired]
  have scene : g.sceneIndex = r.sceneIndex := by rw [expired, ← hf]
  have manual : g.manualSceneIndex = r.manualSceneIndex := by rw [expired, ← hf]
  have wanted : g.automatic nowNs = r.automatic nowNs := by rw [expired, ← hf]; rfl
  have allowed : g.changeAllowed nowNs = r.changeAllowed nowNs := by rw [expired, ← hf]; rfl
  rw [flag, wanted, allowed, scene]
  split
  · rename_i hold
    have inForce := holding'.mp hold
    constructor
    · intro moved
      exact absurd (manual.trans (h.held inForce.1)) moved
    · rintro ⟨⟨free, _⟩, _⟩
      exact absurd inForce free
  · rename_i free
    have notHeld : ¬ r.Holding nowNs := fun hold => free (holding'.mpr hold)
    split
    · rename_i other
      split
      · rename_i open'
        exact ⟨fun _ => ⟨⟨notHeld, other⟩, open'⟩, fun _ => other⟩
      · rename_i refused
        constructor
        · intro moved
          exact absurd scene moved
        · intro due
          exact absurd due.2 refused
    · rename_i same
      constructor
      · intro moved
        exact absurd scene moved
      · intro due
        exact absurd due.1.2 same

/-- With its parameters set, a tick is its two halves. -/
theorem tick_halves {r : CartRuntime abi} (h : r.Sound) (framePeriod : r.framePeriodNs ≠ 0)
    (scenePeriod : r.scenePeriodNs ≠ 0) (nowNs : U64) :
    r.tick nowNs = (r.tickScene (r.clampNow nowNs)).tickDeadline (r.clampNow nowNs) := by
  refine if_neg ?_
  rintro (empty | frames | scenes)
  · exact h.nonempty empty
  · exact framePeriod frames
  · exact scenePeriod scenes

theorem clampNow_eq {r : CartRuntime abi} {nowNs : U64} (since : r.originNs ≤ nowNs) :
    r.clampNow nowNs = nowNs := if_neg (BitVec.not_lt.mpr since)

theorem tick_eq {r : CartRuntime abi} (h : r.Started) (nowNs : U64) :
    r.tick nowNs = (r.tickScene (r.clampNow nowNs)).tickDeadline (r.clampNow nowNs) :=
  tick_halves h.sound h.framePeriod h.scenePeriod nowNs

/-- **A tick changes the scene exactly when a rotation is due and allowed.** -/
theorem tick_moves {r : CartRuntime abi} (h : r.Started) (nowNs : U64) :
    (r.tick nowNs).1.sceneIndex ≠ r.sceneIndex ↔
      r.RotationDue (r.clampNow nowNs) ∧ r.changeAllowed (r.clampNow nowNs) = true := by
  rw [tick_eq h, (tickDeadline_keeps _ _).2.1.sceneIndex]
  exact tickScene_moves h.sound _

/-- The scene half of a tick does not touch the deadline, and no tick extends a hold. -/
theorem tickScene_clock (r : CartRuntime abi) (nowNs : U64) :
    (r.tickScene nowNs).nextDeadlineNs = r.nextDeadlineNs ∧
      (r.tickScene nowNs).framePeriodNs = r.framePeriodNs ∧
      (r.tickScene nowNs).manualHoldUntilNs = r.manualHoldUntilNs ∧
      ((r.tickScene nowNs).manualHoldActive = true ↔ r.Holding nowNs) := by
  obtain ⟨active, expired, holding⟩ :=
    expireHold_eq { r with frame := (nowNs - r.originNs) / r.framePeriodNs } nowNs
  simp only [tickScene, expired]
  repeat' split
  all_goals exact ⟨rfl, rfl, rfl, holding⟩

/-- A tick succeeds until the deadlines run out. -/
theorem tick_status {r : CartRuntime abi} (h : r.Started) (nowNs : U64) :
    (r.tick nowNs).2 = 0 ↔ ¬ r.Exhausted (r.clampNow nowNs) := by
  rw [tick_eq h]
  obtain ⟨deadline, period, -, -⟩ := tickScene_clock r (r.clampNow nowNs)
  generalize r.clampNow nowNs = nowNs' at deadline period ⊢
  simp only [Exhausted, ← deadline, ← period]
  generalize r.tickScene nowNs' = s
  simp only [tickDeadline]
  split
  · rename_i early
    have before : ¬ s.nextDeadlineNs ≤ nowNs' := BitVec.not_le.mpr early
    simp [before]
  · rename_i reached
    have after : s.nextDeadlineNs ≤ nowNs' := BitVec.not_lt.mp reached
    split
    · rename_i wraps
      simp [after, wraps]
    · rename_i fits
      split
      · rename_i close
        split
        · rename_i wraps
          simp [after, close, wraps]
        · rename_i fits'
          simp [fits, fits']
      · rename_i far
        simp [fits, far]

/-- A request that the guard refuses does nothing at all. -/
theorem request_refused {r : CartRuntime abi} {nowNs : U64}
    (refused : ¬ r.changeAllowed nowNs = true) (holdNs : U64) :
    r.requestNext nowNs holdNs = r ∧ r.requestPrevious nowNs holdNs = r := by
  have closed : (!r.changeAllowed nowNs) = true := by simpa using refused
  unfold requestNext requestPrevious
  rw [if_pos closed, if_pos closed, ite_self]
  exact ⟨rfl, rfl⟩

theorem selectManual_scene (r : CartRuntime abi) (scene : SizeT abi) (nowNs holdNs : U64) :
    (r.selectManual scene nowNs holdNs).sceneIndex = scene := by
  simp only [selectManual]
  repeat' split
  all_goals rfl

/-- With the cart's six scenes, a request that the guard admits changes the scene. -/
theorem request_moves {r : CartRuntime abi} (h : r.Sound) (six : r.sceneCount = 6)
    {nowNs : U64} (allowed : r.changeAllowed nowNs = true) (holdNs : U64) :
    (r.requestNext nowNs holdNs).sceneIndex ≠ r.sceneIndex ∧
      (r.requestPrevious nowNs holdNs).sceneIndex ≠ r.sceneIndex := by
  have admitted : ¬ (!r.changeAllowed nowNs) = true := by simpa using allowed
  have selected : r.sceneIndex < 6 := by
    rw [← six]
    exact h.selected
  unfold requestNext requestPrevious
  rw [if_neg h.nonempty, if_neg h.nonempty, if_neg admitted, if_neg admitted, selectManual_scene,
    selectManual_scene, six]
  have sixes : (6 : SizeT abi).toNat = 6 := abi.toNat_ofNat (by decide)
  have ones : (1 : SizeT abi).toNat = 1 := abi.toNat_ofNat (by decide)
  have large : 2 ^ 32 ≤ 2 ^ abi.sizeBits := Nat.pow_le_pow_right (by decide) abi.le_sizeBits
  have small : r.sceneIndex.toNat < 6 := by
    rw [← sixes]
    exact selected
  constructor
  · intro same
    have next : (r.sceneIndex + 1).toNat = r.sceneIndex.toNat + 1 := by
      rw [BitVec.toNat_add, ones]
      exact Nat.mod_eq_of_lt (by omega)
    have value := congrArg BitVec.toNat same
    rw [BitVec.toNat_umod, next, sixes] at value
    omega
  · intro same
    have previous : (r.sceneIndex + 6 - 1).toNat = r.sceneIndex.toNat + 5 := by
      have sum : (r.sceneIndex + 6).toNat = r.sceneIndex.toNat + 6 := by
        rw [BitVec.toNat_add, sixes]
        exact Nat.mod_eq_of_lt (by omega)
      have wrap : 2 ^ abi.sizeBits - 1 + (r.sceneIndex.toNat + 6) =
          r.sceneIndex.toNat + 5 + 2 ^ abi.sizeBits := by omega
      rw [BitVec.toNat_sub, sum, ones, wrap, Nat.add_mod_right]
      exact Nat.mod_eq_of_lt (by omega)
    have value := congrArg BitVec.toNat same
    rw [BitVec.toNat_umod, previous, sixes] at value
    omega

end VitaLinux.Cart.CartRuntime
