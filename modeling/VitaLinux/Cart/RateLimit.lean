import VitaLinux.Base.Spacing
import VitaLinux.Cart.Runtime

/-!
# The photosensitivity guard

Four places of runtime.c write `scene_index`. `Outcome` says all a call can do
to the fields the guard reads: keep them, or commit an allowed change and
record its time. The hold replay in the tick is no change at all, because a
hold in force always names the scene already selected (`Sound.held`).
-/

namespace VitaLinux.Cart.CartRuntime

open VitaLinux.Base

variable {abi : Abi}

/-- What every reachable runtime satisfies. -/
structure Sound (runtime : CartRuntime abi) : Prop where
  nonempty : runtime.sceneCount ≠ 0
  selected : runtime.sceneIndex < runtime.sceneCount
  held : runtime.manualHoldActive = true → runtime.manualSceneIndex = runtime.sceneIndex

/-- The parameters `cart_runtime_init` fixed. -/
structure SameSetup (before after : CartRuntime abi) : Prop where
  sceneCount : after.sceneCount = before.sceneCount
  originNs : after.originNs = before.originNs
  framePeriodNs : after.framePeriodNs = before.framePeriodNs
  scenePeriodNs : after.scenePeriodNs = before.scenePeriodNs
  minChangeNs : after.minChangeNs = before.minChangeNs

theorem SameSetup.refl (r : CartRuntime abi) : SameSetup r r := ⟨rfl, rfl, rfl, rfl, rfl⟩

theorem SameSetup.trans {a b c : CartRuntime abi} (h : SameSetup a b) (k : SameSetup b c) :
    SameSetup a c :=
  ⟨k.1.trans h.1, k.2.trans h.2, k.3.trans h.3, k.4.trans h.4, k.5.trans h.5⟩

/-- The selection and the guard's memory are as before. -/
structure Kept (before after : CartRuntime abi) : Prop where
  sceneIndex : after.sceneIndex = before.sceneIndex
  lastChangeNs : after.lastChangeNs = before.lastChangeNs
  hadChange : after.hadChange = before.hadChange

theorem Kept.refl (r : CartRuntime abi) : Kept r r := ⟨rfl, rfl, rfl⟩

theorem Kept.trans {a b c : CartRuntime abi} (h : Kept a b) (k : Kept b c) : Kept a c :=
  ⟨k.1.trans h.1, k.2.trans h.2, k.3.trans h.3⟩

/-- An allowed change to another scene, recorded at `nowNs`. -/
structure Committed (nowNs : U64) (before after : CartRuntime abi) : Prop where
  allowed : before.changeAllowed nowNs = true
  moved : after.sceneIndex ≠ before.sceneIndex
  lastChangeNs : after.lastChangeNs = nowNs
  hadChange : after.hadChange = true

/-- All that one call can do to the selection. -/
def Outcome (nowNs : U64) (before after : CartRuntime abi) : Prop :=
  SameSetup before after ∧ Sound after ∧ (Kept before after ∨ Committed nowNs before after)

theorem umod_bound (x : SizeT abi) {count : SizeT abi} (h : count ≠ 0) : x % count < count :=
  BitVec.umod_lt x ((BitVec.pos_iff_ne_zero _).mpr h)

theorem automatic_toNat (r : CartRuntime abi) (nowNs : U64) (h : r.sceneCount ≠ 0) :
    (r.automatic nowNs).toNat =
      (nowNs - r.originNs).toNat / r.scenePeriodNs.toNat % r.sceneCount.toNat := by
  have count : 0 < r.sceneCount.toNat :=
    (BitVec.toNat_pos _).mpr ((BitVec.pos_iff_ne_zero _).mpr h)
  have wide : r.sceneCount.toNat % 2 ^ 64 = r.sceneCount.toNat :=
    Nat.mod_eq_of_lt (Nat.lt_of_lt_of_le r.sceneCount.isLt
      (Nat.pow_le_pow_right (by decide) abi.sizeBits_le))
  rw [automatic, BitVec.toNat_setWidth, BitVec.toNat_umod, BitVec.toNat_setWidth, wide,
    BitVec.toNat_udiv]
  exact Nat.mod_eq_of_lt (Nat.lt_trans (Nat.mod_lt _ count) r.sceneCount.isLt)

theorem automatic_bound (r : CartRuntime abi) (nowNs : U64) (h : r.sceneCount ≠ 0) :
    r.automatic nowNs < r.sceneCount := by
  have count : 0 < r.sceneCount.toNat :=
    (BitVec.toNat_pos _).mpr ((BitVec.pos_iff_ne_zero _).mpr h)
  rw [BitVec.lt_def, automatic_toNat r nowNs h]
  exact Nat.mod_lt _ count

theorem init_sound {count : SizeT abi} {origin framePeriod scenePeriod minChange : U64}
    {r : CartRuntime abi} (h : init count origin framePeriod scenePeriod minChange = some r) :
    r.Sound ∧ r.originNs = origin ∧ r.minChangeNs = minChange ∧ r.hadChange = false ∧
      r.sceneCount = count ∧ r.sceneIndex = 0 := by
  simp only [init] at h
  split at h
  · cases h
  · rename_i valid
    obtain rfl := Option.some.inj h
    have nonempty : count ≠ 0 := fun e => valid (Or.inl e)
    exact ⟨⟨nonempty, (BitVec.pos_iff_ne_zero _).mpr nonempty, by simp⟩, rfl, rfl, rfl, rfl, rfl⟩

theorem expireHold_keeps {r : CartRuntime abi} (h : r.Sound) (nowNs : U64) :
    (r.expireHold nowNs).Sound ∧ SameSetup r (r.expireHold nowNs) ∧
      Kept r (r.expireHold nowNs) := by
  unfold expireHold
  split
  · exact ⟨⟨h.nonempty, h.selected, by simp⟩, ⟨rfl, rfl, rfl, rfl, rfl⟩, ⟨rfl, rfl, rfl⟩⟩
  · exact ⟨h, .refl r, .refl r⟩

theorem tickScene_outcome {r : CartRuntime abi} (h : r.Sound) (nowNs : U64) :
    Outcome nowNs r (r.tickScene nowNs) := by
  generalize hf : { r with frame := (nowNs - r.originNs) / r.framePeriodNs } = f
  have sound : f.Sound := by subst hf; exact ⟨h.nonempty, h.selected, h.held⟩
  have setup : SameSetup r f := by subst hf; exact ⟨rfl, rfl, rfl, rfl, rfl⟩
  have kept : Kept r f := by subst hf; exact ⟨rfl, rfl, rfl⟩
  obtain ⟨sound', setup', kept'⟩ := expireHold_keeps sound nowNs
  have before : r.changeAllowed nowNs = (f.expireHold nowNs).changeAllowed nowNs := by
    simp only [changeAllowed, (kept.trans kept').lastChangeNs, (kept.trans kept').hadChange,
      (setup.trans setup').minChangeNs]
  simp only [tickScene, hf]
  generalize f.expireHold nowNs = g at sound' setup' kept' before
  split
  · rename_i active
    have same := sound'.held active
    exact ⟨(setup.trans setup').trans ⟨rfl, rfl, rfl, rfl, rfl⟩,
      ⟨sound'.nonempty, by simpa [same] using sound'.selected, fun _ => rfl⟩,
      .inl ((kept.trans kept').trans ⟨same, rfl, rfl⟩)⟩
  · rename_i inactive
    split
    · rename_i differs
      split
      · rename_i allowed
        refine ⟨(setup.trans setup').trans ⟨rfl, rfl, rfl, rfl, rfl⟩,
          ⟨sound'.nonempty, automatic_bound g nowNs sound'.nonempty,
            fun active => absurd active inactive⟩,
          .inr ⟨before.trans allowed, ?_, rfl, rfl⟩⟩
        rw [← (kept.trans kept').sceneIndex]
        exact differs
      · exact ⟨setup.trans setup', sound', .inl (kept.trans kept')⟩
    · exact ⟨setup.trans setup', sound', .inl (kept.trans kept')⟩

/-- Computing the deadline touches nothing the guard depends on. -/
theorem tickDeadline_keeps (r : CartRuntime abi) (nowNs : U64) :
    SameSetup r (r.tickDeadline nowNs).1 ∧ Kept r (r.tickDeadline nowNs).1 ∧
      (r.tickDeadline nowNs).1.manualHoldActive = r.manualHoldActive ∧
      (r.tickDeadline nowNs).1.manualSceneIndex = r.manualSceneIndex ∧
      (r.tickDeadline nowNs).1.manualHoldUntilNs = r.manualHoldUntilNs ∧
      (r.tickDeadline nowNs).1.frame = r.frame := by
  simp only [tickDeadline]
  repeat' split
  all_goals exact ⟨⟨rfl, rfl, rfl, rfl, rfl⟩, ⟨rfl, rfl, rfl⟩, rfl, rfl, rfl, rfl⟩

theorem tick_outcome {r : CartRuntime abi} (h : r.Sound) (nowNs : U64) :
    Outcome (r.clampNow nowNs) r (r.tick nowNs).1 := by
  unfold tick
  split
  · exact ⟨.refl r, h, .inl (.refl r)⟩
  · obtain ⟨setup, sound, change⟩ := tickScene_outcome h (r.clampNow nowNs)
    obtain ⟨setup', kept', active, manual, _, _⟩ :=
      tickDeadline_keeps (r.tickScene (r.clampNow nowNs)) (r.clampNow nowNs)
    refine ⟨setup.trans setup',
      ⟨by rw [setup'.sceneCount]; exact sound.nonempty,
        by rw [setup'.sceneCount, kept'.sceneIndex]; exact sound.selected,
        by rw [active, manual, kept'.sceneIndex]; exact sound.held⟩, ?_⟩
    cases change with
    | inl kept => exact .inl (kept.trans kept')
    | inr committed =>
      refine .inr ⟨committed.allowed, ?_, ?_, ?_⟩
      · rw [kept'.sceneIndex]; exact committed.moved
      · rw [kept'.lastChangeNs]; exact committed.lastChangeNs
      · rw [kept'.hadChange]; exact committed.hadChange

theorem selectManual_outcome {r : CartRuntime abi} (h : r.Sound) {scene : SizeT abi}
    (bound : scene < r.sceneCount) {nowNs : U64} (holdNs : U64)
    (allowed : r.changeAllowed nowNs = true) :
    Outcome nowNs r (r.selectManual scene nowNs holdNs) := by
  by_cases same : scene = r.sceneIndex
  · subst same
    unfold selectManual
    simp only [ne_eq, not_true_eq_false, if_false]
    split
    · exact ⟨⟨rfl, rfl, rfl, rfl, rfl⟩, ⟨h.nonempty, bound, by simp⟩, .inl ⟨rfl, rfl, rfl⟩⟩
    · exact ⟨⟨rfl, rfl, rfl, rfl, rfl⟩, ⟨h.nonempty, bound, fun _ => rfl⟩, .inl ⟨rfl, rfl, rfl⟩⟩
  · unfold selectManual
    simp only [ne_eq, same, not_false_eq_true, if_true, recordChange]
    split
    · exact ⟨⟨rfl, rfl, rfl, rfl, rfl⟩, ⟨h.nonempty, bound, by simp⟩,
        .inr ⟨allowed, same, rfl, rfl⟩⟩
    · exact ⟨⟨rfl, rfl, rfl, rfl, rfl⟩, ⟨h.nonempty, bound, fun _ => rfl⟩,
        .inr ⟨allowed, same, rfl, rfl⟩⟩

/-- A request that is heeded selects a scene, and any other does nothing. -/
theorem request_outcome {r : CartRuntime abi} (h : r.Sound) (scene : SizeT abi)
    (nowNs holdNs : U64) :
    Outcome nowNs r (if r.sceneCount = 0 then r else if !r.changeAllowed nowNs then r
      else r.selectManual (scene % r.sceneCount) nowNs holdNs) := by
  split
  · exact ⟨.refl r, h, .inl (.refl r)⟩
  · split
    · exact ⟨.refl r, h, .inl (.refl r)⟩
    · rename_i allowed
      exact selectManual_outcome h (umod_bound _ h.nonempty) holdNs (by simpa using allowed)

theorem requestNext_outcome {r : CartRuntime abi} (h : r.Sound) (nowNs holdNs : U64) :
    Outcome nowNs r (r.requestNext nowNs holdNs) := request_outcome h _ nowNs holdNs

theorem requestPrevious_outcome {r : CartRuntime abi} (h : r.Sound) (nowNs holdNs : U64) :
    Outcome nowNs r (r.requestPrevious nowNs holdNs) := request_outcome h _ nowNs holdNs

theorem call_outcome {r : CartRuntime abi} (h : r.Sound) {c : Call}
    (late : r.originNs ≤ c.nowNs) : Outcome c.nowNs r (r.call c) := by
  cases c with
  | tick nowNs =>
    have unclamped : r.clampNow nowNs = nowNs := by
      unfold clampNow
      rw [if_neg (by simpa [Call.nowNs] using late)]
    simpa [call, Call.nowNs, unclamped] using tick_outcome h nowNs
  | requestNext nowNs holdNs => exact requestNext_outcome h nowNs holdNs
  | requestPrevious nowNs holdNs => exact requestPrevious_outcome h nowNs holdNs

/-- An allowed change comes at least `min_change_ns` after the recorded one. -/
theorem allowed_after {r : CartRuntime abi} {nowNs : U64} (limited : 0 < r.minChangeNs)
    (h : r.changeAllowed nowNs = true) (had : r.hadChange = true) :
    r.lastChangeNs.toNat + r.minChangeNs.toNat ≤ nowNs.toNat := by
  have positive : r.minChangeNs ≠ 0 := (BitVec.pos_iff_ne_zero _).mp limited
  simp only [changeAllowed, positive, had, if_false, Bool.not_true, Bool.false_eq_true] at h
  split at h
  · cases h
  · have elapsed := of_decide_eq_true h
    bv_omega

/-- The timestamps of the calls that change `scene_index`, in call order. -/
def changeTimes (runtime : CartRuntime abi) : List Call → List Nat
  | [] => []
  | c :: cs =>
    if (runtime.call c).sceneIndex ≠ runtime.sceneIndex then
      c.nowNs.toNat :: (runtime.call c).changeTimes cs
    else (runtime.call c).changeTimes cs

/-- From any sound runtime the changes of a run are spaced, and they keep their
distance from the change the runtime remembers. -/
theorem changeTimes_spaced {r : CartRuntime abi} (h : r.Sound) (limited : 0 < r.minChangeNs)
    (cs : List Call) (late : ∀ c ∈ cs, r.originNs ≤ c.nowNs) :
    Spaced r.minChangeNs.toNat (r.changeTimes cs) ∧
      (r.hadChange = true →
        ∀ t ∈ r.changeTimes cs, r.lastChangeNs.toNat + r.minChangeNs.toNat ≤ t) := by
  induction cs generalizing r with
  | nil => exact ⟨.nil _, by simp [changeTimes]⟩
  | cons c cs ih =>
    obtain ⟨setup, sound, change⟩ := call_outcome h (late c (by simp))
    obtain ⟨spaced, after⟩ := ih sound (by rw [setup.minChangeNs]; exact limited)
      (fun d hd => by rw [setup.originNs]; exact late d (List.mem_cons_of_mem _ hd))
    rw [setup.minChangeNs] at spaced after
    cases change with
    | inl kept =>
      rw [kept.lastChangeNs, kept.hadChange] at after
      simp only [changeTimes, kept.sceneIndex, ne_eq, not_true_eq_false, if_false]
      exact ⟨spaced, after⟩
    | inr committed =>
      rw [committed.lastChangeNs] at after
      have later := after committed.hadChange
      simp only [changeTimes, ne_eq, committed.moved, not_false_eq_true, if_true]
      refine ⟨.cons later spaced, fun had t ht => ?_⟩
      have gap := allowed_after limited committed.allowed had
      cases ht with
      | head => exact gap
      | tail _ ht =>
        have := later t ht
        omega

/-- **No two scene changes come closer than `min_change_ns`**, whatever the calls,
and so any window holds a bounded number of them. -/
theorem changes_rate_limited {count : SizeT abi}
    {origin framePeriod scenePeriod minChange : U64} {r : CartRuntime abi}
    (start : init count origin framePeriod scenePeriod minChange = some r)
    (limited : 0 < minChange) (cs : List Call) (late : ∀ c ∈ cs, origin ≤ c.nowNs) :
    (r.changeTimes cs).Pairwise (fun a b => a + minChange.toNat ≤ b) ∧
      ∀ t W : Nat,
        ((r.changeTimes cs).filter fun a => decide (t ≤ a) && decide (a ≤ t + W)).length ≤
          W / minChange.toNat + 1 := by
  obtain ⟨sound, rfl, rfl, -, -⟩ := init_sound start
  have spaced := (changeTimes_spaced sound limited cs late).1
  exact ⟨spaced, spaced.window ((BitVec.toNat_pos _).mpr limited)⟩

/-- A request, an early request and a rotation: the early one changes nothing. -/
theorem changes_rate_limited_run :
    ∃ r : CartRuntime .ilp32, init 6 0 33333333 8000000000 500000000 = some r ∧
      r.changeTimes
          [.requestNext 1000 8000000000, .requestNext 400000000 0, .tick 16600000000] =
        [1000, 16600000000] ∧
      (r.changeTimes
          [.requestNext 1000 8000000000, .requestNext 400000000 0, .tick 16600000000]).Pairwise
        (fun a b => a + (500000000 : U64).toNat ≤ b) := by
  have start : init (6 : SizeT .ilp32) 0 33333333 8000000000 500000000 = some _ := rfl
  exact ⟨_, start, by decide, (changes_rate_limited start (by decide) _ (by decide)).1⟩

end VitaLinux.Cart.CartRuntime
