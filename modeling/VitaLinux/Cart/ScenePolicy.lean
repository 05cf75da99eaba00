import VitaLinux.Cart.Pacing

/-!
# Which scene is shown

A request that is accepted picks a scene and may hold it. While the hold is in force every
tick shows that scene; otherwise a tick shows the scene of the rotation, unless the last
change is too recent. The policy is stated over the calls made so far: the times of their
changes (`changeTimes`) and the last request they accepted (`lastAccepted`).
-/

namespace VitaLinux.Cart.CartRuntime

variable {abi : Abi}

/-- The timestamps of the calls never go back, and none is before `sinceNs`. -/
def Ordered (sinceNs : U64) : List Call → Prop
  | [] => True
  | c :: cs => sinceNs ≤ c.nowNs ∧ Ordered c.nowNs cs

instance decidableOrdered : (sinceNs : U64) → (cs : List Call) → Decidable (Ordered sinceNs cs)
  | _, [] => inferInstanceAs (Decidable True)
  | sinceNs, c :: cs =>
    have := decidableOrdered c.nowNs cs
    inferInstanceAs (Decidable (sinceNs ≤ c.nowNs ∧ _))

/-- The time of the last of the calls. -/
def lastNs (sinceNs : U64) (cs : List Call) : U64 := cs.foldl (fun _ c => c.nowNs) sinceNs

theorem Ordered.append {sinceNs : U64} {cs ds : List Call} :
    Ordered sinceNs (cs ++ ds) ↔ Ordered sinceNs cs ∧ Ordered (lastNs sinceNs cs) ds := by
  induction cs generalizing sinceNs with
  | nil => simp [Ordered, lastNs]
  | cons c cs ih =>
    rw [List.cons_append, Ordered, Ordered, ih, and_assoc]
    rfl

/-- A request as it was accepted: the scene it picked, when, and for how long. -/
structure Hold (abi : Abi) where
  scene : SizeT abi
  sinceNs : U64
  holdNs : U64
  deriving DecidableEq, Repr

/-- The hold that a call asks for; a tick asks for none. -/
def request (runtime : CartRuntime abi) : Call → Option (Hold abi)
  | .tick _ => none
  | .requestNext nowNs holdNs =>
    some ⟨(runtime.sceneIndex + 1) % runtime.sceneCount, nowNs, holdNs⟩
  | .requestPrevious nowNs holdNs =>
    some ⟨(runtime.sceneIndex + runtime.sceneCount - 1) % runtime.sceneCount, nowNs, holdNs⟩

/-- The request that a call makes, when the guard accepts it. -/
def accepted (runtime : CartRuntime abi) (c : Call) : Option (Hold abi) :=
  if runtime.changeAllowed c.nowNs then runtime.request c else none

/-- The last request that the calls accept, after `last`. -/
def lastAccepted (runtime : CartRuntime abi) (last : Option (Hold abi)) :
    List Call → Option (Hold abi)
  | [] => last
  | c :: cs => (runtime.call c).lastAccepted ((runtime.accepted c).or last) cs

/-- The hold ends before the 64-bit clock does. -/
def Hold.InForce (hold : Hold abi) (nowNs : U64) : Prop :=
  0 < hold.holdNs.toNat ∧
    nowNs.toNat < min (hold.sinceNs.toNat + hold.holdNs.toNat) UINT64_MAX.toNat

instance (hold : Hold abi) (nowNs : U64) : Decidable (hold.InForce nowNs) :=
  inferInstanceAs (Decidable (_ ∧ _))

/-- The last of the changes is less than `minChangeNs` old. -/
def Recent (changes : List Nat) (minChangeNs nowNs : U64) : Prop :=
  ∃ t, changes.getLast? = some t ∧ nowNs.toNat < t + minChangeNs.toNat

/-- The scene of the rotation. -/
def rotation (count : SizeT abi) (originNs scenePeriodNs nowNs : U64) : Nat :=
  (nowNs.toNat - originNs.toNat) / scenePeriodNs.toNat % count.toNat

/-- What a runtime remembers of the calls up to `nowNs`: their changes and the last request
they accepted. -/
structure Policed (r : CartRuntime abi) (nowNs : U64) (changes : List Nat)
    (last : Option (Hold abi)) : Prop where
  sound : r.Sound
  framePeriod : r.framePeriodNs ≠ 0
  scenePeriod : r.scenePeriodNs ≠ 0
  since : r.originNs ≤ nowNs
  remembered : changes.getLast? = if r.hadChange then some r.lastChangeNs.toNat else none
  ascending : ∀ t ∈ changes, t ≤ r.lastChangeNs.toNat
  past : ∀ t ∈ changes, t ≤ nowNs.toNat
  held : r.manualHoldActive = true → ∃ hold, last = some hold ∧ 0 < hold.holdNs.toNat ∧
    r.manualHoldUntilNs = addSaturating hold.sinceNs hold.holdNs ∧ r.sceneIndex = hold.scene
  free : r.manualHoldActive = false → ∀ hold, last = some hold → ¬ hold.InForce nowNs

theorem addSaturating_toNat (a b : U64) :
    (addSaturating a b).toNat = min (a.toNat + b.toNat) UINT64_MAX.toNat := by
  have all : UINT64_MAX.toNat = 18446744073709551615 := rfl
  unfold addSaturating
  split
  · next wraps =>
    have wraps : ¬ a.toNat + b.toNat ≤ UINT64_MAX.toNat := by
      rw [← fits_iff]
      exact not_not_intro wraps
    omega
  · next fits =>
    have fits := (fits_iff a b).mp fits
    rw [BitVec.toNat_add]
    omega

theorem Hold.InForce.earlier {hold : Hold abi} {nowNs laterNs : U64} (h : hold.InForce laterNs)
    (later : nowNs ≤ laterNs) : hold.InForce nowNs :=
  ⟨h.1, Nat.lt_of_le_of_lt later h.2⟩

/-- The runtime holds a scene when the last request it accepted is in force. -/
theorem Policed.holding_iff {r : CartRuntime abi} {sinceNs nowNs : U64} {changes : List Nat}
    {last : Option (Hold abi)} (h : Policed r sinceNs changes last) (later : sinceNs ≤ nowNs) :
    r.Holding nowNs ↔ ∃ hold, last = some hold ∧ hold.InForce nowNs := by
  unfold Holding
  constructor
  · rintro ⟨active, before⟩
    obtain ⟨hold, accepted, positive, until', -⟩ := h.held active
    rw [until', BitVec.lt_def, addSaturating_toNat] at before
    exact ⟨hold, accepted, positive, before⟩
  · rintro ⟨hold, accepted, inForce⟩
    cases active : r.manualHoldActive with
    | false => exact absurd (inForce.earlier later) (h.free active hold accepted)
    | true =>
      obtain ⟨hold', accepted', -, until', -⟩ := h.held active
      obtain rfl := Option.some.inj (accepted.symm.trans accepted')
      refine ⟨rfl, ?_⟩
      rw [until', BitVec.lt_def, addSaturating_toNat]
      exact inForce.2

/-- The guard lets a change pass when the last one is not recent. -/
theorem Policed.changeAllowed_iff {r : CartRuntime abi} {sinceNs nowNs : U64}
    {changes : List Nat} {last : Option (Hold abi)} (h : Policed r sinceNs changes last)
    (later : sinceNs ≤ nowNs) :
    r.changeAllowed nowNs = true ↔ ¬ Recent changes r.minChangeNs nowNs := by
  have remembered := h.remembered
  unfold Recent
  rw [remembered]
  cases had : r.hadChange with
  | false => simp [changeAllowed, had]
  | true =>
    rw [had] at remembered
    have past := h.past _ (List.mem_of_getLast? remembered)
    have later : sinceNs.toNat ≤ nowNs.toNat := later
    have forward : ¬ nowNs < r.lastChangeNs := by
      bv_omega
    have elapsed : (nowNs - r.lastChangeNs).toNat = nowNs.toNat - r.lastChangeNs.toNat := by
      bv_omega
    simp only [changeAllowed, had, if_neg forward, if_true, Option.some.injEq, exists_eq_left']
    split
    · next unlimited =>
      rw [unlimited]
      simp only [true_iff]
      bv_omega
    · simp only [Bool.not_true, Bool.false_eq_true, if_false, decide_eq_true_eq]
      rw [BitVec.le_def, elapsed]
      omega

/-- A tick without a hold shows the scene of the rotation, if the guard lets it. -/
theorem tickScene_selects {r : CartRuntime abi} {nowNs : U64} (free : ¬ r.Holding nowNs) :
    (r.tickScene nowNs).sceneIndex =
      if r.automatic nowNs ≠ r.sceneIndex ∧ ¬ r.changeAllowed nowNs = true then r.sceneIndex
      else r.automatic nowNs := by
  generalize hf : { r with frame := (nowNs - r.originNs) / r.framePeriodNs } = f
  obtain ⟨active, expired, holding⟩ := expireHold_eq f nowNs
  simp only [tickScene, hf]
  generalize f.expireHold nowNs = g at expired
  have flag : ¬ g.manualHoldActive = true := by
    rw [expired, holding, ← hf]
    exact free
  have scene : g.sceneIndex = r.sceneIndex := by rw [expired, ← hf]
  have wanted : g.automatic nowNs = r.automatic nowNs := by rw [expired, ← hf]; rfl
  have allowed : g.changeAllowed nowNs = r.changeAllowed nowNs := by rw [expired, ← hf]; rfl
  rw [if_neg flag, wanted, allowed, scene]
  split
  · next other =>
    split
    · next open' => rw [if_neg fun refused => refused.2 open']
    · next refused => rw [if_pos ⟨other, refused⟩, scene]
  · next same =>
    rw [if_neg fun other => same other.1, scene]
    exact (Decidable.not_not.mp same).symm

theorem automatic_eq_rotation {r : CartRuntime abi} (nonempty : r.sceneCount ≠ 0) {nowNs : U64}
    (since : r.originNs ≤ nowNs) :
    (r.automatic nowNs).toNat =
      rotation r.sceneCount r.originNs r.scenePeriodNs nowNs := by
  have elapsed : (nowNs - r.originNs).toNat = nowNs.toNat - r.originNs.toNat := by
    bv_omega
  rw [automatic_toNat r nowNs nonempty, elapsed, rotation]

/-- A request that is accepted selects its scene, and one that is refused does nothing. -/
theorem call_request {r : CartRuntime abi} (nonempty : r.sceneCount ≠ 0) {c : Call}
    {hold : Hold abi} (asks : r.request c = some hold) :
    hold.sinceNs = c.nowNs ∧
      r.call c = if r.changeAllowed c.nowNs then
        r.selectManual hold.scene hold.sinceNs hold.holdNs else r := by
  cases c with
  | tick nowNs => cases asks
  | requestNext nowNs holdNs =>
    obtain rfl := Option.some.inj asks
    refine ⟨rfl, ?_⟩
    simp only [call, Call.nowNs, requestNext, if_neg nonempty]
    by_cases allowed : r.changeAllowed nowNs = true
    · simp [allowed]
    · simp [allowed]
  | requestPrevious nowNs holdNs =>
    obtain rfl := Option.some.inj asks
    refine ⟨rfl, ?_⟩
    simp only [call, Call.nowNs, requestPrevious, if_neg nonempty]
    by_cases allowed : r.changeAllowed nowNs = true
    · simp [allowed]
    · simp [allowed]

theorem changeTimes_cons (r : CartRuntime abi) (c : Call) (cs : List Call) :
    r.changeTimes (c :: cs) = r.changeTimes [c] ++ (r.call c).changeTimes cs := by
  simp only [changeTimes]
  split <;> rfl

/-- The guard remembers the changes of a call; what is left is the hold. -/
theorem Policed.next {r : CartRuntime abi} {sinceNs : U64} {changes : List Nat}
    {last last' : Option (Hold abi)} (h : Policed r sinceNs changes last) {c : Call}
    (later : sinceNs ≤ c.nowNs)
    (held : (r.call c).manualHoldActive = true → ∃ hold, last' = some hold ∧
      0 < hold.holdNs.toNat ∧
      (r.call c).manualHoldUntilNs = addSaturating hold.sinceNs hold.holdNs ∧
      (r.call c).sceneIndex = hold.scene)
    (free : (r.call c).manualHoldActive = false →
      ∀ hold, last' = some hold → ¬ hold.InForce c.nowNs) :
    Policed (r.call c) c.nowNs (changes ++ r.changeTimes [c]) last' := by
  have later' : sinceNs.toNat ≤ c.nowNs.toNat := later
  have past : ∀ t ∈ changes, t ≤ c.nowNs.toNat := fun t member =>
    Nat.le_trans (h.past t member) later'
  have since := BitVec.le_trans h.since later
  obtain ⟨setup, sound, change⟩ := call_outcome h.sound since
  refine ⟨sound, ?_, ?_, ?_, ?_, ?_, ?_, held, free⟩
  · rw [setup.framePeriodNs]
    exact h.framePeriod
  · rw [setup.scenePeriodNs]
    exact h.scenePeriod
  · rwa [setup.originNs]
  all_goals
    cases change with
    | inl kept =>
      have none : r.changeTimes [c] = [] := by
        simp [changeTimes, kept.sceneIndex]
      rw [none, List.append_nil]
      first
        | rw [kept.hadChange, kept.lastChangeNs]; exact h.remembered
        | rw [kept.lastChangeNs]; exact h.ascending
        | exact past
    | inr committed =>
      have one : r.changeTimes [c] = [c.nowNs.toNat] := by
        simp [changeTimes, committed.moved]
      have bound : ∀ t ∈ changes ++ [c.nowNs.toNat], t ≤ c.nowNs.toNat := by
        intro t member
        obtain old | new := List.mem_append.mp member
        · exact past t old
        · exact Nat.le_of_eq (List.mem_singleton.mp new)
      rw [one]
      first
        | rw [committed.hadChange, committed.lastChangeNs, List.getLast?_concat]; rfl
        | rw [committed.lastChangeNs]; exact bound
        | exact bound

theorem tick_policed {r : CartRuntime abi} {sinceNs nowNs : U64} {changes : List Nat}
    {last : Option (Hold abi)} (h : Policed r sinceNs changes last) (later : sinceNs ≤ nowNs) :
    Policed (r.call (.tick nowNs)) nowNs (changes ++ r.changeTimes [.tick nowNs]) last := by
  have tick := tick_halves h.sound h.framePeriod h.scenePeriod nowNs
  rw [clampNow_eq (BitVec.le_trans h.since later)] at tick
  obtain ⟨-, -, until', active⟩ := tickScene_clock r nowNs
  obtain ⟨-, kept, active', -, until'', -⟩ := tickDeadline_keeps (r.tickScene nowNs) nowNs
  have holding : (r.call (.tick nowNs)).manualHoldActive = true ↔ r.Holding nowNs := by
    rw [call, tick, active', active]
  refine h.next (c := .tick nowNs) later ?_ ?_
  · intro on
    have inForce := holding.mp on
    obtain ⟨hold, accepted, positive, expires, scene⟩ := h.held inForce.1
    refine ⟨hold, accepted, positive, ?_, ?_⟩
    · rw [call, tick, until'', until', expires]
    · have same : (r.tickScene nowNs).sceneIndex = r.sceneIndex := Decidable.not_not.mp fun moved =>
        ((tickScene_moves h.sound nowNs).mp moved).1.1 inForce
      rw [call, tick, kept.sceneIndex, same, scene]
  · intro off hold accepted inForce
    have on := holding.mpr ((h.holding_iff later).mpr ⟨hold, accepted, inForce⟩)
    rw [off] at on
    cases on

theorem selectManual_hold (r : CartRuntime abi) (scene : SizeT abi) (nowNs holdNs : U64) :
    ((r.selectManual scene nowNs holdNs).manualHoldActive = true ↔ holdNs ≠ 0) ∧
      (holdNs ≠ 0 →
        (r.selectManual scene nowNs holdNs).manualHoldUntilNs = addSaturating nowNs holdNs) := by
  simp only [selectManual]
  by_cases none : holdNs = 0
  · rw [if_pos none]
    exact ⟨⟨fun active => absurd active Bool.false_ne_true, fun some => absurd none some⟩,
      fun some => absurd none some⟩
  · rw [if_neg none]
    exact ⟨⟨fun _ => none, fun _ => rfl⟩, fun _ => rfl⟩

theorem request_policed {r : CartRuntime abi} {sinceNs : U64} {c : Call} {changes : List Nat}
    {last : Option (Hold abi)} {hold : Hold abi} (h : Policed r sinceNs changes last)
    (later : sinceNs ≤ c.nowNs) (asks : r.request c = some hold) :
    Policed (r.call c) c.nowNs (changes ++ r.changeTimes [c]) ((r.accepted c).or last) := by
  obtain ⟨time, effect⟩ := call_request h.sound.nonempty asks
  unfold accepted
  split at effect
  · next allowed =>
    obtain ⟨active, until'⟩ := selectManual_hold r hold.scene hold.sinceNs hold.holdNs
    rw [if_pos allowed, asks, Option.some_or]
    refine h.next later ?_ ?_
    · rw [effect, active]
      intro some
      exact ⟨hold, rfl, (BitVec.toNat_pos _).mpr ((BitVec.pos_iff_ne_zero _).mpr some), until' some,
        selectManual_scene r _ _ _⟩
    · rw [effect]
      rintro off hold' same inForce
      obtain rfl := Option.some.inj same
      rw [Bool.eq_false_iff, ne_eq, active, Decidable.not_not] at off
      have positive := inForce.1
      rw [off] at positive
      exact absurd positive (by decide)
  · next refused =>
    rw [if_neg refused, Option.none_or]
    refine h.next later ?_ ?_
    · rw [effect]
      exact h.held
    · rw [effect]
      intro off hold' same inForce
      exact h.free off hold' same (inForce.earlier later)

theorem call_policed {r : CartRuntime abi} {sinceNs : U64} {c : Call} {changes : List Nat}
    {last : Option (Hold abi)} (h : Policed r sinceNs changes last) (later : sinceNs ≤ c.nowNs) :
    Policed (r.call c) c.nowNs (changes ++ r.changeTimes [c]) ((r.accepted c).or last) := by
  cases asks : r.request c with
  | some hold => exact request_policed h later asks
  | none =>
    have refused : r.accepted c = none := by
      rw [accepted, asks, ite_self]
    rw [refused, Option.none_or]
    cases c with
    | tick nowNs => exact tick_policed h later
    | requestNext nowNs holdNs => cases asks
    | requestPrevious nowNs holdNs => cases asks

theorem calls_policed {r : CartRuntime abi} {sinceNs : U64} {changes : List Nat}
    {last : Option (Hold abi)} (h : Policed r sinceNs changes last) (cs : List Call)
    (ordered : Ordered sinceNs cs) :
    Policed (r.calls cs) (lastNs sinceNs cs) (changes ++ r.changeTimes cs)
      (r.lastAccepted last cs) := by
  induction cs generalizing r sinceNs changes last with
  | nil => simpa [changeTimes, lastAccepted, lastNs] using h
  | cons c cs ih =>
    have next := ih (call_policed h ordered.1) ordered.2
    rw [List.append_assoc, ← changeTimes_cons] at next
    exact next

theorem init_policed {count : SizeT abi} {origin framePeriod scenePeriod minChange : U64}
    {r : CartRuntime abi} (h : init count origin framePeriod scenePeriod minChange = some r) :
    Policed r origin [] none := by
  have sound := (init_sound h).1
  simp only [init] at h
  split at h
  · cases h
  · next valid =>
    simp only [not_or] at valid
    obtain ⟨-, frames, scenes, -⟩ := valid
    obtain rfl := Option.some.inj h
    exact ⟨sound, frames, scenes, BitVec.le_refl _, rfl, by simp, by simp, by simp, by simp⟩

/-- What a tick shows, from the changes and the last accepted request before it. -/
theorem Policed.tick_shows {r : CartRuntime abi} {sinceNs nowNs : U64} {changes : List Nat}
    {last : Option (Hold abi)} (h : Policed r sinceNs changes last) (later : sinceNs ≤ nowNs) :
    (∀ hold, last = some hold → hold.InForce nowNs → (r.tick nowNs).1.sceneIndex = hold.scene) ∧
      ((∀ hold, last = some hold → ¬ hold.InForce nowNs) →
        (r.tick nowNs).1.sceneIndex =
          if r.automatic nowNs ≠ r.sceneIndex ∧ ¬ r.changeAllowed nowNs = true then r.sceneIndex
          else r.automatic nowNs) := by
  have tick := tick_halves h.sound h.framePeriod h.scenePeriod nowNs
  rw [clampNow_eq (BitVec.le_trans h.since later)] at tick
  have kept := (tickDeadline_keeps (r.tickScene nowNs) nowNs).2.1.sceneIndex
  rw [tick, kept]
  constructor
  · intro hold accepted inForce
    have holding := (h.holding_iff later).mpr ⟨hold, accepted, inForce⟩
    have same : (r.tickScene nowNs).sceneIndex = r.sceneIndex := Decidable.not_not.mp fun moved =>
      ((tickScene_moves h.sound nowNs).mp moved).1.1 holding
    obtain ⟨hold', accepted', -, -, scene⟩ := h.held holding.1
    obtain rfl := Option.some.inj (accepted.symm.trans accepted')
    rw [same, scene]
  · intro none
    apply tickScene_selects
    intro holding
    obtain ⟨hold, accepted, inForce⟩ := (h.holding_iff later).mp holding
    exact none hold accepted inForce

/-- No change is recent when the last one is not. -/
theorem Policed.recent_iff {r : CartRuntime abi} {sinceNs nowNs : U64} {changes : List Nat}
    {last : Option (Hold abi)} (h : Policed r sinceNs changes last) :
    ¬ Recent changes r.minChangeNs nowNs ↔
      ∀ t ∈ changes, t + r.minChangeNs.toNat ≤ nowNs.toNat := by
  unfold Recent
  constructor
  · intro old t member
    have remembered := h.remembered
    cases had : r.hadChange with
    | false =>
      rw [had] at remembered
      rw [List.getLast?_eq_none_iff.mp remembered] at member
      cases member
    | true =>
      rw [had] at remembered
      have bound := h.ascending t member
      have last := not_and.mp (not_exists.mp old _) remembered
      omega
  · rintro old ⟨t, last, recent⟩
    have bound := old t (List.mem_of_getLast? last)
    omega

/-- **The scene policy**: a request is accepted when no change is too recent, and otherwise
does nothing; a tick shows the scene of the last accepted request while that is held, and
otherwise the scene of the rotation, unless the last change is too recent. -/
theorem scene_policy {count : SizeT abi} {origin framePeriod scenePeriod minChange : U64}
    {r : CartRuntime abi} (start : init count origin framePeriod scenePeriod minChange = some r)
    (cs : List Call) (c : Call) (ordered : Ordered origin (cs ++ [c])) :
    let before := r.calls cs
    let after := before.call c
    (∀ hold, before.request c = some hold →
      (before.accepted c = some hold ↔
        ∀ t ∈ r.changeTimes cs, t + minChange.toNat ≤ c.nowNs.toNat) ∧
      (before.accepted c = some hold → after.sceneIndex = hold.scene) ∧
      (before.accepted c = none → after = before)) ∧
    ∀ nowNs, c = .tick nowNs →
      (∀ hold, r.lastAccepted none cs = some hold → hold.InForce nowNs →
        after.sceneIndex = hold.scene) ∧
      ((∀ hold, r.lastAccepted none cs = some hold → ¬ hold.InForce nowNs) →
        (before.sceneIndex.toNat ≠ rotation count origin scenePeriod nowNs ∧
            Recent (r.changeTimes cs) minChange nowNs →
          after.sceneIndex = before.sceneIndex) ∧
        (¬ (before.sceneIndex.toNat ≠ rotation count origin scenePeriod nowNs ∧
            Recent (r.changeTimes cs) minChange nowNs) →
          after.sceneIndex.toNat = rotation count origin scenePeriod nowNs)) := by
  dsimp only
  obtain ⟨past, later, -⟩ := Ordered.append.mp ordered
  have policed := calls_policed (init_policed start) cs past
  obtain ⟨setup, sound⟩ := calls_setup (init_sound start).1 cs
  obtain ⟨-, originNs, minChangeNs, -, sceneCount, -⟩ := init_sound start
  rw [List.nil_append] at policed
  generalize r.calls cs = before at policed setup sound ⊢
  have minChangeNs := setup.minChangeNs.trans minChangeNs
  constructor
  · intro hold asks
    obtain ⟨time, effect⟩ := call_request sound.nonempty asks
    rw [← minChangeNs, ← policed.recent_iff, ← policed.changeAllowed_iff later, accepted, asks]
    by_cases open' : before.changeAllowed c.nowNs = true
    · rw [if_pos open'] at effect ⊢
      refine ⟨⟨fun _ => open', fun _ => rfl⟩, fun _ => ?_, fun refused => absurd refused (by simp)⟩
      rw [effect, selectManual_scene]
    · rw [if_neg open'] at effect ⊢
      exact ⟨⟨fun same => absurd same (by simp), fun other => absurd other open'⟩,
        fun same => absurd same (by simp), fun _ => effect⟩
  · rintro nowNs rfl
    have later : lastNs origin cs ≤ nowNs := later
    obtain ⟨held, free⟩ := policed.tick_shows later
    refine ⟨held, fun none => ?_⟩
    have wanted := automatic_eq_rotation sound.nonempty (BitVec.le_trans policed.since later)
    rw [setup.sceneCount, sceneCount, setup.originNs, originNs, setup.scenePeriodNs,
      (init_periods start).2] at wanted
    have different : before.sceneIndex.toNat ≠ (before.automatic nowNs).toNat ↔
        before.automatic nowNs ≠ before.sceneIndex := by
      rw [ne_comm, Ne, BitVec.toNat_inj]
    have refused : Recent (r.changeTimes cs) before.minChangeNs nowNs ↔
        ¬ before.changeAllowed nowNs = true := by
      rw [policed.changeAllowed_iff later, Classical.not_not]
    rw [← wanted, ← minChangeNs, different, call, free none, refused]
    exact ⟨fun kept => if_pos kept, fun moves => by rw [if_neg moves]⟩

/-- A request is held against the rotation, a second comes too early, and once the hold has
run out the rotation goes on. -/
theorem scene_policy_run : ∃ r : CartRuntime .ilp32, init 6 0 10 100 500 = some r ∧
    (r.calls [.requestPrevious 1000 600, .tick 1200, .requestNext 1300 0, .tick 1599]).sceneIndex =
      5 ∧
    ((r.calls [.requestPrevious 1000 600, .tick 1200, .requestNext 1300 0]).call
      (.tick 1599)).sceneIndex = 5 := by
  have start : init (6 : SizeT .ilp32) 0 10 100 500 = some _ := rfl
  refine ⟨_, start, by decide, ?_⟩
  exact ((scene_policy start [.requestPrevious 1000 600, .tick 1200, .requestNext 1300 0]
    (.tick 1599) (by decide)).2 1599 rfl).1 ⟨5, 1000, 600⟩ (by decide) (by decide)

end VitaLinux.Cart.CartRuntime
