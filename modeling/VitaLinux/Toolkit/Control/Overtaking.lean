import VitaLinux.Toolkit.Control.Next

/-!
# The interval between two triggers

The clock is read before the lock is taken, and the check lets every reading through
that is older than the one in the file. While nobody is overtaken between the two,
any two invocations that send the signal are an interval apart (`signals_apart`); an
overtaken one gets through whatever the interval is.
-/

namespace VitaLinux.Toolkit.Control

variable {ι : Type*} [DecidableEq ι] {interval : MinInterval}

/-- One invocation moves while all others stand still. -/
def System.lone (s : System ι) (i : ι) (p : Phase) (file : List UInt8) (lock : Option ι) :
    System ι :=
  { s with phase := Function.update s.phase i p, state := file, lock := lock }

theorem System.lone_phase (s : System ι) (i : ι) (p : Phase) (file : List UInt8)
    (lock : Option ι) : (s.lone i p file lock).phase i = p := Function.update_self ..

theorem System.lone_deciding {s : System ι} {i : ι} {p : Phase} {file : List UInt8}
    {lock : Option ι} (others : ∀ j, j ≠ i → (s.phase j).deciding = none)
    (settled : p.deciding = none) (j : ι) : ((s.lone i p file lock).phase j).deciding = none := by
  unfold System.lone
  by_cases me : j = i
  · simp [me, settled]
  · simp [Function.update_of_ne me, others j me]

/-- From the clock reading on, an invocation that the check lets through takes the lock,
writes its reading and sends the signal. It decides in one state only (`allowed` is asked of
that one, and of every state in which nobody decides). -/
theorem triggers {s : System ι} {i : ι} {now_ns : U64} {allowed : System ι → Prop}
    (here : s.phase i = .clocked now_ns) (free : s.lock = none)
    (check : rateLimited interval now_ns s.state = none)
    (others : ∀ j, j ≠ i → (s.phase j).deciding = none)
    (quiet : ∀ t : System ι, (∀ j, (t.phase j).deciding = none) → allowed t)
    (decides : allowed (s.lone i (.locked now_ns) s.state (some i))) :
    Relation.ReflTransGen (fun a b => allowed a ∧ Step interval a b) s
      (s.lone i (.signalled now_ns) (nowText now_ns) none) := by
  have start : ∀ j, (s.phase j).deciding = none := by
    intro j
    by_cases me : j = i
    · rw [me, here]
      rfl
    · exact others j me
  have at_i := s.lone_phase i
  have opens : Step interval s (s.lone i (.opened now_ns) s.state none) := by
    simpa [System.lone, System.move, free] using (Step.openState s i now_ns here : Step interval ..)
  have locks : Step interval (s.lone i (.opened now_ns) s.state none)
      (s.lone i (.locked now_ns) s.state (some i)) := by
    simpa [System.lone, System.move] using
      (Step.takeLock (s.lone i (.opened now_ns) s.state none) i now_ns (at_i ..) rfl :
        Step interval ..)
  have grants : Step interval (s.lone i (.locked now_ns) s.state (some i))
      (s.lone i (.granted now_ns) s.state (some i)) := by
    simpa [System.lone, System.move] using
      Step.grant (s.lone i (.locked now_ns) s.state (some i)) i now_ns (at_i ..) check
  have truncates : Step interval (s.lone i (.granted now_ns) s.state (some i))
      (s.lone i (.truncated now_ns) [] (some i)) := by
    simpa [System.lone, System.move] using
      (Step.truncate (s.lone i (.granted now_ns) s.state (some i)) i now_ns (at_i ..) :
        Step interval ..)
  have writes : Step interval (s.lone i (.truncated now_ns) [] (some i))
      (s.lone i (.written now_ns) (nowText now_ns) (some i)) := by
    simpa [System.lone, System.move] using
      (Step.write (s.lone i (.truncated now_ns) [] (some i)) i now_ns (at_i ..) :
        Step interval ..)
  have unlocks : Step interval (s.lone i (.written now_ns) (nowText now_ns) (some i))
      (s.lone i (.allowed now_ns) (nowText now_ns) none) := by
    simpa [System.lone, System.move] using
      (Step.unlockWritten (s.lone i (.written now_ns) (nowText now_ns) (some i)) i now_ns
        (at_i ..) : Step interval ..)
  have signals : Step interval (s.lone i (.allowed now_ns) (nowText now_ns) none)
      (s.lone i (.signalled now_ns) (nowText now_ns) none) := by
    simpa [System.lone, System.move] using
      (Step.signal (s.lone i (.allowed now_ns) (nowText now_ns) none) i now_ns (at_i ..) :
        Step interval ..)
  have settled : ∀ (p : Phase) (file : List UInt8) (lock : Option ι), p.deciding = none →
      allowed (s.lone i p file lock) :=
    fun p file lock none => quiet _ (System.lone_deciding others none)
  refine .head ⟨quiet s start, opens⟩ ?_
  refine .head ⟨settled _ _ _ rfl, locks⟩ ?_
  refine .head ⟨decides, grants⟩ ?_
  refine .head ⟨settled _ _ _ rfl, truncates⟩ ?_
  refine .head ⟨settled _ _ _ rfl, writes⟩ ?_
  refine .head ⟨settled _ _ _ rfl, unlocks⟩ ?_
  exact .single ⟨settled _ _ _ rfl, signals⟩

/-- The check is no obstacle to a reading that is older than the one in the file. -/
theorem rateLimited_of_older {now_ns previous_ns : U64} (older : now_ns < previous_ns) :
    rateLimited interval now_ns (nowText previous_ns) = none := by
  unfold rateLimited
  rw [parseUnsigned_nowText]
  have order : ¬ now_ns ≥ previous_ns := BitVec.not_le.mpr older
  simp [order]

omit [DecidableEq ι] in
theorem System.not_overtaken {s : System ι} (h : ∀ j, (s.phase j).deciding = none) :
    ¬ s.Overtaken := by
  rintro ⟨i, _, now_ns, _, deciding, _⟩
  rw [h i] at deciding
  cases deciding

/-- An invocation that decides alone, after every reading let through, is not overtaken. -/
theorem System.lone_not_overtaken {s : System ι} {i : ι} {now_ns : U64}
    (others : ∀ j, j ≠ i → (s.phase j).deciding = none)
    (last : ∀ j b, s.admitted j = some b → b ≤ now_ns) (file : List UInt8) (lock : Option ι) :
    ¬ (s.lone i (.locked now_ns) file lock).Overtaken := by
  rintro ⟨k, j, a, b, deciding, through, order⟩
  have me : k = i := by
    by_contra other
    unfold System.lone at deciding
    simp only [Function.update_of_ne other, others k other] at deciding
    cases deciding
  subst me
  rw [System.lone_phase] at deciding
  cases deciding
  by_cases same : j = k
  · subst same
    rw [System.admitted, System.lone_phase] at through
    cases through
  · have before : s.admitted j = some b := by
      unfold System.admitted System.lone at through
      unfold System.admitted
      simpa only [Function.update_of_ne same] using through
    exact absurd order (BitVec.not_lt.mpr (last j b before))

/-- Nobody overtaken, any two invocations that send the signal read the clock an interval
apart. -/
theorem signals_apart {s t : System ι} (initial : s.Initial)
    (run : Relation.ReflTransGen (FairStep interval) s t) {i j : ι} (different : i ≠ j)
    {a b : U64} (first : t.phase i = .signalled a) (second : t.phase j = .signalled b) :
    Apart interval a b := by
  have limiting := reachable_limiting initial run
  apply limiting.apart i j different
  · rw [System.admitted, first]
    rfl
  · rw [System.admitted, second]
    rfl

/-- Two invocations before their start, at boot. -/
def atBoot : System Bool :=
  { clock := 0, state := [], lock := none, phase := fun _ => .start }

/-- The interval of `load_interval` when none is given. -/
def halfSecond : MinInterval := { ms := 500, bounded := by decide }

theorem signals_apart_one_after_the_other :
    ∃ t : System Bool, Relation.ReflTransGen (FairStep halfSecond) atBoot t ∧
      t.phase false = .signalled 0 ∧ t.phase true = .signalled 500000000 ∧
      Apart halfSecond 0 500000000 := by
  have quiet : ∀ t : System Bool, (∀ j, (t.phase j).deciding = none) → ¬ t.Overtaken :=
    fun t => System.not_overtaken
  let clocked : System Bool := atBoot.move false (.clocked 0)
  have reads : FairStep halfSecond atBoot clocked :=
    ⟨quiet _ fun _ => rfl, .readClock atBoot false rfl⟩
  have alone : ∀ j, j ≠ false → (clocked.phase j).deciding = none := by decide
  have first : Relation.ReflTransGen (FairStep halfSecond) clocked
      (clocked.lone false (.signalled 0) (nowText 0) none) :=
    triggers rfl rfl (by decide) alone quiet
      (System.lone_not_overtaken alone (fun j b h => by cases j <;> cases h) _ _)
  let signalled := clocked.lone false (.signalled 0) (nowText 0) none
  let later : System Bool := { signalled with clock := 500000000 }
  have passes : FairStep halfSecond signalled later :=
    ⟨quiet _ (by decide), .tick signalled 500000000 (by decide)⟩
  let again : System Bool := later.move true (.clocked 500000000)
  have rereads : FairStep halfSecond later again :=
    ⟨quiet _ (by decide), .readClock later true rfl⟩
  have others : ∀ j, j ≠ true → (again.phase j).deciding = none := by decide
  have order : ∀ j b, again.admitted j = some b → b ≤ 500000000 := by
    intro j b through
    cases j <;> cases through
    decide
  have second : Relation.ReflTransGen (FairStep halfSecond) again
      (again.lone true (.signalled 500000000) (nowText 500000000) none) :=
    triggers rfl rfl (by decide) others quiet (System.lone_not_overtaken others order _ _)
  have run := (Relation.ReflTransGen.head reads first).trans
    (.head passes (.head rereads second))
  exact ⟨_, run, rfl, rfl, signals_apart ⟨rfl, fun _ => rfl⟩ run Bool.false_ne_true rfl rfl⟩

/-- The second invocation starts 100 ms after the first has read the clock, and is the first
to take the lock: both send the signal. -/
theorem overtaken_signals :
    ¬ ∀ (interval : MinInterval) (s t : System Bool), s.Initial →
      Relation.ReflTransGen (Step interval) s t → ∀ i j, i ≠ j → ∀ a b,
        t.phase i = .signalled a → t.phase j = .signalled b → Apart interval a b := by
  intro claimed
  let clocked : System Bool := atBoot.move false (.clocked 0)
  let later : System Bool := { clocked with clock := 100000000 }
  let both : System Bool := later.move true (.clocked 100000000)
  have reads : Relation.ReflTransGen (Step halfSecond) atBoot both :=
    .head (.readClock atBoot false rfl) (.head (.tick clocked 100000000 (by decide))
      (.single (.readClock later true rfl)))
  have second : Relation.ReflTransGen (fun a b => True ∧ Step halfSecond a b) both
      (both.lone true (.signalled 100000000) (nowText 100000000) none) :=
    triggers rfl rfl (by decide) (by decide) (fun _ _ => trivial) trivial
  let overtaken := both.lone true (.signalled 100000000) (nowText 100000000) none
  have older : (0 : U64) < 100000000 := by decide
  have check : rateLimited halfSecond 0 overtaken.state = none := rateLimited_of_older older
  have first : Relation.ReflTransGen (fun a b => True ∧ Step halfSecond a b) overtaken
      (overtaken.lone false (.signalled 0) (nowText 0) none) :=
    triggers rfl rfl check (by decide) (fun _ _ => trivial) trivial
  have unguarded : ∀ a b : System Bool, True ∧ Step halfSecond a b → Step halfSecond a b :=
    fun _ _ step => step.2
  have run := reads.trans (Relation.ReflTransGen.mono unguarded _ _ (second.trans first))
  have apart := claimed halfSecond atBoot _ ⟨rfl, fun _ => rfl⟩ run false true
    Bool.false_ne_true 0 100000000 rfl rfl
  exact absurd apart (by unfold Apart; decide)

end VitaLinux.Toolkit.Control
