import VitaLinux.Cart.Input.Descriptors
import VitaLinux.Cart.Input.RecordFraming

/-!
# Every record once, whatever the reads return

Through polls, disconnects, discoveries and shutdowns the events consumed from a
descriptor are the records of its stream since it was opened, in order. The buffer of a
slot holds the tail of its own stream.
-/

namespace VitaLinux.Cart

open Base

/-- The streams of all descriptors are framed, as far as they were drained. -/
structure InputEngine.Framed (abi : Abi) (ops : CartInputOps) (engine : InputEngine) : Prop where
  slots : ∀ index, 0 ≤ (engine.source index).fd →
    Cut abi ops (engine.source index).fd index engine
  /-- A descriptor that no slot holds. -/
  rest : ∀ fd, 0 ≤ fd → (∀ index, (engine.source index).fd ≠ fd) →
    (framing fd engine.trace).consumed = eventsIn abi (framing fd engine.trace).bytes
  reads : ReadsFit abi ops engine.trace

/-- No slot buffers a whole record. -/
def InputEngine.Drained (abi : Abi) (engine : InputEngine) : Prop :=
  ∀ index, 0 ≤ (engine.source index).fd → (engine.buffer index).length < inputEventSize abi

section Polling

variable {abi : Abi} {ops : CartInputOps} {engine engine' : InputEngine}

/-- What another slot's stream needs to stay as it is. -/
theorem Cut.kept {fd : Int} {index : SourceIndex} (h : Cut abi ops fd index engine)
    (source : engine'.source index = engine.source index)
    (buffer : engine'.buffer index = engine.buffer index)
    (same : framing fd engine'.trace = framing fd engine.trace)
    (reads : ReadsFit abi ops engine'.trace) : Cut abi ops fd index engine' where
  holds := by rw [source, h.holds]
  records := by
    rw [same, buffer]
    exact h.records
  tail := by
    rw [same, buffer]
    exact h.tail
  within := by
    rw [buffer]
    exact h.within
  reads := reads

/-- Two slots do not hold one descriptor. -/
theorem InputEngine.Sound.apart (sound : engine.Sound) {index other : SourceIndex}
    (different : other ≠ index) (held : 0 ≤ (engine.source index).fd) :
    (engine.source other).fd ≠ (engine.source index).fd := by
  intro same
  have holds : engine.holds index = some (engine.source index).fd :=
    CartInputSource.holds_iff.mpr ⟨rfl, held⟩
  have still := sound.held.mem_slot (i := index) holds
  obtain ⟨owner, _, unique⟩ := sound.held.unique still
  have first : index = owner := unique index holds
  have second : other = owner := unique other (CartInputSource.holds_iff.mpr ⟨same, held⟩)
  exact different (second.trans first.symm)

/-- A pump changes its own slot and stream. -/
structure Pumped (index : SourceIndex) (fd : Int) (engine engine' : InputEngine) : Prop where
  source : ∀ other, other ≠ index → engine'.source other = engine.source other
  buffer : ∀ other, other ≠ index → engine'.buffer other = engine.buffer other
  framing : ∀ other, other ≠ fd → framing other engine'.trace = framing other engine.trace

theorem pumpSource_pumped (abi : Abi) (ops : CartInputOps) (index : SourceIndex) (fuel : Nat)
    (engine : InputEngine) :
    Pumped index (engine.source index).fd engine (pumpSource abi ops index fuel engine).1 := by
  obtain ⟨served, serves, ends⟩ := pumpSource_serves abi ops index fuel engine
  obtain ⟨steps, trace, each⟩ := serves.trace
  have streams : ∀ other, other ≠ (engine.source index).fd →
      framing other served.trace = framing other engine.trace := by
    intro other different
    rw [trace]
    exact framing_serves different each
  obtain e | e := ends
  · rw [e]
    exact ⟨serves.source, serves.buffer, streams⟩
  · rw [e]
    constructor
    · intro other different
      rw [handleDisconnect_source_of_ne _ _ different, serves.source other different]
    · intro other different
      rw [handleDisconnect_buffer_of_ne _ _ different, serves.buffer other different]
    · intro other different
      obtain same | closed := handleDisconnect_trace served index
      · rw [same]
        exact streams other different
      · rw [closed]
        exact streams other different

theorem pumpSource_framed {index : SourceIndex} (fuel : Nat) (sound : engine.Sound)
    (framed : engine.Framed abi ops) (connected : 0 ≤ (engine.source index).fd) :
    (pumpSource abi ops index fuel engine).1.Framed abi ops ∧
      (engine.Drained abi → (pumpSource abi ops index fuel engine).2 = true →
        (pumpSource abi ops index fuel engine).1.Drained abi) := by
  have pumped := pumpSource_pumped abi ops index fuel engine
  have own := pumpSource_cut fuel (framed.slots index connected)
  generalize pumpSource abi ops index fuel engine = result at pumped own ⊢
  have reads : ReadsFit abi ops result.1.trace := by
    obtain ⟨cut, _⟩ | lost := own
    · exact cut.reads
    · exact lost.reads
  refine ⟨⟨?_, ?_, reads⟩, ?_⟩
  · intro other present
    by_cases same : other = index
    · subst same
      obtain ⟨cut, _⟩ | lost := own
      · rw [cut.holds]
        exact cut
      · rw [lost.free] at present
        exact absurd present (by decide)
    · rw [pumped.source other same] at present ⊢
      exact (framed.slots other present).kept (pumped.source other same)
        (pumped.buffer other same) (pumped.framing _ (sound.apart same connected)) reads
  · intro fd nonneg nobody
    by_cases same : fd = (engine.source index).fd
    · obtain ⟨cut, _⟩ | lost := own
      · exact absurd (cut.holds.trans same.symm) (nobody index)
      · rw [same]
        exact lost.records
    · rw [pumped.framing fd same]
      apply framed.rest fd nonneg
      intro other held
      by_cases here : other = index
      · exact same (by rw [← held, here])
      · exact nobody other (by rw [pumped.source other here, held])
  · intro drained returned other present
    by_cases same : other = index
    · subst same
      obtain ⟨_, short⟩ | lost := own
      · exact short returned
      · rw [lost.free] at present
        exact absurd present (by decide)
    · rw [pumped.source other same] at present
      rw [pumped.buffer other same]
      exact drained other present

theorem pollSources_framed (fuel : Nat) (indices : List SourceIndex) (sound : engine.Sound)
    (framed : engine.Framed abi ops) (drained : engine.Drained abi) :
    (pollSources abi ops fuel indices engine).1.Framed abi ops ∧
      ((pollSources abi ops fuel indices engine).2 = true →
        (pollSources abi ops fuel indices engine).1.Drained abi) := by
  induction indices generalizing engine with
  | nil => exact ⟨framed, fun _ => drained⟩
  | cons index indices ih =>
    simp only [pollSources]
    split
    · exact ih sound framed drained
    case isFalse present =>
      have connected := Int.not_lt.mp present
      split
      · exact ih sound framed drained
      · have sound' := pumpSource_sound sound abi ops index fuel connected
        obtain ⟨framed', drained'⟩ := pumpSource_framed fuel sound framed connected
        split
        case isTrue returned => exact ih sound' framed' (drained' drained returned)
        case isFalse => exact ⟨framed', fun returned => absurd returned Bool.false_ne_true⟩

theorem Framed.setPending (framed : engine.Framed abi ops) (pending : List CartInputAction) :
    (engine.setPending pending).Framed abi ops :=
  ⟨fun index present => (framed.slots index present).kept rfl rfl rfl framed.reads, framed.rest,
    framed.reads⟩

theorem cartInputPoll_framed (fuel : Nat) (sound : engine.Sound) (framed : engine.Framed abi ops)
    (drained : engine.Drained abi) :
    (cartInputPoll abi ops fuel engine).1.Framed abi ops ∧
      ((cartInputPoll abi ops fuel engine).2.isSome = true →
        (cartInputPoll abi ops fuel engine).1.Drained abi) := by
  obtain ⟨framed', drained'⟩ := pollSources_framed fuel (List.finRange 4) sound framed drained
  simp only [cartInputPoll]
  split
  case isTrue returned =>
    split
    · exact ⟨framed', fun _ => drained' returned⟩
    · exact ⟨Framed.setPending framed' _, fun _ => drained' returned⟩
  case isFalse => exact ⟨framed', fun returned => absurd returned Bool.false_ne_true⟩

end Polling

/-! ## Discovery -/

section Discovery

variable {abi : Abi} {ops : CartInputOps}

/-- What discovery does to the streams: those of the descriptors in use stay, every other
stays or starts afresh. -/
structure Discovers (abi : Abi) (ops : CartInputOps) (slot : SourceIndex → Option Int)
    (before after : InputTrace) : Prop where
  held : ∀ index fd, slot index = some fd → framing fd after = framing fd before
  fresh : ∀ fd, framing fd after = framing fd before ∨ framing fd after = .blank
  reads : ReadsFit abi ops after ↔ ReadsFit abi ops before

theorem Discovers.refl (abi : Abi) (ops : CartInputOps) (slot : SourceIndex → Option Int)
    (trace : InputTrace) : Discovers abi ops slot trace trace :=
  ⟨fun _ _ _ => rfl, fun _ => Or.inl rfl, Iff.rfl⟩

theorem Discovers.trans {slot : SourceIndex → Option Int} {first second third : InputTrace}
    (h : Discovers abi ops slot first second) (h' : Discovers abi ops slot second third) :
    Discovers abi ops slot first third where
  held := fun index fd holds => (h'.held index fd holds).trans (h.held index fd holds)
  fresh := by
    intro fd
    obtain same | blank := h'.fresh fd
    · rw [same]
      exact h.fresh fd
    · exact Or.inr blank
  reads := h'.reads.trans h.reads

/-- Opening a node and then only quiet steps. -/
theorem Discovers.opened (abi : Abi) {slot : SourceIndex → Option Int} {trace steps : InputTrace}
    {loose : List Int} (fresh : ops.Fresh) (held : Held (uses trace) slot loose) (node : String)
    (quiet : ∀ step ∈ steps, step.Quiet) :
    Discovers abi ops slot trace
        (steps ++ .opened node (ops.openNode trace node) :: trace) ∧
      framing (ops.openNode trace node)
        (steps ++ .opened node (ops.openNode trace node) :: trace) = .blank := by
  have streams (fd : Int) := framing_quiet abi ops fd
    (.opened node (ops.openNode trace node) :: trace) quiet
  have opened (fd : Int) : framing fd (.opened node (ops.openNode trace node) :: trace) =
      if ops.openNode trace node = fd then .blank else framing fd trace := rfl
  refine ⟨⟨?_, ?_, (streams 0).2⟩, ?_⟩
  · intro index fd holds
    have different : ops.openNode trace node ≠ fd := by
      intro same
      apply fresh trace node
      rw [same]
      exact held.mem_slot holds
    rw [(streams fd).1, opened, if_neg different]
  · intro fd
    rw [(streams fd).1, opened]
    split
    · exact Or.inr rfl
    · exact Or.inl rfl
  · rw [(streams _).1, opened, if_pos rfl]

theorem discoverEntry_discovers (abi : Abi) (fresh : ops.Fresh) {trace : InputTrace}
    {slot : SourceIndex → Option Int} {loose : List Int} (held : Held (uses trace) slot loose)
    (entry : DirEntry) :
    Discovers abi ops slot trace (discoverEntry ops entry trace).2 ∧
      ∀ candidate, (discoverEntry ops entry trace).1 = some candidate →
        framing candidate.fd (discoverEntry ops entry trace).2 = .blank := by
  obtain e | ⟨_, e⟩ | ⟨_, probed, asked, e⟩ | ⟨_, candidate, probed, asked, fd, _, e⟩ :=
    discoverEntry_cases ops entry trace
  · rw [e]
    exact ⟨.refl _ _ _ _, by simp⟩
  · rw [e]
    have nothing : ∀ step ∈ ([] : InputTrace), step.Quiet := by simp
    exact ⟨(Discovers.opened abi fresh held entry.name nothing).1, by simp⟩
  · obtain ⟨steps, rfl, quiet⟩ := asked.quiet
    have closing : ∀ step ∈ .closed (ops.openNode trace entry.name) :: steps, step.Quiet := by
      intro step member
      obtain rfl | later := List.mem_cons.mp member
      · trivial
      · exact quiet step later
    rw [e]
    exact ⟨(Discovers.opened abi fresh held entry.name closing).1, by simp⟩
  · obtain ⟨steps, rfl, quiet⟩ := asked.quiet
    obtain ⟨discovers, blank⟩ := Discovers.opened abi fresh held entry.name quiet
    rw [e]
    refine ⟨discovers, ?_⟩
    intro found same
    cases same
    rw [fd]
    exact blank

theorem discoverEntries_discovers (abi : Abi) (fresh : ops.Fresh) {slot : SourceIndex → Option Int}
    (entries : List DirEntry) :
    ∀ candidates trace, Held (uses trace) slot (candidates.map (·.fd)) →
      (∀ candidate ∈ candidates, framing candidate.fd trace = .blank) →
      Discovers abi ops slot trace (discoverEntries ops candidates trace entries).2 ∧
        ∀ candidate ∈ (discoverEntries ops candidates trace entries).1,
          framing candidate.fd (discoverEntries ops candidates trace entries).2 = .blank := by
  induction entries with
  | nil => exact fun _ _ _ blank => ⟨.refl _ _ _ _, blank⟩
  | cons entry entries ih =>
    intro candidates trace held blank
    simp only [discoverEntries]
    split
    · obtain ⟨discovers, found⟩ := discoverEntry_discovers abi fresh held entry
      have next : Held (uses (discoverEntry ops entry trace).2) slot
          ((candidates ++ (discoverEntry ops entry trace).1.toList).map (·.fd)) := by
        rw [List.map_append]
        exact (discoverEntry_held fresh held entry).perm List.perm_append_comm
      have blank' : ∀ candidate ∈ candidates ++ (discoverEntry ops entry trace).1.toList,
          framing candidate.fd (discoverEntry ops entry trace).2 = .blank := by
        intro candidate member
        obtain old | new := List.mem_append.mp member
        · obtain same | blank' := discovers.fresh candidate.fd
          · rw [same]
            exact blank candidate old
          · exact blank'
        · exact found candidate (Option.mem_toList.mp new)
      obtain ⟨later, blank''⟩ := ih _ _ next blank'
      exact ⟨discovers.trans later, blank''⟩
    · exact ⟨.refl _ _ _ _, blank⟩

theorem eventsIn_nil (abi : Abi) : eventsIn abi [] = [] :=
  eventsIn_of_short (inputEventSize_pos abi)

/-- A stream of which nothing was read, in a slot that buffers nothing. -/
theorem Cut.start {fd : Int} {index : SourceIndex} {engine : InputEngine}
    (holds : (engine.source index).fd = fd) (blank : framing fd engine.trace = .blank)
    (empty : engine.buffer index = []) (reads : ReadsFit abi ops engine.trace) :
    Cut abi ops fd index engine where
  holds := holds
  records := by
    rw [blank, empty, eventsIn_nil]
    exact (eventsIn_nil abi).symm
  tail := by
    rw [blank, empty]
    rfl
  within := by
    rw [empty]
    exact Nat.zero_le _
  reads := reads

/-- An engine whose free slots buffer nothing. -/
def InputEngine.FreeEmpty (engine : InputEngine) : Prop :=
  ∀ index, (engine.source index).fd < 0 → engine.buffer index = []

theorem InputEngine.Sound.freeEmpty {engine : InputEngine} (sound : engine.Sound) :
    engine.FreeEmpty := by
  intro index free
  apply (sound.sources index).buffer
  by_contra present
  exact absurd ((sound.sources index).connected.mpr present) (Int.not_le.mpr free)

theorem claimCandidate_framed {engine : InputEngine} {candidate : CartInputCandidate}
    (framed : engine.Framed abi ops) (drained : engine.Drained abi) (empty : engine.FreeEmpty)
    (blank : framing candidate.fd engine.trace = .blank) :
    (claimCandidate engine candidate).1.Framed abi ops ∧
      (claimCandidate engine candidate).1.Drained abi ∧
      (claimCandidate engine candidate).1.FreeEmpty ∧
      ∀ fd, framing fd (claimCandidate engine candidate).1.trace = framing fd engine.trace := by
  simp only [claimCandidate]
  cases free : firstFreeSlot engine.input with
  | none =>
    refine ⟨⟨?_, framed.rest, framed.reads⟩, drained, empty, fun _ => rfl⟩
    exact fun index present => (framed.slots index present).kept rfl rfl rfl framed.reads
  | some slot =>
    have unused : (engine.source slot).fd < 0 := firstFreeSlot_free free
    refine ⟨⟨?_, ?_, framed.reads⟩, ?_, ?_, fun _ => rfl⟩
    · intro index present
      by_cases same : index = slot
      · subst same
        apply Cut.start rfl
        · simpa [CartInputCandidate.claimed] using blank
        · exact empty index unused
        · exact framed.reads
      · have kept := InputEngine.source_setSource_of_ne engine candidate.claimed same
        rw [kept] at present ⊢
        exact (framed.slots index present).kept kept rfl rfl framed.reads
    · intro fd nonneg nobody
      apply framed.rest fd nonneg
      intro index held
      by_cases same : index = slot
      · subst same
        rw [held] at unused
        exact absurd nonneg (Int.not_le.mpr unused)
      · exact nobody index (by
          rw [InputEngine.source_setSource_of_ne engine candidate.claimed same, held])
    · intro index present
      by_cases same : index = slot
      · subst same
        have nothing : engine.buffer index = [] := empty index unused
        rw [InputEngine.buffer_setSource, nothing]
        exact inputEventSize_pos abi
      · rw [InputEngine.source_setSource_of_ne engine candidate.claimed same] at present
        exact drained index present
    · intro index still
      by_cases same : index = slot
      · subst same
        exact empty index unused
      · rw [InputEngine.source_setSource_of_ne engine candidate.claimed same] at still
        exact empty index still

theorem claimCandidates_framed (candidates : List CartInputCandidate) :
    ∀ engine : InputEngine, engine.Framed abi ops → engine.Drained abi → engine.FreeEmpty →
      (∀ candidate ∈ candidates, framing candidate.fd engine.trace = .blank) →
      (claimCandidates engine candidates).1.Framed abi ops ∧
        (claimCandidates engine candidates).1.Drained abi := by
  induction candidates with
  | nil => exact fun _ framed drained _ _ => ⟨framed, drained⟩
  | cons candidate candidates ih =>
    intro engine framed drained empty blank
    obtain ⟨framed', drained', empty', same⟩ :=
      claimCandidate_framed framed drained empty (blank candidate List.mem_cons_self)
    apply ih _ framed' drained' empty'
    intro other member
    rw [same]
    exact blank other (List.mem_cons_of_mem _ member)

theorem discoverPass_framed (fresh : ops.Fresh) {engine : InputEngine} (sound : engine.Sound)
    (framed : engine.Framed abi ops) (drained : engine.Drained abi) (listing : DirListing) :
    (discoverPass ops listing engine).2.Framed abi ops ∧
      (discoverPass ops listing engine).2.Drained abi := by
  cases listing with
  | missing => exact ⟨framed, drained⟩
  | unreadable => exact ⟨framed, drained⟩
  | entries entries =>
    obtain ⟨discovers, blank⟩ := discoverEntries_discovers abi fresh entries [] engine.trace
      sound.held (by simp)
    rw [discoverPass_entries]
    generalize discoverEntries ops [] engine.trace entries = found at discovers blank ⊢
    have reads : ReadsFit abi ops found.2 := discovers.reads.mpr framed.reads
    have gathered : ({ engine with trace := found.2 } : InputEngine).Framed abi ops := by
      refine ⟨?_, ?_, reads⟩
      · intro index present
        have holds : engine.holds index = some (engine.source index).fd :=
          CartInputSource.holds_iff.mpr ⟨rfl, present⟩
        exact (framed.slots index present).kept rfl rfl (discovers.held index _ holds) reads
      · intro fd nonneg nobody
        obtain same | new := discovers.fresh fd
        · rw [same]
          exact framed.rest fd nonneg nobody
        · rw [new]
          exact (eventsIn_nil abi).symm
    apply claimCandidates_framed _ _ gathered drained sound.freeEmpty
    intro candidate member
    exact blank candidate ((cartInputPlan_perm found.1 found.1.length).mem_iff.mp member)

end Discovery

/-! ## Runs -/

section Runs

variable {abi : Abi} {ops : CartInputOps} {engine : InputEngine}

theorem shutdownSource_framed (framed : engine.Framed abi ops) (drained : engine.Drained abi)
    (index : SourceIndex) :
    (shutdownSource engine index).Framed abi ops ∧ (shutdownSource engine index).Drained abi := by
  have source := shutdownSource_source engine index
  have buffer : (shutdownSource engine index).buffer = engine.buffer := by
    simp only [shutdownSource]
    split
    · rfl
    · rfl
  have quiet (fd : Int) : framing fd (shutdownSource engine index).trace =
      framing fd engine.trace := by
    simp only [shutdownSource]
    split
    · rfl
    · rfl
  have reads : ReadsFit abi ops (shutdownSource engine index).trace := by
    simp only [shutdownSource]
    split
    · exact framed.reads
    · exact framed.reads
  have reset : ((shutdownSource engine index).source index).fd = -1 := by
    rw [source, Function.update_self]
    rfl
  have kept {other : SourceIndex} (different : other ≠ index) :
      (shutdownSource engine index).source other = engine.source other := by
    rw [source, Function.update_of_ne different]
  refine ⟨⟨?_, ?_, reads⟩, ?_⟩
  · intro other present
    by_cases same : other = index
    · rw [same, reset] at present
      exact absurd present (by decide)
    · rw [kept same] at present ⊢
      exact (framed.slots other present).kept (kept same) (by rw [buffer]) (quiet _) reads
  · intro fd nonneg nobody
    rw [quiet]
    by_cases own : fd = (engine.source index).fd
    · rw [own] at nonneg ⊢
      exact ((framed.slots index nonneg).short (drained index nonneg)).1
    · apply framed.rest fd nonneg
      intro other held
      by_cases same : other = index
      · exact own (by rw [← held, same])
      · exact nobody other (by rw [kept same, held])
  · intro other present
    by_cases same : other = index
    · rw [same, reset] at present
      exact absurd present (by decide)
    · rw [kept same] at present
      rw [buffer]
      exact drained other present

theorem cartInputShutdown_framed (framed : engine.Framed abi ops) (drained : engine.Drained abi) :
    (cartInputShutdown engine).Framed abi ops ∧ (cartInputShutdown engine).Drained abi := by
  have loop (indices : List SourceIndex) : ∀ engine : InputEngine, engine.Framed abi ops →
      engine.Drained abi → (indices.foldl shutdownSource engine).Framed abi ops := by
    induction indices with
    | nil => exact fun _ framed _ => framed
    | cons index indices ih =>
      intro engine framed drained
      obtain ⟨framed', drained'⟩ := shutdownSource_framed framed drained index
      exact ih _ framed' drained'
  have closed := loop (List.finRange 4) engine framed drained
  have gone (index : SourceIndex) : ¬ 0 ≤ ((cartInputShutdown engine).source index).fd := by
    rw [cartInputShutdown_source]
    decide
  exact ⟨⟨fun index present => absurd present (gone index), closed.rest, closed.reads⟩,
    fun index present => absurd present (gone index)⟩

theorem InputEngine.call_framed (fresh : ops.Fresh) (sound : engine.Sound)
    (framed : engine.Framed abi ops) (drained : engine.Drained abi) {call : InputCall}
    (again : ∀ listing, call ≠ .init listing) :
    (engine.call abi ops call).1.Framed abi ops ∧
      ((engine.call abi ops call).2 = true → (engine.call abi ops call).1.Drained abi) := by
  cases call with
  | init listing => exact absurd rfl (again listing)
  | poll fuel => exact cartInputPoll_framed fuel sound framed drained
  | rescan listing =>
    obtain ⟨framed', drained'⟩ := discoverPass_framed fresh sound framed drained listing
    exact ⟨framed', fun _ => drained'⟩
  | shutdown =>
    obtain ⟨framed', drained'⟩ := cartInputShutdown_framed framed drained
    exact ⟨framed', fun _ => drained'⟩

/-- Whether every call of a run returns. -/
def InputEngine.returns (abi : Abi) (ops : CartInputOps) (engine : InputEngine) :
    List InputCall → Bool
  | [] => true
  | call :: calls =>
    let (engine', returned) := engine.call abi ops call
    returned && engine'.returns abi ops calls

theorem InputEngine.run_framed (fresh : ops.Fresh) {calls : List InputCall}
    (once : ∀ call ∈ calls, ∀ listing, call ≠ .init listing) :
    ∀ engine : InputEngine, engine.Sound → engine.Framed abi ops → engine.Drained abi →
      (engine.run abi ops calls).Sound ∧ (engine.run abi ops calls).Framed abi ops ∧
        (engine.returns abi ops calls = true → (engine.run abi ops calls).Drained abi) := by
  induction calls with
  | nil => exact fun _ sound framed drained => ⟨sound, framed, fun _ => drained⟩
  | cons call calls ih =>
    intro engine sound framed drained
    have first := once call List.mem_cons_self
    have sound' := InputEngine.call_sound fresh abi sound call first
    obtain ⟨framed', drained'⟩ := InputEngine.call_framed fresh sound framed drained first
    simp only [InputEngine.run, InputEngine.returns]
    split
    case isTrue returned =>
      rw [returned, Bool.true_and]
      exact ih (fun other member => once other (List.mem_cons_of_mem _ member)) _ sound' framed'
        (drained' returned)
    case isFalse stuck =>
      refine ⟨sound', framed', ?_⟩
      intro all
      rw [Bool.and_eq_true] at all
      exact absurd all.1 stuck

theorem blank_framed (abi : Abi) (ops : CartInputOps) :
    (InputEngine.blank []).Framed abi ops ∧ (InputEngine.blank []).Drained abi := by
  have free (index : SourceIndex) : ¬ 0 ≤ ((InputEngine.blank []).source index).fd := by
    have reset : (InputEngine.blank []).source index = resetSource := rfl
    rw [reset]
    decide
  exact ⟨⟨fun index present => absurd present (free index),
    fun _ _ _ => (eventsIn_nil abi).symm, trivial⟩, fun index present => absurd present (free index)⟩

theorem blank_sound : (InputEngine.blank []).Sound :=
  ⟨Held.start, fun _ => resetSource_sound⟩

/-- Every read in a trace that fits asked for at least one byte and at most the room. -/
theorem ReadsFit.at_read {later earlier : InputTrace} {fd : Int} {result : ReadResult}
    (h : ReadsFit abi ops (later ++ .read fd result :: earlier)) :
    ∃ count, 0 < count ∧
      (leftover (inputEventSize abi) (framing fd earlier).bytes).length + count = PARTIAL_CAP ∧
      result = readFd ops fd count earlier := by
  induction later with
  | nil =>
    have short := leftover_short (inputEventSize_pos abi) (framing fd earlier).bytes
    have below := inputEventSize_lt abi
    exact ⟨_, by omega, by omega, h.1⟩
  | cons step later ih =>
    cases step with
    | opened node other => exact ih h
    | closed other => exact ih h
    | read other result => exact ih h.2
    | ioctl other => exact ih h
    | consumed other event => exact ih h
    | emitted index action => exact ih h

end Runs

/-- Whatever the reads return, the events consumed from a descriptor are the records of
its stream since it was opened, in order: the first of them at any time, all of them
when the calls have returned, and then the slot buffers the tail of that stream. A slot
without a descriptor buffers nothing, and every read fits the buffer. -/
theorem event_framing (abi : Abi) (ops : CartInputOps) (fresh : ops.Fresh)
    (listing : DirListing) (calls : List InputCall)
    (once : ∀ call ∈ calls, ∀ listing, call ≠ .init listing) :
    let start := (cartInputInitEx ops listing []).2
    let engine := start.run abi ops calls
    (∀ fd, 0 ≤ fd → (framing fd engine.trace).consumed <+:
      eventsIn abi (framing fd engine.trace).bytes) ∧
    (start.returns abi ops calls = true →
      (∀ fd, 0 ≤ fd → (framing fd engine.trace).consumed =
        eventsIn abi (framing fd engine.trace).bytes) ∧
      ∀ index, 0 ≤ (engine.source index).fd →
        engine.buffer index = leftover (inputEventSize abi)
          (framing (engine.source index).fd engine.trace).bytes ∧
        (engine.buffer index).length < inputEventSize abi) ∧
    (∀ index, (engine.source index).state = .absent → engine.buffer index = []) ∧
    ∀ later fd result earlier, engine.trace = later ++ .read fd result :: earlier →
      ∃ count, 0 < count ∧
        (leftover (inputEventSize abi) (framing fd earlier).bytes).length + count = PARTIAL_CAP ∧
        result = readFd ops fd count earlier := by
  intro start engine
  obtain ⟨blank, empty⟩ := blank_framed abi ops
  obtain ⟨framed₀, drained₀⟩ := discoverPass_framed fresh blank_sound blank empty listing
  obtain ⟨sound, framed, drained⟩ : engine.Sound ∧ engine.Framed abi ops ∧
      (start.returns abi ops calls = true → engine.Drained abi) :=
    InputEngine.run_framed fresh once start (cartInputInitEx_sound fresh listing) framed₀ drained₀
  refine ⟨?_, ?_, fun index => (sound.sources index).buffer, ?_⟩
  · intro fd nonneg
    by_cases held : ∃ index, (engine.source index).fd = fd
    · obtain ⟨index, rfl⟩ := held
      exact ⟨_, (framed.slots index nonneg).records⟩
    · have all := framed.rest fd nonneg fun index same => held ⟨index, same⟩
      exact all ▸ List.prefix_rfl
  · intro returned
    have short := drained returned
    constructor
    · intro fd nonneg
      by_cases held : ∃ index, (engine.source index).fd = fd
      · obtain ⟨index, rfl⟩ := held
        exact ((framed.slots index nonneg).short (short index nonneg)).1
      · exact framed.rest fd nonneg fun index same => held ⟨index, same⟩
    · intro index present
      exact ⟨((framed.slots index present).short (short index present)).2, short index present⟩
  · intro later fd result earlier split
    have reads := framed.reads
    rw [split] at reads
    exact reads.at_read

/-- A press of BTN_NORTH, one of BTN_MODE and three bytes more, on descriptor 3. -/
def cutStream : List UInt8 :=
  List.replicate 8 0 ++ [1, 0, 51, 1, 1, 0, 0, 0] ++ List.replicate 8 0 ++
    [1, 0, 60, 1, 1, 0, 0, 0] ++ [0, 0, 0]

/-- A pad that is interrupted inside the first record and waits inside the second. -/
def cutPad : CartInputOps where
  openNode := fun trace _ => (openFds trace).foldr max 2 + 1
  read := fun trace fd _ =>
    match readsOf fd trace with
    | 0 => .got (cutStream.take 10)
    | 1 => .interrupted
    | 2 => .got ((cutStream.drop 10).take 15)
    | 3 => .again
    | 4 => .got (cutStream.drop 25)
    | _ => .again
  ioctlName := fun _ _ => (3, "pad")
  ioctlKeyState := fun _ _ => some fun _ => 0
  ioctlBit := fun _ _ _ => some fun _ => 255
  ioctlAbs := fun _ _ _ => some ⟨0, -100, 100, 0⟩

theorem cutPad_fresh : cutPad.Fresh := brokenPads_fresh

theorem event_framing_cut :
    let start := (cartInputInitEx cutPad (.entries [⟨"event0", none, some "pad", ""⟩]) []).2
    let engine := start.run .ilp32 cutPad [.poll 5, .poll 5]
    (framing 3 engine.trace).consumed = [⟨EV_KEY, 307, 1⟩, ⟨EV_KEY, 316, 1⟩] ∧
      engine.buffer 0 = [0, 0, 0] := by
  intro start engine
  obtain ⟨_, all, _⟩ := event_framing .ilp32 cutPad cutPad_fresh
    (.entries [⟨"event0", none, some "pad", ""⟩]) [.poll 5, .poll 5] (by simp)
  obtain ⟨records, tails⟩ := all (by decide +kernel)
  constructor
  · rw [records 3 (by decide)]
    decide +kernel
  · rw [(tails 0 (by decide +kernel)).1]
    decide +kernel

end VitaLinux.Cart
