import VitaLinux.Cart.Input.Pumping

/-!
# Rounds of polls over a set of devices

Each source of a poll goes its own way: what one pump does depends on its own
stream and schedule, and it moves no other source.
-/

namespace VitaLinux.Cart

open Base

variable {abi : Abi} {devices : DeviceSet} {next : ReadSchedule}

/-- Where a source stands between two polls. -/
inductive SourceStatus where
  /-- The slot was free at the start. -/
  | free
  | waits (reads : Nat)
  | gone

/-- Nothing has happened to this source or its slot. -/
structure Untouched (devices : DeviceSet) (index : SourceIndex) (engine : InputEngine) : Prop where
  source : engine.source index = devices.input.source index
  buffer : engine.buffer index = devices.input.partials index
  emitted : emittedBy index engine.trace = []

/-- The source stands there. -/
def Stands (abi : Abi) (devices : DeviceSet) (next : ReadSchedule) (index : SourceIndex)
    (engine : InputEngine) : SourceStatus → Prop
  | .free => Untouched devices index engine ∧ devices.fd index < 0
  | .waits reads => Waits abi devices next index engine reads ∧ 0 ≤ devices.fd index
  | .gone => Gone abi devices index engine ∧ 0 ≤ devices.fd index

/-- The records that so many reads complete leave a SYN_DROPPED open. -/
def DropOpen (abi : Abi) (devices : DeviceSet) (next : ReadSchedule) (index : SourceIndex)
    (reads : Nat) : Prop :=
  openDrop (eventsIn abi
    ((devices.device index).bytes.take (devices.sent abi next index reads))) = true

/-- What one poll does to a source. A source with a SYN_DROPPED open is passed over. -/
inductive Polled (abi : Abi) (devices : DeviceSet) (next : ReadSchedule) (index : SourceIndex) :
    SourceStatus → SourceStatus → Prop
  | free : Polled abi devices next index .free .free
  | gone : Polled abi devices next index .gone .gone
  | skipped {reads : Nat} (dropped : DropOpen abi devices next index reads) :
      Polled abi devices next index (.waits reads) (.waits reads)
  | paused {reads last : Nat} (synced : ¬ DropOpen abi devices next index reads)
      (from_ : reads ≤ last)
      (delivered : ∀ k, reads ≤ k → k < last → Delivers abi devices next index k)
      (pause : Pauses abi devices next index last) :
      Polled abi devices next index (.waits reads) (.waits (last + 1))
  | ended {reads last : Nat} (synced : ¬ DropOpen abi devices next index reads)
      (from_ : reads ≤ last)
      (delivered : ∀ k, reads ≤ k → k < last → Delivers abi devices next index k)
      (ends : Ends abi devices next index last) :
      Polled abi devices next index (.waits reads) .gone

/-! ## Sources do not move one another -/

/-- What a source's status is about has not changed. -/
structure Unmoved (index : SourceIndex) (fd : Int) (engine engine' : InputEngine) : Prop where
  source : engine'.source index = engine.source index
  buffer : engine'.buffer index = engine.buffer index
  record : recordOf index fd engine'.trace = recordOf index fd engine.trace

theorem Stands.unmoved {index : SourceIndex} {engine engine' : InputEngine}
    {status : SourceStatus} (h : Stands abi devices next index engine status)
    (same : Unmoved index (devices.fd index) engine engine') :
    Stands abi devices next index engine' status := by
  have reads := congrArg SourceRecord.reads same.record
  have received := congrArg SourceRecord.received same.record
  have consumed := congrArg SourceRecord.consumed same.record
  have emitted := congrArg SourceRecord.emitted same.record
  cases status with
  | free =>
    obtain ⟨h, free⟩ := h
    exact ⟨⟨same.source.trans h.source, same.buffer.trans h.buffer, emitted.trans h.emitted⟩, free⟩
  | waits count =>
    obtain ⟨h, present⟩ := h
    have view : engine'.view index = engine.view index := by
      simp only [InputEngine.view, same.source, h.fd]
      rw [show recordsConsumed (devices.fd index) engine'.trace =
        recordsConsumed (devices.fd index) engine.trace from consumed,
        show emittedBy index engine'.trace = emittedBy index engine.trace from emitted]
    exact ⟨⟨view.trans h.view, same.buffer.trans h.buffer, reads.trans h.readCount,
      received.trans h.received, h.within⟩, present⟩
  | gone =>
    obtain ⟨h, present⟩ := h
    exact ⟨⟨same.source.trans h.source, consumed.trans h.consumed, emitted.trans h.emitted,
      same.buffer.trans h.buffer, received.trans h.received, h.ends⟩, present⟩

/-- Pumping one source does not move another. -/
theorem pumpSource_unmoved {index other : SourceIndex} (different : index ≠ other) {fd : Int}
    {engine : InputEngine} (apart : fd ≠ (engine.source other).fd) (fuel : Nat) :
    Unmoved index fd engine (pumpSource abi (devices.ops next) other fuel engine).1 := by
  obtain ⟨served, serves, ends⟩ := pumpSource_serves abi (devices.ops next) other fuel engine
  obtain ⟨steps, trace, each⟩ := serves.trace
  have record : recordOf index fd served.trace = recordOf index fd engine.trace := by
    rw [trace]
    exact recordOf_serves different apart each _
  have unmoved : Unmoved index fd engine served :=
    ⟨serves.source index different, serves.buffer index different, record⟩
  rcases ends with e | e
  · rw [e]
    exact unmoved
  · rw [e]
    have closing : recordOf index fd (.closed (served.source other).fd :: served.trace) =
        recordOf index fd served.trace := by
      rw [recordOf_cons]
      simp [InputStep.reads, InputStep.received, InputStep.consumes, InputStep.emits]
    constructor
    · rw [handleDisconnect_source_of_ne _ _ different, unmoved.source]
    · rw [handleDisconnect_buffer_of_ne _ _ different, unmoved.buffer]
    · obtain same | closed := handleDisconnect_trace served other
      · rw [same]
        exact record
      · rw [closed]
        exact closing.trans record

/-! ## One poll -/

theorem Stands.fd_nonneg_iff {index : SourceIndex} {engine : InputEngine}
    {status : SourceStatus} (h : Stands abi devices next index engine status) :
    0 ≤ (engine.source index).fd ↔ ∃ reads, status = .waits reads := by
  cases status with
  | free =>
    obtain ⟨h, free⟩ := h
    have negative : ¬ 0 ≤ (engine.source index).fd := by
      rw [h.source]
      exact Int.not_le.mpr free
    exact iff_of_false negative (by simp)
  | waits reads =>
    obtain ⟨h, present⟩ := h
    rw [h.fd]
    exact iff_of_true present ⟨reads, rfl⟩
  | gone =>
    obtain ⟨h, _⟩ := h
    have negative : ¬ 0 ≤ (engine.source index).fd := by
      rw [h.source]
      simp [CartInputSource.disconnected]
    exact iff_of_false negative (by simp)

theorem Waits.state {index : SourceIndex} {engine : InputEngine} {reads : Nat}
    (h : Waits abi devices next index engine reads) (present : 0 ≤ devices.fd index) :
    (engine.source index).state = syncState (openDrop (eventsIn abi
      ((devices.device index).bytes.take (devices.sent abi next index reads)))) := by
  have view := congrArg (fun view => view.source.state) h.view
  have connected : (devices.input.source index).state = .connected :=
    devices.connected index present
  have state := SourceView.consumeAll_state (devices.device index)
    ⟨devices.input.source index, 0, []⟩ connected (eventsIn abi
      ((devices.device index).bytes.take (devices.sent abi next index reads)))
  exact view.trans state

theorem Waits.desync_iff {index : SourceIndex} {engine : InputEngine} {reads : Nat}
    (h : Waits abi devices next index engine reads) (present : 0 ≤ devices.fd index) :
    (engine.source index).state = .desync ↔ DropOpen abi devices next index reads := by
  rw [h.state present, DropOpen]
  cases openDrop (eventsIn abi
    ((devices.device index).bytes.take (devices.sent abi next index reads))) <;> simp [syncState]

/-- A poll's turn at one source. -/
theorem pumpSource_polled {index : SourceIndex} {engine : InputEngine} {reads fuel : Nat}
    (h : Waits abi devices next index engine reads) (present : 0 ≤ devices.fd index)
    (synced : ¬ DropOpen abi devices next index reads)
    (returned : (pumpSource abi (devices.ops next) index fuel engine).2 = true) :
    ∃ status, Polled abi devices next index (.waits reads) status ∧
      Stands abi devices next index (pumpSource abi (devices.ops next) index fuel engine).1
        status := by
  obtain ⟨last, from_, delivered, ends⟩ := pumpSource_spec present fuel engine reads h.fed returned
  rcases ends with ⟨pause, waits⟩ | ⟨ended, gone⟩
  · exact ⟨_, .paused synced from_ delivered pause, waits, present⟩
  · exact ⟨_, .ended synced from_ delivered ended, gone, present⟩

/-- A poll's turn at one source, and whether it returned. -/
def pollTurn (abi : Abi) (ops : CartInputOps) (fuel : Nat) (index : SourceIndex)
    (engine : InputEngine) : InputEngine × Bool :=
  if (engine.source index).fd < 0 ∨ (engine.source index).state = .desync then (engine, true)
  else pumpSource abi ops index fuel engine

theorem pollSources_cons (abi : Abi) (ops : CartInputOps) (fuel : Nat) (index : SourceIndex)
    (indices : List SourceIndex) (engine : InputEngine) :
    pollSources abi ops fuel (index :: indices) engine =
      if (pollTurn abi ops fuel index engine).2 then
        pollSources abi ops fuel indices (pollTurn abi ops fuel index engine).1
      else ((pollTurn abi ops fuel index engine).1, false) := by
  rw [pollSources, pollTurn]
  by_cases free : (engine.source index).fd < 0
  · simp [free]
  · by_cases desync : (engine.source index).state = .desync
    · simp [free, desync]
    · simp [free, desync]

/-- A turn returns with enough fuel, treats its source by its schedule and moves no
other. -/
theorem pollTurn_spec (abi : Abi) (next : ReadSchedule) (fuel : Nat) (first : SourceIndex)
    {engine : InputEngine} {status : SourceIndex → SourceStatus}
    (stands : ∀ index, Stands abi devices next index engine (status index)) :
    ((devices.device first).bytes.length < fuel →
      (pollTurn abi (devices.ops next) fuel first engine).2 = true) ∧
    ((pollTurn abi (devices.ops next) fuel first engine).2 = true →
      ∃ after, Polled abi devices next first (status first) after ∧
        ∀ index, Stands abi devices next index
          (pollTurn abi (devices.ops next) fuel first engine).1
          (Function.update status first after index)) := by
  have kept : Function.update status first (status first) = status :=
    Function.update_eq_self first status
  rw [pollTurn]
  cases here : status first with
  | free =>
    have free : (engine.source first).fd < 0 := by
      apply Int.not_le.mp
      simp [(stands first).fd_nonneg_iff, here]
    rw [if_pos (Or.inl free)]
    refine ⟨fun _ => rfl, fun _ => ⟨.free, .free, ?_⟩⟩
    rw [← here, kept]
    exact stands
  | gone =>
    have closed : (engine.source first).fd < 0 := by
      apply Int.not_le.mp
      simp [(stands first).fd_nonneg_iff, here]
    rw [if_pos (Or.inl closed)]
    refine ⟨fun _ => rfl, fun _ => ⟨.gone, .gone, ?_⟩⟩
    rw [← here, kept]
    exact stands
  | waits reads =>
    have now := stands first
    rw [here] at now
    obtain ⟨waits, present⟩ := now
    by_cases dropped : DropOpen abi devices next first reads
    · rw [if_pos (Or.inr ((waits.desync_iff present).mpr dropped))]
      refine ⟨fun _ => rfl, fun _ => ⟨.waits reads, .skipped dropped, ?_⟩⟩
      rw [← here, kept]
      exact stands
    · have synced : ¬ (engine.source first).state = .desync :=
        mt (waits.desync_iff present).mp dropped
      have connected : ¬ (engine.source first).fd < 0 := by
        rw [waits.fd]
        exact Int.not_lt.mpr present
      rw [if_neg (not_or.mpr ⟨connected, synced⟩)]
      constructor
      · intro enough
        exact pumpSource_returns fuel engine reads waits.fed
          (Nat.lt_of_lt_of_le enough (Nat.le_add_left _ _))
      · intro returned
        obtain ⟨after, polled, stands'⟩ := pumpSource_polled waits present dropped returned
        refine ⟨after, polled, ?_⟩
        intro index
        by_cases same : index = first
        · subst same
          rw [Function.update_self]
          exact stands'
        · rw [Function.update_of_ne same]
          apply (stands index).unmoved
          apply pumpSource_unmoved same
          intro shared
          rw [waits.fd] at shared
          exact same (devices.distinct first index present shared.symm).symm

/-- The source loop gives every listed source its turn and moves no other. -/
theorem pollSources_spec (abi : Abi) (next : ReadSchedule) (fuel : Nat)
    (indices : List SourceIndex) (nodup : indices.Nodup) :
    ∀ (engine : InputEngine) (status : SourceIndex → SourceStatus),
      (∀ index, Stands abi devices next index engine (status index)) →
      ((∀ index, (devices.device index).bytes.length < fuel) →
        (pollSources abi (devices.ops next) fuel indices engine).2 = true) ∧
      ((pollSources abi (devices.ops next) fuel indices engine).2 = true →
        ∃ status' : SourceIndex → SourceStatus,
          (∀ index, Stands abi devices next index
            (pollSources abi (devices.ops next) fuel indices engine).1 (status' index)) ∧
          ∀ index, if index ∈ indices then
            Polled abi devices next index (status index) (status' index)
          else status' index = status index) := by
  induction indices with
  | nil =>
    intro engine status stands
    exact ⟨fun _ => rfl, fun _ => ⟨status, stands, by simp⟩⟩
  | cons first indices ih =>
    intro engine status stands
    obtain ⟨notMem, nodup⟩ := List.nodup_cons.mp nodup
    obtain ⟨returns, moves⟩ := pollTurn_spec abi next fuel first stands
    rw [pollSources_cons]
    constructor
    · intro enough
      have returned := returns (enough first)
      obtain ⟨after, _, stands₁⟩ := moves returned
      rw [if_pos returned]
      exact (ih nodup _ _ stands₁).1 enough
    · intro all
      cases returned : (pollTurn abi (devices.ops next) fuel first engine).2 with
      | false => simp [returned] at all
      | true =>
        obtain ⟨after, polled, stands₁⟩ := moves returned
        rw [if_pos returned] at all
        rw [if_pos rfl]
        obtain ⟨status', stands', each⟩ := (ih nodup _ _ stands₁).2 all
        refine ⟨status', stands', ?_⟩
        intro index
        have turn := each index
        by_cases same : index = first
        · subst same
          rw [if_neg notMem, Function.update_self] at turn
          rw [if_pos List.mem_cons_self, turn]
          exact polled
        · rw [Function.update_of_ne same] at turn
          simpa [same] using turn

/-- Taking an action from the queue moves no source. -/
theorem Stands.setPending {index : SourceIndex} {engine : InputEngine} {status : SourceStatus}
    (h : Stands abi devices next index engine status) (pending : List CartInputAction) :
    Stands abi devices next index (engine.setPending pending) status :=
  h.unmoved ⟨rfl, rfl, rfl⟩

/-- A poll of a device set returns with enough fuel, and then each source has had its
turn. -/
theorem cartInputPoll_spec (abi : Abi) (next : ReadSchedule) (fuel : Nat) {engine : InputEngine}
    {status : SourceIndex → SourceStatus}
    (stands : ∀ index, Stands abi devices next index engine (status index)) :
    ((∀ index, (devices.device index).bytes.length < fuel) →
      (cartInputPoll abi (devices.ops next) fuel engine).2.isSome = true) ∧
    ((cartInputPoll abi (devices.ops next) fuel engine).2.isSome = true →
      ∃ status' : SourceIndex → SourceStatus, ∀ index,
        Stands abi devices next index (cartInputPoll abi (devices.ops next) fuel engine).1
          (status' index) ∧
        Polled abi devices next index (status index) (status' index)) := by
  obtain ⟨returns, moves⟩ := pollSources_spec abi next fuel (List.finRange 4)
    (List.nodup_finRange 4) engine status stands
  simp only [cartInputPoll]
  cases returned : (pollSources abi (devices.ops next) fuel (List.finRange 4) engine).2 with
  | false =>
    constructor
    · intro enough
      have := returns enough
      rw [returned] at this
      cases this
    · simp
  | true =>
    obtain ⟨status', stands', each⟩ := moves returned
    have polled (index : SourceIndex) :
        Polled abi devices next index (status index) (status' index) := by
      simpa using each index
    simp only [if_true]
    split
    · exact ⟨fun _ => rfl, fun _ => ⟨status', fun index => ⟨stands' index, polled index⟩⟩⟩
    · exact ⟨fun _ => rfl,
        fun _ => ⟨status', fun index => ⟨(stands' index).setPending _, polled index⟩⟩⟩

end VitaLinux.Cart
