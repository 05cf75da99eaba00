import VitaLinux.Cart.Input.SourceProgress

/-!
# What a pump makes of a source

A pump reads until a read finds nothing or the end. Where it stops depends on the
stream and the schedule of its own source only.
-/

namespace VitaLinux.Cart

open Base

/-- Devices on the descriptors of freshly connected sources. -/
structure DeviceSet where
  stream : Int → DeviceStream
  input : CartInput
  connected : ∀ index, 0 ≤ (input.source index).fd → (input.source index).state = .connected
  empty : ∀ index, 0 ≤ (input.source index).fd → input.partials index = []
  distinct : ∀ i j, 0 ≤ (input.source i).fd →
    (input.source i).fd = (input.source j).fd → i = j

namespace DeviceSet

variable (devices : DeviceSet)

def fd (index : SourceIndex) : Int := (devices.input.source index).fd

def device (index : SourceIndex) : DeviceStream := devices.stream (devices.fd index)

def ops (next : ReadSchedule) : CartInputOps := streamOps devices.stream next

/-- How much of a source's stream its first reads deliver. -/
def sent (abi : Abi) (next : ReadSchedule) (index : SourceIndex) : Nat → Nat :=
  (devices.device index).sent abi (next (devices.fd index))

/-- A source that has consumed the complete records of so much of its stream. -/
def viewAt (abi : Abi) (index : SourceIndex) (count : Nat) : SourceView :=
  SourceView.consumeAll (devices.device index) ⟨devices.input.source index, 0, []⟩
    (eventsIn abi ((devices.device index).bytes.take count))

end DeviceSet

variable {abi : Abi} {devices : DeviceSet} {next : ReadSchedule} {index : SourceIndex}

theorem DeviceSet.viewAt_fd (count : Nat) :
    (devices.viewAt abi index count).source.fd = devices.fd index :=
  SourceView.consumeAll_fd _ _ _

/-- After so many reads the source has been given what they delivered, whether or not
it has consumed it yet. -/
structure Fed (abi : Abi) (devices : DeviceSet) (next : ReadSchedule) (index : SourceIndex)
    (engine : InputEngine) (reads : Nat) : Prop where
  view : (engine.view index).consumeAll (devices.device index)
      (eventsIn abi (engine.buffer index)) =
    devices.viewAt abi index (devices.sent abi next index reads)
  buffer : leftover (inputEventSize abi) (engine.buffer index) =
    leftover (inputEventSize abi)
      ((devices.device index).bytes.take (devices.sent abi next index reads))
  readCount : readsOf (devices.fd index) engine.trace = reads
  received : bytesReceived (devices.fd index) engine.trace = devices.sent abi next index reads
  within : devices.sent abi next index reads ≤ (devices.device index).bytes.length

/-- The source waits for its next read with less than a record in its buffer. -/
structure Waits (abi : Abi) (devices : DeviceSet) (next : ReadSchedule) (index : SourceIndex)
    (engine : InputEngine) (reads : Nat) : Prop where
  view : engine.view index = devices.viewAt abi index (devices.sent abi next index reads)
  buffer : engine.buffer index = leftover (inputEventSize abi)
    ((devices.device index).bytes.take (devices.sent abi next index reads))
  readCount : readsOf (devices.fd index) engine.trace = reads
  received : bytesReceived (devices.fd index) engine.trace = devices.sent abi next index reads
  within : devices.sent abi next index reads ≤ (devices.device index).bytes.length

/-- The source has read its whole stream and met the end. -/
structure Gone (abi : Abi) (devices : DeviceSet) (index : SourceIndex) (engine : InputEngine) :
    Prop where
  source : engine.source index =
    (devices.viewAt abi index (devices.device index).bytes.length).source.disconnected
  consumed : recordsConsumed (devices.fd index) engine.trace =
    (devices.viewAt abi index (devices.device index).bytes.length).consumed
  emitted : emittedBy index engine.trace =
    (devices.viewAt abi index (devices.device index).bytes.length).emitted
  buffer : engine.buffer index = []
  received : bytesReceived (devices.fd index) engine.trace = (devices.device index).bytes.length
  ends : (devices.device index).ends.isSome = true

/-- This read finds nothing: EAGAIN by the schedule, or nothing more to come. -/
def Pauses (abi : Abi) (devices : DeviceSet) (next : ReadSchedule) (index : SourceIndex)
    (read : Nat) : Prop :=
  next (devices.fd index) read = none ∨
    (devices.sent abi next index read = (devices.device index).bytes.length ∧
      (devices.device index).ends = none)

/-- This read finds the end of the stream. -/
def Ends (abi : Abi) (devices : DeviceSet) (next : ReadSchedule) (index : SourceIndex)
    (read : Nat) : Prop :=
  next (devices.fd index) read ≠ none ∧
    devices.sent abi next index read = (devices.device index).bytes.length ∧
    (devices.device index).ends.isSome = true

/-- This read returns bytes. -/
def Delivers (abi : Abi) (devices : DeviceSet) (next : ReadSchedule) (index : SourceIndex)
    (read : Nat) : Prop :=
  next (devices.fd index) read ≠ none ∧
    devices.sent abi next index read < (devices.device index).bytes.length

theorem Waits.fed {engine : InputEngine} {reads : Nat}
    (h : Waits abi devices next index engine reads) :
    Fed abi devices next index engine reads where
  view := by
    have short : (engine.buffer index).length < inputEventSize abi := by
      rw [h.buffer]
      exact leftover_short (inputEventSize_pos abi) _
    rw [eventsIn_of_short short, ← h.view]
    rfl
  buffer := by
    rw [h.buffer, leftover_leftover (inputEventSize_pos abi)]
  readCount := h.readCount
  received := h.received
  within := h.within

theorem Waits.fd {engine : InputEngine} {reads : Nat}
    (h : Waits abi devices next index engine reads) :
    (engine.source index).fd = devices.fd index := by
  have view := congrArg (fun view => view.source.fd) h.view
  exact view.trans (DeviceSet.viewAt_fd _)

theorem Fed.fd {engine : InputEngine} {reads : Nat}
    (h : Fed abi devices next index engine reads) :
    (engine.source index).fd = devices.fd index := by
  have view := congrArg (fun view => view.source.fd) h.view
  rw [SourceView.consumeAll_fd, DeviceSet.viewAt_fd] at view
  exact view

theorem Fed.drained {engine : InputEngine} {reads : Nat}
    (h : Fed abi devices next index engine reads) :
    Waits abi devices next index
      (drainRecords abi (devices.ops next) index (engine.buffer index).length engine) reads := by
  obtain ⟨view, buffer, reads', received⟩ := drainRecords_view abi devices.stream next
    index (engine.buffer index).length engine le_rfl
  constructor
  · rw [DeviceSet.ops, view, h.fd]
    exact h.view
  · exact buffer.trans h.buffer
  · exact (reads' _).trans h.readCount
  · exact (received _).trans h.received
  · exact h.within

/-- A read adds to the count of reads and received bytes only. -/
theorem view_read (engine : InputEngine) (fd : Int) (result : ReadResult) :
    (engine.record [.read fd result]).view index = engine.view index := by
  simp [InputEngine.view, recordsConsumed_cons, emittedBy_cons, InputStep.consumes,
    InputStep.emits]

theorem sent_of_pause {read : Nat} (pause : Pauses abi devices next index read) :
    devices.sent abi next index (read + 1) = devices.sent abi next index read := by
  simp only [DeviceSet.sent, DeviceStream.sent]
  rcases pause with none | ⟨all, noEnd⟩
  · rw [none]
  · simp only [DeviceSet.sent] at all
    cases next (devices.fd index) read with
    | none => rfl
    | some more => simp [all, DeviceStream.total, noEnd]

theorem sent_of_end {read : Nat} (ends : Ends abi devices next index read) :
    devices.sent abi next index (read + 1) = (devices.device index).total := by
  obtain ⟨answers, all, _⟩ := ends
  simp only [DeviceSet.sent] at all
  simp only [DeviceSet.sent, DeviceStream.sent]
  cases e : next (devices.fd index) read with
  | none => exact absurd e answers
  | some more => simp [all]

theorem Waits.paused {engine : InputEngine} {reads : Nat}
    (h : Waits abi devices next index engine reads)
    (pause : Pauses abi devices next index reads) :
    Waits abi devices next index (engine.record [.read (devices.fd index) .again])
      (reads + 1) := by
  have sent := sent_of_pause pause
  constructor
  · rw [view_read, sent]
    exact h.view
  · rw [sent]
    exact h.buffer
  · simp [readsOf_cons, InputStep.reads, h.readCount, Nat.add_comm]
  · simp [bytesReceived_cons, InputStep.received, h.received, sent]
  · rw [sent]
    exact h.within

/-- The bytes that a delivering read returns. -/
def DeviceSet.chunk (devices : DeviceSet) (abi : Abi) (next : ReadSchedule)
    (index : SourceIndex) (read more : Nat) : List UInt8 :=
  ((devices.device index).bytes.drop (devices.sent abi next index read)).take
    (min (more + 1) (PARTIAL_CAP - devices.sent abi next index read % inputEventSize abi))

theorem chunk_length {read : Nat} (more : Nat) (within : devices.sent abi next index read ≤
    (devices.device index).bytes.length) :
    devices.sent abi next index read +
        (devices.chunk abi next index read more).length ≤ (devices.device index).bytes.length ∧
      (next (devices.fd index) read = some more →
        devices.sent abi next index read < (devices.device index).bytes.length →
        devices.sent abi next index (read + 1) =
          devices.sent abi next index read + (devices.chunk abi next index read more).length) := by
  simp only [DeviceSet.chunk, List.length_take, List.length_drop]
  constructor
  · omega
  · intro e less
    simp only [DeviceSet.sent] at less ⊢
    simp only [DeviceStream.sent, e, if_pos less]

theorem chunk_ne_nil (abi : Abi) {read : Nat} (more : Nat)
    (less : devices.sent abi next index read < (devices.device index).bytes.length) :
    devices.chunk abi next index read more ≠ [] := by
  have room : devices.sent abi next index read % inputEventSize abi < PARTIAL_CAP :=
    (Nat.mod_lt _ (inputEventSize_pos abi)).trans (inputEventSize_lt abi)
  intro nil
  have length := congrArg List.length nil
  simp only [DeviceSet.chunk, List.length_take, List.length_drop, List.length_nil] at length
  omega

/-- Bytes that a read delivers join what was left over. -/
theorem Waits.delivered {engine : InputEngine} {reads more : Nat}
    (h : Waits abi devices next index engine reads)
    (answers : next (devices.fd index) reads = some more)
    (less : devices.sent abi next index reads < (devices.device index).bytes.length) :
    Fed abi devices next index
      ((engine.record [.read (devices.fd index)
        (.got (devices.chunk abi next index reads more))]).setBuffer index
          (engine.buffer index ++ devices.chunk abi next index reads more)) (reads + 1) := by
  obtain ⟨within, sent⟩ := chunk_length more h.within
  have sent := sent answers less
  have positive := inputEventSize_pos abi
  have taken : (devices.device index).bytes.take (devices.sent abi next index (reads + 1)) =
      (devices.device index).bytes.take (devices.sent abi next index reads) ++
        devices.chunk abi next index reads more := by
    rw [sent, List.take_add]
    congr 1
    simp only [DeviceSet.chunk, List.length_take, List.length_drop]
    rw [List.take_eq_take_iff]
    simp
  obtain ⟨whole, rest⟩ := records_append positive
    ((devices.device index).bytes.take (devices.sent abi next index reads))
    (devices.chunk abi next index reads more)
  constructor
  · have view : (((engine.record [.read (devices.fd index)
        (.got (devices.chunk abi next index reads more))]).setBuffer index
          (engine.buffer index ++ devices.chunk abi next index reads more)).view index) =
        engine.view index := view_read engine _ _
    rw [view, h.view, InputEngine.buffer_setBuffer_self, h.buffer, DeviceSet.viewAt,
      ← SourceView.consumeAll_append, DeviceSet.viewAt, taken]
    simp only [eventsIn, whole, List.map_append]
  · rw [InputEngine.buffer_setBuffer_self, h.buffer, taken, rest]
  · simp [readsOf_cons, InputStep.reads, h.readCount, Nat.add_comm]
  · simp [bytesReceived_cons, InputStep.received, h.received, sent, Nat.add_comm]
  · rw [sent]
    exact within

theorem Waits.ended {engine : InputEngine} {reads : Nat}
    (h : Waits abi devices next index engine reads) (present : 0 ≤ devices.fd index)
    (ends : Ends abi devices next index reads) {result : ReadResult}
    (nothing : result = .got [] ∨ result = .failed) :
    Gone abi devices index
      (handleDisconnect (engine.record [.read (devices.fd index) result]) index) := by
  obtain ⟨_, all, some⟩ := ends
  have fd := h.fd
  have view := h.view
  rw [all] at view
  have consumed : recordsConsumed (engine.source index).fd engine.trace = _ :=
    congrArg SourceView.consumed view
  rw [fd] at consumed
  have emitted : emittedBy index engine.trace = _ := congrArg SourceView.emitted view
  have connected : 0 ≤ ((engine.record [.read (devices.fd index) result]).source index).fd :=
    fd ▸ present
  rw [handleDisconnect_eq connected, InputEngine.source_record]
  constructor
  · rw [InputEngine.source_setBuffer, InputEngine.source_setSource_self]
    exact congrArg (fun view => view.source.disconnected) view
  · simpa [recordsConsumed_cons, InputStep.consumes] using consumed
  · simpa [emittedBy_cons, InputStep.emits] using emitted
  · exact InputEngine.buffer_setBuffer_self _ _ _
  · have received := h.received
    rw [all] at received
    rcases nothing with rfl | rfl
    · simpa [bytesReceived_cons, InputStep.received] using received
    · simpa [bytesReceived_cons, InputStep.received] using received
  · exact some

/-- What a read by the schedule returns to a waiting source. -/
theorem Waits.read_cases {engine : InputEngine} {reads : Nat}
    (h : Waits abi devices next index engine reads) :
    let result := readFd (devices.ops next) (devices.fd index)
      (PARTIAL_CAP - (engine.buffer index).length) engine.trace
    (Pauses abi devices next index reads ∧ result = .again) ∨
    (Ends abi devices next index reads ∧ (result = .got [] ∨ result = .failed)) ∨
    (∃ more, next (devices.fd index) reads = some more ∧
      devices.sent abi next index reads < (devices.device index).bytes.length ∧
      result = .got (devices.chunk abi next index reads more)) := by
  have length : (engine.buffer index).length =
      devices.sent abi next index reads % inputEventSize abi := by
    rw [h.buffer, leftover_length, List.length_take, Nat.min_eq_left h.within]
  simp only [readFd, DeviceSet.ops, streamOps, h.readCount, h.received, length]
  cases answers : next (devices.fd index) reads with
  | none => exact Or.inl ⟨Or.inl answers, rfl⟩
  | some more =>
    have asked : next (devices.fd index) reads ≠ none := by simp [answers]
    by_cases less : devices.sent abi next index reads < (devices.device index).bytes.length
    · refine Or.inr (Or.inr ⟨more, rfl, less, ?_⟩)
      have less' : devices.sent abi next index reads <
          (devices.stream (devices.fd index)).bytes.length := less
      simp only [if_pos less', List.take_take, DeviceSet.chunk, DeviceSet.device]
      congr 2
      omega
    · have all : devices.sent abi next index reads = (devices.device index).bytes.length :=
        Nat.le_antisymm h.within (Nat.not_lt.mp less)
      have less' : ¬ devices.sent abi next index reads <
          (devices.stream (devices.fd index)).bytes.length := less
      simp only [if_neg less']
      cases ends : (devices.stream (devices.fd index)).ends with
      | none => exact Or.inl ⟨Or.inr ⟨all, ends⟩, rfl⟩
      | some how =>
        have some_ : (devices.device index).ends.isSome = true := by
          simp [DeviceSet.device, ends]
        refine Or.inr (Or.inl ⟨⟨asked, all, some_⟩, ?_⟩)
        cases how with
        | endOfFile => exact Or.inl (by simp)
        | readError => exact Or.inr rfl

/-- A pump that returns has read on to the first read that delivers nothing. -/
theorem pumpSource_spec (present : 0 ≤ devices.fd index) (fuel : Nat) :
    ∀ (engine : InputEngine) (reads : Nat), Fed abi devices next index engine reads →
      (pumpSource abi (devices.ops next) index fuel engine).2 = true →
      ∃ last, reads ≤ last ∧
        (∀ k, reads ≤ k → k < last → Delivers abi devices next index k) ∧
        ((Pauses abi devices next index last ∧ Waits abi devices next index
            (pumpSource abi (devices.ops next) index fuel engine).1 (last + 1)) ∨
          (Ends abi devices next index last ∧
            Gone abi devices index (pumpSource abi (devices.ops next) index fuel engine).1)) := by
  induction fuel with
  | zero =>
    intro engine reads _ returned
    cases returned
  | succ fuel ih =>
    intro engine reads fed returned
    have waits := fed.drained
    have none_before : ∀ k, reads ≤ k → k < reads → Delivers abi devices next index k := by
      intro k _ _
      omega
    simp only [pumpSource] at returned ⊢
    generalize drainRecords abi (devices.ops next) index (engine.buffer index).length engine =
      drain at waits returned ⊢
    rw [waits.fd] at returned ⊢
    rcases waits.read_cases with ⟨pause, e⟩ | ⟨ends, e | e⟩ | ⟨more, answers, less, e⟩
    · rw [e]
      exact ⟨reads, le_rfl, none_before, Or.inl ⟨pause, waits.paused pause⟩⟩
    · rw [e]
      exact ⟨reads, le_rfl, none_before, Or.inr ⟨ends, waits.ended present ends (Or.inl rfl)⟩⟩
    · rw [e]
      exact ⟨reads, le_rfl, none_before, Or.inr ⟨ends, waits.ended present ends (Or.inr rfl)⟩⟩
    · have delivers : Delivers abi devices next index reads := ⟨by simp [answers], less⟩
      have fed' := waits.delivered answers less
      have bytes := chunk_ne_nil abi more less
      rw [e] at returned ⊢
      generalize devices.chunk abi next index reads more = chunk at bytes returned fed' ⊢
      cases chunk with
      | nil => exact absurd rfl bytes
      | cons byte rest =>
        obtain ⟨last, after, delivered, stops⟩ := ih _ _ fed' returned
        refine ⟨last, by omega, ?_, stops⟩
        intro k from_ before
        by_cases first : k = reads
        · rw [first]
          exact delivers
        · exact delivered k (by omega) before

/-- With fuel for each byte still to come a pump returns. -/
theorem pumpSource_returns (fuel : Nat) :
    ∀ (engine : InputEngine) (reads : Nat), Fed abi devices next index engine reads →
      (devices.device index).bytes.length < devices.sent abi next index reads + fuel →
      (pumpSource abi (devices.ops next) index fuel engine).2 = true := by
  induction fuel with
  | zero =>
    intro engine reads fed bound
    have within := fed.within
    omega
  | succ fuel ih =>
    intro engine reads fed bound
    have waits := fed.drained
    simp only [pumpSource]
    generalize drainRecords abi (devices.ops next) index (engine.buffer index).length engine =
      drain at waits ⊢
    rw [waits.fd]
    rcases waits.read_cases with ⟨_, e⟩ | ⟨_, e | e⟩ | ⟨more, answers, less, e⟩
    · rw [e]
    · rw [e]
    · rw [e]
    · have fed' := waits.delivered answers less
      have bytes := chunk_ne_nil abi more less
      have sent := (chunk_length more waits.within).2 answers less
      rw [e]
      generalize devices.chunk abi next index reads more = chunk at bytes sent fed' ⊢
      cases chunk with
      | nil => exact absurd rfl bytes
      | cons byte rest =>
        apply ih _ _ fed'
        rw [sent, List.length_cons]
        omega

end VitaLinux.Cart
