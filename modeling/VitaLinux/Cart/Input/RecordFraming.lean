import VitaLinux.Cart.Input.SourceProgress

/-!
# Records out of a stream that arrives in pieces

Since a descriptor was opened its reads have returned a stream. What was consumed of it
and what the slot still buffers are the records of that stream and its tail, wherever the
reads cut it.
-/

namespace VitaLinux.Cart

open Base

/-- What was read from a descriptor since it was opened, and what was consumed of it. -/
structure Framing where
  bytes : List UInt8
  consumed : List InputEvent

def Framing.blank : Framing := { bytes := [], consumed := [] }

def Framing.after (framing : Framing) (fd : Int) : InputStep → Framing
  | .opened _ other => if other = fd then .blank else framing
  | .read other (.got bytes) =>
    if other = fd then { framing with bytes := framing.bytes ++ bytes } else framing
  | .consumed other event =>
    if other = fd then { framing with consumed := framing.consumed ++ [event] } else framing
  | _ => framing

/-- The framing of a descriptor's stream by a trace. -/
def framing (fd : Int) : InputTrace → Framing
  | [] => .blank
  | step :: trace => (framing fd trace).after fd step

/-- Every read of the trace asked for what the 256-byte buffer has room for beside the
tail that it holds. -/
def ReadsFit (abi : Abi) (ops : CartInputOps) : InputTrace → Prop
  | [] => True
  | .read fd result :: trace =>
    result = readFd ops fd
      (PARTIAL_CAP - (leftover (inputEventSize abi) (framing fd trace).bytes).length) trace ∧
      ReadsFit abi ops trace
  | _ :: trace => ReadsFit abi ops trace

/-- A step that is no read and consumes nothing. -/
def InputStep.Quiet : InputStep → Prop
  | .opened _ _ => False
  | .closed _ => True
  | .read _ _ => False
  | .ioctl _ => True
  | .consumed _ _ => False
  | .emitted _ _ => True

section Steps

variable {fd other : Int} {steps trace : InputTrace}

/-- Quiet steps say nothing about any stream. -/
theorem framing_quiet (abi : Abi) (ops : CartInputOps) (fd : Int) (trace : InputTrace)
    (quiet : ∀ step ∈ steps, step.Quiet) :
    framing fd (steps ++ trace) = framing fd trace ∧
      (ReadsFit abi ops (steps ++ trace) ↔ ReadsFit abi ops trace) := by
  induction steps with
  | nil => exact ⟨rfl, Iff.rfl⟩
  | cons step steps ih =>
    obtain ⟨same, fit⟩ := ih fun other member => quiet other (List.mem_cons_of_mem _ member)
    have this := quiet step List.mem_cons_self
    cases step with
    | opened node other => exact this.elim
    | closed other => exact ⟨same, fit⟩
    | read other result => exact this.elim
    | ioctl other => exact ⟨same, fit⟩
    | consumed other event => exact this.elim
    | emitted index action => exact ⟨same, fit⟩

theorem Asked.quiet {trace' : InputTrace} (h : Asked other trace trace') :
    ∃ steps, trace' = steps ++ trace ∧ ∀ step ∈ steps, step.Quiet := by
  obtain ⟨n, rfl⟩ := h
  refine ⟨_, rfl, ?_⟩
  intro step member
  rw [List.eq_of_mem_replicate member]
  trivial

/-- Steps on another descriptor say nothing about this one's stream. -/
theorem framing_serves {index : SourceIndex} (apart : fd ≠ other)
    (serves : ∀ step ∈ steps, step.Serves index other) :
    framing fd (steps ++ trace) = framing fd trace := by
  induction steps with
  | nil => rfl
  | cons step steps ih =>
    have rest := ih fun later member => serves later (List.mem_cons_of_mem _ member)
    have this := serves step List.mem_cons_self
    rw [List.cons_append, framing, rest]
    cases step with
    | opened node other' => exact this.elim
    | closed other' => exact this.elim
    | read other' result =>
      obtain rfl : other' = other := this
      cases result with
      | got bytes => exact if_neg (Ne.symm apart)
      | interrupted => rfl
      | again => rfl
      | failed => rfl
    | ioctl other' => rfl
    | consumed other' event =>
      obtain rfl : other' = other := this
      exact if_neg (Ne.symm apart)
    | emitted index' action => rfl

theorem framing_read_got (bytes : List UInt8) :
    framing fd (.read fd (.got bytes) :: trace) =
      { framing fd trace with bytes := (framing fd trace).bytes ++ bytes } := if_pos rfl

theorem framing_consumed (event : InputEvent) :
    framing fd (.consumed fd event :: trace) =
      { framing fd trace with consumed := (framing fd trace).consumed ++ [event] } := if_pos rfl

end Steps

/-- A record is noted first; what its event does is quiet. -/
theorem consumeEvent_notes (ops : CartInputOps) (engine : InputEngine) (index : SourceIndex)
    (event : InputEvent) :
    ∃ steps, (consumeEvent ops engine index event).trace =
        steps ++ .consumed (engine.source index).fd event :: engine.trace ∧
      ∀ step ∈ steps, step.Quiet := by
  have nothing : ∀ step ∈ ([] : InputTrace), step.Quiet := by simp
  simp only [consumeEvent]
  split
  · split
    · exact ⟨[], rfl, nothing⟩
    · split
      · obtain ⟨_, asked⟩ := resyncAfterDesync_keeps ops (engine.source index)
          (engine.record [.consumed (engine.source index).fd event]).trace
        exact asked.quiet
      · exact ⟨[], rfl, nothing⟩
  · split
    · split
      · simp only [processKeyEvent]
        split
        · exact ⟨[], rfl, nothing⟩
        · exact ⟨[_], rfl, by simp [InputStep.Quiet]⟩
      · exact ⟨[], rfl, nothing⟩
    · split
      · split
        · split
          · exact ⟨[], rfl, nothing⟩
          · exact ⟨[], rfl, nothing⟩
        · exact ⟨[], rfl, nothing⟩
      · exact ⟨[], rfl, nothing⟩

/-! ## One slot -/

/-- A slot's buffer goes on where the records consumed end. -/
structure Cut (abi : Abi) (ops : CartInputOps) (fd : Int) (index : SourceIndex)
    (engine : InputEngine) : Prop where
  holds : (engine.source index).fd = fd
  records : (framing fd engine.trace).consumed ++ eventsIn abi (engine.buffer index) =
    eventsIn abi (framing fd engine.trace).bytes
  tail : leftover (inputEventSize abi) (engine.buffer index) =
    leftover (inputEventSize abi) (framing fd engine.trace).bytes
  within : (engine.buffer index).length ≤ PARTIAL_CAP
  reads : ReadsFit abi ops engine.trace

section Slot

variable {abi : Abi} {ops : CartInputOps} {fd : Int} {index : SourceIndex} {engine : InputEngine}

/-- With less than a record buffered everything was consumed, and the buffer is the tail. -/
theorem Cut.short (h : Cut abi ops fd index engine)
    (short : (engine.buffer index).length < inputEventSize abi) :
    (framing fd engine.trace).consumed = eventsIn abi (framing fd engine.trace).bytes ∧
      engine.buffer index = leftover (inputEventSize abi) (framing fd engine.trace).bytes := by
  have records := h.records
  have tail := h.tail
  rw [eventsIn_of_short short, List.append_nil] at records
  rw [leftover_of_short short] at tail
  exact ⟨records, tail⟩

/-- Consuming the record at the start of the buffer. -/
theorem Cut.consume (h : Cut abi ops fd index engine)
    (long : inputEventSize abi ≤ (engine.buffer index).length) :
    Cut abi ops fd index (consumeEvent ops
      (engine.setBuffer index ((engine.buffer index).drop (inputEventSize abi))) index
        (InputEvent.ofBytes abi ((engine.buffer index).take (inputEventSize abi)))) ∧
      (consumeEvent ops
        (engine.setBuffer index ((engine.buffer index).drop (inputEventSize abi))) index
          (InputEvent.ofBytes abi ((engine.buffer index).take (inputEventSize abi)))).buffer index =
        (engine.buffer index).drop (inputEventSize abi) := by
  generalize same : InputEvent.ofBytes abi ((engine.buffer index).take (inputEventSize abi)) = event
  have kept := (consumeEvent_sameInput ops
    (engine.setBuffer index ((engine.buffer index).drop (inputEventSize abi))) index event).buffer
  have serves := consumeEvent_serves ops
    (engine.setBuffer index ((engine.buffer index).drop (inputEventSize abi))) index event
  obtain ⟨steps, trace, quiet⟩ := consumeEvent_notes ops
    (engine.setBuffer index ((engine.buffer index).drop (inputEventSize abi))) index event
  have buffer : (consumeEvent ops
      (engine.setBuffer index ((engine.buffer index).drop (inputEventSize abi))) index event).buffer
        index = (engine.buffer index).drop (inputEventSize abi) := by
    rw [kept, InputEngine.buffer_setBuffer_self]
  rw [InputEngine.source_setBuffer, InputEngine.trace_setBuffer, h.holds] at trace
  obtain ⟨still, fit⟩ := framing_quiet abi ops fd (.consumed fd event :: engine.trace) quiet
  rw [framing_consumed] at still
  refine ⟨⟨?_, ?_, ?_, ?_, ?_⟩, buffer⟩
  · exact serves.fd.trans h.holds
  · have records := h.records
    rw [eventsIn_of_long long, same] at records
    rw [buffer, trace, still, ← records, List.append_assoc]
    rfl
  · rw [buffer, trace, still, ← h.tail, leftover_of_long (inputEventSize_pos abi) long]
  · rw [buffer, List.length_drop]
    exact Nat.le_trans (Nat.sub_le _ _) h.within
  · rw [trace]
    exact fit.mpr h.reads

/-- The inner loop consumes every complete record. -/
theorem drainRecords_cut (rounds : Nat) (h : Cut abi ops fd index engine)
    (enough : (engine.buffer index).length ≤ rounds) :
    Cut abi ops fd index (drainRecords abi ops index rounds engine) ∧
      ((drainRecords abi ops index rounds engine).buffer index).length < inputEventSize abi := by
  have positive := inputEventSize_pos abi
  induction rounds generalizing engine with
  | zero =>
    refine ⟨h, ?_⟩
    simp only [drainRecords]
    omega
  | succ rounds ih =>
    simp only [drainRecords]
    split
    case isTrue long =>
      obtain ⟨next, buffer⟩ := h.consume long
      apply ih next
      rw [buffer, List.length_drop]
      omega
    case isFalse short => exact ⟨h, Nat.not_le.mp short⟩

/-- A read asks for what there is room for beside the tail. -/
theorem Cut.reads_fit (h : Cut abi ops fd index engine)
    (short : (engine.buffer index).length < inputEventSize abi) :
    ReadsFit abi ops (.read fd (readFd ops fd (PARTIAL_CAP - (engine.buffer index).length)
      engine.trace) :: engine.trace) := by
  rw [(h.short short).2]
  exact ⟨rfl, h.reads⟩

/-- What a read returns fits the room. -/
theorem readFd_length {count : Nat} {trace : InputTrace} {bytes : List UInt8}
    (h : readFd ops fd count trace = .got bytes) : bytes.length ≤ count := by
  simp only [readFd] at h
  cases result : ops.read trace fd count with
  | got all =>
    rw [result] at h
    cases h
    exact List.length_take_le _ _
  | interrupted => simp [result] at h
  | again => simp [result] at h
  | failed => simp [result] at h

/-- Bytes that a read returns join the tail. -/
theorem Cut.deliver (h : Cut abi ops fd index engine)
    (short : (engine.buffer index).length < inputEventSize abi) {bytes : List UInt8}
    (room : (engine.buffer index).length + bytes.length ≤ PARTIAL_CAP)
    (fits : ReadsFit abi ops (.read fd (.got bytes) :: engine.trace)) :
    Cut abi ops fd index ((engine.record [.read fd (.got bytes)]).setBuffer index
      (engine.buffer index ++ bytes)) := by
  obtain ⟨consumed, tail⟩ := h.short short
  obtain ⟨whole, rest⟩ := records_append (inputEventSize_pos abi)
    (framing fd engine.trace).bytes bytes
  constructor
  · exact h.holds
  · rw [InputEngine.buffer_setBuffer_self, InputEngine.trace_setBuffer, InputEngine.trace_record,
      List.singleton_append, framing_read_got, tail]
    simp only [eventsIn, whole, List.map_append]
    rw [consumed, eventsIn]
  · rw [InputEngine.buffer_setBuffer_self, InputEngine.trace_setBuffer, InputEngine.trace_record,
      List.singleton_append, framing_read_got, tail]
    exact rest.symm
  · rw [InputEngine.buffer_setBuffer_self, List.length_append]
    exact room
  · exact fits

/-- A read that returns no byte leaves the stream as it is. -/
theorem framing_read_nothing {trace : InputTrace} {result : ReadResult}
    (nothing : ∀ byte bytes, result ≠ .got (byte :: bytes)) :
    framing fd (.read fd result :: trace) = framing fd trace := by
  cases result with
  | got bytes =>
    cases bytes with
    | nil => simp [framing_read_got]
    | cons byte bytes => exact absurd rfl (nothing byte bytes)
  | interrupted => rfl
  | again => rfl
  | failed => rfl

theorem Cut.wait (h : Cut abi ops fd index engine) {result : ReadResult}
    (nothing : ∀ byte bytes, result ≠ .got (byte :: bytes))
    (fits : ReadsFit abi ops (.read fd result :: engine.trace)) :
    Cut abi ops fd index (engine.record [.read fd result]) := by
  have same : framing fd (.read fd result :: engine.trace) = framing fd engine.trace :=
    framing_read_nothing nothing
  constructor
  · exact h.holds
  · rw [InputEngine.trace_record, List.singleton_append, same]
    exact h.records
  · rw [InputEngine.trace_record, List.singleton_append, same]
    exact h.tail
  · exact h.within
  · exact fits

/-- The slot has lost its descriptor after everything complete was consumed. -/
structure Lost (abi : Abi) (ops : CartInputOps) (fd : Int) (index : SourceIndex)
    (engine : InputEngine) : Prop where
  free : (engine.source index).fd = -1
  records : (framing fd engine.trace).consumed = eventsIn abi (framing fd engine.trace).bytes
  buffer : engine.buffer index = []
  reads : ReadsFit abi ops engine.trace

theorem Cut.disconnect (h : Cut abi ops fd index engine)
    (short : (engine.buffer index).length < inputEventSize abi) :
    Lost abi ops fd index (handleDisconnect engine index) := by
  have records := (h.short short).1
  constructor
  · rw [handleDisconnect_source]
    rfl
  · obtain same | closed := handleDisconnect_trace engine index
    · rw [same]
      exact records
    · rw [closed]
      exact records
  · exact handleDisconnect_buffer engine index
  · obtain same | closed := handleDisconnect_trace engine index
    · rw [same]
      exact h.reads
    · rw [closed]
      exact h.reads

/-- A pump that returns has consumed every complete record it was given. -/
theorem pumpSource_cut (fuel : Nat) (h : Cut abi ops fd index engine) :
    (Cut abi ops fd index (pumpSource abi ops index fuel engine).1 ∧
      ((pumpSource abi ops index fuel engine).2 = true →
        ((pumpSource abi ops index fuel engine).1.buffer index).length < inputEventSize abi)) ∨
    Lost abi ops fd index (pumpSource abi ops index fuel engine).1 := by
  induction fuel generalizing engine with
  | zero => exact Or.inl ⟨h, fun returned => absurd returned (by simp [pumpSource])⟩
  | succ fuel ih =>
    obtain ⟨cut, short⟩ := drainRecords_cut (engine.buffer index).length h (Nat.le_refl _)
    simp only [pumpSource]
    generalize drainRecords abi ops index (engine.buffer index).length engine = drain
      at cut short ⊢
    have fits := cut.reads_fit short
    have length (bytes : List UInt8) (got : readFd ops fd
        (PARTIAL_CAP - (drain.buffer index).length) drain.trace = .got bytes) :
        bytes.length ≤ PARTIAL_CAP - (drain.buffer index).length := readFd_length got
    rw [cut.holds]
    generalize readFd ops fd (PARTIAL_CAP - (drain.buffer index).length) drain.trace = result
      at fits length ⊢
    cases result with
    | got bytes =>
      cases bytes with
      | nil => exact Or.inr ((cut.wait (by simp) fits).disconnect short)
      | cons byte bytes =>
        have within := length _ rfl
        have below := inputEventSize_lt abi
        exact ih (cut.deliver short (by omega) fits)
    | interrupted => exact ih (cut.wait (by simp) fits)
    | again => exact Or.inl ⟨cut.wait (by simp) fits, fun _ => short⟩
    | failed => exact Or.inr ((cut.wait (by simp) fits).disconnect short)

end Slot

end VitaLinux.Cart
