import VitaLinux.Cart.Input.Streams

/-!
# How far a source has got

Between two polls everything about a source follows from the number of its reads,
as long as it is connected.
-/

namespace VitaLinux.Cart

open Base

variable {abi : Abi} {stream : Int → DeviceStream} {next : ReadSchedule}

theorem recordsConsumed_cons (fd : Int) (step : InputStep) (trace : InputTrace) :
    recordsConsumed fd (step :: trace) = step.consumes fd + recordsConsumed fd trace := rfl

theorem emittedBy_cons (index : SourceIndex) (step : InputStep) (trace : InputTrace) :
    emittedBy index (step :: trace) = emittedBy index trace ++ (step.emits index).toList := by
  cases emits : step.emits index <;> simp [emittedBy, emits]

theorem readsOf_cons (fd : Int) (step : InputStep) (trace : InputTrace) :
    readsOf fd (step :: trace) = step.reads fd + readsOf fd trace := rfl

theorem bytesReceived_cons (fd : Int) (step : InputStep) (trace : InputTrace) :
    bytesReceived fd (step :: trace) = step.received fd + bytesReceived fd trace := rfl

theorem view_setSource (engine : InputEngine) (index : SourceIndex) (source : CartInputSource) :
    (engine.setSource index source).view index =
      ⟨source, recordsConsumed source.fd engine.trace, emittedBy index engine.trace⟩ := by
  simp [InputEngine.view]

/-- A consumed record counts before the event has any effect. -/
theorem view_consumed (engine : InputEngine) (index : SourceIndex) (event : InputEvent) :
    (engine.record [.consumed (engine.source index).fd event]).view index =
      { engine.view index with consumed := (engine.view index).consumed + 1 } := by
  simp [InputEngine.view, recordsConsumed_cons, emittedBy_cons, InputStep.consumes,
    InputStep.emits, Nat.add_comm]

/-- A resynchronisation gets the answers for the record just consumed. -/
theorem resyncAfterDesync_view (stream : Int → DeviceStream) (next : ReadSchedule)
    (engine : InputEngine) (index : SourceIndex) :
    let fd := (engine.source index).fd
    let after := resyncAfterDesync (streamOps stream next) (engine.source index) engine.trace
    after.1 = (engine.source index).resynced
        ((stream fd).keyState (recordsConsumed fd engine.trace))
        ((stream fd).abs (recordsConsumed fd engine.trace)) ∧
      recordsConsumed fd after.2 = recordsConsumed fd engine.trace ∧
      emittedBy index after.2 = emittedBy index engine.trace := by
  obtain ⟨_, asked⟩ := resyncAfterDesync_keeps (streamOps stream next) (engine.source index)
    engine.trace
  have still {trace : InputTrace} (h : Asked (engine.source index).fd engine.trace trace) :=
    recordOf_asked index (engine.source index).fd h
  refine ⟨?_, congrArg SourceRecord.consumed (still asked),
    congrArg SourceRecord.emitted (still asked)⟩
  apply resyncAfterDesync_eq rfl
  intro trace asked code
  have consumed : recordsConsumed _ trace = _ := congrArg SourceRecord.consumed (still asked)
  simp only [streamOps]
  rw [consumed]
  rfl

theorem processKeyEvent_view (engine : InputEngine) (index : SourceIndex) (code : BitVec 16)
    (value : Int32) :
    (processKeyEvent engine index code value).view index =
      { engine.view index with
        source := (engine.source index).holdKey code value
        emitted := (engine.view index).emitted ++
          if emittedAction code value = .none then [] else [emittedAction code value] } := by
  have same := ((engine.source index).holdKey_same code value).fd
  simp only [processKeyEvent]
  split
  · simp [InputEngine.view, same]
  · simp [InputEngine.view, same, recordsConsumed_cons, emittedBy_cons, InputStep.consumes,
      InputStep.emits]

/-- The engine consumes an event as the source alone would. -/
theorem consumeEvent_view (engine : InputEngine) (index : SourceIndex) (event : InputEvent) :
    (consumeEvent (streamOps stream next) engine index event).view index =
      (engine.view index).consume (stream (engine.source index).fd) event := by
  have noted := view_consumed engine index event
  have consumed : recordsConsumed (engine.source index).fd
      (engine.record [.consumed (engine.source index).fd event]).trace =
        (engine.view index).consumed + 1 := congrArg SourceView.consumed noted
  have emitted : emittedBy index
      (engine.record [.consumed (engine.source index).fd event]).trace =
        (engine.view index).emitted := congrArg SourceView.emitted noted
  have source : (engine.view index).source = engine.source index := rfl
  simp only [consumeEvent, SourceView.consume, source]
  split
  · split
    · simp only [view_setSource, consumed, emitted]
    · split
      · obtain ⟨resynced, still, quiet⟩ := resyncAfterDesync_view stream next
          (engine.record [.consumed (engine.source index).fd event]) index
        simp only [InputEngine.source_record, consumed, emitted] at resynced still quiet
        simp only [view_setSource, resynced, quiet]
        simp only [CartInputSource.resynced, still]
      · exact noted
  · split
    · split
      · simp only [processKeyEvent_view, noted, InputEngine.source_record]
      · exact noted
    · split
      · cases axisSlot event.code.toNat with
        | none => exact noted
        | some slot =>
          dsimp only
          split
          · simp only [view_setSource, consumed, emitted]
          · exact noted
      · exact noted

/-- What was read so far, from any descriptor, and what is buffered. -/
structure SameInput (engine engine' : InputEngine) : Prop where
  reads : ∀ fd, readsOf fd engine'.trace = readsOf fd engine.trace
  received : ∀ fd, bytesReceived fd engine'.trace = bytesReceived fd engine.trace
  buffer : engine'.buffer = engine.buffer

theorem SameInput.trans {first second third : InputEngine} (h : SameInput first second)
    (h' : SameInput second third) : SameInput first third :=
  ⟨fun fd => (h'.reads fd).trans (h.reads fd), fun fd => (h'.received fd).trans (h.received fd),
    h'.buffer.trans h.buffer⟩

theorem processKeyEvent_sameInput (engine : InputEngine) (index : SourceIndex)
    (code : BitVec 16) (value : Int32) :
    SameInput engine (processKeyEvent engine index code value) := by
  simp only [processKeyEvent]
  split
  · exact ⟨fun _ => rfl, fun _ => rfl, rfl⟩
  · constructor
    · simp [readsOf_cons, InputStep.reads]
    · simp [bytesReceived_cons, InputStep.received]
    · rfl

theorem consumeEvent_sameInput (ops : CartInputOps) (engine : InputEngine)
    (index : SourceIndex) (event : InputEvent) :
    SameInput engine (consumeEvent ops engine index event) := by
  have noted : SameInput engine (engine.record [.consumed (engine.source index).fd event]) := by
    constructor
    · simp [readsOf_cons, InputStep.reads]
    · simp [bytesReceived_cons, InputStep.received]
    · rfl
  have updated (source : CartInputSource) : SameInput engine
      ((engine.record [.consumed (engine.source index).fd event]).setSource index source) :=
    ⟨noted.reads, noted.received, noted.buffer⟩
  simp only [consumeEvent]
  split
  · split
    · exact updated _
    · split
      · obtain ⟨_, asked⟩ := resyncAfterDesync_keeps ops (engine.source index)
          (engine.record [.consumed (engine.source index).fd event]).trace
        have still (fd : Int) := recordOf_asked index fd asked
        constructor
        · exact fun fd => (congrArg SourceRecord.reads (still fd)).trans (noted.reads fd)
        · exact fun fd => (congrArg SourceRecord.received (still fd)).trans (noted.received fd)
        · rfl
      · exact noted
  · split
    · split
      · exact noted.trans (processKeyEvent_sameInput _ _ _ _)
      · exact noted
    · split
      · split
        · split
          · exact updated _
          · exact noted
        · exact noted
      · exact noted

theorem eventsIn_of_long {bytes : List UInt8} (long : inputEventSize abi ≤ bytes.length) :
    eventsIn abi bytes = InputEvent.ofBytes abi (bytes.take (inputEventSize abi)) ::
      eventsIn abi (bytes.drop (inputEventSize abi)) := by
  simp only [eventsIn, records_of_long (inputEventSize_pos abi) long, List.map_cons]

theorem eventsIn_of_short {bytes : List UInt8} (short : bytes.length < inputEventSize abi) :
    eventsIn abi bytes = [] := by
  simp only [eventsIn, records_of_short short, List.map_nil]

/-- The inner loop consumes the complete records in the buffer and keeps the rest. -/
theorem drainRecords_view (abi : Abi) (stream : Int → DeviceStream) (next : ReadSchedule)
    (index : SourceIndex) (rounds : Nat) :
    ∀ engine : InputEngine, (engine.buffer index).length ≤ rounds →
      let drained := drainRecords abi (streamOps stream next) index rounds engine
      drained.view index = (engine.view index).consumeAll (stream (engine.source index).fd)
          (eventsIn abi (engine.buffer index)) ∧
        drained.buffer index = leftover (inputEventSize abi) (engine.buffer index) ∧
        (∀ fd, readsOf fd drained.trace = readsOf fd engine.trace) ∧
        ∀ fd, bytesReceived fd drained.trace = bytesReceived fd engine.trace := by
  have positive := inputEventSize_pos abi
  induction rounds with
  | zero =>
    intro engine bound
    have short : (engine.buffer index).length < inputEventSize abi := by omega
    simp only [drainRecords, eventsIn_of_short short, leftover_of_short short]
    exact ⟨rfl, trivial, fun _ => trivial, fun _ => trivial⟩
  | succ rounds ih =>
    intro engine bound
    simp only [drainRecords]
    split
    case isFalse short =>
      have short := Nat.not_le.mp short
      simp only [eventsIn_of_short short, leftover_of_short short]
      exact ⟨rfl, trivial, fun _ => trivial, fun _ => trivial⟩
    case isTrue long =>
      generalize consumes : consumeEvent (streamOps stream next)
        (engine.setBuffer index ((engine.buffer index).drop (inputEventSize abi))) index
        (InputEvent.ofBytes abi ((engine.buffer index).take (inputEventSize abi))) = consumed
      have same : SameInput
          (engine.setBuffer index ((engine.buffer index).drop (inputEventSize abi))) consumed := by
        rw [← consumes]
        exact consumeEvent_sameInput _ _ _ _
      have serves : Serves index
          (engine.setBuffer index ((engine.buffer index).drop (inputEventSize abi))) consumed := by
        rw [← consumes]
        exact consumeEvent_serves _ _ _ _
      have view : consumed.view index = (engine.view index).consume
          (stream (engine.source index).fd)
          (InputEvent.ofBytes abi ((engine.buffer index).take (inputEventSize abi))) := by
        rw [← consumes]
        exact consumeEvent_view _ _ _
      have buffer : consumed.buffer index =
          (engine.buffer index).drop (inputEventSize abi) := by
        rw [same.buffer]
        exact InputEngine.buffer_setBuffer_self _ _ _
      have fd : (consumed.source index).fd = (engine.source index).fd := serves.fd
      obtain ⟨view', buffer', reads', received'⟩ := ih consumed (by
        rw [buffer, List.length_drop]
        omega)
      refine ⟨?_, ?_, fun fd => (reads' fd).trans (same.reads fd),
        fun fd => (received' fd).trans (same.received fd)⟩
      · rw [view', view, buffer, fd, eventsIn_of_long long]
        rfl
      · rw [buffer', buffer, ← leftover_of_long positive long]

/-! ## The source alone -/

theorem SourceView.consume_fd (device : DeviceStream) (view : SourceView) (event : InputEvent) :
    (view.consume device event).source.fd = view.source.fd := by
  simp only [SourceView.consume]
  split
  · split
    · rfl
    · split <;> rfl
  · split
    · split
      · exact (view.source.holdKey_same event.code event.value).fd
      · rfl
    · split
      · split
        · split <;> rfl
        · rfl
      · rfl

theorem SourceView.consumeAll_fd (device : DeviceStream) (events : List InputEvent) :
    ∀ view : SourceView, (view.consumeAll device events).source.fd = view.source.fd := by
  induction events with
  | nil => exact fun _ => rfl
  | cons event events ih =>
    intro view
    exact (ih (view.consume device event)).trans (view.consume_fd device event)

theorem SourceView.consumeAll_consumed (device : DeviceStream) (events : List InputEvent) :
    ∀ view : SourceView,
      (view.consumeAll device events).consumed = view.consumed + events.length := by
  have step (view : SourceView) (event : InputEvent) :
      (view.consume device event).consumed = view.consumed + 1 := by
    simp only [SourceView.consume]
    split
    · split
      · rfl
      · split <;> rfl
    · split
      · split <;> rfl
      · split
        · split
          · split <;> rfl
          · rfl
        · rfl
  induction events with
  | nil => exact fun _ => rfl
  | cons event events ih =>
    intro view
    have rest := ih (view.consume device event)
    rw [step] at rest
    rw [List.length_cons, ← Nat.add_assoc, Nat.add_right_comm]
    exact rest

theorem SourceView.consumeAll_append (device : DeviceStream) (view : SourceView)
    (before after : List InputEvent) :
    view.consumeAll device (before ++ after) =
      (view.consumeAll device before).consumeAll device after :=
  List.foldl_append ..

/-- The state of a connected source that has a SYN_DROPPED open or not. -/
def syncState (dropped : Bool) : CartInputState := if dropped then .desync else .connected

theorem SourceView.consume_state (device : DeviceStream) {view : SourceView} {dropped : Bool}
    (state : view.source.state = syncState dropped) (event : InputEvent) :
    (view.consume device event).source.state = syncState (dropAfter dropped event) := by
  simp only [SourceView.consume, dropAfter]
  split
  · have differ : SYN_REPORT ≠ SYN_DROPPED := by decide
    by_cases drop : event.code = SYN_DROPPED
    · cases dropped with
      | false => simp [drop, state, syncState]
      | true => simp [drop, state, syncState, differ.symm]
    · by_cases report : event.code = SYN_REPORT
      · cases dropped with
        | false => simp [report, state, syncState, differ]
        | true => simp [report, state, syncState, differ]
      · simp [drop, report, state]
  · split
    · split
      · exact (view.source.holdKey_same event.code event.value).state.trans state
      · exact state
    · split
      · split
        · split
          · exact state
          · exact state
        · exact state
      · exact state

/-- A connected source is out of sync exactly while a SYN_DROPPED is open. -/
theorem SourceView.consumeAll_state (device : DeviceStream) (view : SourceView)
    (connected : view.source.state = .connected) (events : List InputEvent) :
    (view.consumeAll device events).source.state = syncState (openDrop events) := by
  have fold (events : List InputEvent) :
      ∀ (view : SourceView) (dropped : Bool), view.source.state = syncState dropped →
        (view.consumeAll device events).source.state =
          syncState (events.foldl dropAfter dropped) := by
    induction events with
    | nil => exact fun _ _ state => state
    | cons event events ih =>
      intro view dropped state
      exact ih (view.consume device event) _ (view.consume_state device state event)
  exact fold events view false connected

end VitaLinux.Cart
