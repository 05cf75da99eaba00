import VitaLinux.Base.BoundedQueue
import VitaLinux.Cart.Input.Calls

/-!
# What reaches the queue of actions

The loops of a poll are followed once more for the calls of `consume_event` they make: the
engine and the record of each. Between them every poll that returns takes an action.
-/

namespace VitaLinux.Cart

open Base

/-- A call of `consume_event`. -/
structure Consumption where
  engine : InputEngine
  index : SourceIndex
  event : InputEvent

/-- The action that the event emits, if any. -/
def Consumption.action (moment : Consumption) : CartInputAction :=
  if moment.event.type = EV_KEY ∧ (moment.engine.source moment.index).state = .connected then
    emittedAction moment.event.code moment.event.value
  else .none

/-- The calls of `consume_event` in `drainRecords`. -/
def drainMoments (abi : Abi) (ops : CartInputOps) (index : SourceIndex) :
    Nat → InputEngine → List Consumption
  | 0, _ => []
  | rounds + 1, engine =>
    let buffer := engine.buffer index
    if inputEventSize abi ≤ buffer.length then
      let event := InputEvent.ofBytes abi (buffer.take (inputEventSize abi))
      let engine := engine.setBuffer index (buffer.drop (inputEventSize abi))
      ⟨engine, index, event⟩ :: drainMoments abi ops index rounds
        (consumeEvent ops engine index event)
    else []

/-- The calls of `consume_event` in `pumpSource`. -/
def pumpMoments (abi : Abi) (ops : CartInputOps) (index : SourceIndex) :
    Nat → InputEngine → List Consumption
  | 0, _ => []
  | fuel + 1, engine =>
    let moments := drainMoments abi ops index (engine.buffer index).length engine
    let engine := drainRecords abi ops index (engine.buffer index).length engine
    let fd := (engine.source index).fd
    let result := readFd ops fd (PARTIAL_CAP - (engine.buffer index).length) engine.trace
    let engine := engine.record [.read fd result]
    match result with
    | .got [] => moments
    | .got bytes =>
      moments ++ pumpMoments abi ops index fuel
        (engine.setBuffer index (engine.buffer index ++ bytes))
    | .interrupted => moments ++ pumpMoments abi ops index fuel engine
    | .again => moments
    | .failed => moments

/-- The calls of `consume_event` in `pollSources`. -/
def pollMoments (abi : Abi) (ops : CartInputOps) (fuel : Nat) :
    List SourceIndex → InputEngine → List Consumption
  | [], _ => []
  | index :: indices, engine =>
    if (engine.source index).fd < 0 then pollMoments abi ops fuel indices engine
    else if (engine.source index).state = .desync then pollMoments abi ops fuel indices engine
    else
      let moments := pumpMoments abi ops index fuel engine
      let (engine, returned) := pumpSource abi ops index fuel engine
      if returned then moments ++ pollMoments abi ops fuel indices engine else moments

/-- What happens to the queue, with the call of `consume_event` that each offer is from. -/
abbrev QueueEvent := QueueOp Consumption

def InputEngine.callEvents (abi : Abi) (ops : CartInputOps) (engine : InputEngine) :
    InputCall → List QueueEvent
  | .poll fuel =>
    (pollMoments abi ops fuel (List.finRange 4) engine).map .offer ++
      if (cartInputPoll abi ops fuel engine).2.isSome then [.take] else []
  | _ => []

/-- The calls of `consume_event` and the polls that return, in the order of a run. -/
def InputEngine.events (abi : Abi) (ops : CartInputOps) (engine : InputEngine) :
    List InputCall → List QueueEvent
  | [] => []
  | call :: calls =>
    let (engine', returned) := engine.call abi ops call
    engine.callEvents abi ops call ++ if returned then engine'.events abi ops calls else []

/-- What a call returns, unless it is CART_INPUT_NONE. -/
def InputEngine.callReturned (abi : Abi) (ops : CartInputOps) (engine : InputEngine) :
    InputCall → Option CartInputAction
  | .poll fuel =>
    match (cartInputPoll abi ops fuel engine).2 with
    | some action => if action = .none then none else some action
    | none => none
  | _ => none

/-- The actions that the polls of a run return, without CART_INPUT_NONE. -/
def InputEngine.returned (abi : Abi) (ops : CartInputOps) (engine : InputEngine) :
    List InputCall → List CartInputAction
  | [] => []
  | call :: calls =>
    let (engine', returned) := engine.call abi ops call
    (engine.callReturned abi ops call).toList ++
      if returned then engine'.returned abi ops calls else []

/-- The action that an event adds to the queue: it is emitted and finds fewer than
eight pending. -/
def admittedAction : QueueEvent → Option CartInputAction
  | .offer moment =>
    if moment.action ≠ .none ∧ moment.engine.input.pending.length < PENDING_CAP then
      some moment.action
    else none
  | .take => none

/-! ## The queue through the loops -/

/-- Events that lead from one state of the queue to another, each offer finding what its
engine has pending, and the actions taken on the way. -/
inductive Drives : List CartInputAction → List QueueEvent → List CartInputAction →
    List CartInputAction → Prop
  | refl (pending : List CartInputAction) : Drives pending [] pending []
  | offer {moment : Consumption} {events : List QueueEvent} {pending' taken : List CartInputAction}
      (rest : Drives (enqueueAction moment.engine.input.pending moment.action) events pending'
        taken) :
      Drives moment.engine.input.pending (.offer moment :: events) pending' taken
  | idle {events : List QueueEvent} {pending' taken : List CartInputAction}
      (rest : Drives [] events pending' taken) : Drives [] (.take :: events) pending' taken
  | take {action : CartInputAction} {pending pending' taken : List CartInputAction}
      {events : List QueueEvent} (rest : Drives pending events pending' taken) :
      Drives (action :: pending) (.take :: events) pending' (action :: taken)

theorem Drives.trans {pending pending' pending'' taken taken' : List CartInputAction}
    {events later : List QueueEvent} (h : Drives pending events pending' taken)
    (h' : Drives pending' later pending'' taken') :
    Drives pending (events ++ later) pending'' (taken ++ taken') := by
  induction h with
  | refl => exact h'
  | offer _ ih => exact .offer (ih h')
  | idle _ ih => exact .idle (ih h')
  | take _ ih => exact .take (ih h')

theorem processKeyEvent_pending (engine : InputEngine) (index : SourceIndex) (code : BitVec 16)
    (value : Int32) :
    (processKeyEvent engine index code value).input.pending =
      enqueueAction engine.input.pending (emittedAction code value) := by
  simp only [processKeyEvent]
  split
  · rfl
  · rfl

theorem enqueueAction_none (pending : List CartInputAction) :
    enqueueAction pending .none = pending := if_pos rfl

/-- An event offers its action to the queue. -/
theorem consumeEvent_pending (ops : CartInputOps) (moment : Consumption) :
    (consumeEvent ops moment.engine moment.index moment.event).input.pending =
      enqueueAction moment.engine.input.pending moment.action := by
  have quiet (other : moment.event.type ≠ EV_KEY) : moment.action = .none :=
    if_neg fun both => other both.1
  simp only [consumeEvent]
  split
  case isTrue sync =>
    have silent : moment.event.type ≠ EV_KEY := by
      rw [sync]
      decide
    rw [quiet silent, enqueueAction_none]
    split
    · rfl
    · split
      · rfl
      · rfl
  case isFalse =>
    split
    case isTrue key =>
      split
      case isTrue connected =>
        have action : moment.action = emittedAction moment.event.code moment.event.value :=
          if_pos ⟨key, connected⟩
        rw [processKeyEvent_pending, action]
        rfl
      case isFalse apart =>
        have action : moment.action = .none := if_neg fun both => apart both.2
        rw [action, enqueueAction_none]
        rfl
    case isFalse other =>
      rw [quiet other, enqueueAction_none]
      split
      · split
        · split
          · rfl
          · rfl
        · rfl
      · rfl

theorem drainRecords_drives (abi : Abi) (ops : CartInputOps) (index : SourceIndex) (rounds : Nat)
    (engine : InputEngine) :
    Drives engine.input.pending ((drainMoments abi ops index rounds engine).map .offer)
      (drainRecords abi ops index rounds engine).input.pending [] := by
  induction rounds generalizing engine with
  | zero => exact .refl _
  | succ rounds ih =>
    simp only [drainRecords, drainMoments]
    split
    · generalize InputEvent.ofBytes abi
        ((engine.buffer index).take (inputEventSize abi)) = event
      have rest := ih (consumeEvent ops
        (engine.setBuffer index ((engine.buffer index).drop (inputEventSize abi))) index event)
      have moved := consumeEvent_pending ops
        ⟨engine.setBuffer index ((engine.buffer index).drop (inputEventSize abi)), index, event⟩
      simp only at moved
      rw [moved] at rest
      exact .offer rest
    · exact .refl _

theorem pumpSource_drives (abi : Abi) (ops : CartInputOps) (index : SourceIndex) (fuel : Nat)
    (engine : InputEngine) :
    Drives engine.input.pending ((pumpMoments abi ops index fuel engine).map .offer)
      (pumpSource abi ops index fuel engine).1.input.pending [] := by
  induction fuel generalizing engine with
  | zero => exact .refl _
  | succ fuel ih =>
    have drained := drainRecords_drives abi ops index (engine.buffer index).length engine
    simp only [pumpSource, pumpMoments]
    generalize drainRecords abi ops index (engine.buffer index).length engine = drain
      at drained ⊢
    generalize readFd ops (drain.source index).fd (PARTIAL_CAP - (drain.buffer index).length)
      drain.trace = result
    cases result with
    | got bytes =>
      cases bytes with
      | nil =>
        rw [handleDisconnect_pending]
        exact drained
      | cons byte bytes =>
        rw [List.map_append]
        exact drained.trans (ih ((drain.record [.read (drain.source index).fd
          (.got (byte :: bytes))]).setBuffer index (drain.buffer index ++ byte :: bytes)))
    | interrupted =>
      rw [List.map_append]
      exact drained.trans (ih (drain.record [.read (drain.source index).fd .interrupted]))
    | again => exact drained
    | failed =>
      rw [handleDisconnect_pending]
      exact drained

theorem pollSources_drives (abi : Abi) (ops : CartInputOps) (fuel : Nat)
    (indices : List SourceIndex) (engine : InputEngine) :
    Drives engine.input.pending ((pollMoments abi ops fuel indices engine).map .offer)
      (pollSources abi ops fuel indices engine).1.input.pending [] := by
  induction indices generalizing engine with
  | nil => exact .refl _
  | cons index indices ih =>
    simp only [pollSources, pollMoments]
    split
    · exact ih engine
    · split
      · exact ih engine
      · have pumped := pumpSource_drives abi ops index fuel engine
        split
        · rw [List.map_append]
          exact pumped.trans (ih _)
        · exact pumped

/-! ## Discovery leaves the queue alone -/

theorem claimCandidates_pending (candidates : List CartInputCandidate) (engine : InputEngine) :
    (claimCandidates engine candidates).1.input.pending = engine.input.pending := by
  induction candidates generalizing engine with
  | nil => rfl
  | cons candidate candidates ih =>
    simp only [claimCandidates, ih, claimCandidate]
    split
    · rfl
    · rfl

theorem discoverPass_pending (ops : CartInputOps) (listing : DirListing) (engine : InputEngine) :
    (discoverPass ops listing engine).2.input.pending = engine.input.pending := by
  cases listing with
  | missing => rfl
  | unreadable => rfl
  | entries entries =>
    rw [discoverPass_entries]
    exact claimCandidates_pending _ _

/-! ## Runs -/

/-- What is added to the queue is an action. -/
theorem enqueueAction_valid {pending : List CartInputAction} (action : CartInputAction)
    (valid : ∀ other ∈ pending, other ≠ .none) :
    ∀ other ∈ enqueueAction pending action, other ≠ .none := by
  simp only [enqueueAction]
  split
  · exact valid
  case isFalse some =>
    split
    · intro other member
      obtain old | new := List.mem_append.mp member
      · exact valid other old
      · rw [List.mem_singleton.mp new]
        exact some
    · exact valid

theorem Drives.valid {pending pending' taken : List CartInputAction} {events : List QueueEvent}
    (h : Drives pending events pending' taken) (valid : ∀ action ∈ pending, action ≠ .none) :
    ∀ action ∈ pending', action ≠ .none := by
  induction h with
  | refl => exact valid
  | offer _ ih => exact ih (enqueueAction_valid _ valid)
  | idle _ ih => exact ih valid
  | take _ ih => exact ih fun other member => valid other (List.mem_cons_of_mem _ member)

/-- A call other than an initialisation or a shutdown. -/
def InputCall.Serves : InputCall → Prop
  | .init _ => False
  | .poll _ => True
  | .rescan _ => True
  | .shutdown => False

/-- A poll does not return, finds no action pending or takes the oldest. -/
theorem cartInputPoll_cases (abi : Abi) (ops : CartInputOps) (fuel : Nat) (engine : InputEngine) :
    let polled := (pollSources abi ops fuel (List.finRange 4) engine).1
    cartInputPoll abi ops fuel engine = (polled, none) ∨
    (polled.input.pending = [] ∧
      cartInputPoll abi ops fuel engine = (polled, some .none)) ∨
    ∃ action rest, polled.input.pending = action :: rest ∧
      cartInputPoll abi ops fuel engine = (polled.setPending rest, some action) := by
  simp only [cartInputPoll]
  split
  · split
    case h_1 empty => exact Or.inr (Or.inl ⟨empty, rfl⟩)
    case h_2 action rest taken => exact Or.inr (Or.inr ⟨action, rest, taken, rfl⟩)
  · exact Or.inl rfl

theorem cartInputPoll_drives (abi : Abi) (ops : CartInputOps) (fuel : Nat) {engine : InputEngine}
    (valid : ∀ action ∈ engine.input.pending, action ≠ .none) :
    Drives engine.input.pending (engine.callEvents abi ops (.poll fuel))
      (cartInputPoll abi ops fuel engine).1.input.pending
      (engine.callReturned abi ops (.poll fuel)).toList := by
  have polled := pollSources_drives abi ops fuel (List.finRange 4) engine
  have valid := polled.valid valid
  simp only [InputEngine.callEvents, InputEngine.callReturned]
  obtain e | ⟨empty, e⟩ | ⟨action, rest, taken, e⟩ := cartInputPoll_cases abi ops fuel engine
  · rw [e]
    simpa using polled
  · rw [e]
    rw [empty] at polled
    have taking : Drives [] [.take] [] [] := .idle (.refl [])
    simpa [empty] using polled.trans taking
  · rw [e]
    rw [taken] at polled valid
    have some : action ≠ .none := valid action List.mem_cons_self
    have taking : Drives (action :: rest) [.take] rest [action] := .take (.refl rest)
    simpa [some, InputEngine.setPending] using polled.trans taking

theorem InputEngine.call_drives (abi : Abi) (ops : CartInputOps) {engine : InputEngine}
    (valid : ∀ action ∈ engine.input.pending, action ≠ .none) {call : InputCall}
    (serves : call.Serves) :
    Drives engine.input.pending (engine.callEvents abi ops call)
      (engine.call abi ops call).1.input.pending (engine.callReturned abi ops call).toList := by
  cases call with
  | init listing => exact serves.elim
  | poll fuel => exact cartInputPoll_drives abi ops fuel valid
  | rescan listing =>
    have same : (engine.call abi ops (.rescan listing)).1.input.pending = engine.input.pending :=
      discoverPass_pending ops listing engine
    rw [same]
    exact .refl _
  | shutdown => exact serves.elim

theorem InputEngine.run_drives (abi : Abi) (ops : CartInputOps) {engine : InputEngine}
    (valid : ∀ action ∈ engine.input.pending, action ≠ .none) {calls : List InputCall}
    (serves : ∀ call ∈ calls, call.Serves) :
    Drives engine.input.pending (engine.events abi ops calls)
      (engine.run abi ops calls).input.pending (engine.returned abi ops calls) := by
  induction calls generalizing engine with
  | nil => exact .refl _
  | cons call calls ih =>
    have first := engine.call_drives abi ops valid (serves call List.mem_cons_self)
    simp only [InputEngine.events, InputEngine.run, InputEngine.returned]
    split
    · exact first.trans (ih (first.valid valid) fun other member =>
        serves other (List.mem_cons_of_mem _ member))
    · simpa using first

end VitaLinux.Cart
