import VitaLinux.Cart.Input.ActionQueue
import VitaLinux.Cart.Input.Streams

/-!
# Which actions a run returns

The queue of the engine is a bounded queue over the events that emit. What found room is
returned in its order; what found none is lost, a request to quit like any other.
-/

namespace VitaLinux.Cart

open Base

/-- Whether an event concerns the queue. -/
def concernsQueue : QueueEvent → Bool
  | .offer moment => decide (moment.action ≠ .none)
  | .take => true

theorem admittedAction_room {moment : Consumption} (emits : moment.action ≠ .none)
    (room : moment.engine.input.pending.length < PENDING_CAP) :
    admittedAction (.offer moment) = some moment.action := if_pos ⟨emits, room⟩

theorem admittedAction_none {moment : Consumption} (nothing : moment.action = .none) :
    admittedAction (.offer moment) = none := if_neg fun both => both.1 nothing

theorem admittedAction_full {moment : Consumption}
    (full : ¬ moment.engine.input.pending.length < PENDING_CAP) :
    admittedAction (.offer moment) = none := if_neg fun both => full both.2

theorem enqueueAction_eq (moment : Consumption) :
    enqueueAction moment.engine.input.pending moment.action =
      moment.engine.input.pending ++ (admittedAction (.offer moment)).toList := by
  by_cases emits : moment.action = .none
  · rw [admittedAction_none emits, emits, enqueueAction_none]
    simp
  · by_cases room : moment.engine.input.pending.length < PENDING_CAP
    · rw [admittedAction_room emits room, enqueueAction, if_neg emits, if_pos room]
      rfl
    · rw [admittedAction_full room, enqueueAction, if_neg emits, if_neg room]
      simp

/-- The queue of moments that the engine's queue shows the actions of. -/
structure Mirrors (pending taken admitted : List CartInputAction)
    (queue : BoundedQueue Consumption) : Prop where
  pending : queue.pending.map Consumption.action = pending
  returned : queue.returned.map Consumption.action = taken
  admitted : queue.admitted.map Consumption.action = admitted

theorem Mirrors.offer {moment : Consumption} {taken admitted : List CartInputAction}
    {queue : BoundedQueue Consumption}
    (h : Mirrors moment.engine.input.pending taken admitted queue) :
    Mirrors (enqueueAction moment.engine.input.pending moment.action) taken
      (admitted ++ (admittedAction (.offer moment)).toList)
      (queue.replay PENDING_CAP ([.offer moment].filter concernsQueue)) := by
  have size : queue.pending.length = moment.engine.input.pending.length := by
    rw [← h.pending, List.length_map]
  by_cases emits : moment.action = .none
  · rw [admittedAction_none emits, emits, enqueueAction_none]
    simpa [concernsQueue, emits] using h
  · by_cases room : moment.engine.input.pending.length < PENDING_CAP
    · rw [enqueueAction_eq, admittedAction_room emits room]
      have found : queue.pending.length < PENDING_CAP := size ▸ room
      constructor
      · simp [concernsQueue, emits, BoundedQueue.step, found, h.pending]
      · simp [concernsQueue, emits, BoundedQueue.step, found, h.returned]
      · simp [concernsQueue, emits, BoundedQueue.step, found, h.admitted]
    · have full : ¬ queue.pending.length < PENDING_CAP := size ▸ room
      rw [enqueueAction_eq, admittedAction_full room]
      simpa [concernsQueue, emits, BoundedQueue.step, full] using h

theorem Drives.mirrors {pending pending' taken : List CartInputAction} {events : List QueueEvent}
    (h : Drives pending events pending' taken) :
    ∀ {before admitted : List CartInputAction} {queue : BoundedQueue Consumption},
      Mirrors pending before admitted queue →
      Mirrors pending' (before ++ taken) (admitted ++ events.filterMap admittedAction)
        (queue.replay PENDING_CAP (events.filter concernsQueue)) := by
  induction h with
  | refl pending =>
    intro before admitted queue start
    simpa using start
  | @offer moment events pending' taken _ ih =>
    intro before admitted queue start
    have next := ih start.offer
    rw [← BoundedQueue.replay_append, ← List.filter_append, List.singleton_append] at next
    have split : (admittedAction (.offer moment)).toList ++ events.filterMap admittedAction =
        (QueueOp.offer moment :: events).filterMap admittedAction := by
      rw [List.filterMap_cons]
      cases admittedAction (.offer moment) <;> rfl
    rwa [List.append_assoc, split] at next
  | @idle events pending' taken _ ih =>
    intro before admitted queue start
    have empty : queue.pending = [] := List.map_eq_nil_iff.mp start.pending
    have same : queue.step PENDING_CAP .take = queue := by
      simp only [BoundedQueue.step, empty]
    have next := ih start
    rw [← same, ← BoundedQueue.replay_cons] at next
    rwa [List.filterMap_cons_none rfl, List.filter_cons_of_pos rfl]
  | @take action pending pending' taken events _ ih =>
    intro before admitted queue start
    obtain ⟨moment, rest, found, action_eq, rest_eq⟩ := List.map_eq_cons_iff.mp start.pending
    have stepped : Mirrors pending (before ++ [action]) admitted
        (queue.step PENDING_CAP .take) := by
      constructor
      · simpa [BoundedQueue.step, found] using rest_eq
      · simp [BoundedQueue.step, found, start.returned, action_eq]
      · simpa [BoundedQueue.step, found] using start.admitted
    have next := ih stepped
    rw [List.append_assoc, List.singleton_append, ← BoundedQueue.replay_cons] at next
    rwa [List.filterMap_cons_none rfl, List.filter_cons_of_pos rfl]

/-- What an offer among the events finds pending. -/
theorem Drives.found {pending pending' taken : List CartInputAction}
    {before after : List QueueEvent} {moment : Consumption}
    (h : Drives pending (before ++ .offer moment :: after) pending' taken) :
    ∃ taken', Drives pending before moment.engine.input.pending taken' := by
  generalize same : before ++ .offer moment :: after = events at h
  induction h generalizing before with
  | refl pending => exact absurd same (by simp)
  | @offer first events pending' taken rest ih =>
    cases before with
    | nil =>
      simp only [List.nil_append, List.cons.injEq, QueueOp.offer.injEq] at same
      rw [same.1]
      exact ⟨[], .refl _⟩
    | cons event before =>
      simp only [List.cons_append, List.cons.injEq] at same
      obtain ⟨rfl, same⟩ := same
      obtain ⟨taken', drives⟩ := ih same
      exact ⟨taken', .offer drives⟩
  | @idle events pending' taken rest ih =>
    cases before with
    | nil => cases same
    | cons event before =>
      simp only [List.cons_append, List.cons.injEq] at same
      obtain ⟨rfl, same⟩ := same
      obtain ⟨taken', drives⟩ := ih same
      exact ⟨taken', .idle drives⟩
  | @take action pending pending' taken events rest ih =>
    cases before with
    | nil => cases same
    | cons event before =>
      simp only [List.cons_append, List.cons.injEq] at same
      obtain ⟨rfl, same⟩ := same
      obtain ⟨taken', drives⟩ := ih same
      exact ⟨action :: taken', .take drives⟩

/-! ## The queue of a run -/

/-- The events of a run that concern the queue, each marked with its place, go through a
bounded queue. -/
def InputEngine.pressQueue (abi : Abi) (ops : CartInputOps) (engine : InputEngine)
    (calls : List InputCall) : BoundedQueue (Nat × Consumption) :=
  BoundedQueue.empty.replay PENDING_CAP
    (numbered 0 ((engine.events abi ops calls).filter concernsQueue))

/-- The queue holds at most eight actions, none of them CART_INPUT_NONE. -/
structure InputEngine.KeepsQueue (engine : InputEngine) : Prop where
  bounded : engine.input.pending.length ≤ PENDING_CAP
  valid : ∀ action ∈ engine.input.pending, action ≠ .none

theorem empty_mirrors : Mirrors [] [] [] (BoundedQueue.empty : BoundedQueue Consumption) :=
  ⟨rfl, rfl, rfl⟩

/-- The queue after events that start with nothing pending. -/
theorem Drives.from_empty {pending taken : List CartInputAction} {events : List QueueEvent}
    (h : Drives [] events pending taken) :
    Mirrors pending taken (events.filterMap admittedAction)
      (BoundedQueue.empty.replay PENDING_CAP (events.filter concernsQueue)) := by
  simpa using h.mirrors empty_mirrors

theorem Drives.order {pending taken : List CartInputAction} {events : List QueueEvent}
    (h : Drives [] events pending taken) :
    taken ++ pending = events.filterMap admittedAction := by
  have mirrors := h.from_empty
  have orderly := (BoundedQueue.empty_orderly (α := Consumption) PENDING_CAP).replay
    (events.filter concernsQueue)
  rw [← mirrors.admitted, ← orderly.order, List.map_append, mirrors.returned, mirrors.pending]

theorem Drives.keepsQueue {engine : InputEngine} {taken : List CartInputAction}
    {events : List QueueEvent} (h : Drives [] events engine.input.pending taken) :
    engine.KeepsQueue := by
  have orderly := (BoundedQueue.empty_orderly (α := Consumption) PENDING_CAP).replay
    (events.filter concernsQueue)
  constructor
  · rw [← h.from_empty.pending, List.length_map]
    exact orderly.bounded
  · exact h.valid fun action member => absurd member List.not_mem_nil

theorem cartInputInitEx_pending (ops : CartInputOps) (listing : DirListing)
    (trace : InputTrace) : (cartInputInitEx ops listing trace).2.input.pending = [] :=
  discoverPass_pending ops listing (InputEngine.blank trace)

theorem run_drives_from_init (abi : Abi) (ops : CartInputOps) (listing : DirListing)
    (trace : InputTrace) {calls : List InputCall} (serves : ∀ call ∈ calls, call.Serves) :
    let start := (cartInputInitEx ops listing trace).2
    Drives [] (start.events abi ops calls) (start.run abi ops calls).input.pending
      (start.returned abi ops calls) := by
  have empty := cartInputInitEx_pending ops listing trace
  have drives := (cartInputInitEx ops listing trace).2.run_drives abi ops (by simp [empty]) serves
  rwa [empty] at drives

/-- The polls return the actions that were emitted while fewer than eight were pending, in
their order; what they have not returned yet is pending. The queue keeps its bound at
every event. -/
theorem queue_discipline (abi : Abi) (ops : CartInputOps) (listing : DirListing)
    (trace : InputTrace) (calls : List InputCall) (serves : ∀ call ∈ calls, call.Serves) :
    let start := (cartInputInitEx ops listing trace).2
    let engine := start.run abi ops calls
    start.returned abi ops calls ++ engine.input.pending =
        (start.events abi ops calls).filterMap admittedAction ∧
      engine.KeepsQueue ∧
      ∀ moment, .offer moment ∈ start.events abi ops calls → moment.engine.KeepsQueue := by
  intro start engine
  have drives : Drives [] (start.events abi ops calls) engine.input.pending
      (start.returned abi ops calls) := run_drives_from_init abi ops listing trace serves
  refine ⟨drives.order, drives.keepsQueue, ?_⟩
  intro moment member
  obtain ⟨before, after, split⟩ := List.append_of_mem member
  rw [split] at drives
  obtain ⟨taken, found⟩ := drives.found
  exact found.keepsQueue

/-! ## One press -/

theorem pressQueue_map (abi : Abi) (ops : CartInputOps) (engine : InputEngine)
    (calls : List InputCall) :
    (engine.pressQueue abi ops calls).map Prod.snd = BoundedQueue.empty.replay PENDING_CAP
      ((engine.events abi ops calls).filter concernsQueue) := by
  have mapped := BoundedQueue.replay_map PENDING_CAP Prod.snd BoundedQueue.empty
    (numbered 0 ((engine.events abi ops calls).filter concernsQueue))
  rw [numbered_snd] at mapped
  exact mapped.symm

theorem Drives.press_returned_iff {pending taken : List CartInputAction}
    {before after : List QueueEvent} {moment : Consumption}
    (h : Drives [] (before ++ .offer moment :: after) pending taken)
    (emits : moment.action ≠ .none) (continues : PENDING_CAP ≤ after.countP QueueOp.isTake) :
    ((before.filter concernsQueue).length, moment) ∈ (BoundedQueue.empty.replay PENDING_CAP
        (numbered 0 ((before ++ .offer moment :: after).filter concernsQueue))).returned ↔
      moment.engine.input.pending.length < PENDING_CAP := by
  obtain ⟨taken', found⟩ := h.found
  have size := congrArg List.length found.from_empty.pending
  rw [List.length_map] at size
  have concerns : concernsQueue (.offer moment) = true := decide_eq_true emits
  have enough : PENDING_CAP ≤ (after.filter concernsQueue).countP QueueOp.isTake := by
    apply Nat.le_trans continues
    rw [List.countP_filter]
    apply List.countP_mono_left
    intro event _ isTake
    cases event with
    | offer other => cases isTake
    | take => rfl
  rw [List.filter_append, List.filter_cons_of_pos concerns, ← size]
  exact returned_iff enough

/-- A press of a key for quitting, consumed from a connected source, is returned by one of
the next polls exactly when it finds fewer than eight actions pending. -/
theorem quit_press_returned_iff (abi : Abi) (ops : CartInputOps) (listing : DirListing)
    (trace : InputTrace) (calls : List InputCall) (serves : ∀ call ∈ calls, call.Serves)
    {before after : List QueueEvent} {moment : Consumption} {code : BitVec 16}
    (consumed : (cartInputInitEx ops listing trace).2.events abi ops calls =
      before ++ .offer moment :: after)
    (connected : (moment.engine.source moment.index).state = .connected)
    (press : moment.event = ⟨EV_KEY, code, 1⟩) (quits : mapKey code = .quit)
    (continues : PENDING_CAP ≤ after.countP QueueOp.isTake) :
    let start := (cartInputInitEx ops listing trace).2
    let queue := start.pressQueue abi ops calls
    moment.action = .quit ∧
      queue.returned.map (fun press => press.2.action) = start.returned abi ops calls ∧
      (((before.filter concernsQueue).length, moment) ∈ queue.returned ↔
        moment.engine.input.pending.length < PENDING_CAP) := by
  intro start queue
  have drives : Drives [] (start.events abi ops calls) (start.run abi ops calls).input.pending
      (start.returned abi ops calls) := run_drives_from_init abi ops listing trace serves
  have action : moment.action = .quit := by
    rw [Consumption.action, if_pos ⟨by rw [press], connected⟩, press, emittedAction]
    simpa [keyEmitsAction] using quits
  refine ⟨action, ?_, ?_⟩
  · have mapped := congrArg BoundedQueue.returned (pressQueue_map abi ops start calls)
    rw [← drives.from_empty.returned, ← mapped, BoundedQueue.map, List.map_map]
    rfl
  · have emits : moment.action ≠ .none := by
      rw [action]
      decide
    have returned := Drives.press_returned_iff (consumed ▸ drives) emits continues
    rwa [← consumed] at returned

/-! ## Bursts -/

/-- A press of a key, as a record of the shorter size. -/
def pressRecord (code : Nat) : List UInt8 :=
  List.replicate 8 0 ++ [1, 0, UInt8.ofNat (code % 256), UInt8.ofNat (code / 256), 1, 0, 0, 0]

/-- A pad whose first read returns presses of these keys and whose later reads wait. -/
def burstPad (codes : List Nat) : CartInputOps where
  openNode := fun trace _ => if trace = [] then 3 else -1
  read := fun trace fd _ =>
    if readsOf fd trace = 0 then .got (codes.flatMap pressRecord) else .again
  ioctlName := fun _ _ => (3, "pad")
  ioctlKeyState := fun _ _ => some fun _ => 0
  ioctlBit := fun _ _ _ => some fun _ => 255
  ioctlAbs := fun _ _ _ => some ⟨0, -100, 100, 0⟩

/-- A directory with that pad alone. -/
def onePad : DirListing := .entries [⟨"event0", none, some "pad", ""⟩]

/-- What an event is about: the record, the state of its source and how much it finds
pending. -/
def seen : QueueEvent → Option (InputEvent × CartInputState × Nat)
  | .offer moment =>
    some (moment.event, (moment.engine.source moment.index).state,
      moment.engine.input.pending.length)
  | .take => none

/-- A burst of nine presses and three polls: the ninth found eight pending. -/
theorem queue_discipline_burst :
    let ops := burstPad (List.replicate 8 307 ++ [311])
    let calls := List.replicate 3 (.poll 3)
    let start := (cartInputInitEx ops onePad []).2
    let engine := start.run .ilp32 ops calls
    start.returned .ilp32 ops calls = List.replicate 3 .next ∧
      engine.input.pending = List.replicate 5 .next ∧
      start.returned .ilp32 ops calls ++ engine.input.pending =
        (start.events .ilp32 ops calls).filterMap admittedAction ∧
      engine.KeepsQueue ∧
      ∀ moment, .offer moment ∈ start.events .ilp32 ops calls → moment.engine.KeepsQueue :=
  ⟨by decide +kernel, by decide +kernel, queue_discipline .ilp32 _ onePad [] _
    fun call member => (List.eq_of_mem_replicate member) ▸ trivial⟩

/-- A press that finds one action pending is returned. -/
theorem quit_press_returned_second :
    let ops := burstPad [307, 316]
    let calls := List.replicate 9 (.poll 3)
    let start := (cartInputInitEx ops onePad []).2
    .quit ∈ start.returned .ilp32 ops calls := by
  intro ops calls start
  have second : ((start.events .ilp32 ops calls)[1]?).map seen =
      some (some (⟨EV_KEY, 316, 1⟩, .connected, 1)) := by
    decide +kernel
  have continues : PENDING_CAP ≤ ((start.events .ilp32 ops calls).drop 2).countP
      QueueOp.isTake := by
    decide +kernel
  obtain ⟨event, here, what⟩ := Option.map_eq_some_iff.mp second
  cases event with
  | take => cases what
  | offer moment =>
    obtain ⟨press, connected, found⟩ : moment.event = ⟨EV_KEY, 316, 1⟩ ∧
        (moment.engine.source moment.index).state = .connected ∧
        moment.engine.input.pending.length = 1 := by
      simpa [seen] using what
    obtain ⟨within, here⟩ := List.getElem?_eq_some_iff.mp here
    have split := List.take_append_drop 1 (start.events .ilp32 ops calls)
    rw [List.drop_eq_getElem_cons within, here] at split
    obtain ⟨action, same, returned⟩ := quit_press_returned_iff .ilp32 ops onePad [] calls
      (fun call member => (List.eq_of_mem_replicate member) ▸ trivial) split.symm connected press
      (by decide) continues
    have room : moment.engine.input.pending.length < PENDING_CAP := by
      rw [found]
      decide
    have member := List.mem_map_of_mem (f := fun press => press.2.action) (returned.mpr room)
    rw [same, action] at member
    exact member

/-- Eight presses fill the queue: the ninth, of the PS button, is lost though its source
is connected and more polls return. -/
theorem quit_press_lost :
    let ops := burstPad (List.replicate 8 307 ++ [316])
    let calls := List.replicate 10 (.poll 3)
    let start := (cartInputInitEx ops onePad []).2
    let events := start.events .ilp32 ops calls
    (events[8]?).map seen = some (some (⟨EV_KEY, 316, 1⟩, .connected, 8)) ∧
      mapKey 316 = .quit ∧ (events.drop 9).countP QueueOp.isTake = 10 ∧
      start.returned .ilp32 ops calls = List.replicate 8 .next ∧
      (start.run .ilp32 ops calls).input.pending = [] := by
  decide +kernel

end VitaLinux.Cart
