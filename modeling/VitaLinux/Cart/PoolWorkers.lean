import VitaLinux.Cart.PoolInvariant

/-!
# A worker's step keeps the invariant
-/

namespace VitaLinux.Cart.WorkerPool

open VitaLinux.Base

variable {n : Nat} {rows : Int} {pool pool' : Pool n} {d : Dispatcher n}
  {workers : Fin n → Worker} {i : Fin n} {w w' : Worker}

theorem DispatcherPc.running_current {pc : DispatcherPc n} {request : Request n}
    (h : pc.running = some request) :
    pc.current = some request ∧ pc.shutting = false ∧ pc.finished = false ∧ pc.opened = true := by
  cases pc with
  | dispatching request' stage =>
    cases stage with
    | startWait | stopArrive | stopWait =>
      obtain rfl := Option.some.inj h
      exact ⟨rfl, rfl, rfl, rfl⟩
    | _ => cases h
  | _ => cases h

/-- While its jobs may run, a request stays published. -/
theorem DispatcherPc.running_written {pc : DispatcherPc n} {request : Request n}
    (h : pc.running = some request) (written : pc.Written pool) :
    pool.job = request.job ∧ pool.slots = request.slots ∧
      pool.generation = request.generation := by
  cases pc with
  | dispatching request' stage =>
    cases stage with
    | startWait | stopArrive | stopWait =>
      obtain rfl := Option.some.inj h
      exact written
    | _ => cases h
  | _ => cases h

/-- The phases of the dispatching thread, as the two barriers see them. -/
theorem DispatcherPc.seat_cases (pc : DispatcherPc n) (count : Nat) :
    (pc.startSeat count = .away count ∧ pc.stopSeat count = .away count) ∨
      (∃ request, pc.running = some request ∧
        (pc.startSeat count = .away (count + 1) ∨ pc.stopSeat count = .away count)) ∨
      pc.shutting = true ∧ pc.stopSeat count = .away count := by
  cases pc with
  | dispatching request stage =>
    cases stage with
    | startWait => exact .inr (.inl ⟨request, rfl, .inr rfl⟩)
    | stopArrive | stopWait => exact .inr (.inl ⟨request, rfl, .inl rfl⟩)
    | _ => exact .inl ⟨rfl, rfl⟩
  | closing stage =>
    cases stage with
    | wait | join | returned => exact .inr (.inr ⟨rfl, rfl⟩)
    | _ => exact .inl ⟨rfl, rfl⟩
  | _ => exact .inl ⟨rfl, rfl⟩

/-- While a worker is between the two barriers, so is the dispatch of its turn,
unless the pool is shutting down. -/
theorem inside_dispatch (start : pool.startBarrier.Good (startSeats d workers))
    (stop : pool.stopBarrier.Good (stopSeats d workers)) {turn : Nat}
    (past : startSeats d workers (.worker i) = .away (turn + 1))
    (before : stopSeats d workers (.worker i) = .away turn) :
    (∃ request, d.pc.running = some request ∧ d.completed.length = turn) ∨
      d.pc.shutting = true ∧ d.completed.length = turn := by
  have opened := start.away _ _ past
  have closed := stop.away _ _ before
  have startRound := start.away .dispatcher
  have stopRound := stop.away .dispatcher
  simp only [startSeats, stopSeats, onThreads] at startRound stopRound
  obtain ⟨outside, outside'⟩ | ⟨request, running, early | late⟩ | ⟨down, late⟩ :=
    d.pc.seat_cases d.completed.length
  · have := startRound _ outside
    have := stopRound _ outside'
    omega
  · have := startRound _ early
    exact .inl ⟨request, running, by omega⟩
  · have := stopRound _ late
    exact .inl ⟨request, running, by omega⟩
  · have := stopRound _ late
    exact .inr ⟨down, by omega⟩

namespace WorkerStep

theorem keeps_start (step : WorkerStep i pool w pool' w') (hw : workers i = w)
    (loaded : Loaded rows d.pc i w) (good : pool.startBarrier.Good (startSeats d workers)) :
    pool'.startBarrier.Good (startSeats d (Function.update workers i w')) := by
  have seat : startSeats d workers (.worker i) = w.pc.startSeat w.turns := by
    rw [← hw]
    rfl
  have moved := onThreads_worker (d.pc.startSeat d.completed.length) workers
    (fun w => w.pc.startSeat w.turns) i w'
  rw [startSeats, moved, ← startSeats]
  cases step with
  | startArrive =>
    have arrived := good.arrive seat
    rwa [card_thread] at arrived
  | startLeave opened =>
    have round : _ = _ := loaded
    rw [round] at opened
    exact good.leave seat opened
  | _ => exact good.stay seat

theorem keeps_stop (step : WorkerStep i pool w pool' w') (hw : workers i = w)
    (loaded : Loaded rows d.pc i w) (good : pool.stopBarrier.Good (stopSeats d workers)) :
    pool'.stopBarrier.Good (stopSeats d (Function.update workers i w')) := by
  have seat : stopSeats d workers (.worker i) = w.pc.stopSeat w.turns := by
    rw [← hw]
    rfl
  have moved := onThreads_worker (d.pc.stopSeat d.completed.length) workers
    (fun w => w.pc.stopSeat w.turns) i w'
  rw [stopSeats, moved, ← stopSeats]
  cases step with
  | stopArrive =>
    have arrived := good.arrive seat
    rwa [card_thread] at arrived
  | stopLeave opened =>
    have round : _ = _ := loaded
    rw [round] at opened
    exact good.leave seat opened
  | _ => exact good.stay seat

/-- A worker writes nothing that belongs to the dispatching thread. -/
theorem keeps_flags (step : WorkerStep i pool w pool' w') (h : Flags rows pool d) :
    Flags rows pool' d := by
  obtain ⟨ready, shutting, active, size, written, recorded, called, fresh, created, joined⟩ := h
  cases step <;>
    exact ⟨ready, shutting, active, size, written, recorded, called, fresh, created, joined⟩

theorem keeps_place (step : WorkerStep i pool w pool' w') (flags : Flags rows pool d)
    (h : w.pc.Place d.pc i) : w'.pc.Place d.pc i := by
  have unfailed : d.pc.ready = true → d.pc.shutting = false → d.pc.failed = false := by
    intro ready up
    cases hpc : d.pc with
    | failing created stage => cases stage <;> simp_all [DispatcherPc.ready, DispatcherPc.shutting]
    | _ => rfl
  have down : d.pc.opened = false → d.pc.shutting = true → d.pc.failed = true := by
    intro closed down
    cases hpc : d.pc <;> simp_all [DispatcherPc.opened, DispatcherPc.shutting, DispatcherPc.failed]
  cases step with
  | ready ready => exact ⟨h.1, h.2, flags.ready.symm.trans ready⟩
  | abandon off => exact ⟨h.1, h.2.2, down h.2.1 (flags.shutting.symm.trans off)⟩
  | pass up => exact ⟨h.2.1, h.2.2, unfailed h.2.2 (flags.shutting.symm.trans up)⟩
  | unlock => exact h.2
  | stop off => exact ⟨h.1, h.2, flags.shutting.symm.trans off⟩
  | _ => exact h

theorem keeps_loaded (step : WorkerStep i pool w pool' w') (hw : workers i = w)
    (start : pool.startBarrier.Good (startSeats d workers))
    (stop : pool.stopBarrier.Good (stopSeats d workers)) (flags : Flags rows pool d)
    (h : Loaded rows d.pc i w) : Loaded rows d.pc i w' := by
  have seat : startSeats d workers (.worker i) = w.pc.startSeat w.turns := by
    rw [← hw]
    rfl
  have seat' : stopSeats d workers (.worker i) = w.pc.stopSeat w.turns := by
    rw [← hw]
    rfl
  cases step with
  | startArrive => exact start.away _ _ seat
  | stopArrive => exact stop.away _ _ seat'
  | go up =>
    cases inside_dispatch start stop seat seat' with
    | inl inside =>
      obtain ⟨request, running, _⟩ := inside
      exact ⟨request, running⟩
    | inr down => exact absurd (flags.shutting.symm.trans up) (by simp [down.1])
  | loadBand =>
    obtain ⟨request, running⟩ := h
    obtain ⟨-, -, working, -⟩ := DispatcherPc.running_current running
    obtain ⟨count, size⟩ := flags.size working
    exact ⟨request, running, by rw [Pool.band, count, size]⟩
  | loadSlot =>
    obtain ⟨request, running, band⟩ := h
    have written := DispatcherPc.running_written running flags.written
    exact ⟨request, running, band, by rw [written.2.1]⟩
  | loadGeneration =>
    obtain ⟨request, running, band, slot⟩ := h
    have written := DispatcherPc.running_written running flags.written
    exact ⟨request, running, band, slot, written.2.2⟩
  | callJob =>
    obtain ⟨request, running, -⟩ := h
    exact ⟨request, running⟩
  | jobDone => exact h
  | _ => trivial

/-- The job call a worker makes is the one it owes the dispatch in progress. -/
theorem callJob_owed {band : Int × Int} {slot : Address} {generation : U64} {runs : List Run}
    {turns : Nat} (hw : workers i = ⟨.callJob band slot generation, runs, turns⟩)
    (start : pool.startBarrier.Good (startSeats d workers))
    (stop : pool.stopBarrier.Good (stopSeats d workers)) (flags : Flags rows pool d)
    (h : Loaded rows d.pc i ⟨.callJob band slot generation, runs, turns⟩)
    (logged : Logged rows d i ⟨.callJob band slot generation, runs, turns⟩) :
    ∃ request, d.pc.running = some request ∧ runs = d.completed.map (runOf rows i) ∧
      ⟨pool.job, slot, band.1, band.2, generation⟩ = runOf rows i request := by
  have seat : startSeats d workers (.worker i) = .away (turns + 1) := by
    rw [startSeats, onThreads, hw]
    rfl
  have seat' : stopSeats d workers (.worker i) = .away turns := by
    rw [stopSeats, onThreads, hw]
    rfl
  obtain ⟨request, running, rfl, rfl, rfl⟩ := h
  obtain ⟨current, -⟩ := DispatcherPc.running_current running
  have written := DispatcherPc.running_written running flags.written
  have count : d.completed.length = turns := by
    cases inside_dispatch start stop seat seat' with
    | inl inside => exact inside.choose_spec.2
    | inr down => exact down.2
  refine ⟨request, running, ?_, by rw [written.1]; rfl⟩
  have sofar := logged.inOrder
  have length : runs.length = turns := logged.length
  rw [Dispatcher.issued, current, List.map_append] at sofar
  refine List.IsPrefix.eq_of_length (List.prefix_of_prefix_length_le sofar
    (List.prefix_append _ _) ?_) ?_
  · rw [List.length_map, length, count]
  · rw [List.length_map, length, count]

theorem keeps_logged (step : WorkerStep i pool w pool' w') (hw : workers i = w)
    (start : pool.startBarrier.Good (startSeats d workers))
    (stop : pool.stopBarrier.Good (stopSeats d workers)) (flags : Flags rows pool d)
    (loaded : Loaded rows d.pc i w) (h : Logged rows d i w) : Logged rows d i w' := by
  cases step with
  | callJob =>
    obtain ⟨request, running, sofar, owed⟩ := callJob_owed hw start stop flags loaded h
    obtain ⟨current, -⟩ := DispatcherPc.running_current running
    constructor
    · rw [Dispatcher.issued, current, List.map_append, sofar, owed]
      exact List.prefix_rfl
    · rw [List.length_append, h.length]
      rfl
  | stopLeave => exact ⟨h.inOrder, h.length⟩
  | _ => exact ⟨h.inOrder, h.length⟩

theorem keeps_mutex (step : WorkerStep i pool w pool' w') (hw : workers i = w)
    (h : Excludes (holders d workers) pool.owner) :
    Excludes (holders d (Function.update workers i w')) pool'.owner := by
  have held : holders d workers (.worker i) = w.pc.holds := by
    rw [← hw]
    rfl
  have moved := onThreads_worker d.pc.holds workers (fun w => w.pc.holds) i w'
  rw [holders, moved, ← holders]
  cases step with
  | lock free | wake _ free =>
    rw [free] at h
    exact h.acquire _
  | sleep | quitUnlock | unlock => exact h.release held
  | _ => exact h.stay held

theorem countReleased_same (h : w'.pc.counted = (workers i).pc.counted) :
    countReleased (Function.update workers i w') = countReleased workers := by
  unfold countReleased
  congr 1
  ext j
  by_cases hj : j = i
  · subst hj
    simp [h]
  · simp [Function.update_of_ne hj]

theorem countReleased_succ (before : (workers i).pc.counted = false)
    (after : w'.pc.counted = true) :
    countReleased (Function.update workers i w') = countReleased workers + 1 := by
  have fresh : i ∉ Finset.univ.filter fun j => (workers j).pc.counted = true := by
    simp [before]
  unfold countReleased
  rw [← Finset.card_insert_of_notMem fresh]
  congr 1
  ext j
  by_cases hj : j = i
  · subst hj
    simp [after]
  · simp [hj]

theorem keeps_released (step : WorkerStep i pool w pool' w') (hw : workers i = w)
    (h : pool.startupReleased = countReleased workers) :
    pool'.startupReleased = countReleased (Function.update workers i w') := by
  cases step with
  | release => rw [countReleased_succ (by rw [hw]; rfl) rfl, h]
  | _ => exact h.trans (countReleased_same (by rw [hw]; rfl)).symm

theorem keeps_joined (step : WorkerStep i pool w pool' w') (hw : workers i = w)
    (h : ∀ j : Fin n, j < d.pc.joined → (workers j).pc.ended = true) :
    ∀ j : Fin n, j < d.pc.joined → (Function.update workers i w' j).pc.ended = true := by
  intro j hj
  by_cases same : j = i
  · subst same
    have ended := h j hj
    rw [hw] at ended
    cases step <;> cases ended
  · rw [Function.update_of_ne same]
    exact h j hj

/-- A step that neither wakes anybody nor counts a worker leaves the sleepers alone. -/
theorem sleepers_keep (h : Sleepers pool d workers) (hw : workers i = w)
    (awake : pool'.sleeping = pool.sleeping)
    (count : pool'.startupReleased = pool.startupReleased)
    (before : w.pc ≠ .broadcast) (after : w'.pc ≠ .wait) :
    Sleepers pool' d (Function.update workers i w') := by
  constructor
  · intro j waits asleep
    by_cases hj : j = i
    · subst hj
      rw [Function.update_self] at waits
      exact absurd waits after
    · rw [Function.update_of_ne hj] at waits
      rw [awake] at asleep
      exact h.worker j waits asleep
  · intro waits asleep
    rw [awake] at asleep
    rw [count]
    cases h.dispatcher waits asleep with
    | inl missing => exact .inl missing
    | inr coming =>
      obtain ⟨j, hj⟩ := coming
      refine .inr ⟨j, ?_⟩
      rw [Function.update_of_ne]
      · exact hj
      · rintro rfl
        rw [hw] at hj
        exact before hj

theorem keeps_sleepers (step : WorkerStep i pool w pool' w') (hw : workers i = w)
    (flags : Flags rows pool d) (h : Sleepers pool d workers) :
    Sleepers pool' d (Function.update workers i w') := by
  cases step with
  | sleep closed =>
    constructor
    · intro j waits asleep
      by_cases hj : j = i
      · exact .inl (flags.ready.symm.trans closed)
      · rw [Function.update_of_ne hj] at waits
        have other : Thread.worker j ≠ Thread.worker i := fun e => hj (Thread.worker.inj e)
        have still : Function.update pool.sleeping (.worker i) true (.worker j) = true := asleep
        rw [Function.update_of_ne other] at still
        exact h.worker j waits still
    · intro waits asleep
      have other : Thread.dispatcher ≠ Thread.worker i := fun e => by cases e
      have still : Function.update pool.sleeping (.worker i) true .dispatcher = true := asleep
      rw [Function.update_of_ne other] at still
      cases h.dispatcher waits still with
      | inl missing => exact .inl missing
      | inr coming =>
        obtain ⟨j, hj⟩ := coming
        refine .inr ⟨j, ?_⟩
        rw [Function.update_of_ne]
        · exact hj
        · rintro rfl
          rw [hw] at hj
          cases hj
  | release =>
    constructor
    · intro j waits asleep
      by_cases hj : j = i
      · subst hj
        rw [Function.update_self] at waits
        cases waits
      · rw [Function.update_of_ne hj] at waits
        exact h.worker j waits asleep
    · intro _ _
      exact .inr ⟨i, by rw [Function.update_self]⟩
  | broadcast =>
    constructor
    · intro _ _ asleep
      cases asleep
    · intro _ asleep
      cases asleep
  | _ => exact sleepers_keep h hw rfl rfl nofun nofun

end WorkerStep

/-- **Every step of a worker keeps the invariant.** -/
theorem Inv.worker (h : Inv rows pool d workers) (step : WorkerStep i pool (workers i) pool' w') :
    Inv rows pool' d (Function.update workers i w') := by
  have others {P : Fin n → Worker → Prop} (all : ∀ j, P j (workers j)) (new : P i w') :
      ∀ j, P j (Function.update workers i w' j) :=
    (Function.forall_update_iff workers P).mpr ⟨new, fun j _ => all j⟩
  exact {
    start := step.keeps_start rfl (h.loaded i) h.start
    stop := step.keeps_stop rfl (h.loaded i) h.stop
    flags := step.keeps_flags h.flags
    place := others (P := fun j w => w.pc.Place d.pc j) h.place
      (step.keeps_place h.flags (h.place i))
    loaded := others h.loaded (step.keeps_loaded rfl h.start h.stop h.flags (h.loaded i))
    logged := others h.logged
      (step.keeps_logged rfl h.start h.stop h.flags (h.loaded i) (h.logged i))
    mutex := step.keeps_mutex rfl h.mutex
    released := step.keeps_released rfl h.released
    sleepers := step.keeps_sleepers rfl h.flags h.sleepers
    joined := step.keeps_joined rfl h.joined }

end VitaLinux.Cart.WorkerPool
