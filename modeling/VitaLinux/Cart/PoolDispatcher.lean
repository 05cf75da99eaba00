import VitaLinux.Cart.PoolWorkers

/-!
# A step of the dispatching thread keeps the invariant
-/

namespace VitaLinux.Cart.WorkerPool

open VitaLinux.Base

variable {n : Nat} {rows : Int} {pool pool' : Pool n} {d d' : Dispatcher n}
  {workers : Fin n → Worker} {i : Fin n}

/-- A phase that only goes on keeps the workers where they may be. -/
theorem WorkerPc.Place.mono {pc pc' : DispatcherPc n} {at' : WorkerPc} (h : at'.Place pc i)
    (fresh : pc.created ≤ i → pc'.created ≤ i) (older : i < pc.created → i < pc'.created)
    (opened : pc'.opened = pc.opened)
    (ready : pc.ready = true → pc'.ready = true ∧ pc'.failed = pc.failed)
    (shutting : pc.shutting = true → pc'.shutting = true) : at'.Place pc' i := by
  cases at' with
  | notCreated => exact fresh h
  | lock | testReady | wait => exact ⟨older h.1, opened.trans h.2⟩
  | testShutdown => exact ⟨older h.1, opened.trans h.2.1, (ready h.2.2).1⟩
  | quitUnlock | quit => exact ⟨older h.1, (ready h.2.1).1, (ready h.2.1).2.trans h.2.2⟩
  | release | broadcast | unlock =>
    exact ⟨opened.trans h.1, (ready h.2.1).1, (ready h.2.1).2.trans h.2.2⟩
  | returned => exact ⟨(ready h.1).1, (ready h.1).2.trans h.2.1, shutting h.2.2⟩
  | _ => exact ⟨(ready h.1).1, (ready h.1).2.trans h.2⟩

theorem Loaded.mono {pc pc' : DispatcherPc n} {w : Worker} (h : Loaded rows pc i w)
    (running : ∀ request, pc.running = some request → pc'.running = some request) :
    Loaded rows pc' i w := by
  obtain ⟨at', runs, turns⟩ := w
  cases at' with
  | startWait | stopWait => exact h
  | loadBand | inJob | stopArrive | loadSlot | loadGeneration | callJob =>
    obtain ⟨request, inside⟩ := h
    first
      | exact ⟨request, running request inside⟩
      | exact ⟨request, running request inside.1, inside.2⟩
  | _ => trivial

/-- A worker that is not between the barriers carries nothing of the dispatch. -/
theorem Loaded.outside {pc : DispatcherPc n} {w : Worker} (h : Loaded rows pc i w)
    (outside : ¬ (w.pc.startSeat w.turns = .away (w.turns + 1) ∧
      w.pc.stopSeat w.turns = .away w.turns)) (pc' : DispatcherPc n) : Loaded rows pc' i w := by
  obtain ⟨at', runs, turns⟩ := w
  cases at' with
  | startWait | stopWait => exact h
  | loadBand | inJob | stopArrive | loadSlot | loadGeneration | callJob =>
    exact absurd ⟨rfl, rfl⟩ outside
  | _ => trivial

theorem Logged.mono {w : Worker} (h : Logged rows d i w) (issued : d.issued <+: d'.issued) :
    Logged rows d' i w :=
  ⟨h.inOrder.trans (issued.map _), h.length⟩

namespace DispatcherStep

theorem keeps_start (step : DispatcherStep workers pool d pool' d')
    (recorded : d.pc.Recorded d.completed.length)
    (good : pool.startBarrier.Good (startSeats d workers)) :
    pool'.startBarrier.Good (startSeats d' workers) := by
  have seat : startSeats d workers .dispatcher = d.pc.startSeat d.completed.length := rfl
  rw [startSeats, onThreads_dispatcher (d.pc.startSeat d.completed.length), ← startSeats]
  cases step with
  | startArrive | lastArrive =>
    have arrived := good.arrive seat
    rwa [card_thread] at arrived
  | startLeave opened | lastLeave opened =>
    have round : _ = _ := recorded
    rw [round] at opened
    exact good.leave seat opened
  | stopLeave =>
    refine good.stay ?_
    rw [List.length_append]
    rfl
  | _ => exact good.stay seat

theorem keeps_stop (step : DispatcherStep workers pool d pool' d')
    (recorded : d.pc.Recorded d.completed.length)
    (good : pool.stopBarrier.Good (stopSeats d workers)) :
    pool'.stopBarrier.Good (stopSeats d' workers) := by
  have seat : stopSeats d workers .dispatcher = d.pc.stopSeat d.completed.length := rfl
  rw [stopSeats, onThreads_dispatcher (d.pc.stopSeat d.completed.length), ← stopSeats]
  cases step with
  | stopArrive =>
    have arrived := good.arrive seat
    rwa [card_thread] at arrived
  | stopLeave opened =>
    have round : _ = _ := recorded
    rw [round] at opened
    have left := good.leave seat opened
    rwa [List.length_append]
  | _ => exact good.stay seat

theorem keeps_flags (step : DispatcherStep workers pool d pool' d')
    (start : pool.startBarrier.Good (startSeats d workers))
    (stop : pool.stopBarrier.Good (stopSeats d workers)) (h : Flags rows pool d) :
    Flags rows pool' d' := by
  have startRound := start.away .dispatcher d.completed.length
  have stopRound := stop.away .dispatcher d.completed.length
  constructor
  case ready => cases step <;> first | rfl | exact h.ready
  case shutting => cases step <;> first | rfl | exact h.shutting
  case active => cases step <;> first | rfl | exact h.active
  case size =>
    cases step with
    | failReturn | closed => nofun
    | _ => exact fun _ => h.size rfl
  case written =>
    cases step with
    | writeJob => rfl
    | writeSlots => exact ⟨h.written, rfl⟩
    | writeGeneration => exact ⟨h.written.1, h.written.2, rfl⟩
    | startArrive | startLeave | stopArrive => exact h.written
    | _ => trivial
  case recorded =>
    cases step with
    | startArrive | lastArrive => exact startRound rfl
    | stopArrive => exact stopRound rfl
    | _ => trivial
  case called =>
    cases step with
    | dispatch request => exact congrArg (· ++ [request]) (h.returned rfl).symm
    | stopLeave => exact h.called.trans (List.append_nil _).symm
    | _ => exact h.called
  case fresh =>
    cases step with
    | released | unlock | activate | dispatch | writeJob | writeSlots | writeGeneration
    | startArrive | startLeave | stopArrive | stopLeave | shutdown | deactivate | setShutdown
    | lastArrive | lastLeave | join | closed => nofun
    | _ => exact fun _ => h.fresh rfl
  case created =>
    cases step with
    | createFails | failLock | failShutdown | failReady | failBroadcast | failUnlock | failJoin
    | failReturn => exact h.created
    | _ => exact Nat.le_refl n
  case joined =>
    cases step with
    | failJoin more => exact more
    | failReturn | closed => exact Nat.le_refl _
    | @join _ _ index => exact index.isLt
    | _ => exact Nat.zero_le _

/-- The dispatching thread passes the gate only when every worker has left it. -/
theorem all_out (place : ∀ i, (workers i).pc.Place d.pc i)
    (mutex : Excludes (holders d workers) pool.owner)
    (released : pool.startupReleased = countReleased workers) (held : d.pc.holds = true)
    (up : d.pc.shutting = false) (all : n ≤ pool.startupReleased) {pc' : DispatcherPc n}
    (ready : pc'.ready = true) (unfailed : pc'.failed = false) (i : Fin n) :
    (workers i).pc.Place pc' i := by
  have owner : pool.owner = some .dispatcher := (mutex .dispatcher).mp held
  have free : (workers i).pc.holds = false := by
    cases holds : (workers i).pc.holds with
    | false => rfl
    | true => cases ((mutex (.worker i)).mp holds).symm.trans owner
  have counted : (workers i).pc.counted = true := by
    have full : countReleased workers = Fintype.card (Fin n) := by
      refine Nat.le_antisymm (Finset.card_le_univ _) ?_
      rw [Fintype.card_fin, ← released]
      exact all
    have member := Finset.eq_univ_of_card _ full ▸ Finset.mem_univ i
    exact (Finset.mem_filter.mp member).2
  have here := place i
  cases hpc : (workers i).pc with
  | notCreated | lock | testReady | wait | testShutdown | quitUnlock | quit | release =>
    rw [hpc] at counted
    cases counted
  | broadcast | unlock =>
    rw [hpc] at free
    cases free
  | returned =>
    rw [hpc] at here
    exact absurd (up.symm.trans here.2.2) nofun
  | _ => exact ⟨ready, unfailed⟩

theorem keeps_place (step : DispatcherStep workers pool d pool' d')
    (mutex : Excludes (holders d workers) pool.owner)
    (released : pool.startupReleased = countReleased workers)
    (h : ∀ i, (workers i).pc.Place d.pc i) (i : Fin n) : (workers i).pc.Place d'.pc i := by
  cases step with
  | released all => exact all_out h mutex released rfl rfl all rfl rfl i
  | createFails => exact (h i).mono id id rfl nofun id
  | failShutdown => exact (h i).mono id id rfl nofun fun _ => rfl
  | failReady | ready | created => exact (h i).mono id id rfl nofun id
  | setShutdown => exact (h i).mono id id rfl (fun _ => ⟨rfl, rfl⟩) fun _ => rfl
  | _ => exact (h i).mono id id rfl (fun ready => ⟨ready, rfl⟩) id

theorem keeps_loaded (step : DispatcherStep workers pool d pool' d')
    (start : pool.startBarrier.Good (startSeats d workers))
    (stop : pool.stopBarrier.Good (stopSeats d workers))
    (recorded : d.pc.Recorded d.completed.length) (h : ∀ i, Loaded rows d.pc i (workers i))
    (i : Fin n) : Loaded rows d'.pc i (workers i) := by
  cases step with
  | @stopLeave completed _ _ round opened =>
    refine (h i).outside ?_ _
    rintro ⟨past, before⟩
    have count : round = completed.length := recorded
    have opened' := (stop.waiting .dispatcher completed.length rfl).resolve_left (count ▸ opened)
    have started := start.away .dispatcher (completed.length + 1) rfl
    have := start.away (.worker i) _ past
    have := stop.away (.worker i) _ before
    omega
  | startLeave | stopArrive => exact (h i).mono fun _ running => running
  | _ => exact (h i).mono nofun

theorem keeps_logged (step : DispatcherStep workers pool d pool' d')
    (h : ∀ i, Logged rows d i (workers i)) (i : Fin n) : Logged rows d' i (workers i) := by
  cases step with
  | dispatch request =>
    refine (h i).mono ?_
    rw [Dispatcher.issued, Dispatcher.issued]
    exact (List.prefix_append_right_inj _).mpr List.nil_prefix
  | stopLeave =>
    refine (h i).mono ?_
    exact ⟨[], rfl⟩
  | _ => exact (h i).mono List.prefix_rfl

theorem keeps_mutex (step : DispatcherStep workers pool d pool' d')
    (h : Excludes (holders d workers) pool.owner) :
    Excludes (holders d' workers) pool'.owner := by
  have held : holders d workers .dispatcher = d.pc.holds := rfl
  rw [holders, onThreads_dispatcher d.pc.holds, ← holders]
  cases step with
  | failLock free | lock free | wake _ free =>
    rw [free] at h
    exact h.acquire _
  | failUnlock | sleep | unlock => exact h.release held
  | _ => exact h.stay held

theorem keeps_sleepers (step : DispatcherStep workers pool d pool' d')
    (h : Sleepers pool d workers) : Sleepers pool' d' workers := by
  constructor
  case worker =>
    cases step with
    | failReady | ready => exact fun _ _ _ => .inr rfl
    | failBroadcast | broadcast => exact fun _ _ asleep => by cases asleep
    | sleep =>
      intro i waits asleep
      have other : Thread.worker i ≠ Thread.dispatcher := fun e => by cases e
      have still : Function.update pool.sleeping .dispatcher true (.worker i) = true := asleep
      rw [Function.update_of_ne other] at still
      exact h.worker i waits still
    | _ => exact h.worker
  case dispatcher =>
    cases step with
    | sleep missing => exact fun _ _ => .inl missing
    | _ => nofun

theorem keeps_joined (step : DispatcherStep workers pool d pool' d')
    (h : ∀ i : Fin n, i < d.pc.joined → (workers i).pc.ended = true) (i : Fin n)
    (joined : i < d'.pc.joined) : (workers i).pc.ended = true := by
  cases step with
  | @failJoin _ _ _ index _ ended | @join _ _ index ended =>
    cases Nat.lt_succ_iff_lt_or_eq.mp joined with
    | inl before => exact h i before
    | inr last =>
      rw [Fin.ext last]
      exact ended
  | _ => exact h i joined

end DispatcherStep

/-- **Every step of the dispatching thread keeps the invariant.** -/
theorem Inv.dispatcher (h : Inv rows pool d workers)
    (step : DispatcherStep workers pool d pool' d') : Inv rows pool' d' workers where
  start := step.keeps_start h.flags.recorded h.start
  stop := step.keeps_stop h.flags.recorded h.stop
  flags := step.keeps_flags h.start h.stop h.flags
  place := step.keeps_place h.mutex h.released h.place
  loaded := step.keeps_loaded h.start h.stop h.flags.recorded h.loaded
  logged := step.keeps_logged h.logged
  mutex := step.keeps_mutex h.mutex
  released := by cases step <;> exact h.released
  sleepers := step.keeps_sleepers h.sleepers
  joined := step.keeps_joined h.joined

end VitaLinux.Cart.WorkerPool
