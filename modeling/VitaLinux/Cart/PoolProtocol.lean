import VitaLinux.Cart.PoolDispatcher

/-!
# The worker pool protocol

The invariant holds in every reachable state. From it: who has run what when a
call returns, that jobs run inside a dispatch only, and that no reachable state
is a deadlock.
-/

namespace VitaLinux.Cart.WorkerPool

open VitaLinux.Base

variable {n : Nat} {rows : Int} {pool : Pool n} {d : Dispatcher n} {workers : Fin n → Worker}

/-- While workers are being created, one that is not yet is untouched. -/
theorem Inv.untouched {index : Fin n} {completed called : List (Request n)}
    (h : Inv rows pool ⟨.creating index, completed, called⟩ workers) :
    workers index = ⟨.notCreated, [], 0⟩ := by
  have place := h.place index
  have logged := h.logged index
  have none : completed = [] := h.flags.fresh rfl
  generalize workers index = w at place logged ⊢
  obtain ⟨pc, runs, turns⟩ := w
  cases pc with
  | notCreated =>
    have nothing : runs = [] := by
      have sofar := logged.inOrder
      rw [Dispatcher.issued, none] at sofar
      exact List.prefix_nil.mp sofar
    have length : runs.length = turns + 0 := logged.length
    rw [nothing] at length
    obtain rfl : turns = 0 := length.symm
    rw [nothing]
  | lock | testReady | wait => exact absurd place.1 (Nat.lt_irrefl _)
  | testShutdown | quitUnlock | quit => exact absurd place.1 (Nat.lt_irrefl _)
  | release | broadcast | unlock => cases place.2.1
  | _ => cases place.1

theorem Inv.create {index : Fin n} {completed called : List (Request n)}
    (h : Inv rows pool ⟨.creating index, completed, called⟩ workers) :
    Inv rows pool ⟨.creating (index + 1), completed, called⟩
      (Function.update workers index ⟨.lock, [], 0⟩) := by
  have hw := h.untouched
  have fresh : completed = [] := h.flags.fresh rfl
  constructor
  case start =>
    rw [startSeats, onThreads_worker _ workers (fun w => w.pc.startSeat w.turns)]
    refine h.start.stay ?_
    rw [startSeats, onThreads, hw]
    rfl
  case stop =>
    rw [stopSeats, onThreads_worker _ workers (fun w => w.pc.stopSeat w.turns)]
    refine h.stop.stay ?_
    rw [stopSeats, onThreads, hw]
    rfl
  case flags =>
    obtain ⟨ready, shutting, active, size, written, recorded, called, fresh, created, joined⟩ := h.flags
    exact ⟨ready, shutting, active, size, trivial, trivial, called, fresh, index.isLt, Nat.zero_le _⟩
  case place =>
    refine (Function.forall_update_iff workers fun j w =>
      w.pc.Place (.creating (index + 1)) j).mpr ⟨⟨Nat.lt_succ_self _, rfl⟩, fun j hj => ?_⟩
    refine (h.place j).mono ?_ Nat.lt_succ_of_lt rfl Bool.noConfusion Bool.noConfusion
    intro before
    exact Nat.lt_of_le_of_ne before fun same => hj (Fin.ext same.symm)
  case loaded =>
    refine (Function.forall_update_iff workers fun j w =>
      Loaded rows (.creating (index + 1)) j w).mpr ⟨trivial, fun j _ => (h.loaded j).mono ?_⟩
    intro _ running
    cases running
  case logged =>
    exact (Function.forall_update_iff workers fun j w =>
      Logged rows ⟨.creating (index + 1), completed, called⟩ j w).mpr
        ⟨⟨List.nil_prefix, rfl⟩, fun j _ => (h.logged j).mono List.prefix_rfl⟩
  case mutex =>
    rw [holders, onThreads_worker _ workers (fun w => w.pc.holds)]
    refine h.mutex.stay ?_
    rw [holders, onThreads, hw]
    rfl
  case released =>
    exact h.released.trans (WorkerStep.countReleased_same (by rw [hw]; rfl)).symm
  case sleepers =>
    refine ⟨fun _ _ _ => .inl rfl, ?_⟩
    intro waiting
    cases waiting
  case joined => exact fun _ none => absurd none (Nat.not_lt_zero _)

/-- A wake-up without cause does no harm. -/
theorem Inv.spurious (h : Inv rows pool d workers) (thread : Thread n) :
    Inv rows { pool with sleeping := Function.update pool.sleeping thread false } d workers := by
  have asleep {t : Thread n} (still : Function.update pool.sleeping thread false t = true) :
      pool.sleeping t = true := by
    by_cases ht : t = thread
    · subst ht
      rw [Function.update_self] at still
      cases still
    · rwa [Function.update_of_ne ht] at still
  obtain ⟨ready, shutting, active, size, written, recorded, called, fresh, created, joined⟩ := h.flags
  exact {
    start := h.start
    stop := h.stop
    flags := ⟨ready, shutting, active, size, written, recorded, called, fresh, created, joined⟩
    place := h.place
    loaded := h.loaded
    logged := h.logged
    mutex := h.mutex
    released := h.released
    sleepers := ⟨fun i waits still => h.sleepers.worker i waits (asleep still),
      fun waits still => h.sleepers.dispatcher waits (asleep still)⟩
    joined := h.joined }

theorem Reachable.dispatcher {s : State n} (h : Reachable rows s) {pool' : Pool n}
    {d' : Dispatcher n} (step : DispatcherStep s.workers s.pool s.dispatcher pool' d') :
    Reachable rows { s with pool := pool', dispatcher := d' } :=
  h.tail (.progress (.dispatcher step))

theorem Reachable.worker {s : State n} (h : Reachable rows s) (i : Fin n) {pool' : Pool n}
    {w' : Worker} (step : WorkerStep i s.pool (s.workers i) pool' w') :
    Reachable rows { s with pool := pool', workers := Function.update s.workers i w' } :=
  h.tail (.progress (.worker i step))

end VitaLinux.Cart.WorkerPool
