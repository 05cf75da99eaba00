import VitaLinux.Cart.WorkerPool
import Mathlib.Data.List.Infix
import Mathlib.Data.Fintype.Option

/-!
# What holds of the pool at every moment

The dispatching thread alone decides the phase: the flags of the pool are
functions of its program point. Each worker is placed relative to that phase,
and the two barriers tie the rounds of all threads together.
-/

namespace VitaLinux.Cart.WorkerPool

open VitaLinux.Base

theorem card_thread (n : Nat) : Fintype.card (Thread n) = n + 1 := by
  have all : (Finset.univ : Finset (Thread n)) =
      insert .dispatcher (Finset.univ.image Thread.worker) := by
    ext t
    cases t <;> simp
  rw [← Finset.card_univ, all, Finset.card_insert_of_notMem (by simp),
    Finset.card_image_of_injective _ fun _ _ => Thread.worker.inj, Finset.card_univ,
    Fintype.card_fin]

namespace DispatcherPc

variable {n : Nat}

/-- How many workers have been created. -/
def created : DispatcherPc n → Nat
  | .creating index => index
  | .failing created _ => created
  | _ => n

/-- `startup_ready` is set. -/
def ready : DispatcherPc n → Bool
  | .creating _ => false
  | .failing _ .lock | .failing _ .setShutdown | .failing _ .setReady => false
  | .opening .lock | .opening .setReady => false
  | _ => true

/-- `shutting_down` is set. -/
def shutting : DispatcherPc n → Bool
  | .failing _ .lock | .failing _ .setShutdown => false
  | .failing _ _ => true
  | .closing .deactivate | .closing .setShutdown => false
  | .closing _ => true
  | _ => false

/-- `active` is set. -/
def active : DispatcherPc n → Bool
  | .idle | .dispatching _ _ | .closing .deactivate => true
  | _ => false

/-- The pool has been cleared. -/
def finished : DispatcherPc n → Bool
  | .failing _ .returned | .closing .returned => true
  | _ => false

def failed : DispatcherPc n → Bool
  | .failing _ _ => true
  | _ => false

/-- Every worker is known to have left the startup gate. -/
def opened : DispatcherPc n → Bool
  | .opening .unlock | .opening .activate | .idle | .dispatching _ _ | .closing _ => true
  | _ => false

/-- The startup mutex is held. -/
def holds : DispatcherPc n → Bool
  | .failing _ .setShutdown | .failing _ .setReady | .failing _ .broadcast
  | .failing _ .unlock => true
  | .opening .setReady | .opening .broadcast | .opening .testReleased
  | .opening .unlock => true
  | _ => false

def broadcasting : DispatcherPc n → Bool
  | .failing _ .broadcast | .opening .broadcast => true
  | _ => false

/-- How many workers have been joined. -/
def joined : DispatcherPc n → Nat
  | .failing _ (.join started) => started
  | .failing created .returned => created
  | .closing (.join index) => index
  | .closing .returned => n
  | _ => 0

/-- The request of the dispatch in progress. -/
def current : DispatcherPc n → Option (Request n)
  | .dispatching request _ => some request
  | _ => none

/-- The request whose jobs may be running. -/
def running : DispatcherPc n → Option (Request n)
  | .dispatching request (.startWait _) | .dispatching request .stopArrive
  | .dispatching request (.stopWait _) => some request
  | _ => none

/-- Where the thread is at the start barrier after `count` dispatches. -/
def startSeat (count : Nat) : DispatcherPc n → Seat
  | .dispatching _ (.startWait _) | .closing (.wait _) => .waiting count
  | .dispatching _ .stopArrive | .dispatching _ (.stopWait _) => .away (count + 1)
  | .closing (.join _) | .closing .returned => .away (count + 1)
  | _ => .away count

/-- Where the thread is at the stop barrier after `count` dispatches. -/
def stopSeat (count : Nat) : DispatcherPc n → Seat
  | .dispatching _ (.stopWait _) => .waiting count
  | _ => .away count

/-- The round the thread remembers is the number of finished dispatches. -/
def Recorded (count : Nat) : DispatcherPc n → Prop
  | .dispatching _ (.startWait round) | .dispatching _ (.stopWait round)
  | .closing (.wait round) => round = count
  | _ => True

/-- What the dispatch in progress has published. -/
def Written (pool : Pool n) : DispatcherPc n → Prop
  | .dispatching _ .writeJob => True
  | .dispatching request .writeSlots => pool.job = request.job
  | .dispatching request .writeGeneration =>
    pool.job = request.job ∧ pool.slots = request.slots
  | .dispatching request _ =>
    pool.job = request.job ∧ pool.slots = request.slots ∧ pool.generation = request.generation
  | _ => True

end DispatcherPc

/-- All requests, the one in progress last. -/
def Dispatcher.issued {n : Nat} (d : Dispatcher n) : List (Request n) :=
  d.completed ++ d.pc.current.toList

namespace WorkerPc

/-- The startup mutex is held. -/
def holds : WorkerPc → Bool
  | .testReady | .testShutdown | .quitUnlock | .release | .broadcast | .unlock => true
  | _ => false

/-- The worker has incremented `startup_released`. -/
def counted : WorkerPc → Bool
  | .notCreated | .lock | .testReady | .wait | .testShutdown | .quitUnlock | .quit
  | .release => false
  | _ => true

/-- The worker has called the job of this turn. -/
def called : WorkerPc → Nat
  | .inJob | .stopArrive | .stopWait _ => 1
  | _ => 0

def startSeat (turns : Nat) : WorkerPc → Seat
  | .startWait _ => .waiting turns
  | .testStop | .returned | .loadBand | .loadSlot _ | .loadGeneration _ _ | .callJob _ _ _
  | .inJob | .stopArrive | .stopWait _ => .away (turns + 1)
  | _ => .away turns

def stopSeat (turns : Nat) : WorkerPc → Seat
  | .stopWait _ => .waiting turns
  | _ => .away turns

/-- Where a worker can be while the dispatching thread is at `d`. -/
def Place {n : Nat} (d : DispatcherPc n) (i : Fin n) : WorkerPc → Prop
  | .notCreated => d.created ≤ i
  | .lock | .testReady | .wait => i < d.created ∧ d.opened = false
  | .testShutdown => i < d.created ∧ d.opened = false ∧ d.ready = true
  | .quitUnlock | .quit => i < d.created ∧ d.ready = true ∧ d.failed = true
  | .release | .broadcast | .unlock => d.opened = false ∧ d.ready = true ∧ d.failed = false
  | .returned => d.ready = true ∧ d.failed = false ∧ d.shutting = true
  | _ => d.ready = true ∧ d.failed = false

end WorkerPc

/-- What a worker has in its hands. A job is only prepared or run inside a dispatch. -/
def Loaded {n : Nat} (rows : Int) (d : DispatcherPc n) (i : Fin n) (w : Worker) : Prop :=
  match w.pc with
  | .startWait round | .stopWait round => round = w.turns
  | .loadBand | .inJob | .stopArrive => ∃ request, d.running = some request
  | .loadSlot band =>
    ∃ request, d.running = some request ∧ band = (bandStart rows n i, bandEnd rows n i)
  | .loadGeneration band slot =>
    ∃ request, d.running = some request ∧ band = (bandStart rows n i, bandEnd rows n i) ∧
      slot = request.slots i
  | .callJob band slot generation =>
    ∃ request, d.running = some request ∧ band = (bandStart rows n i, bandEnd rows n i) ∧
      slot = request.slots i ∧ generation = request.generation
  | _ => True

/-- A worker has called the jobs of the requests in order, one for each turn. -/
structure Logged {n : Nat} (rows : Int) (d : Dispatcher n) (i : Fin n) (w : Worker) : Prop where
  inOrder : w.runs <+: d.issued.map (runOf rows i)
  length : w.runs.length = w.turns + w.pc.called

structure Flags {n : Nat} (rows : Int) (pool : Pool n) (d : Dispatcher n) : Prop where
  ready : pool.startupReady = d.pc.ready
  shutting : pool.shuttingDown = d.pc.shutting
  active : pool.active = d.pc.active
  size : d.pc.finished = false → pool.workerCount = n ∧ pool.rows = rows
  written : d.pc.Written pool
  recorded : d.pc.Recorded d.completed.length
  called : d.called = d.issued
  fresh : d.pc.opened = false → d.completed = []
  created : d.pc.created ≤ n
  joined : d.pc.joined ≤ d.pc.created

/-- Between two calls every dispatch called has returned. -/
theorem Flags.returned {n : Nat} {rows : Int} {pool : Pool n} {d : Dispatcher n}
    (h : Flags rows pool d) (idle : d.pc = .idle) : d.completed = d.called := by
  rw [h.called, Dispatcher.issued, idle]
  exact (List.append_nil _).symm

/-- A value for each thread. -/
def onThreads {n : Nat} {α : Type} (dispatcher : α) (worker : Fin n → α) : Thread n → α
  | .dispatcher => dispatcher
  | .worker i => worker i

/-- Where each thread is at the start barrier. -/
def startSeats {n : Nat} (d : Dispatcher n) (workers : Fin n → Worker) : Thread n → Seat :=
  onThreads (d.pc.startSeat d.completed.length) fun i =>
    (workers i).pc.startSeat (workers i).turns

/-- Where each thread is at the stop barrier. -/
def stopSeats {n : Nat} (d : Dispatcher n) (workers : Fin n → Worker) : Thread n → Seat :=
  onThreads (d.pc.stopSeat d.completed.length) fun i =>
    (workers i).pc.stopSeat (workers i).turns

def holders {n : Nat} (d : Dispatcher n) (workers : Fin n → Worker) : Thread n → Bool :=
  onThreads d.pc.holds fun i => (workers i).pc.holds

theorem onThreads_worker {n : Nat} {α β : Type} (dispatcher : α) (workers : Fin n → β) (f : β → α)
    (i : Fin n) (w : β) :
    onThreads dispatcher (fun j => f (Function.update workers i w j)) =
      Function.update (onThreads dispatcher fun j => f (workers j)) (.worker i) (f w) := by
  funext t
  cases t with
  | dispatcher =>
    have other : Thread.dispatcher ≠ Thread.worker i := fun e => by cases e
    rw [Function.update_of_ne other, onThreads, onThreads]
  | worker j =>
    by_cases hj : j = i
    · subst hj
      rw [Function.update_self, onThreads, Function.update_self]
    · rw [Function.update_of_ne (fun e => hj (Thread.worker.inj e)), onThreads,
        Function.update_of_ne hj, onThreads]

theorem onThreads_dispatcher {n : Nat} {α : Type} (dispatcher dispatcher' : α)
    (worker : Fin n → α) : onThreads dispatcher' worker =
      Function.update (onThreads dispatcher worker) .dispatcher dispatcher' := by
  funext t
  cases t with
  | dispatcher => rw [Function.update_self, onThreads]
  | worker j =>
    have other : Thread.worker j ≠ Thread.dispatcher := fun e => by cases e
    rw [Function.update_of_ne other, onThreads, onThreads]

/-- No wake-up is lost: a sleeper still has a broadcast coming. -/
structure Sleepers {n : Nat} (pool : Pool n) (d : Dispatcher n) (workers : Fin n → Worker) :
    Prop where
  worker : ∀ i, (workers i).pc = .wait → pool.sleeping (.worker i) = true →
    d.pc.ready = false ∨ d.pc.broadcasting = true
  dispatcher : d.pc = .opening .wait → pool.sleeping .dispatcher = true →
    pool.startupReleased < n ∨ ∃ i, (workers i).pc = .broadcast

def countReleased {n : Nat} (workers : Fin n → Worker) : Nat :=
  (Finset.univ.filter fun i => (workers i).pc.counted = true).card

/-- The invariant of the protocol. -/
structure Inv {n : Nat} (rows : Int) (pool : Pool n) (d : Dispatcher n)
    (workers : Fin n → Worker) : Prop where
  start : pool.startBarrier.Good (startSeats d workers)
  stop : pool.stopBarrier.Good (stopSeats d workers)
  flags : Flags rows pool d
  place : ∀ i, (workers i).pc.Place d.pc i
  loaded : ∀ i, Loaded rows d.pc i (workers i)
  logged : ∀ i, Logged rows d i (workers i)
  mutex : Excludes (holders d workers) pool.owner
  released : pool.startupReleased = countReleased workers
  sleepers : Sleepers pool d workers
  joined : ∀ i : Fin n, i < d.pc.joined → (workers i).pc.ended = true

end VitaLinux.Cart.WorkerPool
