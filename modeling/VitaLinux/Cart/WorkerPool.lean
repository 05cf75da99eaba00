import VitaLinux.Base.Synchronisation
import VitaLinux.Base.Machine
import VitaLinux.Cart.Bands
import Mathlib.Data.Fintype.Sum
import Mathlib.Logic.Relation
import Mathlib.Tactic.DeriveFintype

/-!
# cart/src/worker_pool.c

The dispatching thread and the workers as a transition system. A program point
is named after the statement the thread executes next; one transition is one
access to the pool or one POSIX operation.

A mutex is its owner. A thread inside `pthread_cond_wait` has given up the mutex
and `sleeping` says whether a wake-up, which may be spurious, is still to come.
Barriers count arrivals and rounds, and a thread inside `pthread_barrier_wait`
remembers the round it arrived in.
-/

namespace VitaLinux.Cart.WorkerPool

open VitaLinux.Base

/-- The value of a pointer: a job function or the object a slot points to. -/
abbrev Address := Nat

/-- The arguments of one `cart_worker_pool_dispatch`. -/
structure Request (n : Nat) where
  job : Address
  slots : Fin n → Address
  generation : U64

structure Run where
  job : Address
  slot : Address
  rowStart : Int
  rowEnd : Int
  generation : U64
  deriving DecidableEq, Repr

inductive Thread (n : Nat) where
  | dispatcher
  | worker (i : Fin n)
  deriving DecidableEq, Fintype

/-- `struct cart_worker_pool`, with the state of its POSIX objects. -/
structure Pool (n : Nat) where
  active : Bool
  workerCount : Nat
  rows : Int
  slots : Fin n → Address
  job : Address
  generation : U64
  startBarrier : Barrier
  stopBarrier : Barrier
  /-- The owner of `startup_mutex`. -/
  owner : Option (Thread n)
  /-- The threads asleep on `startup_cond`. -/
  sleeping : Thread n → Bool
  startupReady : Bool
  startupReleased : Nat
  shuttingDown : Bool

/-- The pool after `memset` and the initialisation of its POSIX objects. -/
def Pool.empty (n : Nat) (rows : Int) : Pool n :=
  { active := false, workerCount := n, rows, slots := fun _ => 0, job := 0, generation := 0
    startBarrier := ⟨0, 0⟩, stopBarrier := ⟨0, 0⟩
    owner := none, sleeping := fun _ => false
    startupReady := false, startupReleased := 0, shuttingDown := false }

/-- The rows worker `i` computes for itself. -/
def Pool.band {n : Nat} (pool : Pool n) (i : Fin n) : Int × Int :=
  (bandStart pool.rows pool.workerCount i, bandEnd pool.rows pool.workerCount i)

/-- Where `worker_main` is. -/
inductive WorkerPc where
  | notCreated
  | lock
  | testReady
  | wait
  | testShutdown
  | quitUnlock
  | quit
  | release
  | broadcast
  | unlock
  | startArrive
  | startWait (round : Nat)
  | testStop
  | returned
  | loadBand
  | loadSlot (band : Int × Int)
  | loadGeneration (band : Int × Int) (slot : Address)
  | callJob (band : Int × Int) (slot : Address) (generation : U64)
  | inJob
  | stopArrive
  | stopWait (round : Nat)
  deriving DecidableEq, Repr

/-- A worker, with the job calls it has made and the dispatches it has finished. -/
structure Worker where
  pc : WorkerPc
  runs : List Run
  turns : Nat

def WorkerPc.ended : WorkerPc → Bool
  | .quit | .returned => true
  | _ => false

/-- One step of worker `i`. -/
inductive WorkerStep {n : Nat} (i : Fin n) : Pool n → Worker → Pool n → Worker → Prop where
  | lock {pool : Pool n} {runs : List Run} {turns : Nat} (free : pool.owner = none) :
      WorkerStep i pool ⟨.lock, runs, turns⟩
        { pool with owner := some (.worker i) } ⟨.testReady, runs, turns⟩
  | ready {pool : Pool n} {runs : List Run} {turns : Nat} (ready : pool.startupReady = true) :
      WorkerStep i pool ⟨.testReady, runs, turns⟩ pool ⟨.testShutdown, runs, turns⟩
  | sleep {pool : Pool n} {runs : List Run} {turns : Nat} (closed : pool.startupReady = false) :
      WorkerStep i pool ⟨.testReady, runs, turns⟩
        { pool with
          owner := none, sleeping := Function.update pool.sleeping (.worker i) true }
        ⟨.wait, runs, turns⟩
  | wake {pool : Pool n} {runs : List Run} {turns : Nat}
      (awake : pool.sleeping (.worker i) = false) (free : pool.owner = none) :
      WorkerStep i pool ⟨.wait, runs, turns⟩
        { pool with owner := some (.worker i) } ⟨.testReady, runs, turns⟩
  | abandon {pool : Pool n} {runs : List Run} {turns : Nat} (down : pool.shuttingDown = true) :
      WorkerStep i pool ⟨.testShutdown, runs, turns⟩ pool ⟨.quitUnlock, runs, turns⟩
  | pass {pool : Pool n} {runs : List Run} {turns : Nat} (up : pool.shuttingDown = false) :
      WorkerStep i pool ⟨.testShutdown, runs, turns⟩ pool ⟨.release, runs, turns⟩
  | quitUnlock {pool : Pool n} {runs : List Run} {turns : Nat} :
      WorkerStep i pool ⟨.quitUnlock, runs, turns⟩
        { pool with owner := none } ⟨.quit, runs, turns⟩
  | release {pool : Pool n} {runs : List Run} {turns : Nat} :
      WorkerStep i pool ⟨.release, runs, turns⟩
        { pool with startupReleased := pool.startupReleased + 1 } ⟨.broadcast, runs, turns⟩
  | broadcast {pool : Pool n} {runs : List Run} {turns : Nat} :
      WorkerStep i pool ⟨.broadcast, runs, turns⟩
        { pool with sleeping := fun _ => false } ⟨.unlock, runs, turns⟩
  | unlock {pool : Pool n} {runs : List Run} {turns : Nat} :
      WorkerStep i pool ⟨.unlock, runs, turns⟩
        { pool with owner := none } ⟨.startArrive, runs, turns⟩
  | startArrive {pool : Pool n} {runs : List Run} {turns : Nat} :
      WorkerStep i pool ⟨.startArrive, runs, turns⟩
        { pool with startBarrier := pool.startBarrier.arrive (n + 1) }
        ⟨.startWait pool.startBarrier.round, runs, turns⟩
  | startLeave {pool : Pool n} {runs : List Run} {turns round : Nat}
      (opened : pool.startBarrier.round ≠ round) :
      WorkerStep i pool ⟨.startWait round, runs, turns⟩ pool ⟨.testStop, runs, turns⟩
  | stop {pool : Pool n} {runs : List Run} {turns : Nat} (down : pool.shuttingDown = true) :
      WorkerStep i pool ⟨.testStop, runs, turns⟩ pool ⟨.returned, runs, turns⟩
  | go {pool : Pool n} {runs : List Run} {turns : Nat} (up : pool.shuttingDown = false) :
      WorkerStep i pool ⟨.testStop, runs, turns⟩ pool ⟨.loadBand, runs, turns⟩
  | loadBand {pool : Pool n} {runs : List Run} {turns : Nat} :
      WorkerStep i pool ⟨.loadBand, runs, turns⟩ pool ⟨.loadSlot (pool.band i), runs, turns⟩
  | loadSlot {pool : Pool n} {runs : List Run} {turns : Nat} {band : Int × Int} :
      WorkerStep i pool ⟨.loadSlot band, runs, turns⟩
        pool ⟨.loadGeneration band (pool.slots i), runs, turns⟩
  | loadGeneration {pool : Pool n} {runs : List Run} {turns : Nat} {band : Int × Int}
      {slot : Address} :
      WorkerStep i pool ⟨.loadGeneration band slot, runs, turns⟩
        pool ⟨.callJob band slot pool.generation, runs, turns⟩
  | callJob {pool : Pool n} {runs : List Run} {turns : Nat} {band : Int × Int}
      {slot : Address} {generation : U64} :
      WorkerStep i pool ⟨.callJob band slot generation, runs, turns⟩
        pool ⟨.inJob, runs ++ [⟨pool.job, slot, band.1, band.2, generation⟩], turns⟩
  | jobDone {pool : Pool n} {runs : List Run} {turns : Nat} :
      WorkerStep i pool ⟨.inJob, runs, turns⟩ pool ⟨.stopArrive, runs, turns⟩
  | stopArrive {pool : Pool n} {runs : List Run} {turns : Nat} :
      WorkerStep i pool ⟨.stopArrive, runs, turns⟩
        { pool with stopBarrier := pool.stopBarrier.arrive (n + 1) }
        ⟨.stopWait pool.stopBarrier.round, runs, turns⟩
  | stopLeave {pool : Pool n} {runs : List Run} {turns round : Nat}
      (opened : pool.stopBarrier.round ≠ round) :
      WorkerStep i pool ⟨.stopWait round, runs, turns⟩ pool ⟨.startArrive, runs, turns + 1⟩

/-- `cart_worker_pool_init` after `pthread_create` failed. -/
inductive FailStage where
  | lock
  | setShutdown
  | setReady
  | broadcast
  | unlock
  | join (started : Nat)
  | returned
  deriving DecidableEq, Repr

/-- `cart_worker_pool_init` after all workers were created. -/
inductive OpenStage where
  | lock
  | setReady
  | broadcast
  | testReleased
  | wait
  | unlock
  | activate
  deriving DecidableEq, Repr

inductive DispatchStage where
  | writeJob
  | writeSlots
  | writeGeneration
  | startArrive
  | startWait (round : Nat)
  | stopArrive
  | stopWait (round : Nat)
  deriving DecidableEq, Repr

inductive CloseStage where
  | deactivate
  | setShutdown
  | arrive
  | wait (round : Nat)
  | join (index : Nat)
  | returned
  deriving DecidableEq, Repr

/-- Where the dispatching thread is. Between two calls it is `idle`. -/
inductive DispatcherPc (n : Nat) where
  | creating (index : Nat)
  | failing (created : Nat) (stage : FailStage)
  | opening (stage : OpenStage)
  | idle
  | dispatching (request : Request n) (stage : DispatchStage)
  | closing (stage : CloseStage)

/-- The dispatching thread, with the requests whose dispatch has returned and those
it has called dispatch with. -/
structure Dispatcher (n : Nat) where
  pc : DispatcherPc n
  completed : List (Request n)
  called : List (Request n)

/-- One step of the dispatching thread other than a successful `pthread_create`. -/
inductive DispatcherStep {n : Nat} (workers : Fin n → Worker) :
    Pool n → Dispatcher n → Pool n → Dispatcher n → Prop where
  | createFails {pool : Pool n} {completed called : List (Request n)} {index : Nat}
      (more : index < n) :
      DispatcherStep workers pool ⟨.creating index, completed, called⟩
        pool ⟨.failing index .lock, completed, called⟩
  | failLock {pool : Pool n} {completed called : List (Request n)} {created : Nat}
      (free : pool.owner = none) :
      DispatcherStep workers pool ⟨.failing created .lock, completed, called⟩
        { pool with owner := some .dispatcher } ⟨.failing created .setShutdown, completed, called⟩
  | failShutdown {pool : Pool n} {completed called : List (Request n)} {created : Nat} :
      DispatcherStep workers pool ⟨.failing created .setShutdown, completed, called⟩
        { pool with shuttingDown := true } ⟨.failing created .setReady, completed, called⟩
  | failReady {pool : Pool n} {completed called : List (Request n)} {created : Nat} :
      DispatcherStep workers pool ⟨.failing created .setReady, completed, called⟩
        { pool with startupReady := true } ⟨.failing created .broadcast, completed, called⟩
  | failBroadcast {pool : Pool n} {completed called : List (Request n)} {created : Nat} :
      DispatcherStep workers pool ⟨.failing created .broadcast, completed, called⟩
        { pool with sleeping := fun _ => false } ⟨.failing created .unlock, completed, called⟩
  | failUnlock {pool : Pool n} {completed called : List (Request n)} {created : Nat} :
      DispatcherStep workers pool ⟨.failing created .unlock, completed, called⟩
        { pool with owner := none } ⟨.failing created (.join 0), completed, called⟩
  | failJoin {pool : Pool n} {completed called : List (Request n)} {created : Nat} {started : Fin n}
      (more : started < created) (ended : (workers started).pc.ended = true) :
      DispatcherStep workers pool ⟨.failing created (.join started), completed, called⟩
        pool ⟨.failing created (.join (started + 1)), completed, called⟩
  | failReturn {pool : Pool n} {completed called : List (Request n)} {created : Nat} :
      DispatcherStep workers pool ⟨.failing created (.join created), completed, called⟩
        { pool with workerCount := 0, rows := 0 } ⟨.failing created .returned, completed, called⟩
  | created {pool : Pool n} {completed called : List (Request n)} :
      DispatcherStep workers pool ⟨.creating n, completed, called⟩
        pool ⟨.opening .lock, completed, called⟩
  | lock {pool : Pool n} {completed called : List (Request n)} (free : pool.owner = none) :
      DispatcherStep workers pool ⟨.opening .lock, completed, called⟩
        { pool with owner := some .dispatcher } ⟨.opening .setReady, completed, called⟩
  | ready {pool : Pool n} {completed called : List (Request n)} :
      DispatcherStep workers pool ⟨.opening .setReady, completed, called⟩
        { pool with startupReady := true } ⟨.opening .broadcast, completed, called⟩
  | broadcast {pool : Pool n} {completed called : List (Request n)} :
      DispatcherStep workers pool ⟨.opening .broadcast, completed, called⟩
        { pool with sleeping := fun _ => false } ⟨.opening .testReleased, completed, called⟩
  | sleep {pool : Pool n} {completed called : List (Request n)}
      (missing : pool.startupReleased < n) :
      DispatcherStep workers pool ⟨.opening .testReleased, completed, called⟩
        { pool with
          owner := none, sleeping := Function.update pool.sleeping .dispatcher true }
        ⟨.opening .wait, completed, called⟩
  | wake {pool : Pool n} {completed called : List (Request n)}
      (awake : pool.sleeping .dispatcher = false) (free : pool.owner = none) :
      DispatcherStep workers pool ⟨.opening .wait, completed, called⟩
        { pool with owner := some .dispatcher } ⟨.opening .testReleased, completed, called⟩
  | released {pool : Pool n} {completed called : List (Request n)}
      (all : n ≤ pool.startupReleased) :
      DispatcherStep workers pool ⟨.opening .testReleased, completed, called⟩
        pool ⟨.opening .unlock, completed, called⟩
  | unlock {pool : Pool n} {completed called : List (Request n)} :
      DispatcherStep workers pool ⟨.opening .unlock, completed, called⟩
        { pool with owner := none } ⟨.opening .activate, completed, called⟩
  | activate {pool : Pool n} {completed called : List (Request n)} :
      DispatcherStep workers pool ⟨.opening .activate, completed, called⟩
        { pool with active := true } ⟨.idle, completed, called⟩
  | dispatch {pool : Pool n} {completed called : List (Request n)} (request : Request n)
      (active : pool.active = true) :
      DispatcherStep workers pool ⟨.idle, completed, called⟩
        pool ⟨.dispatching request .writeJob, completed, called ++ [request]⟩
  | writeJob {pool : Pool n} {completed called : List (Request n)} {request : Request n} :
      DispatcherStep workers pool ⟨.dispatching request .writeJob, completed, called⟩
        { pool with job := request.job } ⟨.dispatching request .writeSlots, completed, called⟩
  | writeSlots {pool : Pool n} {completed called : List (Request n)} {request : Request n} :
      DispatcherStep workers pool ⟨.dispatching request .writeSlots, completed, called⟩
        { pool with slots := request.slots }
        ⟨.dispatching request .writeGeneration, completed, called⟩
  | writeGeneration {pool : Pool n} {completed called : List (Request n)} {request : Request n} :
      DispatcherStep workers pool ⟨.dispatching request .writeGeneration, completed, called⟩
        { pool with generation := request.generation }
        ⟨.dispatching request .startArrive, completed, called⟩
  | startArrive {pool : Pool n} {completed called : List (Request n)} {request : Request n} :
      DispatcherStep workers pool ⟨.dispatching request .startArrive, completed, called⟩
        { pool with startBarrier := pool.startBarrier.arrive (n + 1) }
        ⟨.dispatching request (.startWait pool.startBarrier.round), completed, called⟩
  | startLeave {pool : Pool n} {completed called : List (Request n)} {request : Request n}
      {round : Nat}
      (opened : pool.startBarrier.round ≠ round) :
      DispatcherStep workers pool ⟨.dispatching request (.startWait round), completed, called⟩
        pool ⟨.dispatching request .stopArrive, completed, called⟩
  | stopArrive {pool : Pool n} {completed called : List (Request n)} {request : Request n} :
      DispatcherStep workers pool ⟨.dispatching request .stopArrive, completed, called⟩
        { pool with stopBarrier := pool.stopBarrier.arrive (n + 1) }
        ⟨.dispatching request (.stopWait pool.stopBarrier.round), completed, called⟩
  | stopLeave {pool : Pool n} {completed called : List (Request n)} {request : Request n}
      {round : Nat}
      (opened : pool.stopBarrier.round ≠ round) :
      DispatcherStep workers pool ⟨.dispatching request (.stopWait round), completed, called⟩
        pool ⟨.idle, completed ++ [request], called⟩
  | shutdown {pool : Pool n} {completed called : List (Request n)} (active : pool.active = true) :
      DispatcherStep workers pool ⟨.idle, completed, called⟩
        pool ⟨.closing .deactivate, completed, called⟩
  | deactivate {pool : Pool n} {completed called : List (Request n)} :
      DispatcherStep workers pool ⟨.closing .deactivate, completed, called⟩
        { pool with active := false } ⟨.closing .setShutdown, completed, called⟩
  | setShutdown {pool : Pool n} {completed called : List (Request n)} :
      DispatcherStep workers pool ⟨.closing .setShutdown, completed, called⟩
        { pool with shuttingDown := true } ⟨.closing .arrive, completed, called⟩
  | lastArrive {pool : Pool n} {completed called : List (Request n)} :
      DispatcherStep workers pool ⟨.closing .arrive, completed, called⟩
        { pool with startBarrier := pool.startBarrier.arrive (n + 1) }
        ⟨.closing (.wait pool.startBarrier.round), completed, called⟩
  | lastLeave {pool : Pool n} {completed called : List (Request n)} {round : Nat}
      (opened : pool.startBarrier.round ≠ round) :
      DispatcherStep workers pool ⟨.closing (.wait round), completed, called⟩
        pool ⟨.closing (.join 0), completed, called⟩
  | join {pool : Pool n} {completed called : List (Request n)} {index : Fin n}
      (ended : (workers index).pc.ended = true) :
      DispatcherStep workers pool ⟨.closing (.join index), completed, called⟩
        pool ⟨.closing (.join (index + 1)), completed, called⟩
  | closed {pool : Pool n} {completed called : List (Request n)} :
      DispatcherStep workers pool ⟨.closing (.join n), completed, called⟩
        { pool with workerCount := 0, rows := 0 } ⟨.closing .returned, completed, called⟩

structure State (n : Nat) where
  pool : Pool n
  dispatcher : Dispatcher n
  workers : Fin n → Worker

/-- `cart_worker_pool_init` is about to create the first thread. -/
def State.initial (n : Nat) (rows : Int) : State n :=
  { pool := .empty n rows
    dispatcher := ⟨.creating 0, [], []⟩
    workers := fun _ => ⟨.notCreated, [], 0⟩ }

/-- A step some thread takes of its own accord. -/
inductive Progress {n : Nat} : State n → State n → Prop where
  | create {s : State n} {index : Fin n} {completed called : List (Request n)}
      (creating : s.dispatcher = ⟨.creating index, completed, called⟩) :
      Progress s
        { s with
          dispatcher := ⟨.creating (index + 1), completed, called⟩
          workers := Function.update s.workers index ⟨.lock, [], 0⟩ }
  | dispatcher {s : State n} {pool : Pool n} {dispatcher : Dispatcher n}
      (step : DispatcherStep s.workers s.pool s.dispatcher pool dispatcher) :
      Progress s { s with pool, dispatcher }
  | worker {s : State n} {pool : Pool n} {worker : Worker} (i : Fin n)
      (step : WorkerStep i s.pool (s.workers i) pool worker) :
      Progress s { s with pool, workers := Function.update s.workers i worker }

/-- One step of the system: a thread's, or a spurious wake-up. -/
inductive Step {n : Nat} : State n → State n → Prop where
  | progress {s t : State n} (step : Progress s t) : Step s t
  | spurious {s : State n} (thread : Thread n) :
      Step s { s with
        pool := { s.pool with sleeping := Function.update s.pool.sleeping thread false } }

def Reachable {n : Nat} (rows : Int) (s : State n) : Prop :=
  Relation.ReflTransGen Step (.initial n rows) s

/-- The call worker `i` owes a request. -/
def runOf {n : Nat} (rows : Int) (i : Fin n) (request : Request n) : Run :=
  { job := request.job
    slot := request.slots i
    rowStart := bandStart rows n i
    rowEnd := bandEnd rows n i
    generation := request.generation }

end VitaLinux.Cart.WorkerPool
