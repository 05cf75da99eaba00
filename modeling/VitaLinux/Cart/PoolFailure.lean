import Mathlib.Logic.Function.Basic
import VitaLinux.Base.Programs
import VitaLinux.Cart.WorkerPool

/-!
# A pool whose init failed

`cart_worker_pool_init`, `cart_worker_pool_dispatch` and `cart_worker_pool_shutdown` as
programs over the memory of the pool object. What POSIX answers is left open, and the
workers that have been created may run at any moment: all they write is
`startup_released`.
-/

namespace VitaLinux.Cart.PoolFailure

open Base WorkerPool

/-- The fields of `struct cart_worker_pool`, as an object of any contents has them. -/
structure Memory where
  active : Int
  workerCount : Int
  rows : Int
  startIndex : Nat → Int
  slots : Nat → Address
  job : Address
  generation : U64
  startupReady : Int
  startupReleased : Int
  shuttingDown : Int

/-- `memset(pool, 0, sizeof(*pool))` -/
def Memory.zero : Memory :=
  { active := 0, workerCount := 0, rows := 0, startIndex := fun _ => 0, slots := fun _ => 0
    job := 0, generation := 0, startupReady := 0, startupReleased := 0, shuttingDown := 0 }

inductive PoolCall where
  | load
  | store (change : Memory → Memory)
  | mutexInit
  | condInit
  | startBarrierInit (count : Int)
  | stopBarrierInit (count : Int)
  | mutexDestroy
  | condDestroy
  | startBarrierDestroy
  | stopBarrierDestroy
  | create (index : Nat)
  | join (index : Nat)
  | lock
  | unlock
  | broadcast
  | wait
  | startBarrierWait
  | stopBarrierWait
  | job (job slot : Address) (rowStart rowEnd : Int) (generation : U64)

/-- A load gives the memory; what creates a thread or a POSIX object gives an `int`. -/
abbrev PoolCall.Reply : PoolCall → Type
  | .load => Memory
  | .mutexInit | .condInit | .startBarrierInit _ | .stopBarrierInit _ | .create _ => Int
  | _ => Unit

/-- The condition that a thread waits for has not come. -/
inductive Waiting where
  | startup

abbrev PoolProg := Prog PoolCall PoolCall.Reply Waiting

/-- A single access or a single POSIX call. -/
abbrev access (c : PoolCall) : PoolProg c.Reply := Prog.call c

/-- What `cart_worker_pool_init` does when a thread cannot be created. -/
def abandonStartup (index : Nat) : PoolProg Unit := do
  access .lock
  access (.store fun pool => { pool with shuttingDown := 1 })
  access (.store fun pool => { pool with startupReady := 1 })
  access .broadcast
  access .unlock
  (List.range index).forM fun started => access (.join started)
  access .startBarrierDestroy
  access .stopBarrierDestroy
  access .condDestroy
  access .mutexDestroy
  access (.store fun pool => { pool with workerCount := 0 })
  access (.store fun pool => { pool with rows := 0 })

/-- The loop over `pthread_create`: whether all threads were created. -/
def createWorkers : List Nat → PoolProg Bool
  | [] => return true
  | index :: rest => do
    access (.store fun pool =>
      { pool with startIndex := Function.update pool.startIndex index index })
    let result : Int ← access (.create index)
    if result ≠ 0 then
      abandonStartup index
      return false
    createWorkers rest

/-- The loop around `pthread_cond_wait`, for some rounds. -/
def awaitReleased (workerCount : Int) : Nat → PoolProg Unit
  | 0 => throw .startup
  | rounds + 1 => do
    let pool : Memory ← access .load
    if pool.startupReleased < workerCount then
      access .wait
      awaitReleased workerCount rounds

/-- The arguments that `cart_worker_pool_init` refuses. -/
def Refused (null : Bool) (workerCount rows : Int) : Prop :=
  null = true ∨ workerCount < 0 ∨ (CART_WORKER_POOL_MAX : Int) < workerCount ∨ rows ≤ 0

instance (null : Bool) (workerCount rows : Int) : Decidable (Refused null workerCount rows) :=
  inferInstanceAs (Decidable (_ ∨ _))

/-- `cart_worker_pool_init`; `null` says that there is no pool object. -/
def cartWorkerPoolInit (null : Bool) (workerCount rows : Int) (rounds : Nat) : PoolProg Int := do
  if Refused null workerCount rows then
    return -1
  access (.store fun _ => Memory.zero)
  access (.store fun pool => { pool with workerCount })
  access (.store fun pool => { pool with rows })
  if workerCount = 0 then
    access (.store fun pool => { pool with active := 1 })
    return 0
  let result : Int ← access .mutexInit
  if result ≠ 0 then
    return -1
  let result : Int ← access .condInit
  if result ≠ 0 then
    access .mutexDestroy
    return -1
  let result : Int ← access (.startBarrierInit (workerCount + 1))
  if result ≠ 0 then
    access .condDestroy
    access .mutexDestroy
    return -1
  let result : Int ← access (.stopBarrierInit (workerCount + 1))
  if result ≠ 0 then
    access .startBarrierDestroy
    access .condDestroy
    access .mutexDestroy
    return -1
  if (← createWorkers (List.range workerCount.toNat)) = false then
    return -1
  access .lock
  access (.store fun pool => { pool with startupReady := 1 })
  access .broadcast
  awaitReleased workerCount rounds
  access .unlock
  access (.store fun pool => { pool with active := 1 })
  return 0

def cartWorkerPoolDispatch (null : Bool) (job : Option Address) (slots : Option (Nat → Address))
    (generation : U64) : PoolProg Int := do
  if null then
    return -1
  let some job := job | return -1
  let pool : Memory ← access .load
  if pool.active = 0 then
    return -1
  let some slots := slots | return -1
  if pool.workerCount = 0 then
    access (.job job (slots 0) 0 pool.rows generation)
    return 0
  access (.store fun pool => { pool with job })
  access (.store fun pool =>
    { pool with slots := fun i => if (i : Int) < pool.workerCount then slots i else pool.slots i })
  access (.store fun pool => { pool with generation })
  access .startBarrierWait
  access .stopBarrierWait
  return 0

def cartWorkerPoolShutdown (null : Bool) : PoolProg Unit := do
  if null then
    return
  let pool : Memory ← access .load
  if pool.active = 0 then
    return
  access (.store fun pool => { pool with active := 0 })
  if pool.workerCount = 0 then
    return
  access (.store fun pool => { pool with shuttingDown := 1 })
  access .startBarrierWait
  (List.range pool.workerCount.toNat).forM fun index => access (.join index)
  access .startBarrierDestroy
  access .stopBarrierDestroy
  access .condDestroy
  access .mutexDestroy
  access (.store fun pool => { pool with workerCount := 0 })
  access (.store fun pool => { pool with rows := 0 })

/-- What the workers may have done between two accesses of the dispatching thread. -/
def Interferes (s t : Memory) : Prop := t = { s with startupReleased := t.startupReleased }

def poolEnv : Environment Memory PoolCall PoolCall.Reply
  | s, .load, reply, t => reply = s ∧ Interferes s t
  | s, .store change, _, t => Interferes (change s) t
  | s, _, _, t => Interferes s t

/-- Running a job, waiting on a barrier and joining a thread are what a pool that failed
must not do. -/
def Harmless : PoolCall → Prop
  | .job .. | .startBarrierWait | .stopBarrierWait | .join _ => False
  | _ => True

/-- A use of the pool after `cart_worker_pool_init`. -/
inductive PoolUse where
  | dispatch (job : Option Address) (slots : Option (Nat → Address)) (generation : U64)
  | shutdown

/-- The use, with what it returns. -/
def PoolUse.perform (null : Bool) : PoolUse → PoolProg (Option Int)
  | .dispatch job slots generation => do
    let result ← cartWorkerPoolDispatch null job slots generation
    return some result
  | .shutdown => do
    cartWorkerPoolShutdown null
    return none

/-- However the pool is used, no job runs, nothing waits, and dispatches return -1. -/
def Safe (null : Bool) (pool : Memory) : Prop :=
  ∀ uses : List PoolUse, (uses.mapM (PoolUse.perform null)).Meets poolEnv
    (fun e => Harmless e.call) (fun results _ => ∀ result, some result ∈ results → result = -1)
    (fun _ _ => False) pool

/-- An access that leaves `active` alone. -/
def Quiet : PoolCall → Prop
  | .store change => ∀ pool, (change pool).active = pool.active
  | _ => True

theorem Interferes.active {s t : Memory} (h : Interferes s t) : t.active = s.active := by
  rw [Interferes] at h
  rw [h]

/-- Nobody has to interfere. -/
theorem store_alone (s : Memory) (change : Memory → Memory) :
    poolEnv s (.store change) () (change s) := rfl

/-- The workers are the only ones who interfere, and this is all they do. -/
theorem WorkerStep.interferes {n : Nat} {i : Fin n} {pool pool' : Pool n} {w w' : Worker}
    (step : WorkerStep i pool w pool' w') :
    pool'.active = pool.active ∧ pool'.workerCount = pool.workerCount ∧ pool'.rows = pool.rows ∧
      pool'.slots = pool.slots ∧ pool'.job = pool.job ∧ pool'.generation = pool.generation ∧
      pool'.startupReady = pool.startupReady ∧ pool'.shuttingDown = pool.shuttingDown := by
  cases step <;> exact ⟨rfl, rfl, rfl, rfl, rfl, rfl, rfl, rfl⟩

theorem poolEnv_active {s t : Memory} {c : PoolCall} {reply : c.Reply} (quiet : Quiet c)
    (inactive : s.active = 0) (answer : poolEnv s c reply t) : t.active = 0 := by
  cases c with
  | load => exact answer.2.active.trans inactive
  | store change => exact answer.active.trans ((quiet s).trans inactive)
  | _ => exact Interferes.active answer |>.trans inactive

section Inactive

variable {α β : Type} {Q : β → Memory → Prop}

/-- What follows a quiet program runs in an inactive pool, too. -/
theorem quietly {p : PoolProg α} {f : α → PoolProg β} {s : Memory} (quiet : p.Uses Quiet)
    (inactive : s.active = 0)
    (rest : ∀ a (t : Memory), t.active = 0 →
      (f a).Meets poolEnv (fun _ => True) Q (fun _ _ => True) t) :
    (p >>= f).Meets poolEnv (fun _ => True) Q (fun _ _ => True) s := by
  have kept : p.Meets poolEnv (fun e => Quiet e.call ∧ e.before.active = 0 ∧ e.after.active = 0)
      (fun _ t => t.active = 0) (fun _ t => t.active = 0) s :=
    quiet.meets (I := fun t : Memory => t.active = 0) (fun _ _ _ _ => poolEnv_active) inactive
  exact kept.seq_of (fun _ _ => trivial) (fun _ _ _ => trivial) rest

end Inactive

theorem abandonStartup_quiet (index : Nat) : (abandonStartup index).Uses Quiet := by
  simp only [abandonStartup, access, Prog.uses_call_bind]
  have joins : ((List.range index).forM fun started => access (.join started)).Uses Quiet :=
    Prog.Uses.forM _ fun started _ => (Prog.uses_call _).mpr trivial
  simp only [Quiet, implies_true, true_and]
  intro _ _ _ _ _
  refine joins.bind fun _ => ?_
  simp [Quiet]

theorem createWorkers_quiet (indices : List Nat) : (createWorkers indices).Uses Quiet := by
  induction indices with
  | nil => exact Prog.uses_pure _
  | cons index rest ih =>
    simp only [createWorkers, access, Prog.uses_call_bind]
    refine ⟨fun _ => rfl, fun _ => ⟨trivial, fun result => ?_⟩⟩
    split
    · exact (abandonStartup_quiet index).bind fun _ => Prog.uses_pure _
    · exact ih

theorem awaitReleased_quiet (workerCount : Int) (rounds : Nat) :
    (awaitReleased workerCount rounds).Uses Quiet := by
  induction rounds with
  | zero => exact Prog.uses_throw _
  | succ rounds ih =>
    simp only [awaitReleased, access, Prog.uses_call_bind]
    refine ⟨trivial, fun pool => ?_⟩
    split
    · exact ⟨trivial, fun _ => ih⟩
    · exact Prog.uses_pure _

/-- Whatever fails after the arguments have been accepted, the pool is inactive. -/
theorem init_inactive (null : Bool) {workerCount rows : Int} (rounds : Nat) (s : Memory)
    (accepted : ¬ Refused null workerCount rows) :
    (cartWorkerPoolInit null workerCount rows rounds).Meets poolEnv (fun _ => True)
      (fun result t => result = -1 → t.active = 0) (fun _ _ => True) s := by
  have returns {t : Memory} (inactive : t.active = 0) :
      (pure (-1) : PoolProg Int).Meets poolEnv (fun _ => True)
        (fun result t => result = -1 → t.active = 0) (fun _ _ => True) t := fun _ => inactive
  have activates (t : Memory) :
      (do
        access (.store fun pool => { pool with active := 1 })
        return 0 : PoolProg Int).Meets poolEnv (fun _ => True)
        (fun result t => result = -1 → t.active = 0) (fun _ _ => True) t :=
    fun _ _ _ => ⟨trivial, fun failed => absurd failed (by decide)⟩
  rw [cartWorkerPoolInit, if_neg accepted]
  -- the object is cleared before anything else can fail
  rw [Prog.meets_call_bind]
  intro _ t cleared
  refine ⟨trivial, ?_⟩
  have inactive : t.active = 0 := Interferes.active cleared
  refine quietly (by simp [Quiet]) inactive fun _ t inactive => ?_
  refine quietly (by simp [Quiet]) inactive fun _ t inactive => ?_
  split
  · exact activates t
  refine quietly (by simp [Quiet]) inactive fun mutex t inactive => ?_
  split
  · exact returns inactive
  refine quietly (by simp [Quiet]) inactive fun condition t inactive => ?_
  split
  · exact quietly (by simp [Quiet]) inactive fun _ _ => returns
  refine quietly (by simp [Quiet]) inactive fun startBarrier t inactive => ?_
  split
  · refine quietly (by simp [Quiet]) inactive fun _ t inactive => ?_
    exact quietly (by simp [Quiet]) inactive fun _ _ => returns
  refine quietly (by simp [Quiet]) inactive fun stopBarrier t inactive => ?_
  split
  · refine quietly (by simp [Quiet]) inactive fun _ t inactive => ?_
    refine quietly (by simp [Quiet]) inactive fun _ t inactive => ?_
    exact quietly (by simp [Quiet]) inactive fun _ _ => returns
  refine quietly (createWorkers_quiet _) inactive fun created t inactive => ?_
  split
  · exact returns inactive
  refine quietly (by simp [Quiet]) inactive fun _ t inactive => ?_
  refine quietly (by simp [Quiet]) inactive fun _ t inactive => ?_
  refine quietly (by simp [Quiet]) inactive fun _ t inactive => ?_
  refine quietly (awaitReleased_quiet _ _) inactive fun _ t inactive => ?_
  exact quietly (by simp [Quiet]) inactive fun _ t _ => activates t

/-- There is no pool object, or it is inactive. -/
def Dormant (null : Bool) (pool : Memory) : Prop := null = true ∨ pool.active = 0

theorem dispatch_dormant {null : Bool} {s : Memory} (dormant : Dormant null s)
    (job : Option Address) (slots : Option (Nat → Address)) (generation : U64) :
    (cartWorkerPoolDispatch null job slots generation).Meets poolEnv (fun e => Harmless e.call)
      (fun result t => result = -1 ∧ Dormant null t) (fun _ _ => False) s := by
  cases null with
  | true => exact ⟨rfl, dormant⟩
  | false =>
    have inactive : s.active = 0 := dormant.resolve_left Bool.false_ne_true
    cases job with
    | none => exact ⟨rfl, dormant⟩
    | some job =>
      change (access .load >>= _).Meets _ _ _ _ _
      rw [Prog.meets_call_bind]
      rintro _ t ⟨rfl, quiet⟩
      refine ⟨trivial, ?_⟩
      rw [if_pos inactive]
      exact ⟨rfl, .inr (quiet.active.trans inactive)⟩

theorem shutdown_dormant {null : Bool} {s : Memory} (dormant : Dormant null s) :
    (cartWorkerPoolShutdown null).Meets poolEnv (fun e => Harmless e.call)
      (fun _ t => Dormant null t) (fun _ _ => False) s := by
  cases null with
  | true => exact dormant
  | false =>
    have inactive : s.active = 0 := dormant.resolve_left Bool.false_ne_true
    change (access .load >>= _).Meets _ _ _ _ _
    rw [Prog.meets_call_bind]
    rintro _ t ⟨rfl, quiet⟩
    refine ⟨trivial, ?_⟩
    rw [if_pos inactive]
    exact .inr (quiet.active.trans inactive)

/-- A use of a dormant pool is refused, and leaves it dormant. -/
theorem perform_dormant {null : Bool} {s : Memory} (dormant : Dormant null s) (use : PoolUse) :
    (use.perform null).Meets poolEnv (fun e => Harmless e.call)
      (fun returned t => (∀ result, returned = some result → result = -1) ∧ Dormant null t)
      (fun _ _ => False) s := by
  cases use with
  | dispatch job slots generation =>
    refine (dispatch_dormant dormant job slots generation).seq fun result t ended => ?_
    exact ⟨fun _ returned => (Option.some.inj returned).symm.trans ended.1, ended.2⟩
  | shutdown =>
    refine (shutdown_dormant dormant).seq fun _ t still => ?_
    exact ⟨fun _ returned => (by cases returned), still⟩

/-- A dormant pool is safe. -/
theorem Dormant.safe {null : Bool} {s : Memory} (dormant : Dormant null s) : Safe null s := by
  intro uses
  induction uses generalizing s with
  | nil => exact fun result member => absurd member List.not_mem_nil
  | cons use uses ih =>
    rw [List.mapM_cons]
    refine (perform_dormant dormant use).seq fun returned t still => ?_
    refine (ih still.2).seq fun results u rest => ?_
    intro result member
    obtain here | later := List.mem_cons.mp member
    · exact still.1 result here.symm
    · exact rest result later

/-- An active pool is not: it runs a job, or waits for its workers. -/
theorem not_safe_of_active {s : Memory} (active : s.active ≠ 0) : ¬ Safe false s := by
  intro safe
  have used := safe [.dispatch (some 1) (some fun _ => 0) 0]
  rw [List.mapM_cons, Prog.meets_bind, PoolUse.perform, Prog.meets_bind] at used
  change (access .load >>= _).Meets _ _ _ _ _ at used
  rw [Prog.meets_call_bind] at used
  have dispatched := (used s s ⟨rfl, rfl⟩).2
  simp only [if_neg active] at dispatched
  by_cases inline : s.workerCount = 0
  · rw [if_pos inline, Prog.meets_call_bind] at dispatched
    exact (dispatched () s rfl).1
  · simp only [if_neg inline, Prog.meets_call_bind] at dispatched
    obtain ⟨_, job⟩ := dispatched () _ (store_alone _ _)
    obtain ⟨_, slots⟩ := job () _ (store_alone _ _)
    obtain ⟨_, generation⟩ := slots () _ (store_alone _ _)
    have waits (u : Memory) : poolEnv u .startBarrierWait () u := rfl
    exact (generation () _ (waits _)).1

/-- After a failed init the pool is safe, unless the arguments were refused and the object was
already active. -/
theorem failed_init_safe_iff {null : Bool} {workerCount rows : Int} {rounds : Nat}
    {s t : Memory} {events : List (Event Memory PoolCall PoolCall.Reply)}
    (failed : Prog.Exec poolEnv (cartWorkerPoolInit null workerCount rows rounds) s events
      (.done (-1)) t) :
    Safe null t ↔ null = true ∨ ¬ Refused null workerCount rows ∨ s.active = 0 := by
  by_cases refused : Refused null workerCount rows
  · rw [cartWorkerPoolInit, if_pos refused] at failed
    cases failed with
    | here =>
      constructor
      · intro safe
        cases null with
        | true => exact .inl rfl
        | false => exact .inr (.inr (by_contra fun active => not_safe_of_active active safe))
      · rintro (none | accepted | inactive)
        · exact Dormant.safe (.inl none)
        · exact absurd refused accepted
        · exact Dormant.safe (.inr inactive)
  · have inactive := ((init_inactive null rounds s refused).exec failed).2 rfl
    exact ⟨fun _ => .inr (.inl refused), fun _ => Dormant.safe (.inr inactive)⟩

/-- An object as it may lie on the stack. -/
def uninitialised : Memory := { Memory.zero with active := 1, workerCount := 2 }

theorem failed_mutex_safe : ∃ events t,
    Prog.Exec poolEnv (cartWorkerPoolInit false 2 180 0) uninitialised events (.done (-1)) t ∧
      Safe false t := by
  have mutex (u : Memory) : poolEnv u .mutexInit (-1 : Int) u := rfl
  have failed : Prog.Exec poolEnv (cartWorkerPoolInit false 2 180 0) uninitialised _
      (.done (-1)) { Memory.zero with workerCount := 2, rows := 180 } :=
    .step (store_alone _ _) (.step (store_alone _ _) (.step (store_alone _ _)
      (.step (mutex _) (.here _ _))))
  exact ⟨_, _, failed, (failed_init_safe_iff failed).mpr (.inr (.inl (by decide)))⟩

/-- Nine workers are refused without touching the object. -/
theorem refused_init_unsafe :
    ¬ ∀ (null : Bool) (workerCount rows : Int) (rounds : Nat) (s t : Memory)
      (events : List (Event Memory PoolCall PoolCall.Reply)),
      Prog.Exec poolEnv (cartWorkerPoolInit null workerCount rows rounds) s events (.done (-1)) t →
        Safe null t := by
  intro all
  have safe := all false 9 4 0 uninitialised uninitialised [] (.here _ _)
  exact not_safe_of_active (by decide) safe

end VitaLinux.Cart.PoolFailure
