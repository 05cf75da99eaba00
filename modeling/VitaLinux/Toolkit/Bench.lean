import VitaLinux.Base.Machine
import VitaLinux.Base.XorSum

/-!
# toolkit/share/vita-bench.c

The workers share nothing but the gate at which they start, and are joined before their
checksums are read, so a run is what each of them leaves in its own arguments. Locking is
taken to succeed. A result of `none` is undefined behaviour.
-/

namespace VitaLinux.Toolkit.Bench

open VitaLinux.Base

variable {abi : Abi}

/-- `enum { WORK_COMPUTE, WORK_MEMCPY, WORK_MEMSET }` -/
inductive Kind where
  | compute
  | memcpy
  | memset
  deriving DecidableEq, Repr

/-- What a worker finds: whether its thread is created, `(uintptr_t)args`, and whether its two
calls of malloc succeed. -/
structure Worker (abi : Abi) where
  created : Bool
  args : SizeT abi
  source : Bool
  destination : Bool
  deriving DecidableEq, Repr

/-- The allocation of this worker fails; `WORK_COMPUTE` allocates nothing. -/
def Worker.failed (kind : Kind) (worker : Worker abi) : Bool :=
  kind ≠ .compute && (!worker.source || !worker.destination)

def computeTurn (value : U32) (index : Nat) : U32 :=
  let value := value ^^^ (value >>> 13)
  let value := value ^^^ (value <<< 17)
  let value := value ^^^ (value >>> 5)
  value * 1664525 + 1013904223 + BitVec.ofNat 32 index

def computeWork (rounds : U32) (args : SizeT abi) : U64 :=
  let value : U32 := 0x9e3779b9 ^^^ args.setWidth 32
  let operations := rounds * 1000000
  ((List.range operations.toNat).foldl computeTurn value).setWidth 64

/-- memset over the first `bytes` bytes. -/
def memset (memory : Nat → UInt8) (value : UInt8) (bytes : Nat) : Nat → UInt8 := fun i =>
  if i < bytes then value else memory i

def memcpy (destination source : Nat → UInt8) (bytes : Nat) : Nat → UInt8 := fun i =>
  if i < bytes then source i else destination i

/-- A byte in an expression of type `uint64_t` -/
def promote (byte : UInt8) : U64 := byte.toBitVec.setWidth 64

/-- One turn of the loop of the memory kinds, over the destination and the checksum. -/
def memoryTurn (kind : Kind) (bytes : SizeT abi) (source : Nat → UInt8)
    (state : (Nat → UInt8) × U64) (round : Nat) : (Nat → UInt8) × U64 :=
  let destination :=
    if kind = .memcpy then memcpy state.1 source bytes.toNat
    else memset state.1 (UInt8.ofNat (round &&& 0xff)) bytes.toNat
  let sample := (BitVec.ofNat 32 round * 4099#32).setWidth abi.sizeBits % bytes
  (destination, (state.2 ^^^ promote (destination sample.toNat)) +
    promote (destination (bytes - 1).toNat))

/-- The bytes of an empty buffer cannot be read. -/
def memoryWork (kind : Kind) (rounds : U32) (bytes args : SizeT abi) : Option U64 :=
  if bytes = 0 then none
  else
    let source := memset (fun _ => 0) (UInt8.ofBitVec ((args &&& 0xff).setWidth 8)) bytes.toNat
    let destination := memset (fun _ => 0) 0 bytes.toNat
    let (destination, checksum) :=
      (List.range rounds.toNat).foldl (memoryTurn kind bytes source) (destination, 0)
    some (checksum ^^^ promote (destination 0))

/-- What a worker computes once it has what it needs. -/
def work (kind : Kind) (rounds : U32) (bytes : SizeT abi) (worker : Worker abi) : Option U64 :=
  if kind = .compute then some (computeWork rounds worker.args)
  else memoryWork kind rounds bytes worker.args

/-- `worker_main`: the checksum it leaves, given the one it computes. -/
def workerMain (kind : Kind) (checksum : Worker abi → Option U64) (worker : Worker abi) :
    Option U64 :=
  if worker.failed kind then some UINT64_MAX else checksum worker

/-- What `run_memory` returns, and `*checksum` where it gets that far. -/
structure Report where
  status : Int
  checksum : Option U64
  deriving DecidableEq, Repr

/-- `run_memory`, given whether the gate can be made and what the workers compute. -/
def runMemory (gate : Bool) (kind : Kind) (checksum : Worker abi → Option U64)
    (workers : List (Worker abi)) : Option Report :=
  if !gate then some ⟨-1, none⟩
  else if workers.any fun worker => !worker.created then some ⟨-1, none⟩
  else do
    let stored ← workers.mapM (workerMain kind checksum)
    let sum := xorAll stored
    some ⟨if sum = UINT64_MAX then -1 else 0, some sum⟩

/-- The XOR of the checksums shows whether there was a failure: with none it is not the
sentinel, and with some it is what the sentinels leave of themselves. -/
def Shows (failures : Nat) (sum : U64) : Prop :=
  if failures = 0 then sum ≠ UINT64_MAX else sum = if failures % 2 = 1 then 0 else UINT64_MAX

theorem shows_iff (failures : Nat) (sum : U64) :
    Shows failures sum ↔ (sum ^^^ marks 64 failures = UINT64_MAX ↔ 0 < failures) := by
  have mark : sum ^^^ marks 64 failures = UINT64_MAX ↔ sum = marks 64 (failures + 1) :=
    xor_marks_eq_iff
  rw [mark, Shows]
  split
  · rename_i none
    subst none
    simp [marks, UINT64_MAX]
  · rename_i some
    have positive : 0 < failures := Nat.pos_of_ne_zero some
    simp only [positive, iff_true]
    unfold marks
    obtain even | odd := Nat.mod_two_eq_zero_or_one failures
    · simp [even, show (failures + 1) % 2 = 1 by omega, UINT64_MAX]
    · simp [odd, show (failures + 1) % 2 = 0 by omega]

variable {kind : Kind} {checksum : Worker abi → Option U64} {workers : List (Worker abi)}

/-- The XOR of the checksums of the workers that had their memory. -/
def survivors (kind : Kind) (checksum : Worker abi → Option U64) (workers : List (Worker abi)) :
    Option U64 :=
  ((workers.filter fun worker => !worker.failed kind).mapM checksum).map xorAll

def failures (kind : Kind) (workers : List (Worker abi)) : Nat := workers.countP (Worker.failed kind)

/-- The sum over all workers is that over the survivors, and a mark for every failure. -/
theorem stored_sum (kind : Kind) (checksum : Worker abi → Option U64)
    (workers : List (Worker abi)) :
    (workers.mapM (workerMain kind checksum)).map xorAll =
      (survivors kind checksum workers).map fun sum =>
        sum ^^^ marks 64 (failures kind workers) := by
  unfold survivors failures
  induction workers with
  | nil => simp [marks]
  | cons worker workers ih =>
    rw [xorAll_mapM_cons, ih]
    cases failed : worker.failed kind with
    | true =>
      rw [workerMain, if_pos failed, List.filter_cons_of_neg (by simp [failed]),
        List.countP_cons_of_pos failed, marks_succ]
      cases (workers.filter fun worker => !worker.failed kind).mapM checksum with
      | none => rfl
      | some sums =>
        change some (UINT64_MAX ^^^ (xorAll sums ^^^ marks 64 _)) = some _
        rw [← BitVec.xor_assoc, BitVec.xor_comm UINT64_MAX, BitVec.xor_assoc]
        rfl
    | false =>
      rw [workerMain, if_neg (by simp [failed]), List.filter_cons_of_pos (by simp [failed]),
        List.countP_cons_of_neg (by simp [failed]), xorAll_mapM_cons]
      cases checksum worker with
      | none => rfl
      | some own =>
        cases (workers.filter fun worker => !worker.failed kind).mapM checksum with
        | none => rfl
        | some sums => exact congrArg some (BitVec.xor_assoc ..).symm

/-- `run_memory` ends, and returns nonzero exactly where the allocation of a worker failed. -/
def Reports (kind : Kind) (workers : List (Worker abi)) (result : Option Report) : Prop :=
  ∃ report, result = some report ∧
    (report.status ≠ 0 ↔ ∃ worker ∈ workers, worker.failed kind = true)

theorem failures_pos : 0 < failures kind workers ↔ ∃ worker ∈ workers, worker.failed kind = true :=
  List.countP_pos_iff

theorem runMemory_eq (created : ∀ worker ∈ workers, worker.created = true) :
    runMemory true kind checksum workers = (survivors kind checksum workers).map fun sum =>
      ⟨if sum ^^^ marks 64 (failures kind workers) = UINT64_MAX then -1 else 0,
        some (sum ^^^ marks 64 (failures kind workers))⟩ := by
  have all : (workers.any fun worker => !worker.created) = false := by simpa using created
  have sum := congrArg (Option.map fun sum : U64 =>
    (⟨if sum = UINT64_MAX then -1 else 0, some sum⟩ : Report)) (stored_sum kind checksum workers)
  simp only [Option.map_map, Function.comp_def] at sum
  rw [← sum, runMemory, all]
  cases workers.mapM (workerMain kind checksum) <;> rfl

theorem reports_map_iff {sums : Option U64} :
    Reports kind workers (sums.map fun sum =>
      ⟨if sum ^^^ marks 64 (failures kind workers) = UINT64_MAX then -1 else 0,
        some (sum ^^^ marks 64 (failures kind workers))⟩) ↔
      ∃ sum, sums = some sum ∧ Shows (failures kind workers) sum := by
  constructor
  · rintro ⟨report, result, told⟩
    obtain ⟨sum, found, rfl⟩ := Option.map_eq_some_iff.mp result
    refine ⟨sum, found, (shows_iff ..).mpr ?_⟩
    rw [failures_pos, ← told]
    split <;> simp_all
  · rintro ⟨sum, found, shows⟩
    refine ⟨_, congrArg (Option.map _) found, ?_⟩
    rw [← failures_pos, ← (shows_iff ..).mp shows]
    dsimp only
    split <;> simp_all

theorem runMemory_reports_iff (kind : Kind) (checksum : Worker abi → Option U64)
    (workers : List (Worker abi)) (created : ∀ worker ∈ workers, worker.created = true) :
    Reports kind workers (runMemory true kind checksum workers) ↔
      ∃ sum, survivors kind checksum workers = some sum ∧ Shows (failures kind workers) sum := by
  rw [runMemory_eq created]
  exact reports_map_iff

section OwnWork

theorem promote_lt (byte : UInt8) : (promote byte).toNat < 2 ^ 8 := by
  rw [promote, BitVec.toNat_setWidth]
  exact Nat.lt_of_le_of_lt (Nat.mod_le ..) byte.toBitVec.isLt

/-- A turn adds two bytes to the checksum at most. -/
theorem memoryTurn_le (kind : Kind) (bytes : SizeT abi) (source : Nat → UInt8)
    (state : (Nat → UInt8) × U64) (round : Nat) :
    (memoryTurn kind bytes source state round).2.toNat ≤ state.2.toNat + 510 := by
  unfold memoryTurn
  generalize (if kind = .memcpy then memcpy state.1 source bytes.toNat
    else memset state.1 (UInt8.ofNat (round &&& 0xff)) bytes.toNat) = destination
  dsimp only
  have last : (promote (destination (bytes - 1).toNat)).toNat ≤ 255 :=
    Nat.le_of_lt_succ (promote_lt _)
  rw [BitVec.toNat_add, BitVec.toNat_xor]
  refine Nat.le_trans (Nat.mod_le ..) ?_
  refine Nat.le_trans (Nat.add_le_add (xor_byte_le (promote_lt _)) last) ?_
  omega

theorem memoryLoop_le (kind : Kind) (bytes : SizeT abi) (source : Nat → UInt8)
    (rounds : List Nat) (state : (Nat → UInt8) × U64) :
    (rounds.foldl (memoryTurn kind bytes source) state).2.toNat ≤
      state.2.toNat + 510 * rounds.length := by
  induction rounds generalizing state with
  | nil => simp
  | cons round rounds ih =>
    have turn := memoryTurn_le kind bytes source state round
    have rest := ih (memoryTurn kind bytes source state round)
    rw [List.foldl_cons, List.length_cons]
    omega

/-- The checksums of the program are far from the sentinel. -/
theorem work_lt {rounds : U32} {bytes : SizeT abi} (worker : Worker abi) (sum : U64)
    (computed : work kind rounds bytes worker = some sum) : sum.toNat < 2 ^ 42 := by
  unfold work at computed
  split at computed
  · obtain rfl := Option.some.inj computed
    rw [computeWork, BitVec.toNat_setWidth]
    exact Nat.lt_trans (Nat.lt_of_le_of_lt (Nat.mod_le ..) (BitVec.isLt _)) (by decide)
  · unfold memoryWork at computed
    split at computed
    · cases computed
    obtain rfl := Option.some.inj computed
    have loop := memoryLoop_le kind bytes
      (memset (fun _ => 0) (UInt8.ofBitVec ((worker.args &&& 0xff).setWidth 8)) bytes.toNat)
      (List.range rounds.toNat) (memset (fun _ => 0) 0 bytes.toNat, 0)
    have count := rounds.isLt
    have start : (0 : U64).toNat = 0 := rfl
    rw [List.length_range, start] at loop
    rw [BitVec.toNat_xor]
    refine Nat.lt_of_le_of_lt (xor_byte_le (promote_lt _)) ?_
    omega

/-- With the checksums that the program computes, failures are reported exactly where there
is none, or an odd number and the other checksums cancel. -/
theorem own_reports_iff (kind : Kind) (rounds : U32) (bytes : SizeT abi)
    (workers : List (Worker abi)) (created : ∀ worker ∈ workers, worker.created = true) :
    Reports kind workers (runMemory true kind (work kind rounds bytes) workers) ↔
      ∃ sum, survivors kind (work kind rounds bytes) workers = some sum ∧
        (failures kind workers = 0 ∨ failures kind workers % 2 = 1 ∧ sum = 0) := by
  rw [runMemory_eq created, reports_map_iff]
  refine exists_congr fun sum => and_congr_right fun found => ?_
  have small := xorAll_mapM_lt work_lt found
  have apart : sum ≠ UINT64_MAX := by
    rintro rfl
    exact absurd small (by decide)
  unfold Shows
  split
  · rename_i none
    simp [none, apart]
  · rename_i some
    by_cases odd : failures kind workers % 2 = 1
    · simp [some, odd]
    · simp [some, odd, apart]

/-- A worker whose first malloc fails. -/
def unserved (args : SizeT .ilp32) : Worker .ilp32 := ⟨true, args, false, true⟩

def served (args : SizeT .ilp32) : Worker .ilp32 := ⟨true, args, true, true⟩

/-- One failure beside a checksum of 0. -/
theorem lone_failure_reported :
    Reports .memcpy [unserved 0, served 256]
      (runMemory true .memcpy (work .memcpy 2 8) [unserved 0, served 256]) :=
  (runMemory_reports_iff .memcpy (work .memcpy 2 8) [unserved 0, served 256] (by decide)).mpr
    ⟨0, by decide, by unfold Shows; decide⟩

/-- Two failures cancel. -/
theorem two_failures_unreported :
    ¬Reports .memset [unserved 0, unserved 32]
      (runMemory true .memset (work .memset 2 8388608) [unserved 0, unserved 32]) := by
  rintro ⟨report, result, told⟩
  obtain rfl : ⟨0, some 0⟩ = report := Option.some.inj result
  exact absurd (told.mpr ⟨_, List.mem_cons_self, rfl⟩) (by decide)

end OwnWork

end VitaLinux.Toolkit.Bench
