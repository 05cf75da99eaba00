import Mathlib.Algebra.GroupWithZero.Nat
import Mathlib.Data.List.Basic
import VitaLinux.Toolkit.Dashboard.FbOwner

/-!
# Framebuffer ownership over whole runs

The console's bind file is written only as far as the owner's own record allows,
and a release that reports success leaves it as the first acquire found it.
-/

namespace VitaLinux.Toolkit.Dashboard

variable {abi : Abi}

/-- A successful probe that read the console as bound. -/
def Entry.ReadsBound (entry : Entry abi) : Prop :=
  ∃ io, entry.call = .probe io ∧ entry.outcome.status = some 0 ∧
    io.bindOpens ∧ io.bindScans ∧ entry.before.bindFile = some true

def Entry.Acquires (entry : Entry abi) : Prop :=
  ∃ io, entry.call = .acquire io ∧ entry.outcome.status = some 0

def Entry.Releases (entry : Entry abi) : Prop :=
  ∃ io, entry.call = .release io ∧ entry.outcome.status = some 0

/-- A successful acquire that unbound the console. -/
def Entry.Unbinds (entry : Entry abi) : Prop :=
  entry.Acquires ∧ .bind false ∈ entry.outcome.effects

/-- There is a successful acquire with no successful release after it. -/
def Owning (past : List (Entry abi)) : Prop :=
  ∃ before acquisition after, past = before ++ acquisition :: after ∧
    acquisition.Acquires ∧ ∀ entry ∈ after, ¬ entry.Releases

theorem Owning.acquired {past : List (Entry abi)} {entry : Entry abi} (h : entry.Acquires) :
    Owning (past ++ [entry]) :=
  ⟨past, entry, [], rfl, h, by simp⟩

theorem Owning.append {past : List (Entry abi)} {entry : Entry abi} (owning : Owning past)
    (h : ¬ entry.Releases) : Owning (past ++ [entry]) := by
  obtain ⟨before, acquisition, after, rfl, acquires, quiet⟩ := owning
  refine ⟨before, acquisition, after ++ [entry], by simp, acquires, ?_⟩
  intro later mem
  rcases List.mem_append.mp mem with mem | mem
  · exact quiet later mem
  · rw [List.mem_singleton.mp mem]
    exact h

/-- What the owner's record says about the run that led to it. -/
structure Traced (bind0 : Option Bool) (past : List (Entry abi)) (session : Session abi) :
    Prop where
  bound : session.owner.fbconWasBound = 1 →
    bind0 = some true ∧ ∃ entry ∈ past, entry.ReadsBound
  unbound : session.owner.fbconUnboundByUs = true → ∃ entry ∈ past, entry.Unbinds
  kept : session.owner.fbconUnboundByUs = false → session.bindFile = bind0
  taken : session.owner.fbconUnboundByUs = true → bind0 = some true
  owning : session.owner.state = .owned → Owning past
  /-- Only a live or failed owner can owe the console a rebind. -/
  owes : session.owner.fbconUnboundByUs = true →
    session.owner.state = .owned ∨ session.owner.state = .failed

theorem Traced.start (abi : Abi) (bind0 : Option Bool) :
    Traced bind0 [] (⟨FbOwner.init abi, bind0⟩ : Session abi) := by
  constructor <;> simp [FbOwner.init]

/-- Only an owner that holds or lost the framebuffer may have unbound the console. -/
theorem Traced.clear {bind0 : Option Bool} {past : List (Entry abi)} {session : Session abi}
    (h : Traced bind0 past session) (owned : session.owner.state ≠ .owned)
    (failed : session.owner.state ≠ .failed) : session.owner.fbconUnboundByUs = false := by
  apply Bool.eq_false_iff.mpr
  intro ours
  cases h.owes ours with
  | inl state => exact owned state
  | inr state => exact failed state

theorem Traced.bound_append {bind0 : Option Bool} {past : List (Entry abi)}
    {session : Session abi} (h : Traced bind0 past session) (entry : Entry abi)
    (one : session.owner.fbconWasBound = 1) :
    bind0 = some true ∧ ∃ earlier ∈ past ++ [entry], earlier.ReadsBound := by
  obtain ⟨was, earlier, mem, reads⟩ := h.bound one
  exact ⟨was, earlier, List.mem_append_left _ mem, reads⟩

/-- A call that leaves the record, the bind file and no new ownership behind. -/
theorem Traced.still {bind0 : Option Bool} {past : List (Entry abi)} {entry : Entry abi}
    {session' : Session abi} (h : Traced bind0 past entry.before)
    (wasBound : session'.owner.fbconWasBound = entry.before.owner.fbconWasBound)
    (unboundByUs : session'.owner.fbconUnboundByUs = entry.before.owner.fbconUnboundByUs)
    (bindFile : session'.bindFile = entry.before.bindFile)
    (notRelease : ¬ entry.Releases)
    (state : session'.owner.state = entry.before.owner.state ∨ session'.owner.state = .failed) :
    Traced bind0 (past ++ [entry]) session' where
  bound := by
    intro one
    exact h.bound_append entry (wasBound ▸ one)
  unbound := by
    intro ours
    obtain ⟨earlier, mem, unbinds⟩ := h.unbound (unboundByUs ▸ ours)
    exact ⟨earlier, List.mem_append_left _ mem, unbinds⟩
  kept := by
    intro ours
    rw [bindFile]
    exact h.kept (unboundByUs ▸ ours)
  taken := by
    intro ours
    exact h.taken (unboundByUs ▸ ours)
  owning := by
    intro owned
    rcases state with same | failed
    · exact (h.owning (same ▸ owned)).append notRelease
    · rw [failed] at owned
      cases owned
  owes := by
    intro ours
    rcases state with same | failed
    · rw [same]
      exact h.owes (unboundByUs ▸ ours)
    · exact Or.inr failed

/-! ## What each call does -/

/-- A probe fails for good, or it records what the bind file says. -/
theorem FbOwner.probe_cases (owner : FbOwner abi) (io : ProbeIo) (bindFile : Option Bool) :
    ((owner.probe io bindFile).2 = -1 ∧ (owner.probe io bindFile).1.state = .failed ∧
      (owner.probe io bindFile).1.fbconWasBound = owner.fbconWasBound ∧
      (owner.probe io bindFile).1.fbconUnboundByUs = owner.fbconUnboundByUs) ∨
    (owner.state = .idle ∧ (owner.probe io bindFile).2 = 0 ∧
      (owner.probe io bindFile).1.state = .probed ∧
      (owner.probe io bindFile).1.fbconWasBound = io.wasBound bindFile ∧
      (owner.probe io bindFile).1.fbconUnboundByUs = owner.fbconUnboundByUs) := by
  simp only [FbOwner.probe]
  split
  case isTrue => simp [FbOwner.setError]
  case isFalse idle =>
    cases io.size with
    | none => simp [FbOwner.setError]
    | some size =>
      cases io.bpp with
      | none => simp [FbOwner.setError]
      | some bpp =>
        dsimp only
        split
        · simp [FbOwner.setError]
        · split
          · simp [FbOwner.setError]
          · split
            · simp [FbOwner.setError]
            · split
              · simp [FbOwner.setError]
              · exact Or.inr ⟨not_not.mp idle, rfl, rfl, rfl, rfl⟩

theorem ProbeIo.reads_bound {io : ProbeIo} {bindFile : Option Bool}
    (h : io.wasBound bindFile = 1) :
    io.bindOpens ∧ io.bindScans ∧ bindFile = some true := by
  cases bindFile with
  | none => simp [ProbeIo.wasBound] at h
  | some value =>
    simp only [ProbeIo.wasBound] at h
    split at h
    case isTrue all => simpa using all
    case isFalse => cases h

theorem Traced.probe {bind0 : Option Bool} {past : List (Entry abi)} {session : Session abi}
    (h : Traced bind0 past session) (io : ProbeIo) :
    Traced bind0 (past ++ [⟨session, .probe io⟩]) (session.probe io).session := by
  have notRelease : ¬ (⟨session, .probe io⟩ : Entry abi).Releases := by
    rintro ⟨_, e, _⟩
    cases e
  rcases session.owner.probe_cases io session.bindFile with
    ⟨_, failed, wasBound, ours⟩ | ⟨idle, status, probed, wasBound, ours⟩
  · exact h.still wasBound ours rfl notRelease (Or.inr failed)
  · have clear : session.owner.fbconUnboundByUs = false :=
      h.clear (by simp [idle]) (by simp [idle])
    have same : (session.probe io).session.owner.fbconUnboundByUs = false := ours.trans clear
    constructor
    · intro one
      obtain ⟨opens, scans, bound⟩ := ProbeIo.reads_bound (wasBound ▸ one)
      refine ⟨(h.kept clear) ▸ bound, ⟨session, .probe io⟩, by simp, io, rfl, ?_,
        opens, scans, bound⟩
      exact congrArg some status
    · simp [same]
    · intro _
      exact h.kept clear
    · simp [same]
    · intro owned
      have state : (session.probe io).session.owner.state = .probed := probed
      rw [state] at owned
      cases owned
    · simp [same]

/-- A bind write that reports success is the only one with an effect. -/
theorem writeBind_cases (io : BindIo) (value : Bool) (bindFile : Option Bool) :
    writeBind io value bindFile = (bindFile, -1, []) ∨
      writeBind io value bindFile = (some value, 0, [.bind value]) := by
  simp only [writeBind]
  split
  · exact Or.inl rfl
  · split
    · exact Or.inl rfl
    · split
      · exact Or.inl rfl
      · exact Or.inr rfl

/-- The ways an acquire can go. -/
theorem Session.acquire_cases (session : Session abi) (io : BindIo) :
    ((session.acquire io).status = some (-1) ∧ (session.acquire io).effects = [] ∧
      ∃ message, (session.acquire io).session =
        { session with owner := session.owner.setError message }) ∨
    (session.owner.state = .probed ∧ session.owner.fbconWasBound = 1 ∧
      session.acquire io =
        { session :=
            { owner := { session.owner with fbconUnboundByUs := true, state := .owned }
              bindFile := some false }
          status := some 0, effects := [.bind false] }) ∨
    (session.owner.state = .probed ∧ session.owner.fbconWasBound ≠ 1 ∧
      session.acquire io =
        { session := { session with owner := { session.owner with state := .owned } }
          status := some 0, effects := [] }) := by
  simp only [Session.acquire]
  split
  · exact Or.inl ⟨rfl, rfl, _, rfl⟩
  case isFalse probed =>
    have probed := not_not.mp probed
    split
    case isTrue bound =>
      rcases writeBind_cases io false session.bindFile with e | e
      · simp only [e]
        exact Or.inl ⟨rfl, rfl, _, rfl⟩
      · simp only [e]
        exact Or.inr (Or.inl ⟨probed, bound, rfl⟩)
    case isFalse clear => exact Or.inr (Or.inr ⟨probed, clear, rfl⟩)

theorem Session.acquired_owner {session : Session abi} {io : BindIo}
    (acquired : (session.acquire io).status = some 0) :
    (session.acquire io).session.owner.state = .owned ∧
      (session.acquire io).session.owner.frameBytes = session.owner.frameBytes := by
  rcases session.acquire_cases io with ⟨failed, -, -⟩ | ⟨-, -, e⟩ | ⟨-, -, e⟩
  · rw [failed] at acquired
    cases acquired
  · rw [e]
    exact ⟨rfl, rfl⟩
  · rw [e]
    exact ⟨rfl, rfl⟩

theorem Traced.acquire {bind0 : Option Bool} {past : List (Entry abi)} {session : Session abi}
    (h : Traced bind0 past session) (io : BindIo) :
    Traced bind0 (past ++ [⟨session, .acquire io⟩]) (session.acquire io).session := by
  have notRelease : ¬ (⟨session, .acquire io⟩ : Entry abi).Releases := by
    rintro ⟨_, e, _⟩
    cases e
  rcases session.acquire_cases io with
    ⟨_, _, message, e⟩ | ⟨probed, bound, e⟩ | ⟨probed, notBound, e⟩
  · rw [e]
    exact h.still rfl rfl rfl notRelease (Or.inr rfl)
  · have acquires : (⟨session, .acquire io⟩ : Entry abi).Acquires :=
      ⟨io, rfl, congrArg Outcome.status e⟩
    have effects : (⟨session, .acquire io⟩ : Entry abi).outcome.effects = [.bind false] :=
      congrArg Outcome.effects e
    rw [e]
    constructor
    · intro _
      exact h.bound_append _ bound
    · intro _
      exact ⟨⟨session, .acquire io⟩, by simp, acquires, by simp [effects]⟩
    · intro ours
      cases ours
    · intro _
      exact (h.bound bound).1
    · intro _
      exact Owning.acquired acquires
    · intro _
      exact Or.inl rfl
  · have acquires : (⟨session, .acquire io⟩ : Entry abi).Acquires :=
      ⟨io, rfl, congrArg Outcome.status e⟩
    have clear : session.owner.fbconUnboundByUs = false :=
      h.clear (by simp [probed]) (by simp [probed])
    rw [e]
    constructor
    · intro one
      exact absurd one notBound
    · simp [clear]
    · intro _
      exact h.kept clear
    · simp [clear]
    · intro _
      exact Owning.acquired acquires
    · simp [clear]

/-- A frame write changes the error text, the state or the frame count only. -/
theorem Session.writeFrame_record (session : Session abi) (frame : Option (Nat → UInt8))
    (len : SizeT abi) (io : FrameIo) :
    (session.writeFrame frame len io).session.bindFile = session.bindFile ∧
    (session.writeFrame frame len io).session.owner.fbconWasBound =
      session.owner.fbconWasBound ∧
    (session.writeFrame frame len io).session.owner.fbconUnboundByUs =
      session.owner.fbconUnboundByUs ∧
    ((session.writeFrame frame len io).session.owner.state = session.owner.state ∨
      (session.writeFrame frame len io).session.owner.state = .failed) := by
  simp only [Session.writeFrame]
  split
  · simp [FbOwner.refuse]
  · cases frame with
    | none => simp [FbOwner.refuse]
    | some frame =>
      dsimp only
      split
      · simp [FbOwner.refuse]
      · split
        · simp [FbOwner.setError]
        · split
          · simp [FbOwner.setError]
          · generalize writeLoop frame len.toNat 0 io.writes = loop
            obtain ⟨ends, delivered⟩ := loop
            cases ends <;> simp [FbOwner.setError]

theorem Traced.writeFrame {bind0 : Option Bool} {past : List (Entry abi)}
    {session : Session abi} (h : Traced bind0 past session) (frame : Option (Nat → UInt8))
    (len : SizeT abi) (io : FrameIo) :
    Traced bind0 (past ++ [⟨session, .writeFrame frame len io⟩])
      (session.writeFrame frame len io).session := by
  obtain ⟨bindFile, wasBound, ours, state⟩ := session.writeFrame_record frame len io
  apply h.still wasBound ours bindFile _ state
  rintro ⟨_, e, _⟩
  cases e

/-- The ways a release can go. -/
theorem Session.release_cases (session : Session abi) (io : BindIo) :
    (session.owner.state = .released ∧
      session.release io = { session, status := some 0, effects := [] }) ∨
    (session.owner.fbconUnboundByUs = true ∧
      session.release io =
        { session :=
            { session with owner := { session.owner with error := "cannot rebind fbcon" } }
          status := some (-1), effects := [] }) ∨
    (session.owner.fbconUnboundByUs = true ∧
      session.release io =
        { session :=
            { owner := { session.owner with
                fbconUnboundByUs := false, fbconRestored := true, state := .released }
              bindFile := some true }
          status := some 0, effects := [.bind true] }) ∨
    (session.owner.fbconUnboundByUs = false ∧ ∃ restored,
      session.release io =
        { session := { session with
            owner := { session.owner with fbconRestored := restored, state := .released } }
          status := some 0, effects := [] }) := by
  simp only [Session.release]
  split
  case isTrue released => exact Or.inl ⟨released, rfl⟩
  case isFalse =>
    split
    case isTrue ours =>
      rcases writeBind_cases io true session.bindFile with e | e
      · simp only [e]
        exact Or.inr (Or.inl ⟨ours, rfl⟩)
      · simp only [e]
        exact Or.inr (Or.inr (Or.inl ⟨ours, rfl⟩))
    case isFalse ours =>
      have ours := Bool.eq_false_iff.mpr ours
      split
      · exact Or.inr (Or.inr (Or.inr ⟨ours, true, rfl⟩))
      · exact Or.inr (Or.inr (Or.inr ⟨ours, session.owner.fbconRestored, rfl⟩))

/-- After a release that reports success the bind file is as it was at first. -/
theorem Traced.restored {bind0 : Option Bool} {past : List (Entry abi)} {session : Session abi}
    (h : Traced bind0 past session) {io : BindIo} (ok : (session.release io).status = some 0) :
    (session.release io).session.bindFile = bind0 := by
  rcases session.release_cases io with
    ⟨released, e⟩ | ⟨ours, e⟩ | ⟨ours, e⟩ | ⟨clear, restored, e⟩
  · rw [e]
    exact h.kept (h.clear (by simp [released]) (by simp [released]))
  · rw [e] at ok
    cases ok
  · rw [e]
    exact (h.taken ours).symm
  · rw [e]
    exact h.kept clear

theorem Traced.release {bind0 : Option Bool} {past : List (Entry abi)} {session : Session abi}
    (h : Traced bind0 past session) (io : BindIo) :
    Traced bind0 (past ++ [⟨session, .release io⟩]) (session.release io).session := by
  have bound := h.bound_append ⟨session, .release io⟩
  rcases session.release_cases io with
    ⟨released, e⟩ | ⟨ours, e⟩ | ⟨ours, e⟩ | ⟨clear, restored, e⟩
  · have clear : session.owner.fbconUnboundByUs = false :=
      h.clear (by simp [released]) (by simp [released])
    rw [e]
    constructor
    · exact bound
    · simp [clear]
    · exact h.kept
    · simp [clear]
    · simp [released]
    · simp [clear]
  · have notRelease : ¬ (⟨session, .release io⟩ : Entry abi).Releases := by
      rintro ⟨_, _, ok⟩
      have status : (session.release io).status = some 0 := ok
      rw [e] at status
      cases status
    rw [e]
    exact h.still rfl rfl rfl notRelease (Or.inl rfl)
  · have kept := h.taken ours
    rw [e]
    constructor
    · exact bound
    · simp
    · simp [kept]
    · simp
    · simp
    · simp
  · rw [e]
    constructor
    · exact bound
    · simp [clear]
    · intro _
      exact h.kept clear
    · simp [clear]
    · simp
    · simp [clear]

/-! ## Runs -/

theorem Traced.call {bind0 : Option Bool} {past : List (Entry abi)} {session : Session abi}
    (h : Traced bind0 past session) (call : Call abi) :
    Traced bind0 (past ++ [⟨session, call⟩]) (session.call call).session := by
  cases call with
  | probe io => exact h.probe io
  | acquire io => exact h.acquire io
  | writeFrame frame len io => exact h.writeFrame frame len io
  | release io => exact h.release io

/-- Before every call of a run the record is true of the calls before it. -/
theorem Traced.history {bind0 : Option Bool} {past : List (Entry abi)} {session : Session abi}
    (h : Traced bind0 past session) {calls : List (Call abi)} {earlier later : List (Entry abi)}
    {entry : Entry abi} (split : history session calls = earlier ++ entry :: later) :
    Traced bind0 (past ++ earlier) entry.before := by
  induction calls generalizing past session earlier with
  | nil => simp [Dashboard.history] at split
  | cons call calls ih =>
    simp only [Dashboard.history] at split
    cases earlier with
    | nil =>
      obtain ⟨rfl, _⟩ := List.cons.inj split
      simpa using h
    | cons first rest =>
      obtain ⟨rfl, tail⟩ := List.cons.inj split
      cases returned : (session.call call).status with
      | none => simp [returned] at tail
      | some status =>
        simp only [returned, Option.isSome_some, if_true] at tail
        have traced := ih (h.call call) tail
        simpa using traced

/-! ## The short-write loop -/

theorem slice_append (frame : Nat → UInt8) (offset m n : Nat) :
    slice frame offset m ++ slice frame (offset + m) n = slice frame offset (m + n) := by
  simp only [slice, List.range_add, List.map_append, List.map_map, Function.comp_def,
    Nat.add_assoc]

theorem slice_length (frame : Nat → UInt8) (offset count : Nat) :
    (slice frame offset count).length = count := by
  simp [slice]

/-- What one return of write(2) brings out. -/
def WriteResult.count : WriteResult → Nat
  | .wrote count => count
  | .interrupted | .failed => 0

/-- The returns of write(2) bring out so many bytes: interruptions apart, none fails or is 0
before the counts make them up. -/
def Delivers (len : Nat) (results : List WriteResult) : Prop :=
  ∃ taken rest, results = taken ++ rest ∧
    (∀ result ∈ taken, result = .interrupted ∨ ∃ count, 0 < count ∧ result = .wrote count) ∧
    len ≤ (taken.map WriteResult.count).sum

theorem delivers_zero (results : List WriteResult) : Delivers 0 results :=
  ⟨[], results, rfl, by simp, Nat.zero_le _⟩

/-- While bytes are missing, the first return counts. -/
theorem delivers_cons {len : Nat} (missing : 0 < len) {result : WriteResult}
    {results : List WriteResult} :
    Delivers len (result :: results) ↔
      (result = .interrupted ∨ ∃ count, 0 < count ∧ result = .wrote count) ∧
        Delivers (len - result.count) results := by
  constructor
  · rintro ⟨taken, rest, split, good, enough⟩
    cases taken with
    | nil => exact absurd enough (Nat.not_le.mpr missing)
    | cons first taken =>
      obtain ⟨rfl, rfl⟩ := List.cons.inj split
      refine ⟨good _ List.mem_cons_self, taken, rest, rfl,
        fun result mem => good result (List.mem_cons_of_mem _ mem), ?_⟩
      rw [List.map_cons, List.sum_cons] at enough
      omega
  · rintro ⟨first, taken, rest, rfl, good, enough⟩
    refine ⟨result :: taken, rest, rfl, ?_, ?_⟩
    · intro other mem
      obtain rfl | mem := List.mem_cons.mp mem
      · exact first
      · exact good other mem
    · rw [List.map_cons, List.sum_cons]
      omega

/-- The loop delivers a run of the frame's bytes from where it stands, and
completes exactly when that run reaches the end. -/
theorem writeLoop_delivers (frame : Nat → UInt8) (len : Nat) (results : List WriteResult) :
    ∀ written, written ≤ len → ∃ count, count ≤ len - written ∧
      (writeLoop frame len written results).2 = slice frame written count ∧
      ((writeLoop frame len written results).1 = .complete ↔ count = len - written) := by
  induction results with
  | nil =>
    intro written le
    refine ⟨0, Nat.zero_le _, ?_, ?_⟩
    · simp only [writeLoop]
      split <;> rfl
    · simp only [writeLoop]
      split
      · simp
        omega
      · simp
        omega
  | cons result results ih =>
    intro written le
    simp only [writeLoop]
    split
    case isFalse =>
      refine ⟨0, Nat.zero_le _, rfl, ?_⟩
      simp
      omega
    case isTrue more =>
      cases result with
      | interrupted => exact ih written le
      | failed =>
        refine ⟨0, Nat.zero_le _, rfl, ?_⟩
        simp
        omega
      | wrote amount =>
        dsimp only
        split
        · refine ⟨0, Nat.zero_le _, rfl, ?_⟩
          simp
          omega
        · obtain ⟨count, fits, bytes, complete⟩ :=
            ih (written + min amount (len - written)) (by omega)
          refine ⟨min amount (len - written) + count, by omega, ?_, ?_⟩
          · rw [bytes, slice_append]
          · rw [complete]
            omega

/-- The loop completes exactly when the returns of write(2) bring out what is left. By
induction on the returns. -/
theorem writeLoop_complete_iff (frame : Nat → UInt8) (len : Nat) (results : List WriteResult) :
    ∀ written, written ≤ len → ((writeLoop frame len written results).1 = .complete ↔
      Delivers (len - written) results) := by
  induction results with
  | nil =>
    intro written le
    simp only [writeLoop]
    by_cases more : written < len
    · simp only [if_pos more, reduceCtorEq, false_iff]
      rintro ⟨taken, rest, split, -, enough⟩
      obtain ⟨rfl, -⟩ := List.append_eq_nil_iff.mp split.symm
      simp at enough
      omega
    · rw [if_neg more, Nat.sub_eq_zero_of_le (Nat.not_lt.mp more)]
      exact iff_of_true rfl (delivers_zero _)
  | cons result results ih =>
    intro written le
    simp only [writeLoop]
    by_cases more : written < len
    · rw [if_pos more, delivers_cons (by omega)]
      cases result with
      | interrupted => simpa [WriteResult.count] using ih written le
      | failed => simp
      | wrote amount =>
        dsimp only
        by_cases none : amount = 0
        · simp [none]
        · have chunk : min amount (len - written) ≠ 0 := by omega
          rw [if_neg chunk]
          refine (ih (written + min amount (len - written)) (by omega)).trans ?_
          have left : len - (written + min amount (len - written)) = len - written - amount := by
            omega
          simp [left, WriteResult.count, Nat.pos_of_ne_zero none]
    · rw [if_neg more, Nat.sub_eq_zero_of_le (Nat.not_lt.mp more)]
      exact iff_of_true rfl (delivers_zero _)

/-- The bytes that go out are the frame from its start on, and all of it exactly when the
returns of write(2) bring out its length. -/
theorem writeLoop_frame (frame : Nat → UInt8) (len : Nat) (results : List WriteResult) :
    ∃ count ≤ len, (writeLoop frame len 0 results).2 = slice frame 0 count ∧
      (count = len ↔ Delivers len results) := by
  obtain ⟨count, fits, bytes, complete⟩ := writeLoop_delivers frame len results 0 (Nat.zero_le _)
  exact ⟨count, fits, bytes,
    complete.symm.trans (writeLoop_complete_iff frame len results 0 (Nat.zero_le _))⟩

/-- The arguments or the state make `fb_owner_write_frame` decline before any I/O. -/
def Session.Refuses (session : Session abi) (frame : Option (Nat → UInt8)) (len : SizeT abi) :
    Prop :=
  session.owner.state ≠ .owned ∨ frame = none ∨ len ≠ session.owner.frameBytes

theorem Session.writeFrame_refused {session : Session abi} {frame : Option (Nat → UInt8)}
    {len : SizeT abi} (h : session.Refuses frame len) (io : FrameIo) :
    ∃ message, session.writeFrame frame len io =
      { session := { session with owner := { session.owner with error := message } }
        status := some (-1), effects := [] } := by
  simp only [Session.writeFrame]
  split
  · exact ⟨_, rfl⟩
  case isFalse owned =>
    cases frame with
    | none => exact ⟨_, rfl⟩
    | some frame =>
      dsimp only
      split
      · exact ⟨_, rfl⟩
      case isFalse size =>
        rcases h with state | null | length
        · exact absurd state owned
        · cases null
        · exact absurd length size

/-- Past the open and the seek, what the write loop delivers decides the result. -/
theorem Session.writeFrame_delivers {session : Session abi} {frame : Nat → UInt8}
    {len : SizeT abi} {io : FrameIo} (accepted : ¬ session.Refuses (some frame) len)
    (opens : io.opens = true) (seeks : io.seeks = true) :
    (session.writeFrame (some frame) len io).effects =
        [.frame (writeLoop frame len.toNat 0 io.writes).2] ∧
      ((session.writeFrame (some frame) len io).status = some 0 ↔
        (writeLoop frame len.toNat 0 io.writes).1 = .complete) := by
  simp only [Session.Refuses, not_or, not_not] at accepted
  obtain ⟨owned, _, size⟩ := accepted
  simp only [Session.writeFrame, owned, size, opens, seeks, ne_eq, not_true_eq_false, if_false,
    Bool.not_true, Bool.false_eq_true]
  generalize writeLoop frame session.owner.frameBytes.toNat 0 io.writes = loop
  obtain ⟨ends, delivered⟩ := loop
  cases ends <;> simp

/-- A frame write that reports success wrote the whole frame, and counted it. -/
theorem Session.writeFrame_written {session : Session abi} {frame : Option (Nat → UInt8)}
    {len : SizeT abi} {io : FrameIo}
    (written : (session.writeFrame frame len io).status = some 0) :
    ∃ shadow, frame = some shadow ∧
      (session.writeFrame frame len io).session =
        { session with
          owner := { session.owner with framesWritten := session.owner.framesWritten + 1 } } ∧
      (session.writeFrame frame len io).effects = [.frame (slice shadow 0 len.toNat)] := by
  simp only [Session.writeFrame] at written ⊢
  split at written
  · cases written
  rename_i owned
  rw [if_neg owned]
  cases frame with
  | none => cases written
  | some frame =>
    dsimp only at written ⊢
    split at written
    · cases written
    rename_i size
    rw [if_neg size]
    split at written
    · cases written
    rename_i opens
    rw [if_neg opens]
    split at written
    · cases written
    rename_i seeks
    rw [if_neg seeks]
    obtain ⟨count, -, bytes, complete⟩ :=
      writeLoop_delivers frame len.toNat io.writes 0 (Nat.zero_le _)
    generalize writeLoop frame len.toNat 0 io.writes = loop at written bytes complete
    obtain ⟨ends, delivered⟩ := loop
    cases ends with
    | complete =>
      obtain rfl : count = len.toNat := complete.mp rfl
      obtain rfl : delivered = _ := bytes
      exact ⟨frame, rfl, rfl, rfl⟩
    | failed | short | pending => cases written

/-- Only an owner's frame write touches the framebuffer, and never the bind file. -/
theorem Session.writeFrame_effects (session : Session abi) (frame : Option (Nat → UInt8))
    (len : SizeT abi) (io : FrameIo) :
    (session.writeFrame frame len io).effects = [] ∨
      session.owner.state = .owned ∧
        ∃ bytes, (session.writeFrame frame len io).effects = [.frame bytes] := by
  simp only [Session.writeFrame]
  split
  · exact Or.inl rfl
  case isFalse owned =>
    cases frame with
    | none => exact Or.inl rfl
    | some frame =>
      dsimp only
      split
      · exact Or.inl rfl
      · split
        · exact Or.inl rfl
        · split
          · exact Or.inl rfl
          · generalize writeLoop frame len.toNat 0 io.writes = loop
            obtain ⟨ends, delivered⟩ := loop
            cases ends <;> exact Or.inr ⟨not_not.mp owned, _, rfl⟩

/-! ## The protocol -/

/-- What the ownership protocol promises of one call of a run that began with
the bind file at `bind0`. -/
structure Entry.Proper (bind0 : Option Bool) (earlier : List (Entry abi)) (entry : Entry abi) :
    Prop where
  unbind : .bind false ∈ entry.outcome.effects → ∃ probe ∈ earlier, probe.ReadsBound
  rebind : .bind true ∈ entry.outcome.effects →
    (∃ io, entry.call = .release io) ∧ ∃ acquisition ∈ earlier, acquisition.Unbinds
  /-- Until the first acquire the bind file is as the run found it. -/
  untouched : (∀ past ∈ earlier, ∀ io, past.call ≠ .acquire io) → entry.before.bindFile = bind0
  restored : entry.Releases → entry.outcome.session.bindFile = bind0
  framebuffer : ∀ bytes, .frame bytes ∈ entry.outcome.effects → Owning earlier
  refused : ∀ frame len io, entry.call = .writeFrame frame len io →
    entry.before.Refuses frame len → ∃ message, entry.outcome =
      { session := { entry.before with owner := { entry.before.owner with error := message } }
        status := some (-1), effects := [] }
  /-- Past the open and the seek, the returns of write(2) alone decide the status. The bytes
  that go out are the frame from its start on, and all of it exactly when the status is 0. -/
  delivered : ∀ frame len io, entry.call = .writeFrame (some frame) len io →
    ¬ entry.before.Refuses (some frame) len → io.opens = true → io.seeks = true →
    (entry.outcome.status = some 0 ↔ Delivers len.toNat io.writes) ∧
      ∃ count ≤ len.toNat, entry.outcome.effects = [.frame (slice frame 0 count)] ∧
        (entry.outcome.status = some 0 ↔ count = len.toNat)

/-- Each effect has one call that causes it, in one state of the record. -/
theorem Entry.effect_cases {entry : Entry abi} {effect : Effect}
    (h : effect ∈ entry.outcome.effects) :
    (effect = .bind false ∧ entry.before.owner.fbconWasBound = 1) ∨
    (effect = .bind true ∧ (∃ io, entry.call = .release io) ∧
      entry.before.owner.fbconUnboundByUs = true) ∨
    (entry.before.owner.state = .owned ∧ ∃ bytes, effect = .frame bytes) := by
  obtain ⟨session, call⟩ := entry
  cases call with
  | probe io => cases h
  | acquire io =>
    have h : effect ∈ (session.acquire io).effects := h
    rcases session.acquire_cases io with ⟨_, none, _⟩ | ⟨_, bound, e⟩ | ⟨_, _, e⟩
    · simp [none] at h
    · rw [e] at h
      exact Or.inl ⟨List.mem_singleton.mp h, bound⟩
    · simp [e] at h
  | writeFrame frame len io =>
    have h : effect ∈ (session.writeFrame frame len io).effects := h
    rcases session.writeFrame_effects frame len io with none | ⟨owned, bytes, e⟩
    · simp [none] at h
    · rw [e] at h
      exact Or.inr (Or.inr ⟨owned, bytes, List.mem_singleton.mp h⟩)
  | release io =>
    have h : effect ∈ (session.release io).effects := h
    rcases session.release_cases io with ⟨_, e⟩ | ⟨_, e⟩ | ⟨ours, e⟩ | ⟨_, _, e⟩
    · simp [e] at h
    · simp [e] at h
    · rw [e] at h
      exact Or.inr (Or.inl ⟨List.mem_singleton.mp h, ⟨io, rfl⟩, ours⟩)
    · simp [e] at h

theorem Traced.unbind {bind0 : Option Bool} {past : List (Entry abi)} {entry : Entry abi}
    (h : Traced bind0 past entry.before) (effect : .bind false ∈ entry.outcome.effects) :
    ∃ probe ∈ past, probe.ReadsBound := by
  obtain ⟨_, bound⟩ | ⟨rebind, _⟩ | ⟨_, _, frame⟩ := Entry.effect_cases effect
  · exact (h.bound bound).2
  · cases rebind
  · cases frame

theorem Traced.rebind {bind0 : Option Bool} {past : List (Entry abi)} {entry : Entry abi}
    (h : Traced bind0 past entry.before) (effect : .bind true ∈ entry.outcome.effects) :
    (∃ io, entry.call = .release io) ∧ ∃ acquisition ∈ past, acquisition.Unbinds := by
  obtain ⟨unbind, _⟩ | ⟨_, releases, ours⟩ | ⟨_, _, frame⟩ := Entry.effect_cases effect
  · cases unbind
  · exact ⟨releases, h.unbound ours⟩
  · cases frame

theorem Traced.untouched {bind0 : Option Bool} {past : List (Entry abi)} {session : Session abi}
    (h : Traced bind0 past session) (none : ∀ entry ∈ past, ∀ io, entry.call ≠ .acquire io) :
    session.bindFile = bind0 := by
  cases ours : session.owner.fbconUnboundByUs with
  | false => exact h.kept ours
  | true =>
    obtain ⟨entry, mem, ⟨io, acquire, _⟩, _⟩ := h.unbound ours
    exact absurd acquire (none entry mem io)

theorem Traced.framebuffer {bind0 : Option Bool} {past : List (Entry abi)} {entry : Entry abi}
    (h : Traced bind0 past entry.before) {bytes : List UInt8}
    (effect : .frame bytes ∈ entry.outcome.effects) : Owning past := by
  obtain ⟨unbind, _⟩ | ⟨rebind, _⟩ | ⟨owned, _⟩ := Entry.effect_cases effect
  · cases unbind
  · cases rebind
  · exact h.owning owned

/-- Every call of every run after `fb_owner_init`, whatever its I/O finds, keeps
to the ownership protocol. -/
theorem fb_ownership (bind0 : Option Bool) (calls : List (Call abi))
    (earlier later : List (Entry abi)) (entry : Entry abi)
    (h : history ⟨FbOwner.init abi, bind0⟩ calls = earlier ++ entry :: later) :
    entry.Proper bind0 earlier := by
  have traced : Traced bind0 earlier entry.before := by
    simpa using (Traced.start abi bind0).history h
  constructor
  · exact traced.unbind
  · exact traced.rebind
  · exact traced.untouched
  · rintro ⟨io, e, ok⟩
    simp only [Entry.outcome, e, Session.call] at ok ⊢
    exact traced.restored ok
  · intro bytes effect
    exact traced.framebuffer effect
  · intro frame len io e refused
    simp only [Entry.outcome, e, Session.call]
    exact Session.writeFrame_refused refused io
  · intro frame len io e accepted opens seeks
    obtain ⟨effects, status⟩ := Session.writeFrame_delivers accepted opens seeks
    have delivers : _ ↔ Delivers len.toNat io.writes :=
      status.trans (writeLoop_complete_iff frame len.toNat io.writes 0 (Nat.zero_le _))
    obtain ⟨count, fits, bytes, all⟩ := writeLoop_frame frame len.toNat io.writes
    simp only [Entry.outcome, e, Session.call]
    exact ⟨delivers, count, fits, effects.trans (by rw [bytes]), delivers.trans all.symm⟩

/-- A two-byte frame written in two pieces with an interruption between them, then the
console handed back. -/
theorem fb_ownership_round :
    let run := history (⟨FbOwner.init .ilp32, some true⟩ : Session .ilp32)
      [.probe ⟨some (2, 1), some 8, none, .regular 2, true, true⟩,
        .acquire ⟨true, true, true⟩,
        .writeFrame (some fun i => i.toUInt8) 2 ⟨true, true, [.wrote 1, .interrupted, .wrote 1]⟩,
        .release ⟨true, true, true⟩]
    ∃ probe acquire write release, run = [probe, acquire, write, release] ∧
      write.outcome.status = some 0 ∧ write.outcome.effects = [.frame [0, 1]] ∧
      release.outcome.effects = [.bind true] ∧ release.outcome.session.bindFile = some true := by
  intro run
  have refuses : ∀ {session : Session .ilp32} {frame : Nat → UInt8} {len : SizeT .ilp32},
      session.owner.state = .owned → len = session.owner.frameBytes →
      ¬ session.Refuses (some frame) len := by
    simp +contextual [Session.Refuses]
  have delivers : Delivers 2 [.wrote 1, .interrupted, .wrote 1] :=
    ⟨[.wrote 1, .interrupted, .wrote 1], [], rfl, by simp, by decide⟩
  have written := (fb_ownership (some true) _ [_, _] [_] _ (rfl : run = _)).delivered _ _ _ rfl
    (refuses rfl rfl) rfl rfl
  have released := (fb_ownership (some true) _ [_, _, _] [] _ (rfl : run = _)).restored ⟨_, rfl, rfl⟩
  exact ⟨_, _, _, _, rfl, written.1.mpr delivers, rfl, rfl, released⟩

end VitaLinux.Toolkit.Dashboard
