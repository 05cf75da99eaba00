import VitaLinux.Base.Placement
import VitaLinux.Cart.Input.Planning
import VitaLinux.Cart.Input.Poll

/-!
# What each function of the engine leaves alone

Discovery and polling are followed here once: which descriptors they touch, what
they add to the trace and which fields they keep.
-/

namespace VitaLinux.Cart

open Base

/-- The second trace adds to the first only ioctls on one descriptor. -/
def Asked (fd : Int) (before after : InputTrace) : Prop :=
  ∃ n, after = List.replicate n (.ioctl fd) ++ before

theorem Asked.refl (fd : Int) (trace : InputTrace) : Asked fd trace trace := ⟨0, rfl⟩

theorem Asked.ioctl {fd : Int} {before after : InputTrace} (h : Asked fd before after) :
    Asked fd before (.ioctl fd :: after) := by
  obtain ⟨n, rfl⟩ := h
  exact ⟨n + 1, by rw [List.replicate_succ, List.cons_append]⟩

theorem Asked.trans {fd : Int} {first second third : InputTrace} (h : Asked fd first second)
    (h' : Asked fd second third) : Asked fd first third := by
  obtain ⟨n, rfl⟩ := h
  obtain ⟨m, rfl⟩ := h'
  exact ⟨m + n, by rw [← List.append_assoc, List.replicate_append_replicate]⟩

/-! ## Probing -/

theorem probeIsGamepad_asked (ops : CartInputOps) (fd : Int) (trace : InputTrace) :
    Asked fd trace (probeIsGamepad ops fd trace).2 := by
  simp only [probeIsGamepad]
  split
  · exact (Asked.refl fd trace).ioctl
  · split
    · exact (Asked.refl fd trace).ioctl.ioctl
    · exact (Asked.refl fd trace).ioctl.ioctl

theorem probeIsActionKeyboard_asked (ops : CartInputOps) (fd : Int) (trace : InputTrace) :
    Asked fd trace (probeIsActionKeyboard ops fd trace).2 := by
  simp only [probeIsActionKeyboard]
  split
  · exact (Asked.refl fd trace).ioctl
  · exact (Asked.refl fd trace).ioctl

/-- Reading the axes changes the axes only. -/
structure SameDevice (source source' : CartInputSource) : Prop where
  fd : source'.fd = source.fd
  node : source'.node = source.node
  state : source'.state = source.state
  generation : source'.generation = source.generation

theorem SameDevice.refl (source : CartInputSource) : SameDevice source source :=
  ⟨rfl, rfl, rfl, rfl⟩

theorem SameDevice.trans {first second third : CartInputSource} (h : SameDevice first second)
    (h' : SameDevice second third) : SameDevice first third :=
  ⟨h'.fd.trans h.fd, h'.node.trans h.node, h'.state.trans h.state,
    h'.generation.trans h.generation⟩

theorem probeSnapshotAxis_keeps (ops : CartInputOps) (fd : Int) (absBits : Nat → UInt8)
    (source : CartInputSource) (trace : InputTrace) (slot : AxisSlot) :
    SameDevice source (probeSnapshotAxis ops fd absBits (source, trace) slot).1 ∧
      Asked fd trace (probeSnapshotAxis ops fd absBits (source, trace) slot).2 := by
  simp only [probeSnapshotAxis]
  split
  · exact ⟨⟨rfl, rfl, rfl, rfl⟩, Asked.refl fd trace⟩
  · split
    · exact ⟨⟨rfl, rfl, rfl, rfl⟩, (Asked.refl fd trace).ioctl⟩
    · exact ⟨⟨rfl, rfl, rfl, rfl⟩, (Asked.refl fd trace).ioctl⟩

theorem probeSnapshotAxes_keeps (source : CartInputSource) (ops : CartInputOps) (fd : Int)
    (trace : InputTrace) :
    SameDevice source (probeSnapshotAxes source ops fd trace).1 ∧
      Asked fd trace (probeSnapshotAxes source ops fd trace).2 := by
  have fold (absBits : Nat → UInt8) (slots : List AxisSlot) :
      ∀ source trace,
        SameDevice source (slots.foldl (probeSnapshotAxis ops fd absBits) (source, trace)).1 ∧
        Asked fd trace (slots.foldl (probeSnapshotAxis ops fd absBits) (source, trace)).2 := by
    induction slots with
    | nil =>
      intro source trace
      exact ⟨SameDevice.refl source, Asked.refl fd trace⟩
    | cons slot slots ih =>
      intro source trace
      obtain ⟨same, asked⟩ := probeSnapshotAxis_keeps ops fd absBits source trace slot
      obtain ⟨same', asked'⟩ := ih (probeSnapshotAxis ops fd absBits (source, trace) slot).1
        (probeSnapshotAxis ops fd absBits (source, trace) slot).2
      exact ⟨same.trans same', asked.trans asked'⟩
  simp only [probeSnapshotAxes]
  split
  · exact ⟨⟨rfl, rfl, rfl, rfl⟩, (Asked.refl fd trace).ioctl⟩
  · obtain ⟨same, asked⟩ := fold _ (List.finRange 8)
      { source with heldKeys := 0, lastRaw := fun _ => 0 } (.ioctl fd :: trace)
    exact ⟨⟨same.fd, same.node, same.state, same.generation⟩,
      (Asked.refl fd trace).ioctl.trans asked⟩

theorem probeVerdict_asked (ops : CartInputOps) (fd : Int) (trace : InputTrace) :
    Asked fd trace (probeVerdict ops fd trace).2 := by
  have gamepad := probeIsGamepad_asked ops fd trace
  simp only [probeVerdict]
  split
  · exact gamepad
  · exact gamepad.trans (probeIsActionKeyboard_asked ops fd _)

theorem classifySource_keeps (scratch : CartInputSource) (ops : CartInputOps)
    (fd sysfsRank : Int) (trace : InputTrace) :
    SameDevice scratch (classifySource scratch ops fd sysfsRank trace).2.1 ∧
      Asked fd trace (classifySource scratch ops fd sysfsRank trace).2.2 := by
  have asked := (Asked.refl fd trace).ioctl.trans (probeVerdict_asked ops fd (.ioctl fd :: trace))
  simp only [classifySource]
  split
  · exact ⟨SameDevice.refl scratch, (Asked.refl fd trace).ioctl⟩
  · split
    · exact ⟨⟨rfl, rfl, rfl, rfl⟩, asked⟩
    · obtain ⟨same, axes⟩ := probeSnapshotAxes_keeps
        { scratch with
          name := String.ofList ((ops.ioctlName trace fd).2.toList.take (CART_INPUT_NAME_MAX - 1)) }
        ops fd (probeVerdict ops fd (.ioctl fd :: trace)).2
      exact ⟨⟨same.fd, same.node, same.state, same.generation⟩, asked.trans axes⟩

/-! ## Discovery -/

/-- What one directory entry can come to: it is passed over, cannot be opened, is
probed and closed again, or becomes a candidate. -/
theorem discoverEntry_cases (ops : CartInputOps) (entry : DirEntry) (trace : InputTrace) :
    discoverEntry ops entry trace = (none, trace) ∨
    (ops.openNode trace entry.name < 0 ∧ discoverEntry ops entry trace =
      (none, .opened entry.name (ops.openNode trace entry.name) :: trace)) ∨
    (0 ≤ ops.openNode trace entry.name ∧ ∃ probed,
      Asked (ops.openNode trace entry.name)
        (.opened entry.name (ops.openNode trace entry.name) :: trace) probed ∧
      discoverEntry ops entry trace =
        (none, .closed (ops.openNode trace entry.name) :: probed)) ∨
    (0 ≤ ops.openNode trace entry.name ∧ ∃ candidate probed,
      Asked (ops.openNode trace entry.name)
        (.opened entry.name (ops.openNode trace entry.name) :: trace) probed ∧
      candidate.fd = ops.openNode trace entry.name ∧ candidate.prepared.node = entry.name ∧
      discoverEntry ops entry trace = (some candidate, probed)) := by
  simp only [discoverEntry]
  split
  · exact Or.inl rfl
  · split
    · exact Or.inl rfl
    · split
      case isTrue negative => exact Or.inr (Or.inl ⟨negative, rfl⟩)
      case isFalse opened =>
        have opened := Int.not_lt.mp opened
        obtain ⟨same, asked⟩ := classifySource_keeps
          { CartInputSource.zero with fd := -1, node := entry.name } ops
          (ops.openNode trace entry.name) entry.sysfsRank
          (.opened entry.name (ops.openNode trace entry.name) :: trace)
        split
        · exact Or.inr (Or.inr (Or.inl ⟨opened, _, asked, rfl⟩))
        · exact Or.inr (Or.inr (Or.inr ⟨opened, _, _, asked, rfl, same.node, rfl⟩))

/-- A candidate's source was prepared from zeroed memory. -/
theorem discoverEntry_generation {ops : CartInputOps} {entry : DirEntry} {trace : InputTrace}
    {candidate : CartInputCandidate} (found : (discoverEntry ops entry trace).1 = some candidate) :
    candidate.prepared.generation = 0 := by
  simp only [discoverEntry] at found
  split at found
  · cases found
  split at found
  · cases found
  split at found
  · cases found
  split at found
  · cases found
  obtain rfl := Option.some.inj found
  exact (classifySource_keeps _ ops _ _ _).1.generation

/-- What holds of every candidate found holds of all that are gathered. -/
theorem discoverEntries_all {ops : CartInputOps} {P : CartInputCandidate → Prop}
    (each : ∀ entry trace candidate, (discoverEntry ops entry trace).1 = some candidate →
      P candidate) (entries : List DirEntry) :
    ∀ candidates trace, (∀ candidate ∈ candidates, P candidate) →
      ∀ candidate ∈ (discoverEntries ops candidates trace entries).1, P candidate := by
  induction entries with
  | nil => exact fun _ _ h => h
  | cons entry entries ih =>
    intro candidates trace h
    simp only [discoverEntries]
    split
    · apply ih
      intro candidate mem
      rcases List.mem_append.mp mem with mem | found
      · exact h candidate mem
      · exact each entry trace candidate (Option.mem_toList.mp found)
    · exact h

/-- The candidates of a discovery, in plan order. -/
theorem planned_all {ops : CartInputOps} {P : CartInputCandidate → Prop}
    (each : ∀ entry trace candidate, (discoverEntry ops entry trace).1 = some candidate →
      P candidate) (entries : List DirEntry) (trace : InputTrace) (count : Nat) :
    ∀ candidate ∈ (cartInputPlan (discoverEntries ops [] trace entries).1 count).1,
      P candidate := by
  intro candidate mem
  refine discoverEntries_all each entries [] trace ?_ candidate
    ((cartInputPlan_perm _ count).mem_iff.mp mem)
  exact fun _ none => absurd none List.not_mem_nil

theorem claimCandidates_rest (engine : InputEngine) (candidates : List CartInputCandidate) :
    ∀ candidate ∈ (claimCandidates engine candidates).2.1, candidate.fd = -1 := by
  induction candidates generalizing engine with
  | nil => simp [claimCandidates]
  | cons candidate candidates ih =>
    simp only [claimCandidates, List.mem_cons, forall_eq_or_imp, true_and]
    exact ih _

/-- The claim loop leaves the clean-up loop nothing to close. -/
theorem closeUnclaimed_none (engine : InputEngine) {rest : List CartInputCandidate}
    (h : ∀ candidate ∈ rest, candidate.fd = -1) : closeUnclaimed engine rest = engine := by
  induction rest with
  | nil => rfl
  | cons candidate rest ih =>
    have negative : candidate.fd < 0 := by
      rw [h candidate List.mem_cons_self]
      decide
    rw [closeUnclaimed, if_pos negative]
    exact ih fun other mem => h other (List.mem_cons_of_mem _ mem)

/-- A discovery of a readable directory: gather, plan, claim. -/
theorem discoverPass_entries (ops : CartInputOps) (entries : List DirEntry)
    (engine : InputEngine) :
    (discoverPass ops (.entries entries) engine).2 =
      (claimCandidates { engine with trace := (discoverEntries ops [] engine.trace entries).2 }
        (cartInputPlan (discoverEntries ops [] engine.trace entries).1
          (discoverEntries ops [] engine.trace entries).1.length).1).1 :=
  closeUnclaimed_none _ (claimCandidates_rest _ _)

theorem firstFreeSlot_free {input : CartInput} {slot : SourceIndex}
    (h : firstFreeSlot input = some slot) : (input.source slot).fd < 0 := by
  simpa using List.find?_some h

/-- Free slots are those with nothing in them, whatever it is that the slots hold. -/
theorem firstFreeSlot_eq {α : Type*} {input : CartInput} {slot : SourceIndex → Option α}
    (free : ∀ index, slot index = none ↔ (input.source index).fd < 0) :
    firstFreeSlot input = (freeSlots slot).head? := by
  rw [firstFreeSlot, freeSlots, List.head?_filter]
  congr
  funext index
  rw [Bool.eq_iff_iff, decide_eq_true_iff, ← free, Option.isNone_iff_eq_none]

/-! ## Resynchronising -/

theorem CartInputSource.holdKey_same (source : CartInputSource) (code : BitVec 16)
    (value : Int32) : SameDevice source (source.holdKey code value) := by
  simp only [CartInputSource.holdKey]
  split
  · split
    · exact ⟨rfl, rfl, rfl, rfl⟩
    · exact ⟨rfl, rfl, rfl, rfl⟩
  · exact SameDevice.refl source

theorem resyncAxis_keeps (ops : CartInputOps) (source : CartInputSource) (trace : InputTrace)
    (slot : AxisSlot) :
    SameDevice source (resyncAxis ops (source, trace) slot).1 ∧
      Asked source.fd trace (resyncAxis ops (source, trace) slot).2 := by
  simp only [resyncAxis]
  split
  · exact ⟨SameDevice.refl source, Asked.refl _ _⟩
  · split
    · exact ⟨⟨rfl, rfl, rfl, rfl⟩, (Asked.refl _ _).ioctl⟩
    · exact ⟨SameDevice.refl source, (Asked.refl _ _).ioctl⟩

theorem resyncAfterDesync_keeps (ops : CartInputOps) (source : CartInputSource)
    (trace : InputTrace) :
    SameDevice source (resyncAfterDesync ops source trace).1 ∧
      Asked source.fd trace (resyncAfterDesync ops source trace).2 := by
  have fold (slots : List AxisSlot) :
      ∀ source trace, SameDevice source (slots.foldl (resyncAxis ops) (source, trace)).1 ∧
        Asked source.fd trace (slots.foldl (resyncAxis ops) (source, trace)).2 := by
    induction slots with
    | nil =>
      intro source trace
      exact ⟨SameDevice.refl source, Asked.refl _ trace⟩
    | cons slot slots ih =>
      intro source trace
      obtain ⟨same, asked⟩ := resyncAxis_keeps ops source trace slot
      obtain ⟨same', asked'⟩ := ih (resyncAxis ops (source, trace) slot).1
        (resyncAxis ops (source, trace) slot).2
      rw [same.fd] at asked'
      exact ⟨same.trans same', asked.trans asked'⟩
  have asked := (Asked.refl source.fd trace).ioctl
  simp only [resyncAfterDesync]
  cases ops.ioctlKeyState trace source.fd with
  | none =>
    obtain ⟨same, axes⟩ := fold (List.finRange 8) source (.ioctl source.fd :: trace)
    exact ⟨same, asked.trans axes⟩
  | some state =>
    obtain ⟨same, axes⟩ := fold (List.finRange 8)
      { source with heldKeys := mergeKeyState state } (.ioctl source.fd :: trace)
    exact ⟨⟨same.fd, same.node, same.state, same.generation⟩, asked.trans axes⟩

theorem handleDisconnect_eq {engine : InputEngine} {index : SourceIndex}
    (connected : 0 ≤ (engine.source index).fd) :
    handleDisconnect engine index =
      ((engine.record [.closed (engine.source index).fd]).setSource index
        (engine.source index).disconnected).setBuffer index [] := by
  simp only [handleDisconnect, if_pos connected]

section Disconnect

variable (engine : InputEngine) (index : SourceIndex)

@[simp] theorem handleDisconnect_source :
    (handleDisconnect engine index).source index = (engine.source index).disconnected := by
  simp only [handleDisconnect]
  split <;> simp

@[simp] theorem handleDisconnect_source_of_ne {other : SourceIndex} (different : other ≠ index) :
    (handleDisconnect engine index).source other = engine.source other := by
  simp only [handleDisconnect]
  split <;> simp [different]

@[simp] theorem handleDisconnect_buffer : (handleDisconnect engine index).buffer index = [] := by
  simp only [handleDisconnect]
  split <;> simp

@[simp] theorem handleDisconnect_buffer_of_ne {other : SourceIndex} (different : other ≠ index) :
    (handleDisconnect engine index).buffer other = engine.buffer other := by
  simp only [handleDisconnect]
  split <;> simp [different]

@[simp] theorem handleDisconnect_pending :
    (handleDisconnect engine index).input.pending = engine.input.pending := by
  simp only [handleDisconnect]
  split
  · rfl
  · rfl

/-- A close is all that it leaves in the trace. -/
theorem handleDisconnect_trace :
    (handleDisconnect engine index).trace = engine.trace ∨
      (handleDisconnect engine index).trace =
        .closed (engine.source index).fd :: engine.trace := by
  simp only [handleDisconnect]
  split
  · exact Or.inr rfl
  · exact Or.inl rfl

end Disconnect

/-! ## Serving one source -/

/-- A step of the trace that serving a source can add while its descriptor stays open. -/
def InputStep.Serves (index : SourceIndex) (fd : Int) : InputStep → Prop
  | .opened _ _ => False
  | .closed _ => False
  | .read other _ => other = fd
  | .ioctl other => other = fd
  | .consumed other _ => other = fd
  | .emitted other _ => other = index

/-- The engine went on with one source and left everything else alone. -/
structure Serves (index : SourceIndex) (engine engine' : InputEngine) : Prop where
  source : ∀ other, other ≠ index → engine'.source other = engine.source other
  buffer : ∀ other, other ≠ index → engine'.buffer other = engine.buffer other
  fd : (engine'.source index).fd = (engine.source index).fd
  node : (engine'.source index).node = (engine.source index).node
  absent : (engine'.source index).state = .absent ↔ (engine.source index).state = .absent
  trace : ∃ steps, engine'.trace = steps ++ engine.trace ∧
    ∀ step ∈ steps, step.Serves index (engine.source index).fd

namespace Serves

variable {index : SourceIndex} {engine engine' engine'' : InputEngine}

theorem refl (index : SourceIndex) (engine : InputEngine) : Serves index engine engine where
  source := fun _ _ => rfl
  buffer := fun _ _ => rfl
  fd := rfl
  node := rfl
  absent := Iff.rfl
  trace := ⟨[], rfl, by simp⟩

theorem trans (h : Serves index engine engine') (h' : Serves index engine' engine'') :
    Serves index engine engine'' where
  source := fun other different => (h'.source other different).trans (h.source other different)
  buffer := fun other different => (h'.buffer other different).trans (h.buffer other different)
  fd := h'.fd.trans h.fd
  node := h'.node.trans h.node
  absent := h'.absent.trans h.absent
  trace := by
    obtain ⟨steps, e, serves⟩ := h.trace
    obtain ⟨steps', e', serves'⟩ := h'.trace
    refine ⟨steps' ++ steps, by rw [e', e, List.append_assoc], ?_⟩
    intro step mem
    rcases List.mem_append.mp mem with mem | mem
    · rw [← h.fd]
      exact serves' step mem
    · exact serves step mem

theorem setSource {source : CartInputSource} (same : source.fd = (engine.source index).fd)
    (node : source.node = (engine.source index).node)
    (absent : source.state = .absent ↔ (engine.source index).state = .absent) :
    Serves index engine (engine.setSource index source) where
  source := fun _ different => InputEngine.source_setSource_of_ne _ _ different
  buffer := fun _ _ => rfl
  fd := by simpa using same
  node := by simpa using node
  absent := by simpa using absent
  trace := ⟨[], rfl, by simp⟩

theorem setBuffer (bytes : List UInt8) : Serves index engine (engine.setBuffer index bytes) where
  source := fun _ _ => rfl
  buffer := fun _ different => InputEngine.buffer_setBuffer_of_ne _ _ different
  fd := rfl
  node := rfl
  absent := Iff.rfl
  trace := ⟨[], rfl, by simp⟩

theorem setPending (pending : List CartInputAction) :
    Serves index engine (engine.setPending pending) where
  source := fun _ _ => rfl
  buffer := fun _ _ => rfl
  fd := rfl
  node := rfl
  absent := Iff.rfl
  trace := ⟨[], rfl, by simp⟩

theorem record {step : InputStep} (serves : step.Serves index (engine.source index).fd) :
    Serves index engine (engine.record [step]) where
  source := fun _ _ => rfl
  buffer := fun _ _ => rfl
  fd := rfl
  node := rfl
  absent := Iff.rfl
  trace := ⟨[step], rfl, by simpa using serves⟩

theorem asked {trace : InputTrace} (h : Asked (engine.source index).fd engine.trace trace) :
    Serves index engine { engine with trace } where
  source := fun _ _ => rfl
  buffer := fun _ _ => rfl
  fd := rfl
  node := rfl
  absent := Iff.rfl
  trace := by
    obtain ⟨n, rfl⟩ := h
    refine ⟨_, rfl, ?_⟩
    intro step mem
    rw [List.eq_of_mem_replicate mem]
    rfl

end Serves

theorem processKeyEvent_serves (engine : InputEngine) (index : SourceIndex) (code : BitVec 16)
    (value : Int32) : Serves index engine (processKeyEvent engine index code value) := by
  have same := (engine.source index).holdKey_same code value
  have held : Serves index engine
      (engine.setSource index ((engine.source index).holdKey code value)) := by
    apply Serves.setSource same.fd same.node
    rw [same.state]
  have queued := held.trans (Serves.setPending (enqueueAction engine.input.pending
    (emittedAction code value)))
  simp only [processKeyEvent]
  split
  · exact queued
  · exact queued.trans (Serves.record rfl)

theorem consumeEvent_serves (ops : CartInputOps) (engine : InputEngine) (index : SourceIndex)
    (event : InputEvent) : Serves index engine (consumeEvent ops engine index event) := by
  have noted : Serves index engine
      (engine.record [.consumed (engine.source index).fd event]) := Serves.record rfl
  simp only [consumeEvent]
  split
  · split
    case isTrue dropped =>
      have state : (engine.source index).state ≠ .absent := by simp [dropped.2]
      apply noted.trans
      refine Serves.setSource ?_ ?_ ?_
      · rfl
      · rfl
      · simp [state]
    case isFalse =>
      split
      case isTrue report =>
        obtain ⟨same, asked⟩ := resyncAfterDesync_keeps ops (engine.source index)
          (engine.record [.consumed (engine.source index).fd event]).trace
        have state : (engine.source index).state ≠ .absent := by simp [report.2]
        apply noted.trans
        apply (Serves.asked asked).trans
        refine Serves.setSource ?_ ?_ ?_
        · exact same.fd
        · exact same.node
        · exact iff_of_false (by simp) state
      case isFalse => exact noted
  · split
    · split
      · exact noted.trans (processKeyEvent_serves _ _ _ _)
      · exact noted
    · split
      · split
        · split
          · apply noted.trans
            refine Serves.setSource ?_ ?_ ?_
            · rfl
            · rfl
            · exact Iff.rfl
          · exact noted
        · exact noted
      · exact noted

theorem drainRecords_serves (abi : Abi) (ops : CartInputOps) (index : SourceIndex)
    (rounds : Nat) (engine : InputEngine) :
    Serves index engine (drainRecords abi ops index rounds engine) := by
  induction rounds generalizing engine with
  | zero => exact Serves.refl index engine
  | succ rounds ih =>
    simp only [drainRecords]
    split
    · exact ((Serves.setBuffer _).trans (consumeEvent_serves ops _ index _)).trans (ih _)
    · exact Serves.refl index engine

/-- A pump serves its source, and may end by disconnecting it. -/
theorem pumpSource_serves (abi : Abi) (ops : CartInputOps) (index : SourceIndex) (fuel : Nat)
    (engine : InputEngine) :
    ∃ served, Serves index engine served ∧
      ((pumpSource abi ops index fuel engine).1 = served ∨
        (pumpSource abi ops index fuel engine).1 = handleDisconnect served index) := by
  induction fuel generalizing engine with
  | zero => exact ⟨engine, Serves.refl index engine, Or.inl rfl⟩
  | succ fuel ih =>
    have drained := drainRecords_serves abi ops index (engine.buffer index).length engine
    simp only [pumpSource]
    generalize drainRecords abi ops index (engine.buffer index).length engine = drain
      at drained ⊢
    generalize readFd ops (drain.source index).fd (PARTIAL_CAP - (drain.buffer index).length)
      drain.trace = result
    have read : Serves index engine
        (drain.record [.read (drain.source index).fd result]) :=
      drained.trans (Serves.record rfl)
    split
    · exact ⟨_, read, Or.inr rfl⟩
    case h_2 bytes _ =>
      obtain ⟨served, serves, ends⟩ := ih
        ((drain.record [.read (drain.source index).fd (.got bytes)]).setBuffer index
          (drain.buffer index ++ bytes))
      exact ⟨served, (read.trans (Serves.setBuffer _)).trans serves, ends⟩
    · obtain ⟨served, serves, ends⟩ := ih
        (drain.record [.read (drain.source index).fd .interrupted])
      exact ⟨served, read.trans serves, ends⟩
    · exact ⟨_, read, Or.inl rfl⟩
    · exact ⟨_, read, Or.inr rfl⟩

/-- Serving a source does not touch any other. -/
theorem pumpSource_other (abi : Abi) (ops : CartInputOps) {index : SourceIndex} (fuel : Nat)
    (engine : InputEngine) {slot : SourceIndex} (different : slot ≠ index) :
    (pumpSource abi ops index fuel engine).1.source slot = engine.source slot := by
  obtain ⟨after, serves, e | e⟩ := pumpSource_serves abi ops index fuel engine
  · rw [e, serves.source slot different]
  · rw [e, handleDisconnect_source_of_ne _ _ different, serves.source slot different]

/-- What every pump of a poll keeps, a poll keeps. -/
theorem pollSources_keeps {P : InputEngine → Prop} (abi : Abi) (ops : CartInputOps) (fuel : Nat)
    (pump : ∀ index engine, 0 ≤ (engine.source index).fd → (engine.source index).state ≠ .desync →
      P engine → P (pumpSource abi ops index fuel engine).1) (indices : List SourceIndex) :
    ∀ engine : InputEngine, P engine → P (pollSources abi ops fuel indices engine).1 := by
  induction indices with
  | nil => exact fun _ h => h
  | cons index indices ih =>
    intro engine h
    simp only [pollSources]
    split
    case isTrue => exact ih engine h
    case isFalse present =>
      split
      case isTrue => exact ih engine h
      case isFalse served =>
        have pumped := pump index engine (Int.not_lt.mp present) served h
        split
        · exact ih _ pumped
        · exact pumped

theorem cartInputPoll_source (abi : Abi) (ops : CartInputOps) (fuel : Nat) (engine : InputEngine) :
    (cartInputPoll abi ops fuel engine).1.source =
      (pollSources abi ops fuel (List.finRange 4) engine).1.source := by
  simp only [cartInputPoll]
  split
  · split
    · rfl
    · rfl
  · rfl

/-! ## Shutting down -/

theorem shutdownSource_source (engine : InputEngine) (index : SourceIndex) :
    (shutdownSource engine index).source =
      Function.update engine.source index resetSource := by
  unfold shutdownSource
  split <;> rfl

theorem shutdownSources_source (indices : List SourceIndex) :
    ∀ (engine : InputEngine) (index : SourceIndex),
      index ∈ indices ∨ engine.source index = resetSource →
      (indices.foldl shutdownSource engine).source index = resetSource := by
  induction indices with
  | nil => exact fun _ _ reset => reset.resolve_left (by simp)
  | cons first indices ih =>
    intro engine index cases_
    apply ih
    rw [shutdownSource_source]
    by_cases same : index = first
    · subst same
      exact Or.inr (Function.update_self ..)
    · rcases cases_ with mem | reset
      · exact Or.inl ((List.mem_cons.mp mem).resolve_left same)
      · exact Or.inr (by rw [Function.update_of_ne same, reset])

theorem cartInputShutdown_source (engine : InputEngine) (index : SourceIndex) :
    (cartInputShutdown engine).source index = resetSource :=
  shutdownSources_source (List.finRange 4) engine index (Or.inl (List.mem_finRange index))

end VitaLinux.Cart
