import VitaLinux.Cart.Input.SourceProgress

/-!
# What the ioctls say of a device

A probe and a resynchronisation ask for the axes one after the other. Each valid axis
gets what the device answers at its turn, each key below 64 its bit.
-/

namespace VitaLinux.Cart

/-! ## What the ioctls answer -/

/-- The value that the device gives for an axis. -/
def axisValue (ops : CartInputOps) (fd : Int) (trace : InputTrace) (slot : AxisSlot) : Int32 :=
  match ops.ioctlAbs trace fd (AXIS_CODES slot) with
  | some info => info.value
  | none => 0

/-- How often a loop over these slots asks before it comes to this one. -/
def asksBefore (asks : AxisSlot → Bool) (slots : List AxisSlot) (slot : AxisSlot) : Nat :=
  (slots.takeWhile (· ≠ slot)).countP asks

/-- What a loop over the slots gets for an axis, when it asks about these. -/
def loopValue (ops : CartInputOps) (fd : Int) (asks : AxisSlot → Bool) (trace : InputTrace)
    (slot : AxisSlot) : Int32 :=
  axisValue ops fd
    (List.replicate (asksBefore asks (List.finRange 8) slot) (.ioctl fd) ++ trace) slot

/-- The keys that are down and the values of the axes. -/
structure Snapshot where
  keys : Nat → Bool
  axes : AxisSlot → Int32

/-- What the ioctls of `resync_after_desync` answer. -/
def Snapshot.taken (ops : CartInputOps) (source : CartInputSource) (trace : InputTrace) :
    Snapshot where
  keys := fun code =>
    match ops.ioctlKeyState trace source.fd with
    | some state => bitTest state code
    | none => false
  axes := loopValue ops source.fd source.axisValid (.ioctl source.fd :: trace)

/-- What `probe_snapshot_axes` finds on the axes when a node is classified. -/
def probedAxes (ops : CartInputOps) (entry : DirEntry) (trace : InputTrace) : AxisSlot → Int32 :=
  let fd := ops.openNode trace entry.name
  let trace := (probeVerdict ops fd (.ioctl fd :: .opened entry.name fd :: trace)).2
  match ops.ioctlBit trace fd 3 with
  | some absBits =>
    loopValue ops fd (fun slot => bitTest absBits (AXIS_CODES slot)) (.ioctl fd :: trace)
  | none => fun _ => 0

/-! ## The loops over the axes -/

/-- A loop sets a field of each slot to what it gets there. -/
theorem axisLoop_field {β : Type} {fd : Int}
    {round : CartInputSource × InputTrace → AxisSlot → CartInputSource × InputTrace}
    (asks : AxisSlot → Bool) (Keeps : CartInputSource → Prop)
    (field : CartInputSource → AxisSlot → β)
    (gets : InputTrace → AxisSlot → β) (slot : AxisSlot)
    (keeps : ∀ source trace slot, Keeps source → Keeps (round (source, trace) slot).1)
    (traces : ∀ source trace slot, Keeps source →
      (round (source, trace) slot).2 = if asks slot then .ioctl fd :: trace else trace)
    (sets : ∀ source trace, Keeps source →
      field (round (source, trace) slot).1 slot = gets trace slot)
    (leaves : ∀ source trace first, Keeps source → slot ≠ first →
      field (round (source, trace) first).1 slot = field source slot)
    (slots : List AxisSlot) (nodup : slots.Nodup) (member : slot ∈ slots) :
    ∀ source trace, Keeps source →
      field (slots.foldl round (source, trace)).1 slot =
        gets (List.replicate (asksBefore asks slots slot) (.ioctl fd) ++ trace) slot := by
  have left (slots : List AxisSlot) (absent : slot ∉ slots) : ∀ source trace, Keeps source →
      field (slots.foldl round (source, trace)).1 slot = field source slot := by
    induction slots with
    | nil => exact fun _ _ _ => rfl
    | cons first slots ih =>
      intro source trace good
      rw [List.mem_cons, not_or] at absent
      obtain ⟨different, absent⟩ := absent
      rw [List.foldl_cons, ih absent _ _ (keeps source trace first good),
        leaves source trace first good different]
  induction slots with
  | nil => cases member
  | cons first slots ih =>
    intro source trace good
    obtain ⟨absent, nodup⟩ := List.nodup_cons.mp nodup
    rw [List.foldl_cons]
    by_cases here : slot = first
    · subst here
      rw [left slots absent _ _ (keeps source trace slot good), sets source trace good]
      simp [asksBefore]
    · have later : slot ∈ slots := (List.mem_cons.mp member).resolve_left here
      have next := ih nodup later (round (source, trace) first).1 (round (source, trace) first).2
        (keeps source trace first good)
      rw [next, traces source trace first good]
      have before : asksBefore asks (first :: slots) slot =
          asksBefore asks slots slot + if asks first then 1 else 0 := by
        simp [asksBefore, Ne.symm here, List.countP_cons]
      rw [before]
      cases asks first with
      | false => rfl
      | true => simp [List.replicate_succ']

/-- The device answers every ioctl about its keys and axes. -/
def CartInputOps.Answers (ops : CartInputOps) (fd : Int) : Prop :=
  ∀ trace, (ops.ioctlKeyState trace fd).isSome ∧
    ∀ slot, (ops.ioctlAbs trace fd (AXIS_CODES slot)).isSome

section Answers

variable {ops : CartInputOps}

theorem axisValue_eq {fd : Int} {trace : InputTrace} {slot : AxisSlot} {info : AbsInfo}
    (answer : ops.ioctlAbs trace fd (AXIS_CODES slot) = some info) :
    axisValue ops fd trace slot = info.value := by
  rw [axisValue, answer]

theorem resyncAxis_answered {source : CartInputSource} (answers : ops.Answers source.fd)
    (trace : InputTrace) (slot : AxisSlot) :
    resyncAxis ops (source, trace) slot =
      if source.axisValid slot then
        ({ source with
            lastRaw :=
              Function.update source.lastRaw slot (axisValue ops source.fd trace slot) },
          .ioctl source.fd :: trace)
      else (source, trace) := by
  obtain ⟨info, answer⟩ := Option.isSome_iff_exists.mp ((answers trace).2 slot)
  simp only [resyncAxis, answer, axisValue_eq answer]
  cases source.axisValid slot <;> rfl

/-- A resynchronisation takes the snapshot and keeps everything else. -/
theorem resyncAfterDesync_answered {source : CartInputSource} (answers : ops.Answers source.fd)
    (trace : InputTrace) :
    let after := (resyncAfterDesync ops source trace).1
    after.fd = source.fd ∧ after.axisValid = source.axisValid ∧
      (∃ state, ops.ioctlKeyState trace source.fd = some state ∧
        after.heldKeys = mergeKeyState state) ∧
      ∀ slot, source.axisValid slot = true →
        after.lastRaw slot = (Snapshot.taken ops source trace).axes slot := by
  obtain ⟨state, keys⟩ := Option.isSome_iff_exists.mp (answers trace).1
  have loop (slots : List AxisSlot) : ∀ first trace', first.fd = source.fd →
      (slots.foldl (resyncAxis ops) (first, trace')).1.axisValid = first.axisValid ∧
        (slots.foldl (resyncAxis ops) (first, trace')).1.heldKeys = first.heldKeys := by
    induction slots with
    | nil => exact fun _ _ _ => ⟨rfl, rfl⟩
    | cons slot slots ih =>
      intro first trace' same
      have answers' : ops.Answers first.fd := same ▸ answers
      rw [List.foldl_cons, resyncAxis_answered answers']
      split
      · exact ih _ _ same
      · exact ih _ _ same
  obtain ⟨valid, held⟩ := loop (List.finRange 8) { source with heldKeys := mergeKeyState state }
    (.ioctl source.fd :: trace) rfl
  have fd := (resyncAfterDesync_keeps ops source trace).1.fd
  simp only [resyncAfterDesync, keys] at fd ⊢
  refine ⟨fd, valid, ⟨state, rfl, held⟩, ?_⟩
  intro slot wanted
  exact axisLoop_field source.axisValid
    (fun other => other.fd = source.fd ∧ other.axisValid = source.axisValid)
    (fun other => other.lastRaw) (axisValue ops source.fd) slot
    (by
      rintro other trace' slot' ⟨same, valid'⟩
      rw [resyncAxis_answered (same ▸ answers)]
      split
      · exact ⟨same, valid'⟩
      · exact ⟨same, valid'⟩)
    (by
      rintro other trace' slot' ⟨same, valid'⟩
      rw [resyncAxis_answered (same ▸ answers), valid', same]
      split
      · rfl
      · rfl)
    (by
      rintro other trace' ⟨same, valid'⟩
      rw [resyncAxis_answered (same ▸ answers), valid', if_pos wanted, same]
      exact Function.update_self ..)
    (by
      rintro other trace' first ⟨same, valid'⟩ different
      rw [resyncAxis_answered (same ▸ answers)]
      split
      · exact Function.update_of_ne different ..
      · rfl)
    (List.finRange 8) (List.nodup_finRange 8) (List.mem_finRange slot) _ _ ⟨rfl, rfl⟩

theorem probeSnapshotAxis_answered {fd : Int} (answers : ops.Answers fd) (absBits : Nat → UInt8)
    (source : CartInputSource) (trace : InputTrace) (slot : AxisSlot) :
    let asked := bitTest absBits (AXIS_CODES slot)
    let after := probeSnapshotAxis ops fd absBits (source, trace) slot
    after.2 = (if asked then .ioctl fd :: trace else trace) ∧
      after.1.heldKeys = source.heldKeys ∧
      after.1.axisValid = Function.update source.axisValid slot asked ∧
      after.1.lastRaw = if asked then
        Function.update source.lastRaw slot (axisValue ops fd trace slot) else source.lastRaw := by
  obtain ⟨info, answer⟩ := Option.isSome_iff_exists.mp ((answers trace).2 slot)
  simp only [probeSnapshotAxis, answer, axisValue_eq answer]
  cases bitTest absBits (AXIS_CODES slot) <;> exact ⟨rfl, rfl, rfl, rfl⟩

/-- Probing finds no key down, and on each valid axis its value. -/
theorem probeSnapshotAxes_answered {fd : Int} (answers : ops.Answers fd)
    (source : CartInputSource) (trace : InputTrace) :
    let after := (probeSnapshotAxes source ops fd trace).1
    after.heldKeys = 0 ∧ ∀ slot, after.axisValid slot = true → ∃ absBits,
      ops.ioctlBit trace fd 3 = some absBits ∧ after.lastRaw slot =
        loopValue ops fd (fun slot => bitTest absBits (AXIS_CODES slot)) (.ioctl fd :: trace)
          slot := by
  simp only [probeSnapshotAxes]
  cases ops.ioctlBit trace fd 3 with
  | none => exact ⟨rfl, fun slot valid => absurd valid Bool.false_ne_true⟩
  | some absBits =>
    have round (source : CartInputSource) (trace : InputTrace) (slot : AxisSlot) :=
      probeSnapshotAxis_answered answers absBits source trace slot
    have held (slots : List AxisSlot) : ∀ source trace,
        (slots.foldl (probeSnapshotAxis ops fd absBits) (source, trace)).1.heldKeys =
          source.heldKeys := by
      induction slots with
      | nil => exact fun _ _ => rfl
      | cons slot slots ih =>
        intro source trace
        rw [List.foldl_cons, ih _ _, (round source trace slot).2.1]
    refine ⟨held _ _ _, ?_⟩
    intro slot valid
    refine ⟨absBits, rfl, ?_⟩
    -- the slot is valid because the loop asked about it
    have asked := axisLoop_field (fun slot => bitTest absBits (AXIS_CODES slot)) (fun _ => True)
      (fun source => source.axisValid) (fun _ slot => bitTest absBits (AXIS_CODES slot)) slot
      (fun _ _ _ _ => trivial) (fun source trace slot _ => (round source trace slot).1)
      (by
        intro source trace _
        rw [(round source trace slot).2.2.1]
        exact Function.update_self ..)
      (by
        intro source trace first _ different
        rw [(round source trace first).2.2.1]
        exact Function.update_of_ne different ..)
      (List.finRange 8) (List.nodup_finRange 8) (List.mem_finRange slot)
      { source with heldKeys := 0, lastRaw := fun _ => 0 } (.ioctl fd :: trace) trivial
    rw [valid] at asked
    exact axisLoop_field (fun slot => bitTest absBits (AXIS_CODES slot)) (fun _ => True)
      (fun source => source.lastRaw) (axisValue ops fd) slot
      (fun _ _ _ _ => trivial) (fun source trace slot _ => (round source trace slot).1)
      (by
        intro source trace _
        rw [(round source trace slot).2.2.2, if_pos asked.symm]
        exact Function.update_self ..)
      (by
        intro source trace first _ different
        rw [(round source trace first).2.2.2]
        split
        · exact Function.update_of_ne different ..
        · rfl)
      (List.finRange 8) (List.nodup_finRange 8) (List.mem_finRange slot) _ _ trivial

/-- A node that is admitted was probed for its axes. -/
theorem classifySource_prepared {scratch prepared : CartInputSource} {fd sysfsRank rank : Int}
    {trace probed : InputTrace}
    (h : classifySource scratch ops fd sysfsRank trace = (rank, prepared, probed))
    (admitted : rank ≠ 0) :
    ∃ named, prepared =
      (probeSnapshotAxes named ops fd (probeVerdict ops fd (.ioctl fd :: trace)).2).1 := by
  simp only [classifySource] at h
  split at h
  · cases h
    exact absurd rfl admitted
  · split at h
    · cases h
      exact absurd rfl admitted
    · cases h
      exact ⟨_, rfl⟩

theorem discoverEntry_prepared {entry : DirEntry} {trace probed : InputTrace}
    {candidate : CartInputCandidate}
    (found : discoverEntry ops entry trace = (some candidate, probed)) :
    let fd := ops.openNode trace entry.name
    candidate.fd = fd ∧ ∃ named, candidate.prepared = (probeSnapshotAxes named ops fd
      (probeVerdict ops fd (.ioctl fd :: .opened entry.name fd :: trace)).2).1 := by
  simp only [discoverEntry] at found
  split at found
  · cases found
  · split at found
    · cases found
    · split at found
      · cases found
      · split at found
        · cases found
        case isFalse admitted =>
          cases found
          exact ⟨rfl, classifySource_prepared rfl admitted⟩

/-- The source that a claim makes of a candidate. -/
theorem claimed_answered {entry : DirEntry} {trace probed : InputTrace}
    {candidate : CartInputCandidate}
    (found : discoverEntry ops entry trace = (some candidate, probed))
    (answers : ops.Answers candidate.fd) :
    candidate.claimed.heldKeys = 0 ∧ ∀ slot, candidate.claimed.axisValid slot = true →
      candidate.claimed.lastRaw slot = probedAxes ops entry trace slot := by
  obtain ⟨fd, named, prepared⟩ := discoverEntry_prepared found
  rw [fd] at answers
  obtain ⟨held, axes⟩ := probeSnapshotAxes_answered answers named
    (probeVerdict ops (ops.openNode trace entry.name) (.ioctl (ops.openNode trace entry.name) ::
      .opened entry.name (ops.openNode trace entry.name) :: trace)).2
  simp only [CartInputCandidate.claimed, prepared]
  refine ⟨held, ?_⟩
  intro slot valid
  obtain ⟨absBits, bits, value⟩ := axes slot valid
  simp only [probedAxes, bits]
  exact value

end Answers

/-! ## Key bits -/

theorem oneBit_getLsbD {code other : Nat} (within : other < 64) :
    ((1 : U64) <<< code).getLsbD other = decide (other = code) := by
  have one (place : Nat) : (1 : U64).getLsbD place = decide (place = 0) := by
    rw [show (1 : U64) = 1#64 from rfl, BitVec.getLsbD_one]
    simp
  rw [BitVec.getLsbD_shiftLeft, one]
  by_cases same : other = code
  · simp [same, same ▸ within]
  · by_cases below : other < code
    · simp [below, same]
    · have apart : ¬ other - code = 0 := by omega
      simp [apart, same]

theorem castBit_getLsbD {code other : Nat} (within : other < 64) :
    (BitVec.ofNat 64 (1 <<< code)).getLsbD other = decide (other = code) := by
  rw [BitVec.getLsbD_ofNat, Nat.one_shiftLeft, Nat.testBit_two_pow]
  simp [within, eq_comm]

theorem mergeKeyState_getLsbD (state : Nat → UInt8) {code : Nat} (within : code < 64) :
    (mergeKeyState state).getLsbD code = bitTest state code := by
  have loop (count : Nat) :
      ((List.range count).foldl (fun (merged : U64) code =>
        merged ||| (if bitTest state code then 1 else 0) <<< code) 0).getLsbD code =
      (decide (code < count) && bitTest state code) := by
    induction count with
    | zero => simp
    | succ count ih =>
      rw [List.range_succ, List.foldl_append, List.foldl_cons, List.foldl_nil,
        BitVec.getLsbD_or, ih]
      by_cases same : code = count
      · subst same
        cases bitTest state code with
        | false => simp
        | true => simp [castBit_getLsbD within]
      · have next : code < count + 1 ↔ code < count := by omega
        cases bitTest state count with
        | false => simp [next]
        | true => simp [castBit_getLsbD within, same, next]
  rw [mergeKeyState, loop]
  simp [within]

theorem holdKey_getLsbD (source : CartInputSource) (code : BitVec 16) (value : Int32) {key : Nat}
    (within : key < 64) :
    (source.holdKey code value).heldKeys.getLsbD key =
      if code.toNat = key then decide (value ≠ 0) else source.heldKeys.getLsbD key := by
  simp only [CartInputSource.holdKey]
  by_cases small : code.toNat < 64
  · rw [if_pos small]
    by_cases down : value ≠ 0
    · rw [if_pos down]
      simp only [BitVec.getLsbD_or, oneBit_getLsbD within]
      by_cases same : code.toNat = key
      · simp [same, down]
      · simp [same, Ne.symm same]
    · rw [if_neg down]
      simp only [BitVec.getLsbD_and, BitVec.getLsbD_not, oneBit_getLsbD within]
      by_cases same : code.toNat = key
      · simp [same, down]
      · simp [same, Ne.symm same, within]
  · have apart : code.toNat ≠ key := by omega
    rw [if_neg small, if_neg apart]

end VitaLinux.Cart
