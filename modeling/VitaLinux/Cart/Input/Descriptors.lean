import VitaLinux.Base.Handles
import VitaLinux.Cart.Input.Calls

/-!
# Who owns a descriptor

Every descriptor that open returns is held by one source or was closed, through
every mix of discoveries, polls, disconnects and shutdowns.
-/

namespace VitaLinux.Cart

open Base

/-- What a step does with a descriptor. -/
def InputStep.use : InputStep → Option (HandleUse Int)
  | .opened _ fd => if 0 ≤ fd then some (.opened fd) else none
  | .closed fd => some (.closed fd)
  | .read fd _ => some (.used fd)
  | .ioctl fd => some (.used fd)
  | .consumed _ _ => none
  | .emitted _ _ => none

/-- The uses of descriptors in a trace. -/
def uses (trace : InputTrace) : List (HandleUse Int) := trace.filterMap InputStep.use

/-- The descriptors open after a trace. -/
def openFds (trace : InputTrace) : List Int := openHandles (uses trace)

/-- open(2) never returns a descriptor that is still open. -/
def CartInputOps.Fresh (ops : CartInputOps) : Prop :=
  ∀ trace node, ops.openNode trace node ∉ openFds trace

theorem uses_append (later earlier : InputTrace) :
    uses (later ++ earlier) = uses later ++ uses earlier := by
  simp [uses]

theorem uses_opened {node : String} {fd : Int} (h : 0 ≤ fd) (trace : InputTrace) :
    uses (.opened node fd :: trace) = .opened fd :: uses trace := by
  simp [uses, InputStep.use, h]

theorem uses_refused {node : String} {fd : Int} (h : fd < 0) (trace : InputTrace) :
    uses (.opened node fd :: trace) = uses trace := by
  have negative : ¬ 0 ≤ fd := Int.not_le.mpr h
  simp [uses, InputStep.use, negative]

theorem openFds_nonneg {trace : InputTrace} {fd : Int} (h : fd ∈ openFds trace) : 0 ≤ fd := by
  induction trace with
  | nil => cases h
  | cons step trace ih =>
    cases step with
    | opened node other =>
      by_cases nonneg : 0 ≤ other
      · rw [openFds, uses_opened nonneg, openHandles] at h
        rcases List.mem_cons.mp h with rfl | mem
        · exact nonneg
        · exact ih mem
      · rw [openFds, uses_refused (Int.not_le.mp nonneg)] at h
        exact ih h
    | closed other => exact ih (List.mem_of_mem_erase h)
    | read other result => exact ih h
    | ioctl other => exact ih h
    | consumed other event => exact ih h
    | emitted index action => exact ih h

/-- The descriptor a source holds. -/
def CartInputSource.holds (source : CartInputSource) : Option Int :=
  if 0 ≤ source.fd then some source.fd else none

def InputEngine.holds (engine : InputEngine) (index : SourceIndex) : Option Int :=
  (engine.source index).holds

theorem CartInputSource.holds_iff {source : CartInputSource} {fd : Int} :
    source.holds = some fd ↔ source.fd = fd ∧ 0 ≤ fd := by
  simp only [CartInputSource.holds]
  split
  case isTrue nonneg =>
    rw [Option.some.injEq]
    constructor
    · rintro rfl
      exact ⟨rfl, nonneg⟩
    · exact And.left
  case isFalse negative =>
    constructor
    · intro h
      cases h
    · rintro ⟨rfl, nonneg⟩
      exact absurd nonneg negative

theorem InputEngine.holds_setSource (engine : InputEngine) (index : SourceIndex)
    (source : CartInputSource) :
    (engine.setSource index source).holds =
      Function.update engine.holds index source.holds := by
  funext other
  by_cases same : other = index
  · subst same
    simp [InputEngine.holds]
  · simp [InputEngine.holds, same]

/-! ## Serving a source -/

theorem Held.serves {log : InputTrace} {slot : SourceIndex → Option Int} {loose : List Int}
    {index : SourceIndex} {fd : Int} (h : Held (uses log) slot loose) (still : fd ∈ openFds log)
    {steps : InputTrace} (serves : ∀ step ∈ steps, step.Serves index fd) :
    Held (uses (steps ++ log)) slot loose ∧ fd ∈ openFds (steps ++ log) := by
  induction steps with
  | nil => exact ⟨h, still⟩
  | cons step steps ih =>
    obtain ⟨held, remains⟩ := ih fun other mem => serves other (List.mem_cons_of_mem _ mem)
    have this := serves step List.mem_cons_self
    cases step with
    | opened node other => exact this.elim
    | closed other => exact this.elim
    | read other result =>
      obtain rfl : other = fd := this
      exact ⟨held.used remains, remains⟩
    | ioctl other =>
      obtain rfl : other = fd := this
      exact ⟨held.used remains, remains⟩
    | consumed other event => exact ⟨held, remains⟩
    | emitted other action => exact ⟨held, remains⟩

/-- A slot's descriptor, state and contents agree. -/
structure CartInputSource.Sound (source : CartInputSource) (buffer : List UInt8) : Prop where
  connected : 0 ≤ source.fd ↔ source.state ≠ .absent
  heldKeys : source.state = .absent → source.heldKeys = 0
  lastRaw : source.state = .absent → ∀ slot, source.lastRaw slot = 0
  buffer : source.state = .absent → buffer = []

/-- The engine between two calls. -/
structure InputEngine.Sound (engine : InputEngine) : Prop where
  held : Held (uses engine.trace) engine.holds []
  sources : ∀ index, (engine.source index).Sound (engine.buffer index)

theorem Serves.sound {index : SourceIndex} {engine engine' : InputEngine}
    (h : Serves index engine engine') (sound : engine.Sound)
    (connected : 0 ≤ (engine.source index).fd) : engine'.Sound := by
  have present := (sound.sources index).connected.mp connected
  have holds : engine'.holds = engine.holds := by
    funext other
    by_cases same : other = index
    · subst same
      simp only [InputEngine.holds, CartInputSource.holds, h.fd]
    · simp only [InputEngine.holds, h.source other same]
  have open_ : (engine.source index).fd ∈ openFds engine.trace :=
    sound.held.mem_slot (i := index) (CartInputSource.holds_iff.mpr ⟨rfl, connected⟩)
  obtain ⟨steps, trace, serves⟩ := h.trace
  constructor
  · rw [trace, holds]
    exact (Held.serves sound.held open_ serves).1
  · intro other
    by_cases same : other = index
    · subst same
      have present' : (engine'.source other).state ≠ .absent := fun e => present (h.absent.mp e)
      constructor
      · rw [h.fd]
        exact iff_of_true connected present'
      · exact fun e => absurd e present'
      · exact fun e => absurd e present'
      · exact fun e => absurd e present'
    · rw [h.source other same, h.buffer other same]
      exact sound.sources other

theorem handleDisconnect_sound {engine : InputEngine} (sound : engine.Sound)
    (index : SourceIndex) (connected : 0 ≤ (engine.source index).fd) :
    (handleDisconnect engine index).Sound := by
  have holds : engine.holds index = some (engine.source index).fd :=
    CartInputSource.holds_iff.mpr ⟨rfl, connected⟩
  have closed := (sound.held.yield holds).closeLoose
  rw [handleDisconnect_eq connected]
  constructor
  · have slots : (((engine.record [.closed (engine.source index).fd]).setSource index
        (engine.source index).disconnected).setBuffer index []).holds =
        Function.update engine.holds index none := by
      exact InputEngine.holds_setSource _ _ _
    rw [slots]
    exact closed
  · intro other
    by_cases same : other = index
    · subst same
      constructor <;> simp [CartInputSource.disconnected]
    · simpa [same] using sound.sources other

theorem pumpSource_sound {engine : InputEngine} (sound : engine.Sound) (abi : Abi)
    (ops : CartInputOps) (index : SourceIndex) (fuel : Nat)
    (connected : 0 ≤ (engine.source index).fd) :
    (pumpSource abi ops index fuel engine).1.Sound := by
  obtain ⟨served, serves, ends⟩ := pumpSource_serves abi ops index fuel engine
  have after := serves.sound sound connected
  rcases ends with e | e
  · rw [e]
    exact after
  · rw [e]
    apply handleDisconnect_sound after
    rw [serves.fd]
    exact connected

theorem pollSources_sound {engine : InputEngine} (sound : engine.Sound) (abi : Abi)
    (ops : CartInputOps) (fuel : Nat) (indices : List SourceIndex) :
    (pollSources abi ops fuel indices engine).1.Sound := by
  induction indices generalizing engine with
  | nil => exact sound
  | cons index indices ih =>
    simp only [pollSources]
    split
    · exact ih sound
    case isFalse connected =>
      have pumped := pumpSource_sound sound abi ops index fuel (Int.not_lt.mp connected)
      split
      · exact ih sound
      · split
        · exact ih pumped
        · exact pumped

theorem cartInputPoll_sound {engine : InputEngine} (sound : engine.Sound) (abi : Abi)
    (ops : CartInputOps) (fuel : Nat) : (cartInputPoll abi ops fuel engine).1.Sound := by
  have polled := pollSources_sound sound abi ops fuel (List.finRange 4)
  simp only [cartInputPoll]
  split
  · split
    · exact polled
    · exact ⟨polled.held, polled.sources⟩
  · exact polled

/-! ## Discovery -/

theorem Held.asked {trace trace' : InputTrace} {slot : SourceIndex → Option Int}
    {loose : List Int} {fd : Int} (h : Held (uses trace) slot loose)
    (still : fd ∈ openFds trace) (asked : Asked fd trace trace') :
    Held (uses trace') slot loose := by
  obtain ⟨n, rfl⟩ := asked
  have log : uses (List.replicate n (.ioctl fd) ++ trace) =
      List.replicate n (.used fd) ++ uses trace := by
    rw [uses_append]
    congr 1
    induction n with
    | zero => rfl
    | succ n ih => simpa [uses, List.replicate_succ, InputStep.use] using ih
  rw [log]
  exact h.usedMany still n

theorem discoverEntry_held {ops : CartInputOps} (fresh : ops.Fresh) {trace : InputTrace}
    {slot : SourceIndex → Option Int} {loose : List Int} (h : Held (uses trace) slot loose)
    (entry : DirEntry) :
    Held (uses (discoverEntry ops entry trace).2) slot
      ((discoverEntry ops entry trace).1.toList.map (·.fd) ++ loose) := by
  have open_ (nonneg : 0 ≤ ops.openNode trace entry.name) :
      Held (uses (.opened entry.name (ops.openNode trace entry.name) :: trace)) slot
        (ops.openNode trace entry.name :: loose) := by
    rw [uses_opened nonneg]
    exact h.opened (fresh trace entry.name)
  have still (nonneg : 0 ≤ ops.openNode trace entry.name) :
      ops.openNode trace entry.name ∈
        openFds (.opened entry.name (ops.openNode trace entry.name) :: trace) := by
    rw [openFds, uses_opened nonneg]
    exact List.mem_cons_self
  rcases discoverEntry_cases ops entry trace with
    e | ⟨negative, e⟩ | ⟨nonneg, probed, asked, e⟩ | ⟨nonneg, candidate, probed, asked, fd, _, e⟩
  · rw [e]
    exact h
  · rw [e]
    rw [uses_refused negative]
    exact h
  · rw [e]
    exact (Held.asked (open_ nonneg) (still nonneg) asked).closeLoose
  · rw [e]
    simpa [fd] using Held.asked (open_ nonneg) (still nonneg) asked

theorem discoverEntries_held {ops : CartInputOps} (fresh : ops.Fresh)
    {slot : SourceIndex → Option Int} (entries : List DirEntry) :
    ∀ candidates trace, Held (uses trace) slot (candidates.map (·.fd)) →
      Held (uses (discoverEntries ops candidates trace entries).2) slot
        ((discoverEntries ops candidates trace entries).1.map (·.fd)) := by
  induction entries with
  | nil =>
    intro candidates trace h
    exact h
  | cons entry entries ih =>
    intro candidates trace h
    simp only [discoverEntries]
    split
    · apply ih
      rw [List.map_append]
      exact (discoverEntry_held fresh h entry).perm List.perm_append_comm
    · exact h

theorem claimCandidate_held {engine : InputEngine} {candidate : CartInputCandidate}
    {loose : List Int} (h : Held (uses engine.trace) engine.holds (candidate.fd :: loose)) :
    Held (uses (claimCandidate engine candidate).1.trace) (claimCandidate engine candidate).1.holds
      loose := by
  simp only [claimCandidate]
  cases free : firstFreeSlot engine.input with
  | none => exact h.closeLoose
  | some slot =>
    have negative := firstFreeSlot_free free
    have empty : engine.holds slot = none := if_neg (Int.not_le.mpr negative)
    have nonneg : 0 ≤ candidate.fd :=
      openFds_nonneg ((h.mem_iff candidate.fd).mpr (Or.inr List.mem_cons_self))
    have claimed : candidate.claimed.holds = some candidate.fd :=
      CartInputSource.holds_iff.mpr ⟨rfl, nonneg⟩
    simp only [InputEngine.holds_setSource, claimed]
    exact h.claim empty

theorem claimCandidates_held (candidates : List CartInputCandidate) :
    ∀ engine : InputEngine, Held (uses engine.trace) engine.holds (candidates.map (·.fd)) →
      Held (uses (claimCandidates engine candidates).1.trace)
        (claimCandidates engine candidates).1.holds [] := by
  induction candidates with
  | nil =>
    intro engine h
    exact h
  | cons candidate candidates ih =>
    intro engine h
    exact ih _ (claimCandidate_held h)

theorem claimCandidates_sources (candidates : List CartInputCandidate) :
    ∀ engine : InputEngine, (∀ candidate ∈ candidates, 0 ≤ candidate.fd) →
      (∀ index, (engine.source index).Sound (engine.buffer index)) →
      ∀ index, ((claimCandidates engine candidates).1.source index).Sound
        ((claimCandidates engine candidates).1.buffer index) := by
  induction candidates with
  | nil =>
    intro engine _ sound
    exact sound
  | cons candidate candidates ih =>
    intro engine nonneg sound
    have opened := nonneg candidate List.mem_cons_self
    simp only [claimCandidates]
    apply ih
    · exact fun other mem => nonneg other (List.mem_cons_of_mem _ mem)
    · simp only [claimCandidate]
      cases free : firstFreeSlot engine.input with
      | none => exact sound
      | some slot =>
        intro index
        by_cases same : index = slot
        · subst same
          constructor <;> simp [CartInputCandidate.claimed, opened]
        · simpa [same] using sound index

theorem discoverPass_sound {ops : CartInputOps} (fresh : ops.Fresh) {engine : InputEngine}
    (sound : engine.Sound) (listing : DirListing) :
    (discoverPass ops listing engine).2.Sound := by
  cases listing with
  | missing => exact sound
  | unreadable => exact sound
  | entries entries =>
    have gathered := discoverEntries_held fresh entries [] engine.trace sound.held
    rw [discoverPass_entries]
    generalize discoverEntries ops [] engine.trace entries = found at gathered ⊢
    have planned := cartInputPlan_perm found.1 found.1.length
    have loose : Held (uses found.2) engine.holds
        ((cartInputPlan found.1 found.1.length).1.map (·.fd)) :=
      gathered.perm (planned.map _).symm
    constructor
    · exact claimCandidates_held _ { engine with trace := found.2 } loose
    · apply claimCandidates_sources _ { engine with trace := found.2 }
      · intro candidate mem
        have still : candidate.fd ∈ openFds found.2 :=
          (loose.mem_iff _).mpr (Or.inr (List.mem_map_of_mem mem))
        exact openFds_nonneg still
      · exact sound.sources

/-! ## Starting and stopping -/

theorem resetSource_sound : resetSource.Sound [] := by
  constructor <;> simp [resetSource, CartInputSource.zero]

/-- The first initialisation, of an engine with no descriptor open. -/
theorem cartInputInitEx_sound {ops : CartInputOps} (fresh : ops.Fresh) (listing : DirListing) :
    (cartInputInitEx ops listing []).2.Sound := by
  apply discoverPass_sound fresh
  constructor
  · exact Held.start
  · exact fun _ => resetSource_sound

theorem shutdownSource_held {engine : InputEngine} (index : SourceIndex)
    (h : Held (uses engine.trace) engine.holds []) :
    Held (uses (shutdownSource engine index).trace) (shutdownSource engine index).holds [] ∧
      (shutdownSource engine index).holds = Function.update engine.holds index none := by
  have slots : (shutdownSource engine index).holds = Function.update engine.holds index none := by
    simp only [shutdownSource]
    split
    · exact InputEngine.holds_setSource _ _ _
    · exact InputEngine.holds_setSource _ _ _
  refine ⟨?_, slots⟩
  rw [slots]
  simp only [shutdownSource]
  split
  case isTrue connected =>
    exact (h.yield (CartInputSource.holds_iff.mpr ⟨rfl, connected⟩)).closeLoose
  case isFalse free =>
    have empty : engine.holds index = none := if_neg free
    rwa [← empty, Function.update_eq_self]

/-- The shutdown loop empties the slots it passes. -/
theorem shutdownSources_held (indices : List SourceIndex) :
    ∀ engine : InputEngine, Held (uses engine.trace) engine.holds [] →
      Held (uses (indices.foldl shutdownSource engine).trace)
        (indices.foldl shutdownSource engine).holds [] ∧
      ∀ index, index ∈ indices ∨ engine.holds index = none →
        (indices.foldl shutdownSource engine).holds index = none := by
  induction indices with
  | nil =>
    intro engine h
    exact ⟨h, fun index empty => empty.resolve_left (by simp)⟩
  | cons first indices ih =>
    intro engine h
    obtain ⟨held, slots⟩ := shutdownSource_held first h
    obtain ⟨all, empties⟩ := ih _ held
    refine ⟨all, ?_⟩
    intro index cases_
    apply empties
    rw [slots]
    by_cases same : index = first
    · subst same
      exact Or.inr (Function.update_self ..)
    · rcases cases_ with mem | empty
      · exact Or.inl ((List.mem_cons.mp mem).resolve_left same)
      · exact Or.inr (by rw [Function.update_of_ne same, empty])

theorem cartInputShutdown_sound {engine : InputEngine} (sound : engine.Sound) :
    (cartInputShutdown engine).Sound := by
  constructor
  · exact (shutdownSources_held (List.finRange 4) engine sound.held).1
  · intro index
    rw [cartInputShutdown_source]
    exact resetSource_sound

theorem cartInputShutdown_closes {engine : InputEngine} (sound : engine.Sound) :
    openFds (cartInputShutdown engine).trace = [] := by
  obtain ⟨held, empties⟩ := shutdownSources_held (List.finRange 4) engine sound.held
  apply List.eq_nil_iff_forall_not_mem.mpr
  intro fd still
  rcases (held.mem_iff fd).mp still with ⟨index, holds⟩ | mem
  · rw [empties index (Or.inl (List.mem_finRange index))] at holds
    cases holds
  · cases mem

/-! ## Runs -/

theorem InputEngine.call_sound {ops : CartInputOps} (fresh : ops.Fresh) (abi : Abi)
    {engine : InputEngine} (sound : engine.Sound) (call : InputCall)
    (again : ∀ listing, call ≠ .init listing) : (engine.call abi ops call).1.Sound := by
  cases call with
  | init listing => exact absurd rfl (again listing)
  | poll fuel => exact cartInputPoll_sound sound abi ops fuel
  | rescan listing => exact discoverPass_sound fresh sound listing
  | shutdown => exact cartInputShutdown_sound sound

/-- A step needs this descriptor to be open. -/
def InputStep.Needs (fd : Int) : InputStep → Prop
  | .opened _ _ => False
  | .closed other => other = fd
  | .read other _ => other = fd
  | .ioctl other => other = fd
  | .consumed _ _ => False
  | .emitted _ _ => False

theorem disciplined_needs {later earlier : InputTrace} {step : InputStep} {fd : Int}
    (h : Disciplined (uses (later ++ step :: earlier))) (needs : step.Needs fd) :
    fd ∈ openFds earlier := by
  rw [uses_append] at h
  have this := h.of_append
  cases step with
  | opened node other => exact needs.elim
  | closed other =>
    obtain rfl : other = fd := needs
    exact this.1
  | read other result =>
    obtain rfl : other = fd := needs
    exact this.1
  | ioctl other =>
    obtain rfl : other = fd := needs
    exact this.1
  | consumed other event => exact needs.elim
  | emitted index action => exact needs.elim

/-- How often a descriptor is closed after a point of the run, up to the next time
open returns it. -/
def closesAfter (fd : Int) (later : InputTrace) : Nat := closings fd (uses later).reverse

/-- Descriptor ownership in one state of the engine. -/
structure InputEngine.OwnsDescriptors (engine : InputEngine) : Prop where
  /-- What open returned was closed exactly once, or one source holds it. -/
  owned : ∀ later node fd earlier, engine.trace = later ++ .opened node fd :: earlier → 0 ≤ fd →
    closesAfter fd later = 1 ∨
      (closesAfter fd later = 0 ∧ ∃ index, (engine.source index).fd = fd ∧
        ∀ other, (engine.source other).fd = fd → other = index)
  connected : ∀ index, 0 ≤ (engine.source index).fd ↔ (engine.source index).state ≠ .absent
  absent : ∀ index, (engine.source index).state = .absent →
    (engine.source index).heldKeys = 0 ∧ (∀ slot, (engine.source index).lastRaw slot = 0) ∧
      engine.buffer index = []
  /-- No read, ioctl or close was issued on a descriptor that was not open. -/
  lawful : ∀ later step earlier fd, engine.trace = later ++ step :: earlier → step.Needs fd →
    fd ∈ openFds earlier

theorem InputEngine.Sound.owned {engine : InputEngine} (sound : engine.Sound)
    {later earlier : InputTrace} {node : String} {fd : Int}
    (trace : engine.trace = later ++ .opened node fd :: earlier) (opened : 0 ≤ fd) :
    closesAfter fd later = 1 ∨
      (closesAfter fd later = 0 ∧ ∃ index, (engine.source index).fd = fd ∧
        ∀ other, (engine.source other).fd = fd → other = index) := by
  have log : uses engine.trace = uses later ++ .opened fd :: uses earlier := by
    rw [trace, uses_append, uses_opened opened]
  have disciplined := sound.held.disciplined
  rw [log] at disciplined
  rcases disciplined.closed_once_or_open with ⟨once, _⟩ | ⟨zero, _, still⟩
  · exact Or.inl once
  · rw [← log] at still
    obtain ⟨index, holds, unique⟩ := sound.held.unique still
    refine Or.inr ⟨zero, index, (CartInputSource.holds_iff.mp holds).1, ?_⟩
    intro other same
    exact unique other (CartInputSource.holds_iff.mpr ⟨same, opened⟩)

theorem InputEngine.Sound.ownsDescriptors {engine : InputEngine} (sound : engine.Sound) :
    engine.OwnsDescriptors where
  owned := fun _ _ _ _ trace opened => sound.owned trace opened
  connected := fun index => (sound.sources index).connected
  absent := fun index gone =>
    ⟨(sound.sources index).heldKeys gone, (sound.sources index).lastRaw gone,
      (sound.sources index).buffer gone⟩
  lawful := by
    intro later step earlier fd trace needs
    have disciplined := sound.held.disciplined
    rw [trace] at disciplined
    exact disciplined_needs disciplined needs

/-- After an initialisation and any polls, rescans and shutdowns every descriptor is
accounted for, and a shutdown then leaves none open. -/
theorem descriptors_owned (abi : Abi) (ops : CartInputOps) (fresh : ops.Fresh)
    (listing : DirListing) (calls : List InputCall)
    (once : ∀ call ∈ calls, ∀ listing, call ≠ .init listing) :
    let engine := (cartInputInitEx ops listing []).2.run abi ops calls
    engine.OwnsDescriptors ∧ openFds (cartInputShutdown engine).trace = [] := by
  have sound := InputEngine.run_invariant abi ops InputEngine.Sound
    (fun call => ∀ listing, call ≠ .init listing)
    (fun engine call again sound => InputEngine.call_sound fresh abi sound call again)
    (cartInputInitEx_sound fresh listing) once
  exact ⟨sound.ownsDescriptors, cartInputShutdown_closes sound⟩

/-- A lawful table: open gives a descriptor above all open ones, every node is a
gamepad with all its axes centred, and each read fails. -/
def brokenPads : CartInputOps where
  openNode := fun trace _ => (openFds trace).foldr max 2 + 1
  read := fun _ _ _ => .failed
  ioctlName := fun _ _ => (3, "pad")
  ioctlKeyState := fun _ _ => some fun _ => 0
  ioctlBit := fun _ _ _ => some fun _ => 255
  ioctlAbs := fun _ _ _ => some ⟨0, -100, 100, 0⟩

theorem brokenPads_fresh : brokenPads.Fresh := by
  intro trace node mem
  have bounded (fds : List Int) : ∀ fd ∈ fds, fd ≤ fds.foldr max 2 := by
    induction fds with
    | nil => simp
    | cons first fds ih =>
      intro fd mem
      rcases List.mem_cons.mp mem with rfl | mem
      · exact le_max_left _ _
      · exact (ih fd mem).trans (le_max_right _ _)
  have above := bounded _ _ mem
  simp only [brokenPads] at above
  omega

/-- Two pads are found, lost at the first poll, found again and shut down. -/
theorem descriptors_owned_reconnect :
    let found : DirListing :=
      .entries [⟨"event0", none, some "pad", ""⟩, ⟨"event1", none, some "pad", ""⟩]
    let engine := (cartInputInitEx brokenPads found []).2.run .ilp32 brokenPads
      [.poll 1, .rescan found]
    (engine.source 1).fd = 4 ∧ engine.OwnsDescriptors ∧
      openFds (cartInputShutdown engine).trace = [] :=
  ⟨by decide +kernel, descriptors_owned .ilp32 brokenPads brokenPads_fresh _ _ (by simp)⟩

end VitaLinux.Cart
