import VitaLinux.Base.CallSequences
import VitaLinux.Base.Placement
import VitaLinux.Cart.Input.Calls

/-!
# One device, one source

A rescan runs the same discovery while some slots are still connected. It opens
every node again, and what it claims goes into free slots without a look at what
the connected ones hold.
-/

namespace VitaLinux.Cart

open Base

/-- The node a connected source was opened from. -/
def CartInputSource.openNode (source : CartInputSource) : Option String :=
  if 0 ≤ source.fd then some source.node else none

def InputEngine.nodes (engine : InputEngine) (index : SourceIndex) : Option String :=
  (engine.source index).openNode

/-- No two connected sources were opened from the same node. -/
def InputEngine.OneSourcePerNode (engine : InputEngine) : Prop :=
  ∀ i j, 0 ≤ (engine.source i).fd → 0 ≤ (engine.source j).fd →
    (engine.source i).node = (engine.source j).node → i = j

theorem CartInputSource.openNode_iff {source : CartInputSource} {node : String} :
    source.openNode = some node ↔ 0 ≤ source.fd ∧ source.node = node := by
  simp only [CartInputSource.openNode]
  split
  case isTrue connected => simp [connected]
  case isFalse gone => simp [gone]

theorem oneSourcePerNode_iff {engine : InputEngine} :
    engine.OneSourcePerNode ↔ Distinct engine.nodes := by
  constructor
  · intro h i j node at_i at_j
    obtain ⟨connected_i, node_i⟩ := CartInputSource.openNode_iff.mp at_i
    obtain ⟨connected_j, node_j⟩ := CartInputSource.openNode_iff.mp at_j
    exact h i j connected_i connected_j (node_i.trans node_j.symm)
  · intro h i j connected_i connected_j same
    exact h i j _ (CartInputSource.openNode_iff.mpr ⟨connected_i, same⟩)
      (CartInputSource.openNode_iff.mpr ⟨connected_j, rfl⟩)

/-- The candidates of a discovery in the order of their claims. -/
def InputEngine.planned (ops : CartInputOps) (engine : InputEngine) (entries : List DirEntry) :
    List CartInputCandidate :=
  let (candidates, _) := discoverEntries ops [] engine.trace entries
  (cartInputPlan candidates candidates.length).1

/-- The candidates that a discovery has room for, in plan order. -/
def InputEngine.roomFor (ops : CartInputOps) (engine : InputEngine) (entries : List DirEntry) :
    List CartInputCandidate :=
  let (candidates, _) := discoverEntries ops [] engine.trace entries
  (cartInputPlan candidates candidates.length).1.take (freeCount engine.nodes)

/-- What a discovery has room for are different nodes that no connected source has
open. -/
def InputEngine.FindsNewNodes (ops : CartInputOps) (engine : InputEngine) : DirListing → Prop
  | .missing => True
  | .unreadable => True
  | .entries entries =>
    Fits engine.nodes ((engine.roomFor ops entries).map (·.prepared.node))

/-- A call that discovers finds new nodes. -/
def InputEngine.CallFindsNewNodes (ops : CartInputOps) (engine : InputEngine) :
    InputCall → Prop
  | .init listing => (InputEngine.blank engine.trace).FindsNewNodes ops listing
  | .poll _ => True
  | .rescan listing => engine.FindsNewNodes ops listing
  | .shutdown => True

/-! ## Discovery -/

theorem discoverEntry_opened {ops : CartInputOps} {entry : DirEntry} {trace : InputTrace}
    {candidate : CartInputCandidate} (found : (discoverEntry ops entry trace).1 = some candidate) :
    0 ≤ candidate.fd := by
  rcases discoverEntry_cases ops entry trace with
    e | ⟨_, e⟩ | ⟨_, _, _, e⟩ | ⟨opened, other, _, _, fd, _, e⟩
  · simp [e] at found
  · simp [e] at found
  · simp [e] at found
  · obtain rfl : other = candidate := by simpa [e] using found
    rw [fd]
    exact opened

theorem InputEngine.planned_opened (ops : CartInputOps) (engine : InputEngine)
    (entries : List DirEntry) : ∀ candidate ∈ engine.planned ops entries, 0 ≤ candidate.fd :=
  planned_all (fun _ _ _ found => discoverEntry_opened found) entries engine.trace _

theorem InputEngine.nodes_setSource (engine : InputEngine) (index : SourceIndex)
    (source : CartInputSource) :
    (engine.setSource index source).nodes =
      Function.update engine.nodes index source.openNode := by
  funext other
  by_cases same : other = index
  · subst same
    simp [InputEngine.nodes]
  · simp [InputEngine.nodes, same]

theorem InputEngine.nodes_of_source {engine engine' : InputEngine}
    (same : engine'.source = engine.source) : engine'.nodes = engine.nodes := by
  funext index
  rw [InputEngine.nodes, InputEngine.nodes, same]

theorem InputEngine.nodes_eq_none (engine : InputEngine) (index : SourceIndex) :
    engine.nodes index = none ↔ (engine.source index).fd < 0 := by
  rw [InputEngine.nodes, CartInputSource.openNode]
  split
  case isTrue connected => exact iff_of_false (by simp) (Int.not_lt.mpr connected)
  case isFalse gone => exact iff_of_true rfl (Int.not_le.mp gone)

/-- The claim loop places the nodes of the candidates. -/
theorem claimCandidates_nodes (candidates : List CartInputCandidate) :
    ∀ engine : InputEngine, (∀ candidate ∈ candidates, 0 ≤ candidate.fd) →
      (claimCandidates engine candidates).1.nodes =
        place engine.nodes (candidates.map (·.prepared.node)) := by
  induction candidates with
  | nil => exact fun _ _ => rfl
  | cons candidate candidates ih =>
    intro engine opened
    have rest := fun other mem => opened other (List.mem_cons_of_mem candidate mem)
    simp only [claimCandidates, claimCandidate, firstFreeSlot_eq engine.nodes_eq_none,
      List.map_cons]
    cases free : freeSlots engine.nodes with
    | nil =>
      have full : (engine.record [.closed candidate.fd]).nodes = engine.nodes := rfl
      dsimp only [List.head?_nil]
      rw [ih _ rest, full, place_full free, place_full free]
    | cons slot slots =>
      have claimed : candidate.claimed.openNode = some candidate.prepared.node :=
        CartInputSource.openNode_iff.mpr ⟨opened candidate List.mem_cons_self, rfl⟩
      dsimp only [List.head?_cons]
      rw [ih _ rest, InputEngine.nodes_setSource, claimed, place_cons free]

/-- A discovery places the nodes of what it finds. -/
theorem discoverPass_nodes (ops : CartInputOps) (entries : List DirEntry) (engine : InputEngine) :
    (discoverPass ops (.entries entries) engine).2.nodes =
      place engine.nodes ((engine.planned ops entries).map (·.prepared.node)) := by
  rw [discoverPass_entries]
  exact claimCandidates_nodes _ _ (engine.planned_opened ops entries)

/-- From distinct nodes a discovery leads to distinct nodes exactly when it finds
new ones. -/
theorem discoverPass_distinct_iff (ops : CartInputOps) {engine : InputEngine}
    (h : engine.OneSourcePerNode) (listing : DirListing) :
    (discoverPass ops listing engine).2.OneSourcePerNode ↔
      engine.FindsNewNodes ops listing := by
  cases listing with
  | missing => simpa [discoverPass, InputEngine.FindsNewNodes] using h
  | unreadable => simpa [discoverPass, InputEngine.FindsNewNodes] using h
  | entries entries =>
    rw [oneSourcePerNode_iff, discoverPass_nodes, place_distinct_iff, ← List.map_take]
    exact and_iff_right (oneSourcePerNode_iff.mp h)

/-! ## Polls and shutdowns -/

theorem Serves.nodes {index : SourceIndex} {engine engine' : InputEngine}
    (h : Serves index engine engine') : engine'.nodes = engine.nodes := by
  funext other
  by_cases same : other = index
  · subst same
    simp only [InputEngine.nodes, CartInputSource.openNode, h.fd, h.node]
  · simp only [InputEngine.nodes, h.source other same]

theorem OneSourcePerNode.empty {engine : InputEngine} (h : engine.OneSourcePerNode)
    (index : SourceIndex) {source : CartInputSource} (gone : source.fd < 0) :
    (engine.setSource index source).OneSourcePerNode := by
  rw [oneSourcePerNode_iff] at h ⊢
  apply h.of_sub
  intro other node at_other
  rw [InputEngine.nodes_setSource] at at_other
  by_cases same : other = index
  · subst same
    rw [Function.update_self, CartInputSource.openNode, if_neg (Int.not_le.mpr gone)] at at_other
    cases at_other
  · rwa [Function.update_of_ne same] at at_other

theorem handleDisconnect_oneSource {engine : InputEngine} (h : engine.OneSourcePerNode)
    (index : SourceIndex) : (handleDisconnect engine index).OneSourcePerNode := by
  have emptied : (engine.setSource index (engine.source index).disconnected).OneSourcePerNode :=
    OneSourcePerNode.empty h index (by simp [CartInputSource.disconnected])
  simp only [handleDisconnect]
  split
  · exact emptied
  · exact emptied

theorem cartInputPoll_oneSource {engine : InputEngine} (h : engine.OneSourcePerNode)
    (abi : Abi) (ops : CartInputOps) (fuel : Nat) :
    (cartInputPoll abi ops fuel engine).1.OneSourcePerNode := by
  have polled : (pollSources abi ops fuel (List.finRange 4) engine).1.OneSourcePerNode := by
    refine pollSources_keeps abi ops fuel (fun index e _ _ h => ?_) _ engine h
    obtain ⟨served, serves, ends⟩ := pumpSource_serves abi ops index fuel e
    have after : served.OneSourcePerNode := by
      rw [oneSourcePerNode_iff] at h ⊢
      rw [serves.nodes]
      exact h
    rcases ends with e | e
    · rw [e]
      exact after
    · rw [e]
      exact handleDisconnect_oneSource after index
  rw [oneSourcePerNode_iff] at polled ⊢
  rwa [InputEngine.nodes_of_source (cartInputPoll_source abi ops fuel engine)]

theorem cartInputShutdown_oneSource (engine : InputEngine) :
    (cartInputShutdown engine).OneSourcePerNode := by
  intro i _ connected
  rw [cartInputShutdown_source] at connected
  exact absurd connected (by decide)

/-! ## Runs -/

theorem InputEngine.blank_oneSource (trace : InputTrace) :
    (InputEngine.blank trace).OneSourcePerNode := by
  intro i j connected
  simp [InputEngine.blank, InputEngine.source, resetSource] at connected

/-- What a call makes of distinct nodes. -/
theorem InputEngine.call_oneSource_iff (abi : Abi) (ops : CartInputOps) {engine : InputEngine}
    (h : engine.OneSourcePerNode) (call : InputCall) :
    (engine.call abi ops call).1.OneSourcePerNode ↔ engine.CallFindsNewNodes ops call := by
  cases call with
  | init listing => exact discoverPass_distinct_iff ops (InputEngine.blank_oneSource _) listing
  | poll fuel => exact iff_of_true (cartInputPoll_oneSource h abi ops fuel) trivial
  | rescan listing => exact discoverPass_distinct_iff ops h listing
  | shutdown => exact iff_of_true (cartInputShutdown_oneSource engine) trivial

/-- Two connected sources never share a node, in any state of a run, exactly when
every discovery of the run has room only for nodes that no connected source has
open. A run starts with an initialisation, whatever was in memory. -/
theorem one_source_per_node_iff (abi : Abi) (ops : CartInputOps) (listing : DirListing)
    (calls : List InputCall) :
    let run := .init listing :: calls
    (∀ state ∈ callStates (InputEngine.call abi ops) (InputEngine.blank []) run,
        state.OneSourcePerNode) ↔
      AlwaysAllowed (InputEngine.call abi ops) (InputEngine.CallFindsNewNodes ops)
        (InputEngine.blank []) run :=
  callStates_iff (fun _ => True) (fun _ _ _ => trivial)
    (fun _ call _ h => InputEngine.call_oneSource_iff abi ops h call) _ _ trivial
    (InputEngine.blank_oneSource [])

/-- One healthy gamepad with nothing to read. -/
def idlePad : CartInputOps where
  openNode := fun trace _ => 3 + trace.length
  read := fun _ _ _ => .again
  ioctlName := fun _ _ => (3, "pad")
  ioctlKeyState := fun _ _ => some fun _ => 0
  ioctlBit := fun _ _ _ => some fun _ => 255
  ioctlAbs := fun _ _ _ => some ⟨0, -100, 100, 0⟩

/-- A rescan that sees the same directory opens the connected pad a second time. -/
theorem rescan_opens_twice :
    let found : DirListing := .entries [⟨"event0", none, some "pad", ""⟩]
    ¬ ∀ state ∈ callStates (InputEngine.call .ilp32 idlePad) (InputEngine.blank [])
        [.init found, .poll 1, .rescan found],
      state.OneSourcePerNode := by
  intro found all
  have last := all _ (List.getLast_mem (List.cons_ne_nil _ _))
  have same := last 0 1 (by decide +kernel) (by decide +kernel) (by decide +kernel)
  cases same

end VitaLinux.Cart
