import Mathlib.Data.List.Rotate
import VitaLinux.Cart.Input.OneSource

/-!
# Which nodes an initialisation claims

The directory is read until 16 nodes were admitted. Among those, which nodes get the four
slots does not depend on the order of the directory, only on ranks and numbers.
-/

namespace VitaLinux.Cart

open Base

/-! ## Nodes that always answer the same -/

/-- What a node answers to an open and to the questions of a probe. -/
structure NodeAnswers where
  opens : Bool
  nameLength : Int
  bits : Nat → Option (Nat → UInt8)

/-- The node last opened under a descriptor. -/
def nodeUnder (fd : Int) : InputTrace → Option String
  | [] => none
  | .opened node other :: trace => if other = fd then some node else nodeUnder fd trace
  | _ :: trace => nodeUnder fd trace

/-- Every node answers the same whenever it is asked. -/
structure CartInputOps.Fixed (ops : CartInputOps) (answers : String → NodeAnswers) : Prop where
  opens : ∀ trace node, 0 ≤ ops.openNode trace node ↔ (answers node).opens = true
  name : ∀ trace fd node, nodeUnder fd trace = some node →
    (ops.ioctlName trace fd).1 = (answers node).nameLength
  bits : ∀ trace fd node, nodeUnder fd trace = some node →
    ops.ioctlBit trace fd = (answers node).bits

/-- A table behind which there is one device. -/
def NodeAnswers.table (answers : NodeAnswers) : CartInputOps where
  openNode := fun _ _ => if answers.opens then 0 else -1
  read := fun _ _ _ => .again
  ioctlName := fun _ _ => (answers.nameLength, "")
  ioctlKeyState := fun _ _ => none
  ioctlBit := fun _ _ => answers.bits
  ioctlAbs := fun _ _ _ => none

/-- What the probe makes of a node: 2 gamepad, 1 keyboard, 0 neither. -/
def NodeAnswers.verdict (answers : NodeAnswers) : Int := (probeVerdict answers.table 0 []).1

/-- The entry, without what the buffer for the name line held before. -/
def DirEntry.clean (entry : DirEntry) : DirEntry := { entry with stale := "" }

/-- The name line of an event node is read, or nothing looks at it. -/
def DirEntry.NameRead (entry : DirEntry) : Prop :=
  (eventNodeNumber entry.name).isSome → entry.deviceName.isSome ∨
    readTrimmedLine entry.phys 128 "" = VITA_BUTTONS_PHYS

instance (entry : DirEntry) : Decidable entry.NameRead := inferInstanceAs (Decidable (_ → _))

/-- A node that discovery admits. -/
structure AdmittedNode where
  rank : Int
  number : Nat
  node : String
  deriving DecidableEq, Repr

/-- Higher ranks come first, lower numbers within a rank. -/
def AdmittedNode.Precedes (first second : AdmittedNode) : Prop :=
  second.rank < first.rank ∨ (first.rank = second.rank ∧ first.number ≤ second.number)

/-- The node of a directory entry, where it is admitted: an event node with a short name
that opens, has a name and is a gamepad or a keyboard. -/
def DirEntry.admitted (answers : String → NodeAnswers) (entry : DirEntry) :
    Option AdmittedNode :=
  match eventNodeNumber entry.name with
  | none => none
  | some number =>
    let node := answers entry.name
    if CART_INPUT_NODE_MAX ≤ entry.name.length ∨ node.opens = false ∨ node.nameLength ≤ 0 ∨
        node.verdict = 0 then none
    else
      some { rank := max entry.clean.sysfsRank node.verdict, number, node := entry.name }

def CartInputCandidate.admitted (candidate : CartInputCandidate) : AdmittedNode :=
  { rank := candidate.rank, number := candidate.number, node := candidate.prepared.node }

/-! ## Probing -/

theorem nodeUnder_asked {fd other : Int} {before after : InputTrace}
    (asked : Asked other before after) : nodeUnder fd after = nodeUnder fd before := by
  obtain ⟨n, rfl⟩ := asked
  induction n with
  | zero => rfl
  | succ n ih => exact ih

section Probe

variable {ops : CartInputOps} {fd : Int} {trace : InputTrace} {answers : NodeAnswers}
  (bits : ∀ after, Asked fd trace after → ops.ioctlBit after fd = answers.bits)

include bits

theorem probeIsGamepad_fixed :
    (probeIsGamepad ops fd trace).1 = (probeIsGamepad answers.table 0 []).1 := by
  have first := bits trace (Asked.refl fd trace)
  have second := bits (.ioctl fd :: trace) (Asked.refl fd trace).ioctl
  simp only [probeIsGamepad, first, second, NodeAnswers.table]
  split
  · rfl
  · split
    · rfl
    · rfl

theorem probeIsActionKeyboard_fixed :
    (probeIsActionKeyboard ops fd trace).1 =
      (probeIsActionKeyboard answers.table 0 (probeIsGamepad answers.table 0 []).2).1 := by
  have first := bits trace (Asked.refl fd trace)
  simp only [probeIsActionKeyboard, first, NodeAnswers.table]
  split
  · rfl
  · rfl

theorem probeVerdict_fixed : (probeVerdict ops fd trace).1 = answers.verdict := by
  have gamepad := probeIsGamepad_fixed bits
  have asked := probeIsGamepad_asked ops fd trace
  have later : ∀ after, Asked fd (probeIsGamepad ops fd trace).2 after →
      ops.ioctlBit after fd = answers.bits :=
    fun after more => bits after (asked.trans more)
  have keyboard := probeIsActionKeyboard_fixed later
  simp only [NodeAnswers.verdict, probeVerdict, gamepad, keyboard]
  split
  · rfl
  · rfl

end Probe

theorem probeVerdict_nonneg (ops : CartInputOps) (fd : Int) (trace : InputTrace) :
    0 ≤ (probeVerdict ops fd trace).1 := by
  simp only [probeVerdict]
  split
  · exact Int.zero_le_ofNat 2
  · dsimp only
    split
    · exact Int.zero_le_ofNat 1
    · exact Int.le_refl 0

theorem classifySource_fixed {ops : CartInputOps} {fd : Int} {trace : InputTrace}
    {answers : NodeAnswers} (name : (ops.ioctlName trace fd).1 = answers.nameLength)
    (bits : ∀ after, Asked fd trace after → ops.ioctlBit after fd = answers.bits)
    (scratch : CartInputSource) (sysfsRank : Int) :
    (classifySource scratch ops fd sysfsRank trace).1 =
      if answers.nameLength ≤ 0 ∨ answers.verdict = 0 then 0
      else max sysfsRank answers.verdict := by
  have verdict : (probeVerdict ops fd (.ioctl fd :: trace)).1 = answers.verdict :=
    probeVerdict_fixed fun after asked => bits after ((Asked.refl fd trace).ioctl.trans asked)
  simp only [classifySource, name, verdict]
  by_cases unnamed : answers.nameLength ≤ 0
  · simp [unnamed]
  · by_cases junk : answers.verdict = 0
    · simp [unnamed, junk]
    · simp only [unnamed, junk, or_self, if_false]
      split <;> omega

theorem DirEntry.NameRead.sysfsRank {entry : DirEntry} (read : entry.NameRead)
    (event : (eventNodeNumber entry.name).isSome) : entry.sysfsRank = entry.clean.sysfsRank := by
  rcases read event with named | phys
  · obtain ⟨contents, named⟩ := Option.isSome_iff_exists.mp named
    simp only [DirEntry.sysfsRank, DirEntry.clean, named, readTrimmedLine]
  · simp only [DirEntry.sysfsRank, DirEntry.clean, phys, if_true]

/-! ## Gathering -/

section Gather

variable {ops : CartInputOps} {answers : String → NodeAnswers} (fixed : ops.Fixed answers)

include fixed

theorem discoverEntry_admitted {entry : DirEntry} (read : entry.NameRead) (trace : InputTrace) :
    (discoverEntry ops entry trace).1.map (·.admitted) = entry.admitted answers := by
  simp only [discoverEntry, DirEntry.admitted]
  cases event : eventNodeNumber entry.name with
  | none => rfl
  | some number =>
    by_cases long : CART_INPUT_NODE_MAX ≤ entry.name.length
    · simp [long]
    · have opens := fixed.opens trace entry.name
      by_cases refused : ops.openNode trace entry.name < 0
      · have closed : (answers entry.name).opens = false := by
          rw [← Bool.not_eq_true, ← opens]
          exact Int.not_le.mpr refused
        simp [long, refused, closed]
      · have opened := opens.mp (Int.not_lt.mp refused)
        have under : nodeUnder (ops.openNode trace entry.name)
            (.opened entry.name (ops.openNode trace entry.name) :: trace) = some entry.name :=
          if_pos rfl
        have rank := classifySource_fixed (fixed.name _ _ _ under)
          (fun after asked => fixed.bits after _ _ ((nodeUnder_asked asked).trans under))
          { CartInputSource.zero with fd := -1, node := entry.name } entry.sysfsRank
        have node := (classifySource_keeps
          { CartInputSource.zero with fd := -1, node := entry.name } ops
          (ops.openNode trace entry.name) entry.sysfsRank
          (.opened entry.name (ops.openNode trace entry.name) :: trace)).1.node
        have positive := probeVerdict_nonneg (answers entry.name).table 0 []
        have metadata := read.sysfsRank (by rw [event]; rfl)
        by_cases junk : (answers entry.name).nameLength ≤ 0 ∨ (answers entry.name).verdict = 0
        · rw [if_pos junk] at rank
          simp [long, refused, opened, junk, rank]
        · rw [if_neg junk] at rank
          have admitted : max entry.sysfsRank (answers entry.name).verdict ≠ 0 := by
            rw [not_or] at junk
            simp only [NodeAnswers.verdict] at *
            omega
          simp [long, refused, opened, junk, rank, admitted, CartInputCandidate.admitted, node,
            ← metadata]

/-- The loop gathers the nodes it admits until there are 16. -/
theorem discoverEntries_admitted {entries : List DirEntry}
    (read : ∀ entry ∈ entries, entry.NameRead) :
    ∀ candidates trace, candidates.length ≤ CANDIDATE_CAP →
      (discoverEntries ops candidates trace entries).1.map (·.admitted) =
        (candidates.map (·.admitted) ++ entries.filterMap (·.admitted answers)).take
          CANDIDATE_CAP := by
  induction entries with
  | nil =>
    intro candidates trace room
    rw [List.filterMap_nil, List.append_nil, List.take_of_length_le (by simpa using room)]
    rfl
  | cons entry entries ih =>
    intro candidates trace room
    have readEntry := read entry List.mem_cons_self
    have readRest := fun other mem => read other (List.mem_cons_of_mem entry mem)
    simp only [discoverEntries]
    split
    case isTrue below =>
      have found := discoverEntry_admitted fixed readEntry trace
      have gathered : (candidates ++ (discoverEntry ops entry trace).1.toList).length ≤
          CANDIDATE_CAP := by
        rw [List.length_append]
        have one : (discoverEntry ops entry trace).1.toList.length ≤ 1 := by
          cases (discoverEntry ops entry trace).1 with
          | none => exact Nat.zero_le 1
          | some candidate => exact Nat.le_refl 1
        omega
      have step : (entry :: entries).filterMap (·.admitted answers) =
          (entry.admitted answers).toList ++ entries.filterMap (·.admitted answers) := by
        cases admits : entry.admitted answers with
        | none => simp [admits]
        | some node => simp [admits]
      rw [ih readRest _ _ gathered, List.map_append, List.append_assoc, step, ← found]
      congr 2
      cases (discoverEntry ops entry trace).1 with
      | none => rfl
      | some candidate => rfl
    case isFalse full =>
      have full : (candidates.map (·.admitted)).length = CANDIDATE_CAP := by
        rw [List.length_map]
        omega
      rw [← full, List.take_left]

end Gather

/-! ## Selecting -/

/-- An initialisation hands out the slots in plan order. -/
theorem cartInputInitEx_nodes (ops : CartInputOps) (entries : List DirEntry) (trace : InputTrace)
    (slot : SourceIndex) :
    (cartInputInitEx ops (.entries entries) trace).2.nodes slot =
      (((InputEngine.blank trace).planned ops entries)[slot.val]?).map (·.prepared.node) := by
  have empty : (InputEngine.blank trace).nodes = fun _ => none := rfl
  rw [cartInputInitEx, discoverPass_nodes, empty, place_empty, List.getElem?_map]

/-- The nodes in the order of their ranks and numbers. -/
def Ranking (best nodes : List AdmittedNode) : Prop :=
  best.Perm nodes ∧ best.Pairwise AdmittedNode.Precedes

theorem planned_ranking {ops : CartInputOps} {answers : String → NodeAnswers}
    (fixed : ops.Fixed answers) {entries : List DirEntry}
    (read : ∀ entry ∈ entries, entry.NameRead) (engine : InputEngine) :
    Ranking ((engine.planned ops entries).map (·.admitted))
      ((entries.filterMap (·.admitted answers)).take CANDIDATE_CAP) := by
  have gathered := discoverEntries_admitted fixed read [] engine.trace (Nat.zero_le _)
  constructor
  · rw [List.map_nil, List.nil_append] at gathered
    rw [← gathered]
    exact (cartInputPlan_perm _ _).map _
  · exact List.pairwise_map.mpr (cartInputPlan_ordered _)

/-- Of nodes with distinct numbers there is one ranking. -/
theorem Ranking.unique {best best' nodes nodes' : List AdmittedNode} (h : Ranking best nodes)
    (h' : Ranking best' nodes') (same : nodes'.Perm nodes)
    (distinct : (nodes.map (·.number)).Nodup) : best' = best := by
  refine List.Perm.eq_of_pairwise (fun first second mem mem' before after => ?_) h'.2 h.2
    (h'.1.trans (same.trans h.1.symm))
  have number : first.number = second.number := by
    simp only [AdmittedNode.Precedes] at *
    omega
  exact List.inj_on_of_nodup_map distinct (same.mem_iff.mp (h'.1.mem_iff.mp mem))
    (h.1.mem_iff.mp mem') number

theorem DirEntry.admitted_number {answers : String → NodeAnswers} {entry : DirEntry}
    {node : AdmittedNode} (h : entry.admitted answers = some node) :
    eventNodeNumber entry.name = some node.number := by
  simp only [DirEntry.admitted] at h
  split at h
  · cases h
  case h_2 number event =>
    split at h
    · cases h
    · rw [event, ← Option.some.inj h]

theorem admitted_distinct {entries : List DirEntry}
    (distinct : (entries.filterMap fun entry => eventNodeNumber entry.name).Nodup)
    (answers : String → NodeAnswers) :
    ((entries.filterMap (·.admitted answers)).map (·.number)).Nodup := by
  rw [List.Nodup, List.pairwise_map, List.pairwise_filterMap]
  refine (List.pairwise_filterMap.mp distinct).imp ?_
  intro first second differ node admits node' admits'
  exact differ _ (DirEntry.admitted_number admits) _ (DirEntry.admitted_number admits')

theorem filterMap_clean (answers : String → NodeAnswers) (entries : List DirEntry) :
    (entries.map DirEntry.clean).filterMap (·.admitted answers) =
      entries.filterMap (·.admitted answers) :=
  List.filterMap_map

/-- **Which nodes an initialisation claims**: in the order of the slots the first by rank and
number of the first 16 nodes it admits. If it admits no more than 16, the order of the
directory decides nothing. -/
theorem init_selects (ops : CartInputOps) (answers : String → NodeAnswers)
    (fixed : ops.Fixed answers) (entries : List DirEntry)
    (read : ∀ entry ∈ entries, entry.NameRead)
    (distinct : (entries.filterMap fun entry => eventNodeNumber entry.name).Nodup)
    (trace : InputTrace) :
    (∃ best, Ranking best ((entries.filterMap (·.admitted answers)).take CANDIDATE_CAP) ∧
      ∀ slot : SourceIndex, (cartInputInitEx ops (.entries entries) trace).2.nodes slot =
        (best[slot.val]?).map (·.node)) ∧
    ((entries.filterMap (·.admitted answers)).length ≤ CANDIDATE_CAP →
      ∀ (ops' : CartInputOps) (entries' : List DirEntry) (trace' : InputTrace),
        ops'.Fixed answers →
        (entries'.map DirEntry.clean).Perm (entries.map DirEntry.clean) →
        (cartInputInitEx ops' (.entries entries') trace').2.nodes =
          (cartInputInitEx ops (.entries entries) trace).2.nodes) := by
  have claims {ops : CartInputOps} {entries : List DirEntry} (trace : InputTrace)
      (slot : SourceIndex) :
      (cartInputInitEx ops (.entries entries) trace).2.nodes slot =
        ((((InputEngine.blank trace).planned ops entries).map (·.admitted))[slot.val]?).map
          (·.node) := by
    rw [cartInputInitEx_nodes, List.getElem?_map, Option.map_map]
    rfl
  have ranking := planned_ranking fixed read (InputEngine.blank trace)
  refine ⟨⟨_, ranking, claims trace⟩, fun few ops' entries' trace' fixed' same => ?_⟩
  have read' : ∀ entry ∈ entries', entry.NameRead := by
    intro entry mem
    have mem' := same.mem_iff.mp (List.mem_map_of_mem mem)
    obtain ⟨other, mem', clean⟩ := List.mem_map.mp mem'
    have readOther : other.clean.NameRead := read other mem'
    rw [clean] at readOther
    exact readOther
  have nodes := same.filterMap (·.admitted answers)
  rw [filterMap_clean, filterMap_clean] at nodes
  have few' := few
  rw [← nodes.length_eq] at few'
  have ranking' := planned_ranking fixed' read' (InputEngine.blank trace')
  rw [List.take_of_length_le few] at ranking
  rw [List.take_of_length_le few'] at ranking'
  funext slot
  rw [claims trace' slot, claims trace slot,
    ranking.unique ranking' nodes (admitted_distinct distinct answers)]

/-- A directory entry of a gamepad. -/
def padEntry (name : String) : DirEntry := ⟨name, none, some "pad", ""⟩

theorem idlePad_fixed : idlePad.Fixed fun _ => ⟨true, 3, fun _ => some fun _ => 255⟩ where
  opens trace _ := iff_of_true (show (0 : Int) ≤ 3 + trace.length by omega) rfl
  name _ _ _ _ := rfl
  bits _ _ _ _ := rfl

theorem init_selects_two_pads :
    let entries := [padEntry "event10", padEntry "event9"]
    (cartInputInitEx idlePad (.entries entries.reverse) []).2.nodes =
      (cartInputInitEx idlePad (.entries entries) []).2.nodes := by
  intro entries
  exact (init_selects idlePad _ idlePad_fixed entries (by decide) (by decide) []).2
    (by decide +kernel) idlePad entries.reverse [] idlePad_fixed
    ((List.reverse_perm entries).map _)

/-- The node that a full directory lists last is not looked at. -/
theorem seventeenth_pad_is_missed :
    let pads := (["event0", "event1", "event2", "event3", "event4", "event5", "event6", "event7",
      "event8", "event9", "event10", "event11", "event12", "event13", "event14", "event15",
      "event16"]).map padEntry
    idlePad.Fixed (fun _ => ⟨true, 3, fun _ => some fun _ => 255⟩) ∧
      (∀ entry ∈ pads, entry.NameRead) ∧
      (pads.filterMap fun entry => eventNodeNumber entry.name).Nodup ∧
      (pads.rotate 1).Perm pads ∧
      (cartInputInitEx idlePad (.entries (pads.rotate 1)) []).2.nodes ≠
        (cartInputInitEx idlePad (.entries pads) []).2.nodes := by
  intro pads
  refine ⟨idlePad_fixed, by decide +kernel, by decide +kernel, List.rotate_perm pads 1, ?_⟩
  intro same
  have first := congrFun same 0
  exact absurd first (by decide +kernel)

end VitaLinux.Cart
