import VitaLinux.Cart.Input.Frame
import VitaLinux.Cart.Input.Generations

/-!
# Axis ownership and rank

`build_frame` takes an axis from the source with the lowest index and relies on "Lower
source index == higher-or-equal rank". One discovery establishes that order. The next one
puts what it finds into the first free slots, whatever the other slots hold.
-/

namespace VitaLinux.Cart

open Base

/-- An engine with the rank that the device in each slot had at its discovery. A claim
drops the candidate's rank: the field of the source keeps the zero it was prepared with. -/
structure RankedEngine where
  engine : InputEngine
  rank : SourceIndex → Int

namespace RankedEngine

/-- The claim loop, which notes the rank of every candidate that finds a slot. -/
def claims (ranked : RankedEngine) : List CartInputCandidate → RankedEngine
  | [] => ranked
  | candidate :: candidates =>
    let (engine, _) := claimCandidate ranked.engine candidate
    match firstFreeSlot ranked.engine.input with
    | none => claims { ranked with engine } candidates
    | some slot =>
      claims { engine, rank := Function.update ranked.rank slot candidate.rank } candidates

/-- The ranks after a discovery. -/
def discovered (ops : CartInputOps) (listing : DirListing) (ranked : RankedEngine) :
    SourceIndex → Int :=
  match listing with
  | .missing => ranked.rank
  | .unreadable => ranked.rank
  | .entries entries =>
    let (_, trace) := discoverEntries ops [] ranked.engine.trace entries
    (claims { ranked with engine := { ranked.engine with trace } }
      (ranked.engine.planned ops entries)).rank

/-- The engine after a call, with the ranks of its devices, and whether the call returned. -/
def call (abi : Abi) (ops : CartInputOps) (ranked : RankedEngine) (call : InputCall) :
    RankedEngine × Bool :=
  let (engine, returned) := ranked.engine.call abi ops call
  let rank :=
    match call with
    | .init listing =>
      discovered ops listing { ranked with engine := .blank ranked.engine.trace }
    | .poll _ => ranked.rank
    | .rescan listing => discovered ops listing ranked
    | .shutdown => ranked.rank
  ({ engine, rank }, returned)

/-- Memory before the first call. -/
def blank : RankedEngine := { engine := .blank [], rank := fun _ => 0 }

/-- "Lower source index == higher-or-equal rank" -/
def RankOrdered (ranked : RankedEngine) : Prop :=
  ∀ i j, i < j → (ranked.engine.source i).state ≠ .absent →
    (ranked.engine.source j).state ≠ .absent → ranked.rank j ≤ ranked.rank i

/-- The frame takes every axis that some connected source provides from one that has the
highest rank among those that provide it. -/
def HighestRankOwns (ranked : RankedEngine) : Prop :=
  ∀ slot index, (ranked.engine.source index).Provides slot →
    ∃ owner : SourceIndex, (buildFrame ranked.engine.input).owner slot = some owner.val ∧
      (ranked.engine.source owner).Provides slot ∧ ranked.rank index ≤ ranked.rank owner

/-- The ranks of the connected sources. -/
def ranks (ranked : RankedEngine) (index : SourceIndex) : Option Int :=
  if (ranked.engine.source index).state = .absent then none else some (ranked.rank index)

/-- Every candidate that finds a slot has no higher rank than the sources connected below
that slot and no lower rank than those connected above it. -/
def PlacesByRank (ops : CartInputOps) (ranked : RankedEngine) : InputCall → Prop
  | .rescan (.entries entries) =>
    FitsOrder ranked.ranks ((ranked.engine.planned ops entries).map (·.rank))
  | _ => True

end RankedEngine

/-! ## What a slot holds -/

/-- A slot is free exactly when its source is absent. -/
def InputEngine.Tidy (engine : InputEngine) : Prop :=
  ∀ index, (engine.source index).state = .absent ↔ (engine.source index).fd < 0

theorem InputEngine.Tidy.setSource {engine : InputEngine} (tidy : engine.Tidy)
    {index : SourceIndex} {source : CartInputSource}
    (agree : source.state = .absent ↔ source.fd < 0) : (engine.setSource index source).Tidy := by
  intro other
  by_cases same : other = index
  · subst same
    rwa [InputEngine.source_setSource_self]
  · rw [InputEngine.source_setSource_of_ne _ _ same]
    exact tidy other

theorem InputEngine.Tidy.ranks_eq_none {ranked : RankedEngine} (tidy : ranked.engine.Tidy)
    (index : SourceIndex) :
    ranked.ranks index = none ↔ (ranked.engine.source index).fd < 0 := by
  rw [RankedEngine.ranks, ← tidy index]
  split
  case isTrue absent => exact iff_of_true rfl absent
  case isFalse connected => exact iff_of_false (by simp) connected

theorem RankedEngine.ranks_iff {ranked : RankedEngine} {index : SourceIndex} {rank : Int} :
    ranked.ranks index = some rank ↔
      (ranked.engine.source index).state ≠ .absent ∧ ranked.rank index = rank := by
  rw [RankedEngine.ranks]
  split
  case isTrue absent => simp [absent]
  case isFalse connected => simp [connected]

theorem RankedEngine.rankOrdered_iff {ranked : RankedEngine} :
    ranked.RankOrdered ↔ Descending ranked.ranks := by
  constructor
  · intro h i j x y before at_i at_j
    obtain ⟨connected_i, rfl⟩ := ranks_iff.mp at_i
    obtain ⟨connected_j, rfl⟩ := ranks_iff.mp at_j
    exact h i j before connected_i connected_j
  · intro h i j before connected_i connected_j
    exact h i j _ _ before (ranks_iff.mpr ⟨connected_i, rfl⟩) (ranks_iff.mpr ⟨connected_j, rfl⟩)

/-! ## Claims -/

theorem RankedEngine.claims_engine (candidates : List CartInputCandidate) :
    ∀ ranked : RankedEngine,
      (ranked.claims candidates).engine = (claimCandidates ranked.engine candidates).1 := by
  induction candidates with
  | nil => exact fun _ => rfl
  | cons candidate candidates ih =>
    intro ranked
    simp only [RankedEngine.claims, claimCandidates]
    split
    · exact ih _
    · exact ih _

/-- The claim loop places the ranks of the candidates. -/
theorem RankedEngine.claims_ranks (candidates : List CartInputCandidate) :
    ∀ ranked : RankedEngine, ranked.engine.Tidy → (∀ candidate ∈ candidates, 0 ≤ candidate.fd) →
      (ranked.claims candidates).engine.Tidy ∧
        (ranked.claims candidates).ranks = place ranked.ranks (candidates.map (·.rank)) := by
  induction candidates with
  | nil => exact fun _ tidy _ => ⟨tidy, rfl⟩
  | cons candidate candidates ih =>
    intro ranked tidy opened
    have rest := fun other mem => opened other (List.mem_cons_of_mem candidate mem)
    simp only [RankedEngine.claims, claimCandidate, firstFreeSlot_eq tidy.ranks_eq_none,
      List.map_cons]
    cases free : freeSlots ranked.ranks with
    | nil =>
      dsimp only [List.head?_nil]
      obtain ⟨tidy', after⟩ := ih
        { ranked with engine := ranked.engine.record [.closed candidate.fd] } tidy rest
      refine ⟨tidy', after.trans ?_⟩
      have full : ({ ranked with engine := ranked.engine.record [.closed candidate.fd] } :
        RankedEngine).ranks = ranked.ranks := rfl
      rw [full, place_full free, place_full free]
    | cons slot slots =>
      dsimp only [List.head?_cons]
      have agree : candidate.claimed.state = .absent ↔ candidate.claimed.fd < 0 :=
        iff_of_false CartInputState.noConfusion
          (Int.not_lt.mpr (opened candidate List.mem_cons_self))
      obtain ⟨tidy', after⟩ := ih
        { engine := ranked.engine.setSource slot candidate.claimed
          rank := Function.update ranked.rank slot candidate.rank } (tidy.setSource agree) rest
      refine ⟨tidy', after.trans ?_⟩
      rw [place_cons free]
      congr
      funext index
      by_cases same : index = slot
      · subst same
        simp [RankedEngine.ranks, CartInputCandidate.claimed]
      · simp [RankedEngine.ranks, same]

theorem InputEngine.planned_ranks (ops : CartInputOps) (engine : InputEngine)
    (entries : List DirEntry) :
    ((engine.planned ops entries).map (·.rank)).Pairwise (· ≥ ·) :=
  List.pairwise_map.mpr ((cartInputPlan_ordered _).imp fun precedes => precedes.rank_le)

theorem claimCandidates_tidy {engine : InputEngine} (tidy : engine.Tidy)
    {candidates : List CartInputCandidate} (opened : ∀ candidate ∈ candidates, 0 ≤ candidate.fd) :
    (claimCandidates engine candidates).1.Tidy := by
  rw [← RankedEngine.claims_engine candidates { engine, rank := fun _ => 0 }]
  exact (RankedEngine.claims_ranks candidates _ tidy opened).1

theorem discoverPass_tidy (ops : CartInputOps) (listing : DirListing) {engine : InputEngine}
    (tidy : engine.Tidy) : (discoverPass ops listing engine).2.Tidy := by
  cases listing with
  | missing => exact tidy
  | unreadable => exact tidy
  | entries entries =>
    rw [discoverPass_entries]
    have tidy' : InputEngine.Tidy
        { engine with trace := (discoverEntries ops [] engine.trace entries).2 } := tidy
    exact claimCandidates_tidy tidy' (engine.planned_opened ops entries)

/-- The engine after a discovery, with the ranks of its devices. -/
def RankedEngine.discover (ops : CartInputOps) (listing : DirListing) (ranked : RankedEngine) :
    RankedEngine :=
  { engine := (discoverPass ops listing ranked.engine).2, rank := ranked.discovered ops listing }

/-- A discovery places the ranks of what it finds. -/
theorem RankedEngine.discover_ranks (ops : CartInputOps) (entries : List DirEntry)
    {ranked : RankedEngine} (tidy : ranked.engine.Tidy) :
    (ranked.discover ops (.entries entries)).ranks =
      place ranked.ranks ((ranked.engine.planned ops entries).map (·.rank)) := by
  rw [RankedEngine.discover, discoverPass_entries]
  have claimed := claims_engine (ranked.engine.planned ops entries)
    { ranked with engine := { ranked.engine with
        trace := (discoverEntries ops [] ranked.engine.trace entries).2 } }
  have placed := (claims_ranks (ranked.engine.planned ops entries)
    { ranked with engine := { ranked.engine with
        trace := (discoverEntries ops [] ranked.engine.trace entries).2 } } tidy
    (ranked.engine.planned_opened ops entries)).2
  refine Eq.trans ?_ placed
  funext index
  simp only [RankedEngine.ranks, claimed]
  rfl

theorem RankedEngine.discover_rankOrdered_iff (ops : CartInputOps) (entries : List DirEntry)
    {ranked : RankedEngine} (tidy : ranked.engine.Tidy) (ordered : ranked.RankOrdered) :
    (ranked.discover ops (.entries entries)).RankOrdered ↔
      FitsOrder ranked.ranks ((ranked.engine.planned ops entries).map (·.rank)) := by
  rw [rankOrdered_iff, discover_ranks ops entries tidy,
    place_descending_iff (ranked.engine.planned_ranks ops entries)]
  exact and_iff_right (rankOrdered_iff.mp ordered)

/-! ## Polls -/

/-- Serving a source keeps the slots tidy and connects none of them. -/
theorem pumpSource_tidy (abi : Abi) (ops : CartInputOps) (index : SourceIndex) (fuel : Nat)
    {engine : InputEngine} (tidy : engine.Tidy) :
    (pumpSource abi ops index fuel engine).1.Tidy ∧
      ∀ slot, (engine.source slot).state = .absent →
        ((pumpSource abi ops index fuel engine).1.source slot).state = .absent := by
  obtain ⟨served, serves, ends⟩ := pumpSource_serves abi ops index fuel engine
  have stays (slot : SourceIndex) : (served.source slot).state = .absent ↔
      (engine.source slot).state = .absent := by
    by_cases same : slot = index
    · subst same
      exact serves.absent
    · rw [serves.source slot same]
  have tidy' : served.Tidy := by
    intro slot
    rw [stays slot, tidy slot]
    by_cases same : slot = index
    · subst same
      rw [serves.fd]
    · rw [serves.source slot same]
  rcases ends with e | e
  · rw [e]
    exact ⟨tidy', fun slot => (stays slot).mpr⟩
  · rw [e]
    refine ⟨fun slot => ?_, fun slot absent => ?_⟩
    · by_cases same : slot = index
      · subst same
        rw [handleDisconnect_source]
        exact iff_of_true rfl (show (-1 : Int) < 0 by decide)
      · rw [handleDisconnect_source_of_ne _ _ same]
        exact tidy' slot
    · by_cases same : slot = index
      · subst same
        rw [handleDisconnect_source]
        rfl
      · rw [handleDisconnect_source_of_ne _ _ same]
        exact (stays slot).mpr absent

theorem cartInputPoll_tidy (abi : Abi) (ops : CartInputOps) (fuel : Nat) {engine : InputEngine}
    (tidy : engine.Tidy) :
    (cartInputPoll abi ops fuel engine).1.Tidy ∧
      ∀ slot, (engine.source slot).state = .absent →
        ((cartInputPoll abi ops fuel engine).1.source slot).state = .absent := by
  have polled := pollSources_keeps (P := fun after => after.Tidy ∧
      ∀ slot, (engine.source slot).state = .absent → (after.source slot).state = .absent)
    abi ops fuel (fun index after _ _ kept => ?_) (List.finRange 4) engine ⟨tidy, fun _ => id⟩
  · rw [InputEngine.Tidy, cartInputPoll_source]
    exact polled
  · obtain ⟨tidy', stays⟩ := pumpSource_tidy abi ops index fuel kept.1
    exact ⟨tidy', fun slot absent => stays slot (kept.2 slot absent)⟩

/-! ## Calls -/

theorem InputEngine.blank_tidy (trace : InputTrace) : (InputEngine.blank trace).Tidy :=
  fun _ => iff_of_true rfl (show (-1 : Int) < 0 by decide)

theorem InputEngine.call_tidy (abi : Abi) (ops : CartInputOps) {engine : InputEngine}
    (tidy : engine.Tidy) (call : InputCall) : (engine.call abi ops call).1.Tidy := by
  cases call with
  | init listing => exact discoverPass_tidy ops listing (InputEngine.blank_tidy _)
  | poll fuel => exact (cartInputPoll_tidy abi ops fuel tidy).1
  | rescan listing => exact discoverPass_tidy ops listing tidy
  | shutdown =>
    intro index
    have reset : (engine.call abi ops .shutdown).1.source index = resetSource :=
      cartInputShutdown_source engine index
    rw [reset]
    exact iff_of_true rfl (by decide)

/-- What a call makes of sources in the order of their ranks. -/
theorem RankedEngine.call_rankOrdered_iff (abi : Abi) (ops : CartInputOps)
    {ranked : RankedEngine} (tidy : ranked.engine.Tidy) (ordered : ranked.RankOrdered)
    (call : InputCall) :
    (ranked.call abi ops call).1.RankOrdered ↔ ranked.PlacesByRank ops call := by
  cases call with
  | init listing =>
    refine iff_of_true ?_ trivial
    have empty : ∀ index, ranks { ranked with engine := .blank ranked.engine.trace } index =
        none := fun _ => rfl
    have start : RankOrdered { ranked with engine := .blank ranked.engine.trace } :=
      fun i _ _ connected => absurd rfl connected
    cases listing with
    | missing => exact start
    | unreadable => exact start
    | entries entries =>
      refine (discover_rankOrdered_iff ops entries (InputEngine.blank_tidy _) start).mpr ?_
      intro i label _ j other at_j
      rw [empty j] at at_j
      cases at_j
  | poll fuel =>
    refine iff_of_true ?_ trivial
    intro i j before connected_i connected_j
    have stays := (cartInputPoll_tidy abi ops fuel tidy).2
    exact ordered i j before (fun absent => connected_i (stays i absent))
      (fun absent => connected_j (stays j absent))
  | rescan listing =>
    cases listing with
    | missing => exact iff_of_true ordered trivial
    | unreadable => exact iff_of_true ordered trivial
    | entries entries => exact discover_rankOrdered_iff ops entries tidy ordered
  | shutdown =>
    refine iff_of_true ?_ trivial
    intro i j _ connected
    have reset : (ranked.engine.call abi ops .shutdown).1.source i = resetSource :=
      cartInputShutdown_source ranked.engine i
    exact absurd (by rw [RankedEngine.call, reset]; rfl) connected

/-- The owner of an axis is the first source that provides it, so it has the highest rank
where ranks do not rise. -/
theorem RankedEngine.RankOrdered.highestRankOwns {ranked : RankedEngine}
    (ordered : ranked.RankOrdered) : ranked.HighestRankOwns := by
  intro slot index provides
  have found : ((List.finRange 4).find? fun i =>
      (ranked.engine.source i).Provides slot).isSome := by
    rw [List.find?_isSome]
    exact ⟨index, List.mem_finRange index, decide_eq_true provides⟩
  obtain ⟨owner, first⟩ := Option.isSome_iff_exists.mp found
  have owns : (ranked.engine.source owner).Provides slot := by
    simpa using List.find?_some first
  refine ⟨owner, ?_, owns, ?_⟩
  · rw [buildFrame_owner]
    exact congrArg (Option.map Fin.val) first
  · obtain ⟨_, before, after, split, none⟩ := List.find?_eq_some_iff_append.mp first
    have sorted := List.pairwise_lt_finRange 4
    have mem := List.mem_finRange index
    rw [split] at sorted mem
    rcases List.mem_append.mp mem with earlier | later
    · have absent := none index earlier
      simp [provides] at absent
    · rcases List.mem_cons.mp later with rfl | later
      · exact Int.le_refl _
      · have above := (List.pairwise_cons.mp (List.pairwise_append.mp sorted).2.1).1 index later
        exact ordered owner index above owns.1 provides.1

/-! ## Runs -/

/-- **Lower indices have the higher ranks, and the highest rank owns each axis**, in every
state of a run, exactly when every rescan of the run places what it finds by rank. -/
theorem rank_order_iff (abi : Abi) (ops : CartInputOps) (listing : DirListing)
    (calls : List InputCall) :
    let run := .init listing :: calls
    (∀ state ∈ callStates (RankedEngine.call abi ops) RankedEngine.blank run,
        state.RankOrdered ∧ state.HighestRankOwns) ↔
      AlwaysAllowed (RankedEngine.call abi ops) (RankedEngine.PlacesByRank ops)
        RankedEngine.blank run := by
  have start : RankedEngine.blank.RankOrdered := fun i _ _ connected => absurd rfl connected
  have both (state : RankedEngine) :
      state.RankOrdered ∧ state.HighestRankOwns ↔ state.RankOrdered :=
    and_iff_left_of_imp fun ordered => ordered.highestRankOwns
  simp only [both]
  exact callStates_iff (fun state => state.engine.Tidy)
    (fun _ call tidy => InputEngine.call_tidy abi ops tidy call)
    (fun _ call tidy ordered => RankedEngine.call_rankOrdered_iff abi ops tidy ordered call)
    _ _ (InputEngine.blank_tidy []) start

/-- The ranks are a note beside the engine, which passes through the same states. -/
theorem ranked_states (abi : Abi) (ops : CartInputOps) (calls : List InputCall)
    (ranked : RankedEngine) :
    (callStates (RankedEngine.call abi ops) ranked calls).map (·.engine) =
      callStates (InputEngine.call abi ops) ranked.engine calls :=
  callStates_map RankedEngine.engine (fun _ _ => ⟨rfl, rfl⟩) calls ranked

/-- A pad is connected first; when the Vita's own buttons are there too, they get a later
slot, and the pad keeps their axes. -/
theorem rescan_breaks_rank_order :
    let pad : DirEntry := ⟨"event0", none, some "pad", ""⟩
    let buttons : DirEntry := ⟨"event1", some "vita_syscon_buttons\n", none, ""⟩
    ¬ ∀ state ∈ callStates (RankedEngine.call .ilp32 idlePad) RankedEngine.blank
        [.init (.entries [pad]), .rescan (.entries [pad, buttons])],
      state.RankOrdered ∧ state.HighestRankOwns := by
  intro pad buttons all
  have last := (all _ (List.getLast_mem (List.cons_ne_nil _ _))).1
  have order := last 0 1 (by decide) (by decide +kernel) (by decide +kernel)
  exact absurd order (by decide +kernel)

end VitaLinux.Cart
