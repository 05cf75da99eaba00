import VitaLinux.Cart.Input.OneSource

/-!
# Connection generations

A claim copies a source that was prepared from zeroed memory into the slot and then
bumps the generation, so a connect always leaves 1. A disconnect bumps it to 2, and the
next connect of the slot goes back to 1.
-/

namespace VitaLinux.Cart

/-- The memory in which a call looks for free slots. An initialisation empties it first. -/
def InputEngine.beforeDiscovery (engine : InputEngine) : InputCall → InputEngine
  | .init _ => InputEngine.blank engine.trace
  | .poll _ => engine
  | .rescan _ => engine
  | .shutdown => engine

/-- The slot becomes connected in this call. -/
def InputEngine.Connects (abi : Abi) (ops : CartInputOps) (engine : InputEngine)
    (call : InputCall) (slot : SourceIndex) : Prop :=
  ((engine.beforeDiscovery call).source slot).state ≠ .connected ∧
    ((engine.call abi ops call).1.source slot).state = .connected

/-- Whenever a slot becomes connected, its generation is above all that it had `earlier`
in the run. Within a call the generation takes no other value than those before and
after it, and zero. -/
def InputEngine.ConnectsRaise (abi : Abi) (ops : CartInputOps) (earlier : List InputEngine)
    (engine : InputEngine) : List InputCall → Prop
  | [] => True
  | call :: calls =>
    let (next, returned) := engine.call abi ops call
    (∀ slot, engine.Connects abi ops call slot → ∀ before ∈ engine :: earlier,
      (before.source slot).generation < (next.source slot).generation) ∧
      if returned then next.ConnectsRaise abi ops (engine :: earlier) calls else True

instance (abi : Abi) (ops : CartInputOps) (engine : InputEngine) (call : InputCall)
    (slot : SourceIndex) : Decidable (engine.Connects abi ops call slot) :=
  inferInstanceAs (Decidable (_ ∧ _))

instance InputEngine.decidableConnectsRaise (abi : Abi) (ops : CartInputOps) :
    (earlier : List InputEngine) → (engine : InputEngine) → (calls : List InputCall) →
      Decidable (engine.ConnectsRaise abi ops earlier calls)
  | _, _, [] => isTrue trivial
  | earlier, engine, call :: calls =>
    haveI := decidableConnectsRaise abi ops (engine :: earlier) (engine.call abi ops call).1 calls
    inferInstanceAs (Decidable
      ((∀ slot, engine.Connects abi ops call slot → ∀ before ∈ engine :: earlier,
        (before.source slot).generation <
          ((engine.call abi ops call).1.source slot).generation) ∧
        if (engine.call abi ops call).2 then
          (engine.call abi ops call).1.ConnectsRaise abi ops (engine :: earlier) calls
        else True))

/-- No slot becomes connected that was connected before in the run. -/
def InputEngine.ConnectsOnce (abi : Abi) (ops : CartInputOps) (used : SourceIndex → Prop)
    (engine : InputEngine) : List InputCall → Prop
  | [] => True
  | call :: calls =>
    let (next, returned) := engine.call abi ops call
    (∀ slot, engine.Connects abi ops call slot → ¬ used slot) ∧
      if returned then
        next.ConnectsOnce abi ops (fun slot => used slot ∨ engine.Connects abi ops call slot) calls
      else True

/-! ## One call -/

theorem claimCandidates_slot (candidates : List CartInputCandidate) (slot : SourceIndex) :
    ∀ engine : InputEngine,
      (claimCandidates engine candidates).1.source slot = engine.source slot ∨
        ∃ candidate ∈ candidates,
          (claimCandidates engine candidates).1.source slot = candidate.claimed := by
  induction candidates with
  | nil => exact fun _ => .inl rfl
  | cons candidate candidates ih =>
    intro engine
    simp only [claimCandidates]
    rcases ih (claimCandidate engine candidate).1 with kept | ⟨other, mem, claimed⟩
    · rw [kept, claimCandidate]
      cases firstFreeSlot engine.input with
      | none => exact .inl rfl
      | some free =>
        by_cases same : slot = free
        · subst same
          exact .inr ⟨candidate, List.mem_cons_self, InputEngine.source_setSource_self ..⟩
        · exact .inl (InputEngine.source_setSource_of_ne _ _ same)
    · exact .inr ⟨other, List.mem_cons_of_mem candidate mem, claimed⟩

/-- A discovery leaves a slot as it was, or connects it with generation 1. -/
theorem discoverPass_slot (ops : CartInputOps) (listing : DirListing) (engine : InputEngine)
    (slot : SourceIndex) :
    (discoverPass ops listing engine).2.source slot = engine.source slot ∨
      (((discoverPass ops listing engine).2.source slot).state = .connected ∧
        ((discoverPass ops listing engine).2.source slot).generation = 1) := by
  cases listing with
  | missing => exact .inl rfl
  | unreadable => exact .inl rfl
  | entries entries =>
    rw [discoverPass_entries]
    rcases claimCandidates_slot _ slot { engine with
      trace := (discoverEntries ops [] engine.trace entries).2 } with kept | ⟨candidate, mem, claimed⟩
    · exact .inl kept
    · have zero := planned_all (fun _ _ _ found => discoverEntry_generation found) entries
        engine.trace _ candidate mem
      rw [claimed]
      refine .inr ⟨rfl, ?_⟩
      rw [CartInputCandidate.claimed, zero]
      rfl

/-- Serving a source does not connect it. -/
theorem pumpSource_slot (abi : Abi) (ops : CartInputOps) (index : SourceIndex) (fuel : Nat)
    {engine : InputEngine} (served : (engine.source index).state ≠ .desync) (slot : SourceIndex)
    (unconnected : (engine.source slot).state ≠ .connected) :
    ((pumpSource abi ops index fuel engine).1.source slot).state ≠ .connected := by
  obtain ⟨after, serves, ends⟩ := pumpSource_serves abi ops index fuel engine
  have kept : (after.source slot).state ≠ .connected := by
    by_cases same : slot = index
    · subst same
      have absent : (engine.source slot).state = .absent := by
        cases state : (engine.source slot).state with
        | absent => rfl
        | connected => exact absurd state unconnected
        | desync => exact absurd state served
      rw [serves.absent.mpr absent]
      exact CartInputState.noConfusion
    · rw [serves.source slot same]
      exact unconnected
  rcases ends with e | e
  · rw [e]
    exact kept
  · rw [e]
    by_cases same : slot = index
    · subst same
      rw [handleDisconnect_source]
      exact CartInputState.noConfusion
    · rw [handleDisconnect_source_of_ne _ _ same]
      exact kept

theorem discoverPass_connects (ops : CartInputOps) (listing : DirListing) (engine : InputEngine)
    (slot : SourceIndex) :
    ((engine.source slot).state ≠ .connected ∧
        ((discoverPass ops listing engine).2.source slot).state = .connected →
      ((discoverPass ops listing engine).2.source slot).generation = 1) ∧
    (¬ ((engine.source slot).state ≠ .connected ∧
        ((discoverPass ops listing engine).2.source slot).state = .connected) →
      engine.source slot = resetSource →
      (discoverPass ops listing engine).2.source slot = resetSource) := by
  rcases discoverPass_slot ops listing engine slot with kept | ⟨connected, generation⟩
  · rw [kept]
    exact ⟨fun both => absurd both.2 both.1, fun _ reset => reset⟩
  · refine ⟨fun _ => generation, fun none reset => absurd ⟨?_, connected⟩ none⟩
    rw [reset]
    exact CartInputState.noConfusion

/-- What a call makes of a slot: it connects it with generation 1, or leaves it empty. -/
theorem call_slot (abi : Abi) (ops : CartInputOps) (engine : InputEngine) (call : InputCall)
    (slot : SourceIndex) :
    (engine.Connects abi ops call slot →
      ((engine.call abi ops call).1.source slot).generation = 1) ∧
    (¬ engine.Connects abi ops call slot → engine.source slot = resetSource →
      (engine.call abi ops call).1.source slot = resetSource) := by
  cases call with
  | init listing =>
    obtain ⟨connects, stays⟩ := discoverPass_connects ops listing (.blank engine.trace) slot
    exact ⟨connects, fun none _ => stays none rfl⟩
  | rescan listing => exact discoverPass_connects ops listing engine slot
  | poll fuel =>
    have polled : (engine.call abi ops (.poll fuel)).1.source =
        (pollSources abi ops fuel (List.finRange 4) engine).1.source :=
      cartInputPoll_source abi ops fuel engine
    rw [InputEngine.Connects, polled]
    constructor
    · rintro ⟨before, after⟩
      exact absurd after (pollSources_keeps (P := fun e => (e.source slot).state ≠ .connected) abi
        ops fuel (fun _ _ _ served h => pumpSource_slot abi ops _ fuel served slot h) _ engine before)
    · intro _ reset
      refine pollSources_keeps (P := fun e => e.source slot = resetSource) abi ops fuel
        (fun index e present _ h => ?_) _ engine reset
      have different : slot ≠ index := by
        rintro rfl
        rw [h] at present
        exact absurd present (by decide)
      rw [pumpSource_other abi ops fuel e different, h]
  | shutdown =>
    have reset : (engine.call abi ops .shutdown).1.source slot = resetSource :=
      cartInputShutdown_source engine slot
    rw [InputEngine.Connects, reset]
    exact ⟨fun both => absurd both.2 CartInputState.noConfusion, fun _ _ => rfl⟩

/-! ## Runs -/

/-- What the slots that were never connected, and those that were, had in the run. -/
structure InputEngine.Remembers (used : SourceIndex → Prop) (earlier : List InputEngine)
    (engine : InputEngine) : Prop where
  empty : ∀ slot, ¬ used slot → engine.source slot = resetSource
  zero : ∀ slot, ¬ used slot → ∀ before ∈ engine :: earlier, (before.source slot).generation = 0
  raised : ∀ slot, used slot → ∃ before ∈ engine :: earlier, (before.source slot).generation = 1

theorem InputEngine.Remembers.call {abi : Abi} {ops : CartInputOps} {used : SourceIndex → Prop}
    {earlier : List InputEngine} {engine : InputEngine} (h : engine.Remembers used earlier)
    (call : InputCall) :
    (engine.call abi ops call).1.Remembers
      (fun slot => used slot ∨ engine.Connects abi ops call slot) (engine :: earlier) := by
  have stays (slot : SourceIndex) (unused : ¬ (used slot ∨ engine.Connects abi ops call slot)) :
      (engine.call abi ops call).1.source slot = resetSource :=
    (call_slot abi ops engine call slot).2 (fun connects => unused (.inr connects))
      (h.empty slot fun before => unused (.inl before))
  refine ⟨stays, fun slot unused before mem => ?_, fun slot became => ?_⟩
  · rcases List.mem_cons.mp mem with rfl | mem
    · rw [stays slot unused]
      rfl
    · exact h.zero slot (fun used => unused (.inl used)) before mem
  · rcases became with before | connects
    · obtain ⟨state, mem, one⟩ := h.raised slot before
      exact ⟨state, List.mem_cons_of_mem _ mem, one⟩
    · exact ⟨_, List.mem_cons_self, (call_slot abi ops engine call slot).1 connects⟩

theorem InputEngine.connectsRaise_iff (abi : Abi) (ops : CartInputOps) (calls : List InputCall) :
    ∀ (used : SourceIndex → Prop) (earlier : List InputEngine) (engine : InputEngine),
      engine.Remembers used earlier →
      (engine.ConnectsRaise abi ops earlier calls ↔ engine.ConnectsOnce abi ops used calls) := by
  induction calls with
  | nil => exact fun _ _ _ _ => Iff.rfl
  | cons call calls ih =>
    intro used earlier engine h
    simp only [InputEngine.ConnectsRaise, InputEngine.ConnectsOnce]
    refine and_congr (forall_congr' fun slot => forall_congr' fun connects => ?_) ?_
    · rw [(call_slot abi ops engine call slot).1 connects]
      constructor
      · intro above used
        obtain ⟨before, mem, one⟩ := h.raised slot used
        have below := above before mem
        rw [one] at below
        exact absurd below (by decide)
      · intro unused before mem
        rw [h.zero slot unused before mem]
        decide
    · split
      · exact ih _ _ _ (h.call call)
      · exact Iff.rfl

/-- **Generations rise exactly while no slot is connected twice**, in every run from an
initialisation on. -/
theorem connects_raise_iff (abi : Abi) (ops : CartInputOps) (listing : DirListing)
    (calls : List InputCall) :
    let run := .init listing :: calls
    (InputEngine.blank []).ConnectsRaise abi ops [] run ↔
      (InputEngine.blank []).ConnectsOnce abi ops (fun _ => False) run := by
  refine InputEngine.connectsRaise_iff abi ops _ _ [] _ ⟨fun _ _ => rfl, ?_, fun _ => False.elim⟩
  intro slot _ before mem
  rw [List.mem_singleton.mp mem]
  rfl

/-- A pad that is gone at its first read. -/
def loosePad : CartInputOps := { idlePad with read := fun _ _ _ => .failed }

/-- A pad that is plugged in again has the generation it had before it was lost. -/
theorem reconnect_repeats_generation :
    let found : DirListing := .entries [⟨"event0", none, some "pad", ""⟩]
    ¬ (InputEngine.blank []).ConnectsRaise .ilp32 loosePad []
      [.init found, .poll 1, .rescan found] := by
  decide +kernel

end VitaLinux.Cart
