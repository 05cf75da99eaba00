import Mathlib.Algebra.Ring.Int.Defs
import VitaLinux.Tools.BootWatch

/-!
# Runs of boot_watch.sh

On a log that only grows the verdict is the one of its lines from the first that is looked
at, however they come in. A run that goes on has not overlooked anything, and it does not go
on for longer than the stages are given.
-/

namespace VitaLinux.Tools.BootWatch

open VitaLinux.Base

/-! ## A pass over lines -/

/-- What has been printed of the lines of the log. -/
def Watch.echoes (w : Watch) : List Text :=
  w.shown.filterMap fun | .echoed text => some text | _ => none

def Watch.heard (w : Watch) : Nat × List Text := (w.seen, w.lines)

/-- How the boot ends, if the script ends with it. -/
def cause : Exit → End × List Text
  | (.complete, w) => (.login, w.lines)
  | (_, w) => (.panic, w.lines)

section pass

variable {t : Turn} {w w' : Watch} {line read : Text}

theorem checkStage_seen {stage : Stage} :
    (checkStage t line w stage).seen = raise line w.seen stage := by
  rw [checkStage, raise]
  split <;> rfl

/-- The stages see a line as a pass over the lines does. -/
theorem stages_seen (stages : List Stage) :
    (stages.foldl (checkStage t line) w).seen = stages.foldl (raise line) w.seen := by
  induction stages generalizing w with
  | nil => rfl
  | cons stage stages ih => rw [List.foldl_cons, List.foldl_cons, ih, checkStage_seen]

theorem stages_lines (stages : List Stage) :
    (stages.foldl (checkStage t line) w).lines = w.lines := by
  induction stages generalizing w with
  | nil => rfl
  | cons stage stages ih =>
    rw [List.foldl_cons, ih, checkStage]
    split <;> rfl

theorem endLine_judge : through Watch.heard cause (endLine t line w) =
    if PANIC <:+: line then .error (.panic, w.lines ++ [line])
    else if 7 ≤ w.seen then .error (.login, w.lines ++ [line])
    else .ok (w.seen, w.lines ++ [line]) := by
  unfold endLine
  by_cases panics : PANIC <:+: line
  · rw [if_pos panics, if_pos panics]
    rfl
  · rw [if_neg panics, if_neg panics]
    by_cases reached : 7 ≤ w.seen
    · rw [if_pos reached, if_pos reached]
      rfl
    · rw [if_neg reached, if_neg reached]
      rfl

theorem processLine_judge (t : Turn) (w : Watch) (read : Text) :
    through Watch.heard cause (processLine t w read) = judge w.heard (readLine read) := by
  rw [processLine, endLine_judge, stages_seen, stages_lines]
  rfl

theorem processLine_reason {e : Exit} (ended : processLine t w read = .error e) :
    e.1 = .complete ∨ e.1 = .panic := by
  rw [processLine, endLine] at ended
  split at ended
  · cases ended
    exact .inr rfl
  · split at ended
    · cases ended
      exact .inl rfl
    · cases ended

/-- What is heard of a log: its lines from a number on. -/
def fresh (n : Nat) (text : Text) : List Text := ((readLines text).drop n).map readLine

/-- Everything of the log has been gone through, and the boot is open. -/
structure Follows (n : Nat) (text : Text) (w : Watch) : Prop where
  next : w.startLine = max n (readLines text).length
  heard : (fresh n text).foldlM judge (0, []) = .ok w.heard

/-- The log has ended the boot. -/
structure Decided (n : Nat) (text : Text) (e : Exit) : Prop where
  reason : e.1 = .complete ∨ e.1 = .panic
  heard : (fresh n text).foldlM judge (0, []) = .error (cause e)

theorem fresh_foldlM (n : Nat) (text : Text) (heard : Nat × List Text) :
    (fresh n text).foldlM judge heard =
      ((readLines text).drop n).foldlM (fun heard read => judge heard (readLine read)) heard :=
  List.foldlM_map

theorem processLines_spec {n : Nat} {old new : Text} (h : Follows n old w) (grown : old <+: new) :
    match processLines t w (readLines new) with
    | .ok w' => Follows n new w'
    | .error e => Decided n new e := by
  have lines := readLines_grown grown
  have continued : (fresh n new).foldlM judge (0, []) =
      ((readLines new).drop w.startLine).foldlM
        (fun heard read => judge heard (readLine read)) w.heard := by
    rw [fresh_foldlM, foldlM_drop_grown lines, ← fresh_foldlM, h.heard, h.next]
    rfl
  rw [← through_foldlM (processLine_judge t) ((readLines new).drop w.startLine) w] at continued
  have longer := lines.length_le
  rw [processLines]
  by_cases more : w.startLine < (readLines new).length
  · rw [if_pos more]
    cases passed : ((readLines new).drop w.startLine).foldlM (processLine t) w with
    | ok after =>
      rw [passed] at continued
      refine ⟨?_, continued⟩
      change (readLines new).length = _
      rw [h.next] at more
      omega
    | error e =>
      rw [passed] at continued
      obtain ⟨_, _, _, _, -, -, last⟩ := foldlM_error passed
      exact ⟨processLine_reason last, continued⟩
  · rw [if_neg more]
    rw [List.drop_eq_nil_of_le (by omega)] at continued
    refine ⟨?_, continued⟩
    rw [h.next] at more ⊢
    omega

end pass

/-! ## What goes out -/

/-- Each line that has been gone through has been echoed, and `root` has been entered once the
prompt has been seen, if the console takes it, and not before. -/
structure Told (t : Turn) (w : Watch) : Prop where
  echoes : w.echoes = w.lines.map echo
  entered : w.sent = if 7 ≤ w.seen ∧ t.pipe then ["root\n".toList] else []

section telling

variable {t : Turn} {w : Watch}

/-- Before the prompt it does not matter whether the console takes anything. -/
theorem Told.before (h : Told t w) (below : w.seen < 7) : w.sent = [] ∧ ∀ t', Told t' w := by
  have nothing : w.sent = [] := by rw [h.entered, if_neg (by omega)]
  exact ⟨nothing, fun _ => ⟨h.echoes, by rw [nothing, if_neg (by omega)]⟩⟩

theorem echoes_append {shown : List Shown} (w : Watch) :
    { w with shown := w.shown ++ shown }.echoes = w.echoes ++ { w with shown := shown }.echoes :=
  List.filterMap_append

theorem checkStage_told {line : Text} {stage : Stage} (bound : stage.target ≤ 7) (h : Told t w) :
    Told t (checkStage t line w stage) := by
  rw [checkStage]
  split
  · rename_i due
    have below : w.seen < stage.target := due.2.2
    have nothing : w.sent = [] := (h.before (by omega)).1
    refine ⟨((echoes_append w).trans (List.append_nil _)).trans h.echoes, ?_⟩
    have same : stage.target = 7 ↔ 7 ≤ max w.seen stage.target := by omega
    simp only [advance, nothing, same, List.nil_append]
  · exact h

theorem stages_told {line : Text} {stages : List Stage}
    (bounds : ∀ stage ∈ stages, stage.target ≤ 7) (h : Told t w) :
    Told t (stages.foldl (checkStage t line) w) := by
  induction stages generalizing w with
  | nil => exact h
  | cons stage stages ih =>
    obtain ⟨bound, bounds⟩ := List.forall_mem_cons.mp bounds
    exact ih bounds (checkStage_told bound h)

theorem targets : ∀ stage ∈ STAGES, stage.target ≤ 7 := by decide

/-- What is said after the echo of a line is no echo. -/
theorem Told.said (h : Told t w) {said : List Shown}
    (silent : { w with shown := said }.echoes = []) :
    Told t { w with shown := w.shown ++ said } :=
  ⟨by rw [echoes_append, silent, List.append_nil]; exact h.echoes, h.entered⟩

theorem endLine_told {line : Text} (h : Told t w) :
    match endLine t line w with
    | .ok w' => Told t w'
    | .error (reason, w') => Told t w' ∧ (reason = .complete → 7 ≤ w'.seen) := by
  have echoed : Told t
      { w with lines := w.lines ++ [line], shown := w.shown ++ [.echoed (echo line)] } := by
    refine ⟨?_, h.entered⟩
    rw [List.map_append, ← h.echoes]
    exact echoes_append w
  unfold endLine
  by_cases panics : PANIC <:+: line
  · rw [if_pos panics]
    exact ⟨echoed.said rfl, nofun⟩
  · rw [if_neg panics]
    by_cases reached : 7 ≤ w.seen
    · rw [if_pos reached]
      exact ⟨echoed.said rfl, fun _ => reached⟩
    · rw [if_neg reached]
      exact echoed

theorem processLine_told (h : Told t w) (read : Text) :
    match processLine t w read with
    | .ok w' => Told t w'
    | .error (reason, w') => Told t w' ∧ (reason = .complete → 7 ≤ w'.seen) :=
  endLine_told (stages_told targets h)

theorem processLines_told (h : Told t w) (current : List Text) :
    match processLines t w current with
    | .ok w' => Told t w'
    | .error (reason, w') => Told t w' ∧ (reason = .complete → 7 ≤ w'.seen) := by
  rw [processLines]
  by_cases more : w.startLine < current.length
  · rw [if_pos more]
    have keeps : ∀ s' a t', a ∈ current.drop w.startLine → Told t s' →
        processLine t s' a = .ok t' → Told t t' := by
      intro s' a t' _ before passed
      have after := processLine_told before a
      rwa [passed] at after
    cases passed : (current.drop w.startLine).foldlM (processLine t) w with
    | ok after =>
      have told : Told t after := foldlM_invariant keeps h passed
      exact ⟨told.echoes, told.entered⟩
    | error e =>
      obtain ⟨front, read, rest, before, split, first, last⟩ := foldlM_error passed
      have told : Told t before := by
        refine foldlM_invariant (fun s' a t' mem => keeps s' a t' ?_) h first
        rw [split]
        exact List.mem_append_left _ mem
      have after := processLine_told told read
      rwa [last] at after
  · rw [if_neg more]
    exact h

end telling

/-! ## Runs -/

/-- The log only grows from turn to turn. -/
def Growing (old : Text) : List Turn → Prop
  | [] => True
  | t :: rest => ∀ text, t.log = some text → old <+: text ∧ Growing text rest

/-- The log as it was last. -/
def latest (old : Text) : List Turn → Text
  | [] => old
  | t :: rest => latest (t.log.getD old) rest

/-- What it means that a run ends so, in a turn after a log that was gone through. -/
def Verdict (n : Nat) (old : Text) (t : Turn) : Exit → Prop
  | (.noLog, w) => t.log = none ∧ w.lines = fresh n old ∧ Open w.lines ∧ w.sent = []
  | (.complete, w) => ∃ text, t.log = some text ∧ w.lines <+: fresh n text ∧
      Ends .login w.lines ∧ w.sent = if t.pipe then ["root\n".toList] else []
  | (.panic, w) => ∃ text, t.log = some text ∧ w.lines <+: fresh n text ∧ Ends .panic w.lines
  | (.timedOut, w) => ∃ text, t.log = some text ∧ w.lines = fresh n text ∧ Open w.lines ∧
      w.sent = [] ∧ ∃ seconds, stageTimeouts[w.seen]? = some seconds ∧
        w.stageTime + seconds ≤ t.checked

section runs

variable {n : Nat} {old : Text} {w : Watch}

/-- While the boot is open, all that is new has been gone through, and there has been no prompt. -/
theorem Follows.open_ (h : Follows n old w) :
    w.lines = fresh n old ∧ w.seen < 7 ∧ Open w.lines := by
  have pass := judge_foldlM tracks_start (fresh n old)
  rw [h.heard] at pass
  exact ⟨pass.1, pass.2.below, pass.2.open_⟩

theorem Decided.verdict {t : Turn} {text : Text} {e : Exit} (h : Decided n text e)
    (log : t.log = some text) (told : Told t e.2 ∧ (e.1 = .complete → 7 ≤ e.2.seen)) :
    Verdict n old t e := by
  have pass := judge_foldlM tracks_start (fresh n text)
  rw [h.heard] at pass
  obtain ⟨reason, w⟩ := e
  obtain same | same := h.reason <;> dsimp only at same <;> subst same
  · have reached : 7 ≤ w.seen := told.2 rfl
    refine ⟨text, log, pass.1, pass.2, told.1.entered.trans ?_⟩
    simp only [reached, true_and]
  · exact ⟨text, log, pass⟩

/-- A turn ends the run for the time only when the stage has taken as long as it may. -/
theorem checkTimeout_cases (t : Turn) (w : Watch) : checkTimeout t w = .ok w ∨
    ∃ seconds, stageTimeouts[w.seen]? = some seconds ∧ w.stageTime + seconds ≤ t.checked ∧
      checkTimeout t w = .error (.timedOut,
        { w with shown := w.shown ++ [.timedOut (labels.getD w.seen []) seconds] }) := by
  rw [checkTimeout]
  split
  · exact .inl rfl
  · rename_i seconds limit
    split
    · rename_i late
      exact .inr ⟨seconds, limit, by omega, rfl⟩
    · exact .inl rfl

/-- One turn: everything that is new has been gone through, or the run ends for a reason. -/
theorem turn_spec {t : Turn} (h : Follows n old w) (told : Told t w)
    (grown : ∀ text, t.log = some text → old <+: text) :
    match turn w t with
    | .ok w' => ∃ text, t.log = some text ∧ Follows n text w' ∧ Told t w'
    | .error e => Verdict n old t e ∧ e.2.echoes = e.2.lines.map echo := by
  rw [turn]
  cases log : t.log with
  | none =>
    obtain ⟨lines, below, open_⟩ := h.open_
    exact ⟨⟨log, lines, open_, (told.before below).1⟩, told.echoes⟩
  | some text =>
    have passed := processLines_spec (t := t) (w := { w with reads := 0 }) ⟨h.next, h.heard⟩
      (grown text log)
    have going := processLines_told (t := t) (w := { w with reads := 0 })
      ⟨told.echoes, told.entered⟩ (readLines text)
    dsimp only
    cases result : processLines t { w with reads := 0 } (readLines text) with
    | error e =>
      rw [result] at passed going
      exact ⟨passed.verdict log going, going.1.echoes⟩
    | ok after =>
      rw [result] at passed going
      have follows : Follows n text after := passed
      have told' : Told t after := going
      obtain ⟨lines, below, open_⟩ := follows.open_
      change match checkTimeout t after with
        | .ok w' => ∃ other, some text = some other ∧ Follows n other w' ∧ Told t w'
        | .error e => Verdict n old t e ∧ e.2.echoes = e.2.lines.map echo
      obtain same | ⟨seconds, limit, late, same⟩ := checkTimeout_cases t after
      · rw [same]
        exact ⟨text, rfl, follows, told'⟩
      · rw [same]
        exact ⟨⟨text, log, lines, open_, (told'.before below).1, seconds, limit, late⟩,
          (told'.said rfl).echoes⟩

/-- A run that goes on has followed the log; one that ends has its verdict from it. -/
theorem watch_spec {turns : List Turn} (growing : Growing old turns) (h : Follows n old w)
    (told : ∀ t, Told t w) :
    match watch w turns with
    | .ok w' => Follows n (latest old turns) w' ∧ ∀ t, Told t w'
    | .error e => (∃ before t after, turns = before ++ t :: after ∧
        Verdict n (latest old before) t e) ∧ e.2.echoes = e.2.lines.map echo := by
  induction turns generalizing old w with
  | nil => exact ⟨h, told⟩
  | cons t rest ih =>
    have one := turn_spec h (told t) fun text log => (growing text log).1
    rw [watch, List.foldlM_cons]
    cases first : turn w t with
    | error e =>
      rw [first] at one
      exact ⟨⟨[], t, rest, rfl, one.1⟩, one.2⟩
    | ok next =>
      rw [first] at one
      obtain ⟨text, log, follows, going⟩ := one
      have others := ih (growing text log).2 follows (going.before follows.open_.2.1).2
      have read : t.log.getD old = text := by rw [log, Option.getD_some]
      change match watch next rest with
        | .ok w' => _
        | .error e => _
      rw [latest, read]
      cases run : watch next rest with
      | ok last =>
        rw [run] at others
        exact others
      | error e =>
        rw [run] at others
        obtain ⟨⟨before, last, after, rfl, verdict⟩, echoed⟩ := others
        refine ⟨⟨t :: before, last, after, rfl, ?_⟩, echoed⟩
        rw [latest, read]
        exact verdict

end runs

/-! ## The time -/

/-- A turn takes no longer than the gap, and its clock does not go back. -/
def Paced (gap : Nat) (since : Int) : List Turn → Prop
  | [] => True
  | t :: rest => (∀ n, since ≤ t.date n ∧ t.date n ≤ t.checked) ∧ since ≤ t.checked ∧
      t.checked ≤ since + gap ∧ Paced gap t.checked rest

/-- The clock at the end of the last turn. -/
def lastChecked (now : Int) : List Turn → Int
  | [] => now
  | t :: rest => lastChecked t.checked rest

/-- The time that the first stages may take. -/
def budget (stages : Nat) : Int := (stageTimeouts.take stages).sum

theorem budget_succ : ∀ k < 7, stageTimeouts[k]? = some (budget (k + 1) - budget k) := by decide

theorem budget_mono : ∀ m ≤ 7, ∀ k ≤ m, budget k ≤ budget m := by decide

/-- The stage has its time from before, or it is a later one, of this turn. -/
def Staged (t : Turn) (w w' : Watch) : Prop :=
  (w'.seen = w.seen ∧ w'.stageTime = w.stageTime) ∨
    (w.seen < w'.seen ∧ ∃ n, w'.stageTime = t.date n)

section time

variable {t : Turn} {w w' w'' : Watch}

theorem Staged.refl (t : Turn) (w : Watch) : Staged t w w := .inl ⟨rfl, rfl⟩

theorem Staged.trans (h : Staged t w w') (h' : Staged t w' w'') : Staged t w w'' := by
  obtain ⟨seen, time⟩ | ⟨more, n, time⟩ := h <;> obtain ⟨seen', time'⟩ | ⟨more', m, time'⟩ := h'
  · exact .inl ⟨seen'.trans seen, time'.trans time⟩
  · exact .inr ⟨seen ▸ more', m, time'⟩
  · exact .inr ⟨seen' ▸ more, n, time'.trans time⟩
  · exact .inr ⟨more.trans more', m, time'⟩

theorem checkStage_staged (line : Text) (w : Watch) (stage : Stage) :
    Staged t w (checkStage t line w stage) := by
  rw [checkStage]
  split
  · rename_i due
    exact .inr ⟨Nat.lt_of_lt_of_le due.2.2 (Nat.le_max_right ..), _, rfl⟩
  · exact .refl t w

theorem stages_staged (line : Text) (stages : List Stage) (w : Watch) :
    Staged t w (stages.foldl (checkStage t line) w) := by
  induction stages generalizing w with
  | nil => exact .refl t w
  | cons stage stages ih => exact (checkStage_staged line w stage).trans (ih _)

/-- Lines that leave the run going on. -/
structure Moved (t : Turn) (w w' : Watch) : Prop where
  below : w.seen < 7 → w'.seen < 7
  staged : Staged t w w'

theorem Moved.trans (h : Moved t w w') (h' : Moved t w' w'') : Moved t w w'' :=
  ⟨fun below => h'.below (h.below below), h.staged.trans h'.staged⟩

theorem processLine_moved {read : Text} (passed : processLine t w read = .ok w') :
    Moved t w w' := by
  have staged : Staged t w (STAGES.foldl (checkStage t (readLine read)) w) :=
    stages_staged (readLine read) STAGES w
  rw [processLine, endLine] at passed
  split at passed
  · cases passed
  · split at passed
    · cases passed
    · rename_i below
      cases passed
      exact ⟨fun _ => Nat.lt_of_not_le below, staged⟩

theorem processLines_moved {current : List Text}
    (passed : processLines t w current = .ok w') : Moved t w w' := by
  have same : Moved t w w := ⟨id, .refl t w⟩
  rw [processLines] at passed
  split at passed
  · cases pass : (current.drop w.startLine).foldlM (processLine t) w with
    | error e =>
      rw [pass] at passed
      cases passed
    | ok after =>
      rw [pass] at passed
      cases passed
      have moved : Moved t w after :=
        foldlM_invariant (fun _ _ _ _ before one => before.trans (processLine_moved one)) same pass
      exact ⟨moved.below, moved.staged⟩
  · cases passed
    exact same

/-- The stage that is waited for has its time, counted from what the ones before it may take. -/
structure OnTime (gap : Nat) (now since : Int) (w : Watch) : Prop where
  below : w.seen < 7
  stage : w.stageTime ≤ now + budget w.seen + w.seen * gap
  waited : since < w.stageTime + (budget (w.seen + 1) - budget w.seen)

/-- A turn that goes on is on time. -/
theorem turn_onTime {gap : Nat} {now since : Int} (h : OnTime gap now since w)
    (readings : ∀ n, t.date n ≤ t.checked) (paced : t.checked ≤ since + gap)
    (passed : turn w t = .ok w') : OnTime gap now t.checked w' := by
  rw [turn] at passed
  split at passed
  · cases passed
  · rename_i text log
    cases result : processLines t { w with reads := 0 } (readLines text) with
    | error e =>
      rw [result] at passed
      cases passed
    | ok after =>
      rw [result] at passed
      have moved : Moved t { w with reads := 0 } after := processLines_moved result
      have below : after.seen < 7 := moved.below h.below
      have limit := budget_succ after.seen below
      change checkTimeout t after = .ok w' at passed
      have early : w' = after ∧ t.checked < after.stageTime +
          (budget (after.seen + 1) - budget after.seen) := by
        rw [checkTimeout, limit] at passed
        dsimp only at passed
        split at passed
        · cases passed
        · cases passed
          exact ⟨rfl, by omega⟩
      obtain ⟨rfl, early⟩ := early
      refine ⟨below, ?_, early⟩
      obtain ⟨seen, time⟩ | ⟨more, n, time⟩ := moved.staged
      · dsimp only at seen time
        rw [seen, time]
        exact h.stage
      · dsimp only at more
        -- the stages up to the new one have their time and a turn each
        have reading := readings n
        have waited := h.waited
        have stage := h.stage
        have budgets : budget (w.seen + 1) ≤ budget w'.seen := budget_mono _ below.le _ more
        have turns : ((w.seen : Int) + 1) * gap ≤ (w'.seen : Int) * gap :=
          Int.mul_le_mul_of_nonneg_right (by omega) (by omega)
        rw [Int.add_mul, Int.one_mul] at turns
        omega

theorem watch_onTime {gap : Nat} {now since : Int} (h : OnTime gap now since w) {turns : List Turn}
    (paced : Paced gap since turns) (passed : watch w turns = .ok w') :
    OnTime gap now (lastChecked since turns) w' := by
  induction turns generalizing since w with
  | nil => exact Except.ok.inj passed ▸ h
  | cons t rest ih =>
    obtain ⟨readings, -, within, paced⟩ := paced
    rw [watch, List.foldlM_cons] at passed
    cases one : turn w t with
    | error e =>
      rw [one] at passed
      cases passed
    | ok next =>
      rw [one] at passed
      exact ih (turn_onTime h (fun n => (readings n).2) within one) paced passed

end time

/-! ## What a run comes to -/

/-- What a run comes to: it has gone through all the lines and goes on, or it has ended for a
reason. Whatever it has gone through it has echoed. -/
inductive Outcome (n : Nat) (turns : List Turn) : Except Exit Watch → Prop where
  | goesOn {w : Watch} (lines : w.lines = fresh n (latest [] turns)) (open_ : Open w.lines)
      (nothing : w.sent = []) (echoed : w.echoes = w.lines.map echo) : Outcome n turns (.ok w)
  | ends {before after : List Turn} {t : Turn} (split : turns = before ++ t :: after) {e : Exit}
      (verdict : Verdict n (latest [] before) t e) (echoed : e.2.echoes = e.2.lines.map echo) :
      Outcome n turns (.error e)

theorem watch_outcome {n : Nat} {w : Watch} {turns : List Turn} (growing : Growing [] turns)
    (start : Follows n [] w ∧ ∀ t, Told t w) : Outcome n turns (watch w turns) := by
  have run := watch_spec growing start.1 start.2
  cases result : watch w turns with
  | error e =>
    rw [result] at run
    obtain ⟨⟨before, t, after, split, verdict⟩, echoed⟩ := run
    exact .ends split verdict echoed
  | ok last =>
    rw [result] at run
    obtain ⟨lines, below, open_⟩ := run.1.open_
    -- any turn would do: there has been no prompt
    have told := run.2 { log := none, pipe := false, date := fun _ => 0, checked := 0 }
    exact .goesOn lines open_ (told.before below).1 told.echoes

/-- The script starts with nothing gone through. -/
theorem startWatch_follows (arg : Option Nat) (log : Text) (now : Int) :
    Follows (startLine arg log) []
        { startLine := startLine arg log, startTime := now, stageTime := now } ∧
      ∀ t, Told t { startLine := startLine arg log, startTime := now, stageTime := now } := by
  have none : readLines [] = [] := rfl
  refine ⟨⟨(Nat.max_zero _).symm, ?_⟩, fun t => ⟨rfl, rfl⟩⟩
  rw [fresh, none, List.drop_nil]
  rfl

/-- **The verdict is that of the lines of the log**, from its first line on, however they come
in. -/
theorem bootWatch_verdict (arg : Option Nat) (log : Text) (now : Int) (turns : List Turn)
    (growing : Growing [] turns) :
    Outcome (startLine arg log) turns (bootWatch arg (some log) now turns) :=
  watch_outcome growing (startWatch_follows arg log now)

/-- A run that still goes on has not taken longer than the stages together, and a turn for each
of them. -/
theorem bootWatch_gives_up (arg : Option Nat) (log : Text) (now : Int) (turns : List Turn)
    (gap : Nat) (paced : Paced gap now turns) (w : Watch)
    (running : bootWatch arg (some log) now turns = .ok w) :
    lastChecked now turns < now + 145 + 6 * gap := by
  have start : OnTime gap now now
      { startLine := startLine arg log, startTime := now, stageTime := now } := by
    constructor
    case below => exact Nat.zero_lt_succ 6
    case stage => simp [budget]
    case waited =>
      have first : 0 < budget 1 - budget 0 := by decide
      change now < now + (budget 1 - budget 0)
      omega
  have run := watch_onTime start paced running
  have whole : budget (w.seen + 1) ≤ 145 := by
    have last : budget 7 = 145 := by decide
    have sum := budget_mono 7 (le_refl 7) (w.seen + 1) run.below
    omega
  have turns : (w.seen : Int) * gap ≤ 6 * gap :=
    Int.mul_le_mul_of_nonneg_right (by have := run.below; omega) (by omega)
  have waited := run.waited
  have stage := run.stage
  omega

/-- What the first of two looks finds. -/
def half : Text := "-n\nJumping to Linux\nWelcome".toList

/-- A boot whose prompt is whole at the second look. -/
def twoLooks : List Turn :=
  [{ log := some half, pipe := true, date := fun _ => 100, checked := 101 },
    { log := some (half ++ " to Buildroot\n".toList), pipe := true, date := fun _ => 101,
      checked := 102 }]

theorem twoLooks_growing : Growing [] twoLooks := by
  intro text first
  have known : half = text := Option.some.inj first
  refine ⟨List.nil_prefix, fun other second => ⟨?_, trivial⟩⟩
  have known' : half ++ " to Buildroot\n".toList = other := Option.some.inj second
  rw [← known, ← known']
  exact List.prefix_append ..

theorem twoLooks_complete : ∃ w, bootWatch none (some []) 100 twoLooks = .error (.complete, w) :=
  ⟨_, rfl⟩

theorem twoLooks_verdict : ∃ w, bootWatch none (some []) 100 twoLooks = .error (.complete, w) ∧
    Ends .login w.lines ∧ w.sent = ["root\n".toList] ∧ w.echoes = w.lines.map echo := by
  obtain ⟨w, ended⟩ := twoLooks_complete
  have outcome := bootWatch_verdict none [] 100 twoLooks twoLooks_growing
  rw [ended] at outcome
  cases outcome with
  | @ends before after t split _ verdict echoed =>
    obtain ⟨text, -, -, prompt, sent⟩ := verdict
    have mem : t ∈ twoLooks := by simp [split]
    have taken : ∀ t ∈ twoLooks, t.pipe = true := by simp [twoLooks]
    rw [taken t mem] at sent
    exact ⟨w, ended, prompt, sent, echoed⟩

/-- What is new at the first, the second and the last of four looks. -/
def parts : Text × Text × Text :=
  ("Baremetal loader by xerpi\n".toList, "Loading '/linux/zImage'\n".toList,
    "Run /init as init process\n".toList)

/-- A slow boot: each stage starts the clock again. -/
def fourLooks : List Turn :=
  [{ log := some parts.1, pipe := true, date := fun _ => 108, checked := 109 },
    { log := some (parts.1 ++ parts.2.1), pipe := true, date := fun _ => 116, checked := 118 },
    { log := some (parts.1 ++ parts.2.1), pipe := true, date := fun _ => 118, checked := 127 },
    { log := some (parts.1 ++ parts.2.1 ++ parts.2.2), pipe := true, date := fun _ => 128,
      checked := 136 }]

theorem fourLooks_paced : Paced 9 100 fourLooks := by simp [Paced, fourLooks]

theorem fourLooks_running : ∃ w, bootWatch none (some []) 100 fourLooks = .ok w ∧ w.seen = 6 ∧
    w.stageTime = 128 := ⟨_, rfl, rfl, rfl⟩

theorem fourLooks_gives_up : ∃ w, bootWatch none (some []) 100 fourLooks = .ok w ∧ w.seen = 6 ∧
    lastChecked 100 fourLooks < 100 + 145 + 6 * 9 := by
  obtain ⟨w, running, reached, -⟩ := fourLooks_running
  exact ⟨w, running, reached,
    bootWatch_gives_up none [] 100 fourLooks 9 fourLooks_paced w running⟩

end VitaLinux.Tools.BootWatch
