import VitaLinux.Cart.DemoCart.Commands

/-!
# The console comes back

While the console is unbound, only the marker tells that it was bound. The scripts
take the marker away when the console is bound again, and `start` also takes it away
with the other stale files. What the latter takes away while the console is unbound is
lost: no later run binds the console again (`stop_binds_console`).
-/

namespace VitaLinux.Cart.DemoCart

open VitaLinux.Base Prog

variable {frameBytes : Nat} {d t : Device}

/-- The marker is there while the console is unbound. -/
def Marked (d : Device) : Prop := d.bind = false → d.mark = true

/-- `start` takes the marker away with the stale files while the console is unbound. -/
structure LosesMarker (e : Call) : Prop where
  stale : e.call = .remove staleFiles
  unbound : e.before.bind = false
  marked : e.before.mark = true
  gone : e.after.mark = false

/-- The commands that can change the bind file or the marker. -/
def Command.touchesConsole : Command → Bool
  | .touchMark | .writeBind _ => true
  | .remove files => decide (.mark ∈ files)
  | _ => false

/-- When the scripts touch the bind file and the marker. -/
structure Disciplined (e : Call) : Prop where
  writes : ∀ bound, e.call = .writeBind bound → e.before.mark = true
  marks : e.call = .touchMark → e.before.bind = true
  unmarks : ∀ files, e.call = .remove files → Path.mark ∈ files →
    e.before.bind = true ∨ files = staleFiles

theorem Disciplined.of_quiet {e : Call} (quiet : e.call.touchesConsole = false) :
    Disciplined e where
  writes bound h := by
    rw [h] at quiet
    cases quiet
  marks h := by
    rw [h] at quiet
    cases quiet
  unmarks files h member := by
    rw [h] at quiet
    simp [Command.touchesConsole, member] at quiet

/-- The stale files are the one removal that may take the marker at any time. -/
theorem Disciplined.of_stale {e : Call}
    (h : e.call.touchesConsole = false ∨ e.call = .remove staleFiles) : Disciplined e := by
  obtain quiet | stale := h
  · exact .of_quiet quiet
  · refine ⟨?_, ?_, ?_⟩
    · intro bound h
      rw [stale] at h
      cases h
    · intro h
      rw [stale] at h
      cases h
    · intro files h _
      rw [stale] at h
      exact Or.inr (Command.remove.inj h).symm

theorem Disciplined.touch {r : Bool} (bound : d.bind = true) :
    Disciplined ⟨d, .touchMark, r, t⟩ where
  writes bound h := by cases h
  marks _ := bound
  unmarks files h := by cases h

theorem Disciplined.write {bound r : Bool} (marked : d.mark = true) :
    Disciplined ⟨d, .writeBind bound, r, t⟩ where
  writes _ _ := marked
  marks h := by cases h
  unmarks files h := by cases h

theorem Disciplined.unmark {files : List Path} {r : Bool} (bound : d.bind = true) :
    Disciplined ⟨d, .remove files, r, t⟩ where
  writes _ h := by cases h
  marks h := by cases h
  unmarks _ _ _ := Or.inl bound

theorem without_console (d : Device) (file : Path) :
    (d.without file).bind = d.bind ∧
      (d.without file).mark = (d.mark && !decide (file = .mark)) := by
  cases file <;> simp [Device.without]

/-- Removing files leaves the bind file alone, and the marker unless it is one of them. -/
theorem remove_console (gone : List Path) (d : Device) :
    (gone.foldl Device.without d).bind = d.bind ∧
      (gone.foldl Device.without d).mark = (d.mark && !decide (.mark ∈ gone)) := by
  induction gone generalizing d with
  | nil => simp
  | cons file gone ih =>
    obtain ⟨bound, marked⟩ := ih (d.without file)
    obtain ⟨bound', marked'⟩ := without_console d file
    rw [List.foldl_cons, bound, marked, bound', marked', Bool.and_assoc]
    refine ⟨rfl, ?_⟩
    congr 1
    by_cases here : file = .mark <;> simp [here, eq_comm]

/-- A command that does not touch them leaves the bind file and the marker as they are. -/
theorem Shell.console {command : Command} {r : Reply command} (h : Shell d command r t)
    (quiet : command.touchesConsole = false) : t.bind = d.bind ∧ t.mark = d.mark := by
  obtain ⟨between, effect, ⟨left, fewer⟩⟩ := h
  cases effect with
  | remove files gone r some_of all =>
    have spared : Path.mark ∉ gone := by
      intro member
      simp [Command.touchesConsole, some_of member] at quiet
    obtain ⟨bound, marked⟩ := remove_console gone d
    exact ⟨bound, by simpa [spared] using marked⟩
  | touchMark | touchFailed | writeBind bound | writeFailed bound => cases quiet
  | _ => exact ⟨rfl, rfl⟩

theorem Shell.touchMark {r : Bool} (h : Shell d .touchMark r t) :
    t.bind = d.bind ∧ (t.mark = true ∨ r = false ∧ t.mark = d.mark) := by
  obtain ⟨between, effect, ⟨left, fewer⟩⟩ := h
  cases effect with
  | touchMark => exact ⟨rfl, Or.inl rfl⟩
  | touchFailed => exact ⟨rfl, Or.inr ⟨rfl, rfl⟩⟩

theorem Shell.writeBind {bound r : Bool} (h : Shell d (.writeBind bound) r t) :
    t.mark = d.mark ∧ (t.bind = bound ∨ r = false ∧ t.bind = d.bind) := by
  obtain ⟨between, effect, ⟨left, fewer⟩⟩ := h
  cases effect with
  | writeBind => exact ⟨rfl, Or.inl rfl⟩
  | writeFailed => exact ⟨rfl, Or.inr ⟨rfl, rfl⟩⟩

theorem Shell.remove {files : List Path} {r : Bool} (h : Shell d (.remove files) r t) :
    t.bind = d.bind ∧ (t.mark = true → d.mark = true) := by
  obtain ⟨between, effect, ⟨left, fewer⟩⟩ := h
  cases effect with
  | remove _ gone _ some_of all =>
    obtain ⟨bound, marked⟩ := remove_console gone d
    refine ⟨bound, ?_⟩
    intro still
    change (gone.foldl Device.without d).mark = true at still
    rw [marked, Bool.and_eq_true] at still
    exact still.1

theorem Shell.presentMark {r : Bool} (h : Shell d (.present .mark) r t) : r = t.mark := by
  obtain ⟨between, effect, ⟨left, fewer⟩⟩ := h
  cases effect with
  | present _ _ found => exact Bool.eq_iff_iff.mpr found

theorem Shell.catBind {text : String} (h : Shell d .catBind text t) (one : text = "1") :
    t.bind = true := by
  obtain ⟨between, effect, ⟨left, fewer⟩⟩ := h
  cases effect with
  | catBind _ read =>
    subst one
    change d.bind = true
    cases bound : d.bind with
    | true => rfl
    | false => simp [Device.bindText, bound] at read

/-- One command keeps the marker while the console is unbound, unless it loses it. -/
theorem step_marked {e : Call} (h : Disciplined e) (answer : Shell e.before e.call e.reply e.after)
    (kept : ¬ LosesMarker e) (marked : Marked e.before) : Marked e.after := by
  obtain ⟨before, command, reply, after⟩ := e
  cases command with
  | touchMark =>
    intro unbound
    obtain ⟨bound, written | ⟨_, same⟩⟩ := answer.touchMark
    · exact written
    · exact same.trans (marked (bound.symm.trans unbound))
  | writeBind bound =>
    intro _
    exact answer.writeBind.1.trans (h.writes bound rfl)
  | remove files =>
    intro unbound
    obtain ⟨bound, _⟩ := answer.remove
    have before_unbound : before.bind = false := bound.symm.trans unbound
    by_cases member : Path.mark ∈ files
    · obtain was_bound | stale := h.unmarks files rfl member
      · exact absurd (was_bound.symm.trans before_unbound) Bool.noConfusion
      · by_contra gone
        subst stale
        exact kept ⟨rfl, before_unbound, marked before_unbound, Bool.eq_false_iff.mpr gone⟩
    · obtain ⟨_, same⟩ := answer.console (by simp [Command.touchesConsole, member])
      exact same.trans (marked before_unbound)
  | _ =>
    intro unbound
    obtain ⟨bound, same⟩ := answer.console rfl
    exact same.trans (marked (bound.symm.trans unbound))

/-- Once the marker is lost, no command brings the marker or the console back. -/
theorem step_lost {e : Call} (h : Disciplined e) (answer : Shell e.before e.call e.reply e.after)
    (lost : ¬ Marked e.before) : ¬ Marked e.after := by
  obtain ⟨before, command, reply, after⟩ := e
  unfold Marked at lost ⊢
  rw [Classical.not_imp, Bool.not_eq_true] at lost ⊢
  obtain ⟨unbound, unmarked⟩ := lost
  cases command with
  | touchMark => exact absurd ((h.marks rfl).symm.trans unbound) Bool.noConfusion
  | writeBind bound => exact absurd ((h.writes bound rfl).symm.trans unmarked) Bool.noConfusion
  | remove files =>
    obtain ⟨bound, fewer⟩ := answer.remove
    refine ⟨bound.trans unbound, ?_⟩
    rw [Bool.eq_false_iff]
    intro still
    exact absurd ((fewer still).symm.trans unmarked) Bool.noConfusion
  | _ =>
    obtain ⟨bound, same⟩ := answer.console rfl
    exact ⟨bound.trans unbound, same.trans unmarked⟩

/-- A marker that `start` takes away is lost. -/
theorem LosesMarker.lost {e : Call} (h : LosesMarker e)
    (answer : Shell e.before e.call e.reply e.after) : ¬ Marked e.after := by
  obtain ⟨before, command, reply, after⟩ := e
  obtain ⟨rfl, unbound, marked, gone⟩ := h
  intro marked'
  have still := marked' (answer.remove.1.trans unbound)
  exact absurd (still.symm.trans gone) Bool.noConfusion

theorem crash_marked (h : Crash d t) : Marked t ↔ Marked d := by
  obtain ⟨left, fewer⟩ := h
  exact Iff.rfl

section scripts

variable {ε α : Type}

/-- The commands that are harmless in every state. -/
def Harmless (command : Command) : Prop :=
  command.touchesConsole = false ∨ command = .remove staleFiles

theorem harmless_of_quiet {commands : List Command}
    (quiet : ∀ c ∈ commands, c.touchesConsole = false) : ∀ c ∈ commands, Harmless c :=
  fun c member => Or.inl (quiet c member)

/-- Parts of the scripts with harmless commands only. -/
theorem disciplined_of_uses {part : Prog Command Reply ε α} (uses : part.Uses Harmless) :
    Guarantees Shell Disciplined part :=
  uses.guarantees fun _ harmless => .of_stale harmless

/-- Signals that arrive first leave the bind file and the marker alone. -/
theorem meets_trapped {started : Bool} {c : Command} {Q : Reply c → Device → Prop}
    (h : ∀ t, t.bind = d.bind → t.mark = d.mark → ∀ r u, Shell t c r u →
      Disciplined ⟨t, c, r, u⟩ ∧ Q r u) :
    (trapped started c).Meets Shell Disciplined Q (fun _ _ => True) d := by
  intro signal t answer
  refine ⟨.of_quiet rfl, ?_⟩
  obtain ⟨bound, marked⟩ := answer.console rfl
  cases signal with
  | some signal => trivial
  | none => exact h t bound marked

theorem meets_orExit {started : Bool} {command : Script Bool} {E : Call → Prop}
    {Q : Unit → Device → Prop}
    (h : command.Meets Shell E (fun ok t => ok = true → Q () t) (fun _ _ => True) d) :
    (orExit started command).Meets Shell E Q (fun _ _ => True) d := by
  unfold orExit
  apply h.seq
  intro ok t passed
  cases ok with
  | true => exact passed rfl
  | false => trivial

/-- `start` writes the marker while the console is bound, and unbinds it under the marker. -/
theorem unbindConsole_disciplined : Guarantees Shell Disciplined unbindConsole := by
  unfold unbindConsole
  apply Guarantees.bind
  · exact disciplined_of_uses (uses_trapped (Or.inl rfl) (Or.inl rfl))
  intro readable
  apply Guarantees.ite _ (.pure _)
  intro d
  apply Meets.seq (R := fun text t => text = "1" → t.bind = true)
  · exact meets_trapped fun t _ _ text u answer => ⟨.of_quiet rfl, answer.catBind⟩
  intro text d bound
  split
  · next one =>
    apply Meets.seq (R := fun _ t => t.mark = true)
    · apply meets_orExit
      apply meets_trapped (c := .touchMark)
      intro t same _ ok u answer
      refine ⟨.touch (same.trans (bound one)), ?_⟩
      rintro rfl
      obtain ⟨_, written | ⟨failed, _⟩⟩ := answer.touchMark
      · exact written
      · exact absurd failed Bool.noConfusion
    intro _ d marked
    apply meets_orExit
    apply meets_trapped (c := .writeBind false)
    intro t _ same ok u answer
    exact ⟨.write (same.trans marked), fun _ => trivial⟩
  · trivial

/-- The console is bound only under the marker, which goes when it is bound. -/
theorem restoreConsole_disciplined : Guarantees Shell Disciplined restoreConsole := by
  intro d
  unfold restoreConsole
  intro present t answer
  refine ⟨.of_quiet rfl, ?_⟩
  have marked := answer.presentMark
  cases present with
  | false => trivial
  | true =>
    intro writable u answer
    refine ⟨.of_quiet rfl, ?_⟩
    have still : u.mark = true := (answer.console rfl).2.trans marked.symm
    cases writable with
    | false => trivial
    | true =>
      intro written v answer
      refine ⟨.write still, ?_⟩
      cases written with
      | false => trivial
      | true =>
        obtain ⟨_, bound | ⟨failed, _⟩⟩ := answer.writeBind
        · exact fun removed w _ => ⟨.unmark bound, trivial⟩
        · exact absurd failed Bool.noConfusion

theorem cleanup_disciplined (exit : Exit) :
    Guarantees Shell Disciplined (cleanup frameBytes exit) := by
  have message : ∀ status : Nat, Guarantees Shell Disciplined
      (orExit false (sh .report) >>= fun _ => return status) := by
    intro status
    apply disciplined_of_uses
    exact (uses_orExit (uses_sh (Or.inl rfl))).bind fun _ => uses_pure _
  unfold cleanup
  apply Guarantees.bind
  · exact disciplined_of_uses (uses_orExit (uses_sh (Or.inl rfl)))
  intro _
  apply Guarantees.ite (.pure _)
  apply Guarantees.bind
  · unfold cleanupFrame
    apply Guarantees.bind (disciplined_of_uses (uses_sh (Or.inl rfl)))
    intro present
    apply Guarantees.ite _ (.pure _)
    have restores : (restoreSavedFrame frameBytes).Uses Harmless :=
      uses_restoreSavedFrame (harmless_of_quiet (by decide))
    exact (disciplined_of_uses restores).bind fun _ => .ite (.pure _) (message 1)
  intro status
  unfold cleanupConsole
  exact restoreConsole_disciplined.bind fun _ => .ite (.pure _) (message 1)

theorem start_disciplined : Guarantees Shell Disciplined (start frameBytes) := by
  have checks : (cartPidMatches (trapped false)).Uses Harmless :=
    uses_cartPidMatches fun c member =>
      uses_trapped (Or.inl rfl) (harmless_of_quiet (by decide) c member)
  have saves : (saveFrame frameBytes).Uses Harmless := by
    apply uses_saveFrame
    unfold Harmless
    decide
  have launches : launch.Uses Harmless := uses_launch (harmless_of_quiet (by decide))
  unfold start
  apply Guarantees.bind _ cleanup_disciplined
  apply Guarantees.tryCatch _ fun _ => .pure _
  unfold startBody
  apply (disciplined_of_uses checks).bind
  intro matched
  apply (disciplined_of_uses (uses_alreadyRunning (harmless_of_quiet (by decide)))).ite
  apply (disciplined_of_uses saves).bind
  intro _
  apply unbindConsole_disciplined.bind
  intro _
  exact disciplined_of_uses launches

/-- What a command of `stop` may do. -/
def Stopping (e : Call) : Prop := Disciplined e ∧ e.call ≠ .remove staleFiles

theorem Stopping.of_quiet {e : Call} (quiet : e.call.touchesConsole = false) : Stopping e := by
  refine ⟨.of_quiet quiet, ?_⟩
  intro stale
  rw [stale] at quiet
  cases quiet

theorem stopping_of_uses {part : Prog Command Reply ε α}
    (uses : part.Uses (Command.touchesConsole · = false)) : Guarantees Shell Stopping part :=
  uses.guarantees fun _ quiet => .of_quiet quiet

/-- `stop` keeps status 0 only if it has bound the console or found no marker. -/
theorem stopRestoreConsole_binds (status : Nat) (d : Device) :
    (stopRestoreConsole status).Meets Shell Stopping
      (fun status u => status = 0 → u.bind = true ∨ u.mark = false) (fun _ _ => True) d := by
  have fails : ∀ t : Device, (complain).Meets Shell Stopping
      (fun status u => status = 0 → u.bind = true ∨ u.mark = false) (fun _ _ => True) t := by
    intro t r u answer
    exact ⟨.of_quiet rfl, fun zero => absurd zero (by decide)⟩
  unfold stopRestoreConsole
  intro present t answer
  refine ⟨.of_quiet rfl, ?_⟩
  have found := answer.presentMark
  cases present with
  | false => exact fun _ => Or.inr found.symm
  | true =>
    change (rebind >>= _).Meets Shell _ _ _ t
    apply Meets.seq (R := fun bound u => bound = true → u.bind = true)
    · intro writable u answer
      refine ⟨.of_quiet rfl, ?_⟩
      have still : u.mark = true := (answer.console rfl).2.trans found.symm
      cases writable with
      | false => exact fun no => absurd no Bool.noConfusion
      | true =>
        intro written v answer
        refine ⟨⟨.write still, Command.noConfusion⟩, ?_⟩
        rintro rfl
        obtain ⟨_, bound | ⟨failed, _⟩⟩ := answer.writeBind
        · exact bound
        · exact absurd failed Bool.noConfusion
    intro bound u rebound
    cases bound with
    | false => exact fails u
    | true =>
      intro removed v answer
      have other : Command.remove [.mark] ≠ .remove staleFiles := by decide
      refine ⟨⟨.unmark (rebound rfl), other⟩, fun _ => Or.inl ?_⟩
      exact answer.remove.1.trans (rebound rfl)

theorem stop_binds (d : Device) :
    (stop frameBytes).Meets Shell Stopping
      (fun status u => status = 0 → u.bind = true ∨ u.mark = false) (fun _ _ => True) d := by
  have ends : stopRenderer.Uses (Command.touchesConsole · = false) :=
    uses_stopRenderer (by decide)
  have draws : ∀ status, (stopRestoreFrame frameBytes status).Uses
      (Command.touchesConsole · = false) := fun status => uses_stopRestoreFrame (by decide)
  unfold stop
  apply (stopping_of_uses ends d).seq
  intro status d _
  apply (stopping_of_uses (draws status) d).seq
  intro status d _
  apply (stopRestoreConsole_binds status d).seq
  intro status d restored r u answer
  refine ⟨.of_quiet rfl, ?_⟩
  obtain ⟨bound, marked⟩ := answer.console rfl
  intro zero
  rw [bound, marked]
  exact restored zero

end scripts

theorem script_disciplined {script : Script Nat}
    (known : script = start frameBytes ∨ script = stop frameBytes) :
    Guarantees Shell Disciplined script := by
  obtain rfl | rfl := known
  · exact start_disciplined
  · intro d
    exact (stop_binds d).mono (fun _ event => event.1) (fun _ _ _ => trivial) fun _ _ _ => trivial

/-- The marker is there while the console is unbound, as long as no `start` has lost it. -/
theorem marked_iff {w v : Device} {events : List Call} (bound : w.bind = true)
    (history : Runs frameBytes w events v) :
    Marked v ↔ ∀ e ∈ events, ¬ LosesMarker e := by
  have disciplined := history.guarantees fun _ known => script_disciplined known
  constructor
  · intro marked e member loses
    have lost : ¬ Marked e.after := loses.lost (history.answers e member)
    have ends : ¬ Marked v :=
      history.preserves_after (I := (¬ Marked ·))
        (fun e member answer => step_lost (disciplined e member) answer)
        (fun _ _ crash => (not_congr (crash_marked crash)).mpr) member lost
    exact ends marked
  · intro kept
    apply history.preserves (I := Marked)
    · exact fun e member answer => step_marked (disciplined e member) answer (kept e member)
    · exact fun _ _ crash => (crash_marked crash).mpr
    · intro unbound
      exact absurd (bound.symm.trans unbound) Bool.noConfusion

/-- In every history that begins with the console bound, a `stop` that exits 0 leaves it
bound if and only if no `start` has taken the marker away while the console was unbound. -/
theorem stop_binds_console {w v u : Device} {events more : List Call} (bound : w.bind = true)
    (history : Runs frameBytes w events v)
    (exec : Exec Shell (stop frameBytes) v more (.done 0) u) :
    u.bind = true ↔ ∀ e ∈ events, ¬ LosesMarker e := by
  obtain ⟨stopping, restored⟩ := (stop_binds v).exec exec
  have restored : u.bind = true ∨ u.mark = false := restored rfl
  rw [← marked_iff bound history]
  constructor
  · intro is_bound
    by_contra lost
    have still : ¬ Marked u :=
      exec.preserves (I := (¬ Marked ·))
        (fun e member answer => step_lost (stopping e member).1 answer) lost
    exact still fun unbound => absurd (is_bound.symm.trans unbound) Bool.noConfusion
  · intro marked
    have still : Marked u :=
      exec.preserves (fun e member answer => step_marked (stopping e member).1 answer
        fun loses => (stopping e member).2 loses.stale) marked
    by_contra unbound
    rw [Bool.not_eq_true] at unbound
    obtain is_bound | unmarked := restored
    · exact absurd (is_bound.symm.trans unbound) Bool.noConfusion
    · exact absurd ((still unbound).symm.trans unmarked) Bool.noConfusion

theorem stop_binds_console_after_start :
    ∃ events more u, Runs 3686400 idle events running ∧
      Exec Shell (stop 3686400) running more (.done 0) u ∧ u.bind = true ∧
      ∀ e ∈ events, ¬ LosesMarker e := by
  have history := runs_start (.nil : Runs 3686400 idle [] idle) (idle_start true)
  have stopped : (stop 3686400).run (Device.answer true) running = some (.ok 0, idle) := rfl
  have exec := Device.exec stopped
  exact ⟨_, _, _, history, exec, rfl, (stop_binds_console rfl history exec).mp rfl⟩

/-- The renderer crashes, the cart is started again and stopped: `stop` exits 0, and the
console stays unbound. -/
theorem stop_leaves_console_unbound :
    ¬ ∀ (frameBytes : Nat) (w v u : Device) (events more : List Call), w.bind = true →
      Runs frameBytes w events v → Exec Shell (stop frameBytes) v more (.done 0) u →
      u.bind = true := by
  intro claimed
  let crashed : Device := { running with renderers := [] }
  let unmarked : Device := { running with mark := false }
  let unbound : Device := { idle with bind := false }
  have first := runs_start (.nil : Runs 3686400 idle [] idle) (idle_start true)
  have crash : Runs 3686400 idle _ crashed := first.move (.exits running [] (List.nil_sublist _))
  have loses : (start 3686400).run (Device.answer true) crashed = some (.ok 0, unmarked) := rfl
  have again := runs_start crash loses
  have stops : (stop 3686400).run (Device.answer true) unmarked = some (.ok 0, unbound) := rfl
  have bound := claimed 3686400 idle unmarked unbound _ _ rfl again (Device.exec stops)
  exact absurd bound Bool.noConfusion

end VitaLinux.Cart.DemoCart
