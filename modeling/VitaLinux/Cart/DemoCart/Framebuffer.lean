import VitaLinux.Cart.DemoCart.Commands

/-!
# Who owns the framebuffer

The restore part of `stop`, and that of the `EXIT` trap of `start`, do not ask whether the
renderer has exited: `stop` comes to it after at most 32 looks for the renderer, and `start`
whenever it gives up before `started=1`. What they write is written without a renderer when the
renderer is gone by then.
-/

namespace VitaLinux.Cart.DemoCart

open VitaLinux.Base Prog

variable {frameBytes : Nat} {d t : Device} {α : Type}

/-- The writes that put back the saved frame or the console. -/
def Restores (e : Call) : Prop := e.call = .drawSave ∨ e.call = .writeBind true

instance (e : Call) : Decidable (Restores e) := by
  unfold Restores
  infer_instance

/-- Nothing is put back while a renderer runs. -/
def Owned (e : Call) : Prop := Restores e → e.before.renderers = []

/-! ## What the scripts are answered -/

/-- No renderer runs, or there is neither a saved frame nor a marker. -/
def Free (d : Device) : Prop := d.renderers = [] ∨ d.save = none ∧ d.mark = false

instance (d : Device) : Decidable (Free d) := by
  unfold Free
  infer_instance

/-- The commands with which a script looks for the renderer. -/
def Command.looks : Command → Bool
  | .readable .pid | .check => true
  | _ => false

/-- A signal, or a command that fails. What is read of the bind file is no failure. -/
def Fails (frameBytes : Nat) : (command : Command) → Reply command → Prop
  | .pending, signal => signal ≠ none
  | .size _, size => size ≠ some frameBytes
  | .readable file, ok => file ≠ .bind ∧ ok = false
  | .catBind, _ => False
  | .writable _, ok | .present _, ok | .executable, ok | .remove _, ok | .saveFrame, ok
  | .drawSave, ok | .publishSave, ok | .touchMark, ok | .writeBind _, ok | .launch, ok
  | .check, ok | .terminate, ok | .sleep, ok | .started, ok | .report, ok => ok = false

instance : (command : Command) → (reply : Reply command) →
    Decidable (Fails frameBytes command reply)
  | .pending, signal => inferInstanceAs (Decidable (signal ≠ none))
  | .size _, size => inferInstanceAs (Decidable (size ≠ some frameBytes))
  | .readable file, ok => inferInstanceAs (Decidable (file ≠ .bind ∧ ok = false))
  | .catBind, _ => inferInstanceAs (Decidable False)
  | .writable _, ok | .present _, ok | .executable, ok | .remove _, ok | .saveFrame, ok
  | .drawSave, ok | .publishSave, ok | .touchMark, ok | .writeBind _, ok | .launch, ok
  | .check, ok | .terminate, ok | .sleep, ok | .started, ok | .report, ok =>
    inferInstanceAs (Decidable (ok = false))

/-- Before `started=1` there is no signal and no failure while a renderer runs over what would
be put back. That no renderer is found counts once it has been launched. -/
def StartAnswer (frameBytes : Nat) (past : List Command) (e : Call) : Prop :=
  .started ∉ past → Fails frameBytes e.call e.reply →
    (e.call.looks = true → .launch ∈ past) → Free e.after

/-- A renderer that is not found does not run, and none runs at the 32nd look for it. -/
def StopAnswer (frameBytes : Nat) (past : List Command) (e : Call) : Prop :=
  e.call.looks = true →
    Fails frameBytes e.call e.reply ∨ e.call = .check ∧ past.count .check = 31 → Free e.after

instance (past : List Command) (e : Call) : Decidable (StartAnswer frameBytes past e) := by
  unfold StartAnswer
  infer_instance

instance (past : List Command) (e : Call) : Decidable (StopAnswer frameBytes past e) := by
  unfold StopAnswer
  infer_instance

/-- A history of starts and stops, complete or killed anywhere, in which each run is answered
so. -/
inductive Careful (frameBytes : Nat) (w : Device) : List Call → Device → Prop where
  | nil : Careful frameBytes w [] w
  | start {v u : Device} {events more : List Call} {rest : Script Nat}
      (before : Careful frameBytes w events v)
      (exec : Exec Shell (start frameBytes) v more rest u)
      (answered : Answered (StartAnswer frameBytes) [] more) :
      Careful frameBytes w (events ++ more) u
  | stop {v u : Device} {events more : List Call} {rest : Script Nat}
      (before : Careful frameBytes w events v)
      (exec : Exec Shell (stop frameBytes) v more rest u)
      (answered : Answered (StopAnswer frameBytes) [] more) :
      Careful frameBytes w (events ++ more) u
  | move {v u : Device} {events : List Call} (before : Careful frameBytes w events v)
      (exits : Crash v u) : Careful frameBytes w events u

theorem Careful.runs {w v : Device} {events : List Call}
    (history : Careful frameBytes w events v) : Runs frameBytes w events v := by
  induction history with
  | nil => exact .nil
  | start before exec answered ih => exact ih.run (Or.inl rfl) exec
  | stop before exec answered ih => exact ih.run (Or.inr rfl) exec
  | move before exits ih => exact ih.move exits

/-! ## What the commands leave free -/

/-- The commands that can launch a renderer, or make something to put back. -/
def Command.adds : Command → Bool
  | .launch | .publishSave | .touchMark => true
  | _ => false

theorem remove_clears (gone : List Path) (d : Device) :
    (gone.foldl Device.without d).renderers = d.renderers ∧
      (d.save = none → (gone.foldl Device.without d).save = none) ∧
      (d.mark = false → (gone.foldl Device.without d).mark = false) := by
  induction gone generalizing d with
  | nil => exact ⟨rfl, id, id⟩
  | cons file gone ih =>
    obtain ⟨renderers, save, mark⟩ := ih (d.without file)
    have one : (d.without file).renderers = d.renderers ∧
        (d.save = none → (d.without file).save = none) ∧
        (d.mark = false → (d.without file).mark = false) := by
      cases file <;> simp [Device.without]
    rw [List.foldl_cons]
    exact ⟨renderers.trans one.1, fun h => save (one.2.1 h), fun h => mark (one.2.2 h)⟩

/-- The other commands start no renderer and make nothing to put back. -/
theorem Shell.clears {command : Command} {r : Reply command} (h : Shell d command r t)
    (quiet : command.adds = false) : (d.renderers = [] → t.renderers = []) ∧
      (d.save = none ∧ d.mark = false → t.save = none ∧ t.mark = false) := by
  obtain ⟨between, effect, ⟨left, fewer⟩⟩ := h
  have kept : between.renderers = d.renderers ∧ (d.save = none → between.save = none) ∧
      (d.mark = false → between.mark = false) := by
    cases effect with
    | remove files gone r some_of all => exact remove_clears gone d
    | launch | publishSave | publishFailed | touchMark | touchFailed => cases quiet
    | _ => exact ⟨rfl, id, id⟩
  refine ⟨fun none => ?_, fun nothing => ⟨kept.2.1 nothing.1, kept.2.2 nothing.2⟩⟩
  rw [kept.1, none] at fewer
  exact List.sublist_nil.mp fewer

theorem Shell.free {command : Command} {r : Reply command} (h : Shell d command r t)
    (quiet : command.adds = false) (free : Free d) : Free t :=
  free.imp (h.clears quiet).1 (h.clears quiet).2

/-! ## The restore parts -/

/-- A part that begins without a renderer puts back without one. -/
theorem owned_of_none {part : Script α} (uses : part.Uses (·.adds = false))
    (none : d.renderers = []) :
    part.Meets Shell Owned (fun _ t => t.renderers = []) (fun _ _ => True) d := by
  have kept : ∀ s c r t, c.adds = false → s.renderers = [] → Shell s c r t → t.renderers = [] :=
    fun _ _ _ _ quiet empty answer => (answer.clears quiet).1 empty
  exact (uses.meets (I := fun t => t.renderers = []) kept none).mono
    (fun _ event _ => event.2.1) (fun _ _ empty => empty) fun _ _ _ => trivial

/-- A part that first tests for what it puts back. -/
theorem owned_of_test {file : Path} {next : Bool → Script α} {skipped : α}
    (uses : (Prog.ask (.present file) next : Script α).Uses (·.adds = false))
    (skips : next false = pure skipped) (known : file = .save ∨ file = .mark) (free : Free d) :
    (Prog.ask (.present file) next : Script α).Meets Shell Owned (fun _ t => Free t)
      (fun _ _ => True) d := by
  obtain none | nothing := free
  · exact (owned_of_none uses none).imp (fun _ _ empty => .inl empty) fun _ _ _ => trivial
  intro present t answer
  refine ⟨fun restores => ?_, ?_⟩
  · obtain drawn | bound := restores
    · cases drawn
    · cases bound
  have still := (answer.clears uses.1).2 nothing
  have absent : present = false := by
    obtain ⟨between, effect, -⟩ := answer
    cases effect with
    | present _ _ found =>
      obtain rfl | rfl := known
      · simpa [Device.has, nothing.1] using found
      · simpa [Device.has, nothing.2] using found
  rw [absent, skips]
  exact .inr still

/-- The commands that put nothing back. -/
def PutsNothingBack (command : Command) : Prop :=
  command ≠ .drawSave ∧ command ≠ .writeBind true

theorem PutsNothingBack.owned {e : Call} (h : PutsNothingBack e.call) : Owned e := by
  rintro (drawn | bound)
  · exact absurd drawn h.1
  · exact absurd bound h.2

/-- A part that puts nothing back and adds nothing leaves the device free. -/
theorem free_of_uses {part : Script α}
    (uses : part.Uses fun c => PutsNothingBack c ∧ c.adds = false) (free : Free d) :
    part.Meets Shell Owned (fun _ t => Free t) (fun _ t => Free t) d :=
  (uses.meets (I := Free) (fun _ _ _ _ c free answer => answer.free c.2 free) free).mono
    (fun _ event => event.1.1.owned) (fun _ _ free => free) fun _ _ free => free

theorem uses_quiet {command : Command} (quiet : command.adds = false) :
    (sh command : Script (Reply command)).Uses (·.adds = false) := uses_sh quiet

theorem cleanupFrame_uses (status : Nat) :
    (cleanupFrame frameBytes status).Uses (·.adds = false) := by
  unfold cleanupFrame
  apply (uses_quiet rfl).bind
  intro present
  apply Uses.ite _ (uses_pure _)
  have restores : (restoreSavedFrame frameBytes).Uses (·.adds = false) :=
    uses_restoreSavedFrame (by decide)
  apply restores.bind
  intro restored
  apply (uses_pure _).ite
  exact (uses_orExit (uses_quiet rfl)).bind fun _ => uses_pure _

theorem stopRestoreConsole_uses (status : Nat) :
    (stopRestoreConsole status).Uses (·.adds = false) := by
  have message : complain.Uses (·.adds = false) := uses_complain rfl
  unfold stopRestoreConsole
  apply (uses_quiet rfl).bind
  intro present
  apply Uses.ite _ (uses_pure _)
  have rebinds : rebind.Uses (·.adds = false) := by
    unfold rebind
    apply (uses_quiet rfl).bind
    exact fun _ => (uses_quiet rfl).ite (uses_pure _)
  apply rebinds.bind
  intro bound
  exact ((uses_quiet rfl).bind fun _ => uses_pure _).ite message

/-- `start` has set `started`, or it leaves the device free to its trap. -/
def Settled (exit : Exit) (d : Device) : Prop := exit.started = true ∨ Free d

theorem cleanup_owned {exit : Exit} (settled : Settled exit d) :
    (cleanup frameBytes exit).Meets Shell Owned (fun _ _ => True) (fun _ _ => True) d := by
  unfold cleanup
  have removes : (orExit exit.started (sh (.remove [.saveTmp]))).Uses
      fun c => PutsNothingBack c ∧ c.adds = false :=
    uses_orExit (uses_sh (by unfold PutsNothingBack; decide))
  obtain started | free := settled
  · rw [if_pos started]
    exact (removes.mono fun _ c => c.1).guarantees (fun _ => PutsNothingBack.owned) d
      |>.seq fun _ _ _ => trivial
  apply ((free_of_uses removes free).imp (fun _ _ free => free) fun _ _ _ => trivial).seq
  intro _ t free
  split
  · trivial
  apply (owned_of_test (cleanupFrame_uses _) rfl (Or.inl rfl) free).seq
  intro status t free
  unfold cleanupConsole
  have restores : restoreConsole.Uses (·.adds = false) := uses_restoreConsole (by decide)
  apply (owned_of_test restores rfl (Or.inr rfl) free).seq
  intro restored t free
  split
  · trivial
  · exact (free_of_uses ((uses_orExit (uses_sh (by unfold PutsNothingBack; decide))).bind
      fun _ => uses_pure _) free).imp (fun _ _ _ => trivial) fun _ _ _ => trivial

/-! ## How `start` comes to its trap -/

section starting

variable {launched : Prop} {s t : Device × List Command}

/-- A part of `start`: it puts nothing back under a renderer, and gives up only with the device
free, as long as it is answered as expected. -/
abbrev Leads (frameBytes : Nat) (Q : α → Device × List Command → Prop) (part : Script α)
    (s : Device × List Command) : Prop :=
  part.Meets (along (StartAnswer frameBytes) Shell) (fun e => Owned e.view) Q
    (fun exit t => Settled exit t.1) s

/-- `start` has not set `started` yet, and has issued the launch if it is said to have. -/
structure Starting (launched : Prop) (s : Device × List Command) : Prop where
  unstarted : .started ∉ s.2
  launch : launched → .launch ∈ s.2

theorem Starting.next {command : Command} (h : Starting launched s)
    (log : t.2 = s.2 ++ [.pending, command]) (other : command ≠ .started) :
    Starting launched t where
  unstarted := by simp [log, h.unstarted, other.symm]
  launch known := by simp [log, h.launch known]

theorem interrupt_starting (h : Starting launched s) :
    Leads frameBytes (fun _ t => t.2 = s.2 ++ [.pending]) (interrupt false) s := by
  rintro signal t ⟨⟨answer, log⟩, good⟩
  refine ⟨PutsNothingBack.owned ⟨nofun, nofun⟩, ?_⟩
  cases signal with
  | none => exact log
  | some signal => exact .inr (good h.unstarted (Option.some_ne_none signal) nofun)

/-- A command of `start` before `started=1`: when it fails, and that counts, the device is
free. -/
theorem trapped_starting (command : Command) (quiet : PutsNothingBack command)
    (h : Starting launched s) :
    Leads frameBytes (fun r t => t.2 = s.2 ++ [.pending, command] ∧ (Fails frameBytes command r →
      (command.looks = true → launched) → Free t.1)) (trapped false command) s := by
  unfold trapped
  apply (interrupt_starting h).seq
  rintro _ t log r u ⟨⟨answer, log'⟩, good⟩
  refine ⟨PutsNothingBack.owned quiet, ?_, fun fails counts => ?_⟩
  · rw [log', log, List.append_assoc]
    rfl
  · refine good ?_ fails fun looks => ?_
    · simp [log, h.unstarted]
    · simp [log, h.launch (counts looks)]

/-- A command of `start` that is no look for the renderer. -/
theorem trapped_ends (command : Command) (quiet : PutsNothingBack command)
    (other : command ≠ .started) (silent : command.looks = false) (h : Starting launched s) :
    Leads frameBytes (fun r t => Starting launched t ∧ (Fails frameBytes command r → Free t.1))
      (trapped false command) s :=
  (trapped_starting command quiet h).imp (fun _ _ after => ⟨h.next after.1 other, fun fails =>
    after.2 fails fun looks => absurd (silent.symm.trans looks) Bool.noConfusion⟩)
    fun _ _ settled => settled

theorem orExit_starting {command : Script Bool}
    (h : Leads frameBytes (fun ok t => Starting launched t ∧ (ok = false → Free t.1)) command s) :
    Leads frameBytes (fun _ t => Starting launched t) (orExit false command) s := by
  unfold orExit
  apply h.seq
  intro ok t after
  cases ok with
  | true => exact after.1
  | false => exact .inr (after.2 rfl)

theorem die_settled {Q : α → Device × List Command → Prop} (free : Free s.1) :
    Leads frameBytes Q die s := by
  have message : (trapped false .report).Uses fun c => PutsNothingBack c ∧ c.adds = false :=
    uses_trapped (by unfold PutsNothingBack; decide) (by unfold PutsNothingBack; decide)
  unfold die
  apply (((free_of_uses message free).remembered s.2).imp (fun _ _ free => free)
    fun _ _ free => .inr free).seq
  exact fun _ t free => .inr free

theorem orDie_starting {command : Script Bool}
    (h : Leads frameBytes (fun ok t => Starting launched t ∧ (ok = false → Free t.1)) command s) :
    Leads frameBytes (fun _ t => Starting launched t) (orDie command) s := by
  unfold orDie
  apply h.seq
  intro ok t after
  cases ok with
  | true => exact after.1
  | false => exact die_settled (after.2 rfl)

theorem saveFrame_starting (h : Starting launched s) :
    Leads frameBytes (fun _ t => Starting launched t) (saveFrame frameBytes) s := by
  unfold saveFrame
  apply (orDie_starting (trapped_ends .executable ⟨nofun, nofun⟩ nofun rfl h)).seq
  intro _ s h
  apply (orExit_starting
    (trapped_ends (.remove staleFiles) ⟨nofun, nofun⟩ nofun rfl h)).seq
  intro _ s h
  apply (orDie_starting (trapped_ends .saveFrame ⟨nofun, nofun⟩ nofun rfl h)).seq
  intro _ s h
  apply (trapped_ends (.size .saveTmp) ⟨nofun, nofun⟩ nofun rfl h).seq
  intro size s after
  have sized : Leads frameBytes (fun _ t => Starting launched t) (checkSize frameBytes size) s := by
    cases size with
    | none => exact .inr (after.2 (Option.some_ne_none frameBytes).symm)
    | some size =>
      refine orDie_starting ⟨after.1, fun other => after.2 ?_⟩
      intro same
      cases same
      simp at other
  apply sized.seq
  intro _ s h
  exact orExit_starting (trapped_ends .publishSave ⟨nofun, nofun⟩ nofun rfl h)

theorem unbindConsole_starting (h : Starting launched s) :
    Leads frameBytes (fun _ t => Starting launched t) unbindConsole s := by
  unfold unbindConsole
  apply (trapped_ends (.readable .bind) ⟨nofun, nofun⟩ nofun rfl h).seq
  rintro readable s ⟨h, -⟩
  split
  case isFalse => exact h
  apply (trapped_ends .catBind ⟨nofun, nofun⟩ nofun rfl h).seq
  rintro text s ⟨h, -⟩
  split
  case isFalse => exact h
  apply (orExit_starting (trapped_ends .touchMark ⟨nofun, nofun⟩ nofun rfl h)).seq
  intro _ s h
  exact orExit_starting (trapped_ends (.writeBind false) ⟨nofun, nofun⟩ nofun rfl h)

/-- A look for the cart: once it is launched, it is not found only when the device is free. -/
theorem cartPidMatches_starting (h : Starting launched s) :
    Leads frameBytes (fun found t => Starting launched t ∧ (found = false → launched → Free t.1))
      (cartPidMatches (trapped false)) s := by
  unfold cartPidMatches
  apply (trapped_starting (.readable .pid) ⟨nofun, nofun⟩ h).seq
  rintro readable s ⟨log, missed⟩
  have h := h.next log nofun
  cases readable with
  | false => exact ⟨h, fun _ known => missed ⟨nofun, rfl⟩ fun _ => known⟩
  | true =>
    exact (trapped_starting .check ⟨nofun, nofun⟩ h).imp
      (fun found t after => ⟨h.next after.1 nofun, fun lost known => after.2 lost fun _ => known⟩)
      fun _ _ settled => settled

/-- Once `started` is set, `start` ends with it set. -/
theorem interrupt_started :
    Leads frameBytes (fun _ _ => True) (interrupt true) s := by
  intro signal t answer
  refine ⟨PutsNothingBack.owned ⟨nofun, nofun⟩, ?_⟩
  cases signal with
  | none => trivial
  | some signal => exact .inl rfl

theorem launch_settled (h : Starting launched s) :
    Leads frameBytes (fun exit t => Settled exit t.1) launch s := by
  unfold launch
  have issued :
      Leads frameBytes (fun _ t => Starting True t) (orDie (trapped false .launch)) s := by
    apply orDie_starting
    refine (trapped_starting .launch ⟨nofun, nofun⟩ h).imp ?_ fun _ _ settled => settled
    intro ok t after
    have next := h.next after.1 nofun
    exact ⟨⟨next.unstarted, fun _ => by simp [after.1]⟩, fun failed => after.2 failed nofun⟩
  apply issued.seq
  intro _ s h
  apply (orExit_starting (trapped_ends .sleep ⟨nofun, nofun⟩ nofun rfl h)).seq
  intro _ s h
  apply (cartPidMatches_starting h).seq
  rintro found s ⟨h, lost⟩
  cases found with
  | true =>
    apply ((trapped_starting .started ⟨nofun, nofun⟩ h).imp
      (fun _ _ _ => trivial) fun _ _ settled => settled).seq (R := fun _ _ => True)
    intro _ s _
    have told : Leads frameBytes (fun _ _ => True) (orExit true (trapped true .report)) s := by
      unfold orExit trapped
      apply Meets.seq (R := fun _ _ => True)
      · apply interrupt_started.seq
        exact fun _ _ _ _ _ _ => ⟨PutsNothingBack.owned ⟨nofun, nofun⟩, trivial⟩
      intro ok t _
      cases ok with
      | true => trivial
      | false => exact .inl rfl
    apply told.seq
    intro _ s _
    exact interrupt_started.seq fun _ _ _ => .inl rfl
  | false =>
    have free : Free s.1 := lost rfl trivial
    have removes : (orExit false (trapped false (.remove [.pid]))).Uses
        fun c => PutsNothingBack c ∧ c.adds = false :=
      uses_orExit (uses_trapped (by unfold PutsNothingBack; decide)
        (by unfold PutsNothingBack; decide))
    apply (((free_of_uses removes free).remembered s.2).imp (fun _ _ free => free)
      fun _ _ free => .inr free).seq
    exact fun _ t free => die_settled free

theorem startBody_settled (d : Device) :
    Leads frameBytes (fun exit t => Settled exit t.1) (startBody frameBytes) (d, []) := by
  have h : Starting False (d, []) := ⟨List.not_mem_nil, False.elim⟩
  unfold startBody
  apply (cartPidMatches_starting h).seq
  rintro found s ⟨h, -⟩
  cases found with
  | true =>
    apply (orExit_starting (trapped_ends .report ⟨nofun, nofun⟩ nofun rfl h)).seq
    intro _ s h
    apply ((trapped_starting .started ⟨nofun, nofun⟩ h).imp
      (fun _ _ _ => trivial) fun _ _ settled => settled).seq (R := fun _ _ => True)
    intro _ s _
    exact interrupt_started.seq fun _ _ _ => .inl rfl
  | false =>
    apply (saveFrame_starting h).seq
    intro _ s h
    apply (unbindConsole_starting h).seq
    exact fun _ s h => launch_settled h

theorem start_owned (d : Device) :
    (start frameBytes).Meets (along (StartAnswer frameBytes) Shell) (fun e => Owned e.view)
      (fun _ _ => True) (fun _ _ => True) (d, []) := by
  unfold start
  refine Meets.seq (R := fun exit t => Settled exit t.1) ?_ fun exit t settled =>
    (cleanup_owned settled).remembered t.2
  rw [meets_tryCatch]
  exact startBody_settled d

end starting

/-! ## How `stop` comes to its restore part -/

section waiting

variable {n : Nat} {s t : Device × List Command}

/-- A part of `stop`: it puts nothing back under a renderer, as long as it is answered as
expected. -/
abbrev Waits (frameBytes : Nat) (Q : α → Device × List Command → Prop) (part : Script α)
    (s : Device × List Command) : Prop :=
  part.Meets (along (StopAnswer frameBytes) Shell) (fun e => Owned e.view) Q (fun _ _ => True) s

/-- So many looks for the renderer have found it, or the device is free. -/
def Looked (n : Nat) (s : Device × List Command) : Prop :=
  Free s.1 ∨ s.2.count .check = n ∧ n ≤ 31

/-- What is no look does not change what is known. -/
theorem looked_of_uses {part : Script α}
    (uses : part.Uses fun c => (PutsNothingBack c ∧ c.adds = false) ∧ c ≠ .check)
    (h : Looked n s) : Waits frameBytes (fun _ t => Looked n t) part s := by
  refine (uses.meets (I := Looked n) ?_ h).mono (fun e event => ?_) (fun _ _ h => h)
    fun _ _ _ => trivial
  · rintro s c r t ⟨⟨-, quiet⟩, other⟩ h ⟨⟨answer, log⟩, -⟩
    refine h.imp (answer.free quiet) fun counted => ⟨?_, counted.2⟩
    rw [log, List.count_append, counted.1]
    exact congrArg (n + ·) (List.count_eq_zero.mpr (by simpa using other.symm))
  · exact PutsNothingBack.owned event.1.1.1

/-- One more look: the renderer is found, and not for the 32nd time, or the device is free. -/
theorem cartPidMatches_looked (h : Looked n s) :
    Waits frameBytes (fun found t => Free t.1 ∨ found = true ∧ t.2.count .check = n + 1 ∧ n < 31)
      (cartPidMatches sh) s := by
  unfold cartPidMatches
  rintro readable t ⟨⟨answer, log⟩, good⟩
  refine ⟨PutsNothingBack.owned ⟨nofun, nofun⟩, ?_⟩
  cases readable with
  | false => exact .inl (good rfl (.inl ⟨nofun, rfl⟩))
  | true =>
    rintro found u ⟨⟨answer', log'⟩, good'⟩
    refine ⟨PutsNothingBack.owned ⟨nofun, nofun⟩, ?_⟩
    obtain free | ⟨counted, bound⟩ := h
    · exact .inl (answer'.free rfl (answer.free rfl free))
    have before : t.2.count .check = n := by
      rw [log, List.count_append, counted]
      rfl
    have after : u.2.count .check = n + 1 := by
      rw [log', List.count_append, before]
      rfl
    cases found with
    | false => exact .inl (good' rfl (.inl rfl))
    | true =>
      obtain last | more := Nat.eq_or_lt_of_le bound
      · exact .inl (good' rfl (.inr ⟨rfl, before.trans last⟩))
      · exact .inr ⟨rfl, after, more⟩

/-- The wait ends with 31 looks that have found the renderer, or with the device free. -/
theorem awaitExit_looked (checks : Nat) (bound : checks ≤ 30) (h : Looked (31 - checks) s) :
    Waits frameBytes (fun _ t => Looked 31 t) (awaitExit checks) s := by
  induction checks generalizing s with
  | zero => exact h
  | succ checks ih =>
    unfold awaitExit
    apply (cartPidMatches_looked h).seq
    intro found s looked
    have next : Looked (31 - checks) s := by
      refine looked.imp id fun kept => ⟨?_, Nat.sub_le ..⟩
      have counted := kept.2.1
      omega
    have sleeps : (sh .sleep : Script Bool).Uses
        fun c => (PutsNothingBack c ∧ c.adds = false) ∧ c ≠ .check :=
      uses_sh (by unfold PutsNothingBack; decide)
    cases found with
    | true =>
      apply (looked_of_uses sleeps next).seq
      exact fun _ s h => ih (by omega) h
    | false => exact .inl (looked.resolve_right fun no => Bool.noConfusion no.1)

theorem stopRenderer_free (d : Device) :
    Waits frameBytes (fun _ t => Free t.1) stopRenderer (d, []) := by
  have start : Looked 0 (d, []) := .inr ⟨rfl, by decide⟩
  have removes : ∀ status : Nat, (sh (.remove [.pid]) >>= fun _ => return status : Script Nat).Uses
      fun c => PutsNothingBack c ∧ c.adds = false :=
    fun status => (uses_sh (by unfold PutsNothingBack; decide)).bind fun _ => uses_pure _
  have ends {part : Script Nat} {s : Device × List Command} (free : Free s.1)
      (uses : part.Uses fun c => PutsNothingBack c ∧ c.adds = false) :
      Waits frameBytes (fun _ t => Free t.1) part s :=
    ((free_of_uses uses free).remembered s.2).imp (fun _ _ free => free) fun _ _ _ => trivial
  have message : complain.Uses fun c => PutsNothingBack c ∧ c.adds = false :=
    uses_complain (by unfold PutsNothingBack; decide)
  unfold stopRenderer
  apply (cartPidMatches_looked start).seq
  intro found s looked
  cases found with
  | false => exact ends (looked.resolve_right fun no => Bool.noConfusion no.1) (removes 0)
  | true =>
    have once : Looked 1 s := looked.imp id fun found => ⟨found.2.1, by decide⟩
    have requests : requestShutdown.Uses
        fun c => (PutsNothingBack c ∧ c.adds = false) ∧ c ≠ .check := by
      unfold requestShutdown
      apply (uses_sh (by unfold PutsNothingBack; decide)).bind
      intro asked
      exact (uses_pure _).ite (uses_complain (by unfold PutsNothingBack; decide))
    apply (looked_of_uses requests once).seq
    intro status s once
    apply (awaitExit_looked 30 (Nat.le_refl 30) once).seq
    intro _ s waited
    apply (cartPidMatches_looked waited).seq
    intro found s looked
    have free : Free s.1 := looked.resolve_right fun no => Nat.lt_irrefl 31 no.2.2
    exact ends free (message.ite (removes status))

/-- The restore part of `stop`, on a free device. -/
theorem stop_owned (d : Device) :
    Waits frameBytes (fun _ _ => True) (stop frameBytes) (d, []) := by
  have draws : ∀ status, (stopRestoreFrame frameBytes status).Uses (·.adds = false) :=
    fun status => uses_stopRestoreFrame (by decide)
  unfold stop
  apply (stopRenderer_free d).seq
  intro status s free
  have restored : (stopRestoreFrame frameBytes status >>= fun status =>
      stopRestoreConsole status >>= fun status => sh .report >>= fun _ => return status :
        Script Nat).Meets Shell Owned (fun _ _ => True) (fun _ _ => True) s.1 := by
    apply (owned_of_test (draws status) rfl (Or.inl rfl) free).seq
    intro status d free
    apply (owned_of_test (stopRestoreConsole_uses status) rfl (Or.inr rfl) free).seq
    exact fun status d free r t answer => ⟨PutsNothingBack.owned ⟨nofun, nofun⟩, trivial⟩
  exact restored.remembered s.2

end waiting

/-- In every history in which `start` meets no signal and no failure before `started=1` while a
renderer runs, and the renderer is gone when `stop` does not find it and by its 32nd look,
neither the saved frame nor the console is put back while a renderer runs. -/
theorem restores_alone {w v : Device} {events : List Call}
    (history : Careful frameBytes w events v) :
    ∀ e ∈ events, Restores e → e.before.renderers = [] := by
  change ∀ e ∈ events, Owned e
  induction history with
  | nil => exact fun e member => absurd member List.not_mem_nil
  | start before exec answered ih =>
    exact List.forall_mem_append.mpr ⟨ih, (start_owned _).exec_along exec answered⟩
  | stop before exec answered ih =>
    exact List.forall_mem_append.mpr ⟨ih, (stop_owned _).exec_along exec answered⟩
  | move before exits ih => exact ih

/-- A renderer that ends at its third sleep after the request. -/
def slowly : Device × Option Nat → (command : Command) →
    Option (Reply command × (Device × Option Nat))
  | (d, none), .terminate => some (true, (d, some 2))
  | (d, some 0), .sleep => some (true, ({ d with renderers := [] }, none))
  | (d, some (left + 1)), .sleep => some (true, (d, some left))
  | (d, left), command => (d.answer false command).map fun (r, t) => (r, (t, left))

theorem slowly_possible (h : Device × Option Nat) (command : Command) (r : Reply command)
    (k : Device × Option Nat) (answered : slowly h command = some (r, k)) :
    Shell h.1 command r k.1 := by
  unfold slowly at answered
  split at answered
  · cases answered
    exact ⟨_, .terminate _ true, .exits _ _ (.refl _)⟩
  · cases answered
    exact ⟨_, .sleep _ true, .exits _ [] (List.nil_sublist _)⟩
  · cases answered
    exact ⟨_, .sleep _ true, .exits _ _ (.refl _)⟩
  · obtain ⟨⟨r', t⟩, given, same⟩ := Option.map_eq_some_iff.mp answered
    cases same
    exact Device.answer_possible false _ _ _ _ given

/-- The cart is started, and stopped while its renderer takes some looks to exit. -/
theorem restores_alone_start_stop :
    ∃ events v, Runs 3686400 idle events v ∧ (∃ e ∈ events, Restores e) ∧
      (∃ e ∈ events, e.call = .terminate ∧ e.before.renderers = [1]) ∧
      ∀ e ∈ events, Restores e → e.before.renderers = [] := by
  have started : Careful 3686400 idle _ running :=
    .start .nil (Device.exec (idle_start false)) (by decide +kernel)
  have ran : (stop 3686400).run slowly (running, none) = some (.ok 0, (idle, none)) := rfl
  have stopped := Careful.stop started (Prog.exec_run slowly_possible ran) (by decide +kernel)
  exact ⟨_, _, stopped.runs, by decide +kernel, by decide +kernel, restores_alone stopped⟩

/-- The renderer outlives the 30 checks of `stop`, which then puts the frame and the console
back under it. -/
theorem stop_restores_under_renderer :
    ¬ ∀ (frameBytes : Nat) (w v : Device) (events : List Call), Runs frameBytes w events v →
      ∀ e ∈ events, Restores e → e.before.renderers = [] := by
  intro claimed
  let rebound : Device := { running with bind := true, mark := false, save := none }
  have started := runs_start (.nil : Runs 3686400 idle [] idle) (idle_start false)
  have ran : (stop 3686400).run (Device.answer false) running = some (.ok 1, rebound) := by
    decide +kernel
  have stopped := runs_stop started ran
  have owned := claimed 3686400 idle _ _ stopped
  exact absurd owned (by decide +kernel)

end VitaLinux.Cart.DemoCart
