import VitaLinux.Cart.DemoCart.Scripts

/-!
# The commands that each part of the scripts issues

One lemma for each part, under the name of the part: it issues only commands of a set when the
set has those that the part is written with.
-/

namespace VitaLinux.Cart.DemoCart

open VitaLinux.Base Prog

variable {ε : Type} {C : Command → Prop} {frameBytes : Nat}

theorem uses_sh {command : Command} (h : C command) :
    (sh command : Prog Command Reply ε (Reply command)).Uses C := by
  unfold sh
  exact (uses_call command).mpr h

/-- A signal is looked for, and ends the script through its trap. -/
theorem uses_interrupt {started : Bool} (pending : C .pending) : (interrupt started).Uses C := by
  unfold interrupt
  apply (uses_sh pending).bind
  intro signal
  cases signal with
  | none => exact uses_pure _
  | some signal => exact uses_throw _

/-- While the traps are set, a signal is looked for before each command. -/
theorem uses_trapped {started : Bool} {command : Command} (pending : C .pending)
    (h : C command) : (trapped started command).Uses C := by
  unfold trapped
  exact (uses_interrupt pending).bind fun _ => uses_sh h

/-- The check asks whether the pid file is there before it reads it. -/
theorem uses_cartPidMatches {ask : (command : Command) → Prog Command Reply ε (Reply command)}
    (asks : ∀ command ∈ [.readable .pid, .check], (ask command).Uses C) :
    (cartPidMatches ask).Uses C := by
  unfold cartPidMatches
  apply (asks _ (by simp)).bind
  intro readable
  exact (asks _ (by simp)).ite (uses_pure _)

theorem uses_saveHasExpectedSize (h : ∀ c ∈ [.readable .save, .size .save], C c) :
    (saveHasExpectedSize sh frameBytes : Prog Command Reply ε Bool).Uses C := by
  unfold saveHasExpectedSize
  apply (uses_sh (h _ (by simp))).bind
  intro readable
  apply Uses.ite
  · exact (uses_sh (h _ (by simp))).bind fun _ => uses_pure _
  · exact uses_pure _

theorem uses_orExit {started : Bool} {command : Script Bool} (h : command.Uses C) :
    (orExit started command).Uses C := by
  unfold orExit
  exact h.bind fun _ => (uses_pure _).ite (uses_throw _)

theorem uses_die {α : Type} (h : ∀ c ∈ [.pending, .report], C c) : (die : Script α).Uses C := by
  unfold die
  exact (uses_trapped (h _ (by simp)) (h _ (by simp))).bind fun _ => uses_throw _

/-- A command under `|| die` may be followed by the message of `die`. -/
theorem uses_orDie {command : Script Bool} (k : command.Uses C)
    (h : ∀ c ∈ [.pending, .report], C c) : (orDie command).Uses C := by
  unfold orDie
  exact k.bind fun _ => (uses_pure _).ite (uses_die h)

theorem uses_restoreSavedFrame
    (h : ∀ c ∈ [.readable .save, .size .save, .drawSave, .remove [.save]], C c) :
    (restoreSavedFrame frameBytes).Uses C := by
  unfold restoreSavedFrame
  apply (uses_saveHasExpectedSize fun c member => h c (by simp at member ⊢; tauto)).bind
  intro complete
  apply Uses.ite
  · apply (uses_sh (h _ (by simp))).bind
    intro drawn
    exact (uses_sh (h _ (by simp))).ite (uses_pure _)
  · exact uses_pure _

theorem uses_restoreConsole
    (h : ∀ c ∈ [.present .mark, .writable .bind, .writeBind true, .remove [.mark]], C c) :
    restoreConsole.Uses C := by
  unfold restoreConsole
  apply (uses_sh (h _ (by simp))).bind
  intro marked
  apply Uses.ite
  · apply (uses_sh (h _ (by simp))).bind
    intro writable
    apply Uses.ite
    · apply (uses_sh (h _ (by simp))).bind
      intro written
      exact (uses_sh (h _ (by simp))).ite (uses_pure _)
    · exact uses_pure _
  · exact uses_pure _

/-- The frame goes to a temporary file, and becomes the save file once its size is right. -/
theorem uses_saveFrame
    (h : ∀ c ∈ [.pending, .report, .executable, .remove staleFiles, .saveFrame, .size .saveTmp,
      .publishSave], C c) : (saveFrame frameBytes).Uses C := by
  have issues : ∀ c ∈ [.executable, .remove staleFiles, .saveFrame, .size .saveTmp, .publishSave],
      (trapped false c).Uses C := by
    intro c member
    exact uses_trapped (h _ (by simp)) (h c (by simp at member ⊢; tauto))
  have message : ∀ c ∈ [.pending, .report], C c := fun c member => h c (by simp at member ⊢; tauto)
  unfold saveFrame
  apply (uses_orDie (issues .executable (by simp)) message).bind
  intro _
  apply (uses_orExit (issues (.remove staleFiles) (by simp))).bind
  intro _
  apply (uses_orDie (issues .saveFrame (by simp)) message).bind
  intro _
  apply (issues (.size .saveTmp) (by simp)).bind
  intro size
  have sized : (checkSize frameBytes size).Uses C := by
    cases size with
    | none => exact uses_throw _
    | some size => exact uses_orDie (uses_pure _) message
  exact sized.bind fun _ => uses_orExit (issues .publishSave (by simp))

/-- What `start` issues from the launch on; a cart that has not come up loses its pid file. -/
theorem uses_launch
    (h : ∀ c ∈ [.pending, .report, .launch, .sleep, .readable .pid, .check, .remove [.pid],
      .started], C c) : launch.Uses C := by
  have issues : ∀ started, ∀ c ∈ [.report, .launch, .sleep, .readable .pid, .check,
      .remove [.pid], .started], (trapped started c).Uses C := by
    intro started c member
    exact uses_trapped (h _ (by simp)) (h c (by simp at member ⊢; tauto))
  have message : ∀ c ∈ [.pending, .report], C c := fun c member => h c (by simp at member ⊢; tauto)
  unfold launch
  apply (uses_orDie (issues false .launch (by simp)) message).bind
  intro _
  apply (uses_orExit (issues false .sleep (by simp))).bind
  intro _
  apply (uses_cartPidMatches fun c member =>
    issues false c (by simp at member ⊢; tauto)).bind
  intro running
  apply Uses.ite
  · apply (issues false .started (by simp)).bind
    intro _
    apply (uses_orExit (issues true .report (by simp))).bind
    intro _
    exact (uses_interrupt (h _ (by simp))).bind fun _ => uses_pure _
  · apply (uses_orExit (issues false (.remove [.pid]) (by simp))).bind
    intro _
    exact uses_die message

/-- What `start` issues when the cart is running already. -/
theorem uses_alreadyRunning (h : ∀ c ∈ [.pending, .report, .started], C c) :
    (orExit false (trapped false .report) >>= fun _ => trapped false .started >>= fun _ =>
      interrupt true >>= fun _ => return ⟨0, true⟩ : Script Exit).Uses C := by
  have signals : ∀ started c, C c → (trapped started c).Uses C :=
    fun _ _ issued => uses_trapped (h _ (by simp)) issued
  apply (uses_orExit (signals false .report (h _ (by simp)))).bind
  intro _
  apply (signals false .started (h _ (by simp))).bind
  intro _
  exact (uses_interrupt (h _ (by simp))).bind fun _ => uses_pure _

/-- By induction on the checks that are left: each is followed by a sleep. -/
theorem uses_awaitExit (h : ∀ c ∈ [.readable .pid, .check, .sleep], C c) (checks : Nat) :
    (awaitExit checks).Uses C := by
  induction checks with
  | zero => exact uses_pure _
  | succ checks ih =>
    unfold awaitExit
    apply (uses_cartPidMatches fun c member => uses_sh (h c (by simp at member ⊢; tauto))).bind
    intro running
    apply Uses.ite _ (uses_pure _)
    exact (uses_sh (h _ (by simp))).bind fun _ => ih

theorem uses_complain (h : C .report) : complain.Uses C := by
  unfold complain
  exact (uses_sh h).bind fun _ => uses_pure _

/-- `stop` asks the cart to end, waits for it, and removes the pid file only if it has gone. -/
theorem uses_stopRenderer
    (h : ∀ c ∈ [.readable .pid, .check, .terminate, .report, .sleep, .remove [.pid]], C c) :
    stopRenderer.Uses C := by
  have checks : (cartPidMatches sh : Script Bool).Uses C :=
    uses_cartPidMatches fun c member => uses_sh (h c (by simp at member ⊢; tauto))
  have message : complain.Uses C := uses_complain (h _ (by simp))
  have retires : ∀ status : Nat,
      (sh (.remove [.pid]) >>= fun _ => return status : Script Nat).Uses C :=
    fun status => (uses_sh (h _ (by simp))).bind fun _ => uses_pure _
  unfold stopRenderer
  apply checks.bind
  intro running
  apply Uses.ite _ (retires 0)
  have requests : requestShutdown.Uses C := by
    unfold requestShutdown
    exact (uses_sh (h _ (by simp))).bind fun _ => (uses_pure _).ite message
  apply requests.bind
  intro status
  apply (uses_awaitExit (fun c member => h c (by simp at member ⊢; tauto)) 30).bind
  intro _
  apply checks.bind
  intro running
  exact message.ite (retires status)

theorem uses_stopRestoreFrame {status : Nat}
    (h : ∀ c ∈ [.present .save, .readable .save, .size .save, .drawSave, .remove [.save],
      .report], C c) : (stopRestoreFrame frameBytes status).Uses C := by
  have message : complain.Uses C := uses_complain (h _ (by simp))
  unfold stopRestoreFrame
  apply (uses_sh (h _ (by simp))).bind
  intro present
  apply Uses.ite _ (uses_pure _)
  apply (uses_saveHasExpectedSize fun c member => h c (by simp at member ⊢; tauto)).bind
  intro complete
  apply Uses.ite _ message
  apply (uses_sh (h _ (by simp))).bind
  intro drawn
  apply Uses.ite _ message
  exact (uses_sh (h _ (by simp))).bind fun _ => uses_pure _

end VitaLinux.Cart.DemoCart
