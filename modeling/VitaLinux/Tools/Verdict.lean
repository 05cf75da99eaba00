import VitaLinux.Tools.HardwareGate
import VitaLinux.Tools.Server

/-!
# What a PASS of the hardware gate stands for

Every call of a run is put down with its reply. When the gate records PASS, the trace
has the course that the verdict claims, but for two things: the boot report may have
failed, and what was read back is only known by its hash.
-/

namespace VitaLinux.Tools

open VitaLinux.Base Prog

/-- A call of a run with its reply. -/
abbrev Said := (call : Call) × Reply call

abbrev Trace := List Said

/-- Anything may be answered. -/
inductive Recorded : Environment Trace Call Reply where
  | answer (past : Trace) (call : Call) (r : Reply call) : Recorded past call r (past ++ [⟨call, r⟩])

/-- A command that is sent. -/
def sent : Said → Option String
  | ⟨.send command, _⟩ => some command
  | _ => none

/-- What `payload.bin` is read as. -/
def readBack : Said → Option Bytes
  | ⟨.retr name, .ok data⟩ => if name = PAYLOAD_NAME then some data else none
  | _ => none

/-- How a boot report ends. -/
def reported : Said → Option SshEnd
  | ⟨.ssh _, e⟩ => some e
  | _ => none

/-- A verdict in the evidence directory. -/
def recorded : Said → Option Verdict
  | ⟨.record file verdict, .ok ()⟩ => if file = "manifest.json" then some verdict else none
  | _ => none

/-- The course of a run. -/
structure Course where
  deploying : Trace
  back : Bytes
  launching : Trace
  waiting : Trace
  collecting : Trace
  report : SshEnd
  recording : Trace

/-- The calls in this order: the payload is read back, both VitaOS ports are closed in one
round, SSH is open, and the boot report is asked for. -/
def Course.trace (c : Course) : Trace :=
  c.deploying ++ [⟨.retr PAYLOAD_NAME, .ok c.back⟩] ++ c.launching ++
    [⟨.probe FTP_PORT, false⟩, ⟨.probe CMD_PORT, false⟩] ++ c.waiting ++
    [⟨.probe SSH_PORT, true⟩] ++ c.collecting ++ [⟨.ssh BOOT_REPORT, c.report⟩] ++ c.recording

/-- The commands are sent once each between deploying and taking over, the payload is not
read again, and VitaOS does not come back before SSH is open. -/
structure Course.Proper (c : Course) : Prop where
  sent : c.launching.filterMap sent = ["destroy", "launch PLGINLDR0"]
  once : c.trace.filterMap Tools.sent = ["destroy", "launch PLGINLDR0"]
  last : c.trace.filterMap readBack = c.deploying.filterMap readBack ++ [c.back]
  away : ⟨.probe FTP_PORT, true⟩ ∉ c.waiting

/-- What a PASS claims. -/
def Evidence (payload : Bytes) (trace : Trace) : Prop :=
  ∃ c : Course, c.trace = trace ∧ c.Proper ∧ c.back = payload ∧ c.report.status = some 0

variable {sha : Bytes → String} {α : Type} {past : Trace}

/-- The calls of a wait. -/
def Call.polls : Call → Bool
  | .probe _ | .clock | .sleep => true
  | _ => false

/-- Part of a wait. -/
def Waits (polls : Trace) : Prop := polls.all (·.1.polls) = true

theorem Waits.append {s t : Trace} (h : Waits s) (k : Waits t) : Waits (s ++ t) := by
  unfold Waits
  rw [List.all_append, h, k, Bool.and_self]

/-- The calls that send no command and ask for no report. -/
def Call.quiet : Call → Bool
  | .send _ | .ssh _ => false
  | _ => true

theorem meets_unfinished {S : Type} {env : Environment S Call Reply}
    {E : Event S Call Reply → Prop} {Q : α → S → Prop} {X : PyError → S → Prop} (s : S) :
    (unfinished : Script α).Meets env E Q X s := by
  unfold unfinished ask
  rw [meets_bind, meets_call]
  intro none
  exact none.elim

theorem recorded_ask {call : Call} {Q : Reply call → Trace → Prop} {X : PyError → Trace → Prop}
    (h : ∀ r, Q r (past ++ [⟨call, r⟩])) :
    (ask call).Meets Recorded (fun _ => True) Q X past := by
  unfold ask
  rw [meets_call]
  intro r t answer
  cases answer with
  | answer past call r => exact ⟨trivial, h r⟩

theorem bothClosed_recorded :
    bothClosed.Meets Recorded (fun _ => True)
      (fun closed t => (closed = true →
          t = past ++ [⟨.probe FTP_PORT, false⟩, ⟨.probe CMD_PORT, false⟩]) ∧
        (closed = false → ∃ polls, Waits polls ∧ t = past ++ polls))
      (fun _ _ => True) past := by
  unfold bothClosed
  rw [meets_bind]
  apply recorded_ask
  intro ftp
  cases ftp with
  | true =>
    refine ⟨fun yes => (Bool.false_ne_true yes).elim, fun _ => ?_⟩
    exact ⟨[⟨.probe FTP_PORT, true⟩], rfl, rfl⟩
  | false =>
    rw [if_neg Bool.false_ne_true, meets_bind]
    apply recorded_ask
    intro command
    rw [List.append_assoc]
    cases command with
    | true =>
      refine ⟨fun yes => (Bool.false_ne_true yes).elim, fun _ => ?_⟩
      exact ⟨[⟨.probe FTP_PORT, false⟩, ⟨.probe CMD_PORT, true⟩], rfl, rfl⟩
    | false => exact ⟨fun _ => rfl, fun no => (Bool.false_ne_true no.symm).elim⟩

/-- Both ports were observed closed in the round that ends the wait. -/
theorem takeoverLoop_recorded (start timeout : ℚ) (rounds : Nat) :
    (takeoverLoop start timeout rounds).Meets Recorded (fun _ => True)
      (fun tookOver t => tookOver = true → ∃ polls now, Waits polls ∧
        t = past ++ polls ++ [⟨.probe FTP_PORT, false⟩, ⟨.probe CMD_PORT, false⟩, ⟨.clock, now⟩])
      (fun _ _ => True) past := by
  induction rounds generalizing past with
  | zero => exact meets_unfinished past
  | succ rounds ih =>
    unfold takeoverLoop
    rw [meets_bind]
    apply recorded_ask
    intro now
    split
    · apply bothClosed_recorded.seq
      rintro closed t ⟨yes, no⟩
      cases closed with
      | true =>
        rw [yes rfl, if_pos rfl, meets_bind]
        apply recorded_ask
        intro later _
        refine ⟨[⟨.clock, now⟩], later, rfl, ?_⟩
        simp only [List.append_assoc, List.cons_append, List.nil_append]
      | false =>
        obtain ⟨round, waits, rfl⟩ := no rfl
        rw [if_neg Bool.false_ne_true, meets_bind]
        apply recorded_ask
        intro _
        apply ih.imp _ (fun _ _ raised => raised)
        intro tookOver t closed took
        obtain ⟨polls, later, others, rfl⟩ := closed took
        refine ⟨[⟨.clock, now⟩] ++ round ++ [⟨.sleep, ()⟩] ++ polls, later, ?_, ?_⟩
        · exact Waits.append (Waits.append (Waits.append rfl waits) rfl) others
        · simp only [List.append_assoc]
    · rw [meets_bind]
      apply recorded_ask
      intro _ no
      cases no

/-- SSH was observed open in the round that ends the wait, and FTP in none of its rounds. -/
theorem sshLoop_recorded (start timeout : ℚ) (rounds : Nat) :
    (sshLoop start timeout rounds).Meets Recorded (fun _ => True)
      (fun up t => up = true → ∃ polls now, Waits polls ∧ ⟨.probe FTP_PORT, true⟩ ∉ polls ∧
        t = past ++ polls ++ [⟨.probe SSH_PORT, true⟩, ⟨.clock, now⟩])
      (fun _ _ => True) past := by
  induction rounds generalizing past with
  | zero => exact meets_unfinished past
  | succ rounds ih =>
    unfold sshLoop
    rw [meets_bind]
    apply recorded_ask
    intro now
    split
    · rw [meets_bind]
      apply recorded_ask
      intro ssh
      cases ssh with
      | true =>
        rw [if_pos rfl, meets_bind]
        apply recorded_ask
        intro later _
        refine ⟨[⟨.clock, now⟩], later, rfl, ?_, ?_⟩
        · intro member
          cases List.mem_singleton.mp member
        · simp only [List.append_assoc, List.cons_append, List.nil_append]
      | false =>
        rw [if_neg Bool.false_ne_true, meets_bind]
        apply recorded_ask
        intro ftp
        cases ftp with
        | true =>
          rw [if_pos rfl, meets_bind]
          apply recorded_ask
          intro _ no
          cases no
        | false =>
          rw [if_neg Bool.false_ne_true, meets_bind]
          apply recorded_ask
          intro _
          apply ih.imp _ (fun _ _ raised => raised)
          intro up t linux yes
          obtain ⟨polls, later, others, away, rfl⟩ := linux yes
          let round : Trace := [⟨.clock, now⟩, ⟨.probe SSH_PORT, false⟩, ⟨.probe FTP_PORT, false⟩,
            ⟨.sleep, ()⟩]
          refine ⟨round ++ polls, later, Waits.append rfl others, ?_, ?_⟩
          · intro member
            obtain here | there := List.mem_append.mp member
            · simp [round] at here
            · exact away there
          · simp only [round, List.append_assoc, List.cons_append, List.nil_append]
    · rw [meets_bind]
      apply recorded_ask
      intro _ no
      cases no

/-- Nothing has been sent yet. -/
def Quiet (t : Trace) : Prop := t.all (·.1.quiet) = true

theorem Quiet.append {s t : Trace} (h : Quiet s) (k : Quiet t) : Quiet (s ++ t) := by
  unfold Quiet
  rw [List.all_append, h, k, Bool.and_self]

theorem Quiet.uses {part : Script α} (h : Quiet past) (uses : part.Uses (·.quiet = true)) :
    part.Meets Recorded (fun _ => True) (fun _ t => Quiet t) (fun _ t => Quiet t) past := by
  refine (uses.meets (I := Quiet) ?_ h).mono (fun _ _ => trivial) (fun _ _ quiet => quiet)
    fun _ _ quiet => quiet
  intro s call r t known quiet answer
  cases answer with
  | answer past call r =>
    apply quiet.append
    unfold Quiet
    rw [List.all_cons, known]
    rfl

/-- Where the gate fails whenever such a part raises. -/
theorem Quiet.stage {part : Script α} (h : Quiet past) (uses : part.Uses (·.quiet = true)) :
    part.Meets Recorded (fun _ => True) (fun _ t => Quiet t) (fun _ _ => True) past :=
  (h.uses uses).imp (fun _ _ quiet => quiet) fun _ _ _ => trivial

theorem quiet_ask {call : Call} (h : call.quiet = true) :
    (ask call).Uses (·.quiet = true) := uses_ask h

theorem quiet_reconnect : reconnect.Uses (·.quiet = true) := by
  apply uses_reconnect
  intro c member
  simp only [List.mem_cons, List.not_mem_nil, or_false] at member
  obtain rfl | rfl | rfl | rfl | rfl := member <;> rfl

/-- What `ftp_put_verified` returns is the hash of the local data. -/
theorem ftpPutVerified_quiet (data : Bytes) (remote : String) (attempts : Nat) (h : Quiet past) :
    (ftpPutVerified sha data remote attempts).Meets Recorded (fun _ => True)
      (fun r t => Quiet t ∧ r = sha data) (fun _ t => Quiet t) past := by
  induction attempts generalizing past with
  | zero => exact h
  | succ left ih =>
    unfold ftpPutVerified
    rw [meets_tryCatch]
    have once : (putOnce sha data remote).Meets Recorded (fun _ => True)
        (fun r t => Quiet t ∧ r = sha data) (fun _ t => Quiet t) past := by
      unfold putOnce
      apply (h.uses (uses_orRaise (quiet_ask rfl))).seq
      intro _ t quiet
      apply (quiet.uses (uses_orRaise (quiet_ask rfl))).seq
      intro back t quiet
      split
      · exact quiet
      · exact ⟨quiet, rfl⟩
    apply once.imp (fun _ _ put => put)
    intro e t quiet
    split
    · exact quiet
    · apply (quiet.uses quiet_reconnect).seq
      intro _ t quiet
      exact ih quiet

theorem quiet_park (current : Bytes) : (parkCurrent sha current).Uses (·.quiet = true) := by
  unfold parkCurrent
  apply (uses_pure none).ite
  have parks : (park sha current).Uses (·.quiet = true) := by
    unfold park
    apply (uses_orRaise (quiet_ask rfl)).bind
    intro names
    split
    · unfold unfinished
      exact (quiet_ask rfl).bind fun none => none.elim
    · exact (uses_orRaise (quiet_ask rfl)).bind fun _ => uses_pure _
  exact parks.bind fun parked => uses_pure (some parked)

theorem quiet_readCurrent : readCurrent.Uses (·.quiet = true) := by
  unfold readCurrent
  apply (uses_orRaise (quiet_ask rfl)).tryCatch
  intro e
  exact (uses_pure _).ite (uses_throw _)

/-- The payload is read back last, with the hash of the local file. -/
theorem parkAndDeploy_recorded (data : Bytes) (h : Quiet past) :
    (parkAndDeploy sha data).Meets Recorded (fun _ => True)
      (fun _ t => ∃ deploying back, t = deploying ++ [⟨.retr PAYLOAD_NAME, .ok back⟩] ∧
        Quiet deploying ∧ sha back = sha data)
      (fun _ _ => True) past := by
  unfold parkAndDeploy
  apply (h.stage quiet_readCurrent).seq
  intro current t h
  rw [meets_bind]
  apply (ftpPutVerified_quiet data GATE_TMP 3 h).imp _
    (fun _ _ _ => trivial)
  rintro new_sha t ⟨h, rfl⟩
  apply (h.stage (quiet_park current)).seq
  intro parked_as t h
  apply (h.stage (uses_orRaise (quiet_ask rfl))).seq
  intro _ t h
  rw [meets_bind]
  apply meets_orRaise
  apply recorded_ask
  intro r
  refine ⟨?_, fun _ _ => trivial⟩
  rintro back rfl
  split
  · trivial
  · next same => exact ⟨t, back, rfl, h, Classical.not_not.mp same⟩

theorem quiet_push (file : Option (String × Bytes)) : (push sha file).Uses (·.quiet = true) := by
  cases file with
  | none => exact uses_pure _
  | some file =>
    have puts : (ftpPutVerified sha file.2 file.1 3).Uses (·.quiet = true) := by
      apply uses_ftpPutVerified
      intro c member
      simp only [List.mem_cons, List.not_mem_nil, or_false] at member
      obtain rfl | rfl | rfl | rfl | rfl | rfl | rfl := member <;> rfl
    exact puts.bind fun _ => uses_pure _

theorem gateDeploy_recorded (inputs : GateInputs) (h : Quiet past) :
    (gateDeploy sha inputs).Meets Recorded (fun _ => True)
      (fun _ t => ∃ deploying back, Quiet deploying ∧ sha back = sha inputs.payload ∧
        t = deploying ++ [⟨.retr PAYLOAD_NAME, .ok back⟩, ⟨.close, .ok ()⟩])
      (fun _ _ => True) past := by
  have connects : ftpConnect.Uses (·.quiet = true) := by
    apply uses_ftpConnect
    intro c member
    simp only [List.mem_cons, List.not_mem_nil, or_false] at member
    obtain rfl | rfl := member <;> rfl
  unfold gateDeploy
  apply (h.stage connects).seq
  intro _ t h
  apply (h.stage (uses_orRaise (quiet_ask rfl))).seq
  intro _ t h
  apply (h.stage (quiet_push _)).seq
  intro _ t h
  apply (h.stage (quiet_push _)).seq
  intro _ t h
  apply (parkAndDeploy_recorded inputs.payload h).seq
  rintro info t ⟨deploying, back, rfl, h, same⟩
  rw [meets_bind]
  apply meets_orRaise
  apply recorded_ask
  intro r
  refine ⟨?_, fun _ _ => trivial⟩
  rintro _ rfl
  exact ⟨deploying, back, h, same, List.append_assoc ..⟩

/-- One `destroy` and one `launch`. -/
theorem gateLaunch_recorded :
    gateLaunch.Meets Recorded (fun _ => True)
      (fun _ t => ∃ destroyed launched, t = past ++ [⟨.send "destroy", .ok destroyed⟩,
        ⟨.sleep, ()⟩, ⟨.send "launch PLGINLDR0", .ok launched⟩])
      (fun _ _ => True) past := by
  unfold gateLaunch
  rw [meets_bind]
  apply meets_orRaise
  apply recorded_ask
  intro r
  refine ⟨?_, fun _ _ => trivial⟩
  rintro destroyed rfl
  rw [meets_bind]
  apply recorded_ask
  intro _
  rw [meets_bind]
  apply meets_orRaise
  apply recorded_ask
  intro r
  refine ⟨?_, fun _ _ => trivial⟩
  rintro launched rfl
  refine ⟨destroyed, launched, ?_⟩
  simp only [List.append_assoc, List.cons_append, List.nil_append]

theorem sshRun_recorded (command : String) :
    (sshRun command).Meets Recorded (fun _ => True)
      (fun _ t => ∃ report, t = past ++ [⟨.ssh command, report⟩]) (fun _ _ => True) past := by
  unfold sshRun
  rw [meets_bind]
  apply recorded_ask
  intro report
  split
  · exact ⟨report, rfl⟩
  · exact ⟨report, rfl⟩

theorem gateWait_recorded (timeout : Int) (rounds : Nat) :
    (gateWait timeout rounds).Meets Recorded (fun _ => True)
      (fun verdict t => verdict = .pass → ∃ closing waiting now report, Waits closing ∧
        Waits waiting ∧ ⟨.probe FTP_PORT, true⟩ ∉ waiting ∧
        t = past ++ closing ++ [⟨.probe FTP_PORT, false⟩, ⟨.probe CMD_PORT, false⟩] ++ waiting ++
          [⟨.probe SSH_PORT, true⟩, ⟨.clock, now⟩, ⟨.ssh BOOT_REPORT, report⟩])
      (fun _ _ => True) past := by
  unfold gateWait waitForTakeover waitForSsh
  rw [meets_bind, meets_bind]
  apply recorded_ask
  intro start
  apply (takeoverLoop_recorded start 60 rounds).imp _
    (fun _ _ _ => trivial)
  intro tookOver t closed
  cases tookOver with
  | false => trivial
  | true =>
    obtain ⟨closing, taken, closes, rfl⟩ := closed rfl
    rw [if_pos rfl, meets_bind, meets_bind]
    apply recorded_ask
    intro again
    apply (sshLoop_recorded again timeout rounds).imp _
      (fun _ _ _ => trivial)
    intro up t linux
    cases up with
    | false =>
      intro no
      cases no
    | true =>
      obtain ⟨waiting, now, waits, away, rfl⟩ := linux rfl
      rw [if_pos rfl]
      apply (sshRun_recorded BOOT_REPORT).seq
      rintro output t ⟨report, rfl⟩ _
      have first : Waits [⟨.clock, start⟩] := rfl
      have between : Waits [⟨.clock, taken⟩, ⟨.clock, again⟩] := rfl
      refine ⟨[⟨.clock, start⟩] ++ closing, [⟨.clock, taken⟩, ⟨.clock, again⟩] ++ waiting, now,
        report, first.append closes, between.append waits, ?_, ?_⟩
      · intro member
        obtain here | there := List.mem_append.mp member
        · simp at here
        · exact away there
      · simp only [List.append_assoc, List.cons_append, List.nil_append]

theorem Course.report_mem (c : Course) : ⟨.ssh BOOT_REPORT, c.report⟩ ∈ c.trace := by
  simp [Course.trace]

theorem Course.record_trace {c : Course} (empty : c.recording = []) (recording : Trace) :
    Course.trace { c with recording } = c.trace ++ recording := by
  unfold Course.trace
  rw [empty, List.append_nil]

/-- What is recorded at the end leaves a proper course proper. -/
theorem Course.Proper.record {c : Course} (h : c.Proper) (empty : c.recording = [])
    {recording : Trace} (unsent : recording.filterMap Tools.sent = [])
    (unread : recording.filterMap readBack = []) : Course.Proper { c with recording } where
  sent := h.sent
  once := by rw [record_trace empty, List.filterMap_append, h.once, unsent, List.append_nil]
  last := by rw [record_trace empty, List.filterMap_append, h.last, unread, List.append_nil]
  away := h.away

theorem filterMap_eq_nil {β : Type} {f : Said → Option β} {p : Call → Bool} {t : Trace}
    (none : ∀ x, p x.1 = true → f x = none) (all : t.all (p ·.1) = true) : t.filterMap f = [] := by
  rw [List.filterMap_eq_nil_iff]
  intro x member
  exact none x (List.all_eq_true.mp all x member)

theorem Waits.sent {t : Trace} (h : Waits t) : t.filterMap sent = [] := by
  apply filterMap_eq_nil _ h
  rintro ⟨call, r⟩ polls
  cases call with
  | send command => cases polls
  | _ => rfl

theorem Waits.readBack {t : Trace} (h : Waits t) : t.filterMap readBack = [] := by
  apply filterMap_eq_nil _ h
  rintro ⟨call, r⟩ polls
  cases call with
  | retr name => cases polls
  | _ => rfl

theorem Waits.reported {t : Trace} (h : Waits t) : t.filterMap reported = [] := by
  apply filterMap_eq_nil _ h
  rintro ⟨call, r⟩ polls
  cases call with
  | ssh command => cases polls
  | _ => rfl

theorem Quiet.sent {t : Trace} (h : Quiet t) : t.filterMap sent = [] := by
  apply filterMap_eq_nil _ h
  rintro ⟨call, r⟩ quiet
  cases call with
  | send command => cases quiet
  | _ => rfl

theorem Quiet.reported {t : Trace} (h : Quiet t) : t.filterMap reported = [] := by
  apply filterMap_eq_nil _ h
  rintro ⟨call, r⟩ quiet
  cases call with
  | ssh command => cases quiet
  | _ => rfl

/-- What a passing run of the `try` block leaves to be recorded. -/
theorem gateBody_recorded (inputs : GateInputs) (timeout : Int) (rounds : Nat) (h : Quiet past) :
    (gateBody sha inputs timeout rounds).Meets Recorded (fun _ => True)
      (fun verdict t => verdict = .pass → ∃ c : Course, c.trace = t ∧ c.recording = [] ∧
        c.Proper ∧ sha c.back = sha inputs.payload ∧ t.filterMap reported = [c.report])
      (fun _ _ => True) past := by
  unfold gateBody
  apply (gateDeploy_recorded inputs h).seq
  rintro info t ⟨deploying, back, quiet, same, rfl⟩
  apply gateLaunch_recorded.seq
  rintro _ t ⟨destroyed, launched, rfl⟩
  apply (gateWait_recorded timeout rounds).imp _ fun _ _ raised => raised
  intro verdict t ran passed
  obtain ⟨closing, waiting, now, report, closes, waits, away, rfl⟩ := ran passed
  let c : Course :=
    { deploying
      back
      launching := [⟨.close, .ok ()⟩, ⟨.send "destroy", .ok destroyed⟩, ⟨.sleep, ()⟩,
        ⟨.send "launch PLGINLDR0", .ok launched⟩] ++ closing
      waiting
      collecting := [⟨.clock, now⟩]
      report
      recording := [] }
  have course : c.trace = deploying ++ [⟨.retr PAYLOAD_NAME, .ok back⟩, ⟨.close, .ok ()⟩] ++
      [⟨.send "destroy", .ok destroyed⟩, ⟨.sleep, ()⟩, ⟨.send "launch PLGINLDR0", .ok launched⟩] ++
      closing ++ [⟨.probe FTP_PORT, false⟩, ⟨.probe CMD_PORT, false⟩] ++ waiting ++
      [⟨.probe SSH_PORT, true⟩, ⟨.clock, now⟩, ⟨.ssh BOOT_REPORT, report⟩] := by
    simp only [c, Course.trace, List.append_assoc, List.cons_append, List.nil_append,
      List.append_nil]
  refine ⟨c, course, rfl, ⟨?_, ?_, ?_, away⟩, same, ?_⟩
  · rw [List.filterMap_append, closes.sent]
    rfl
  · rw [course]
    simp only [List.filterMap_append, quiet.sent, closes.sent, waits.sent]
    rfl
  · rw [course]
    simp only [List.filterMap_append, closes.readBack, waits.readBack]
    simp [readBack, c]
  · simp only [List.filterMap_append, quiet.reported, closes.reported, waits.reported]
    rfl

theorem quiet_inVitaOS : inVitaOS.Uses (·.quiet = true) := by
  unfold inVitaOS
  apply (quiet_ask rfl).bind
  intro ftp
  exact (quiet_ask rfl).ite (uses_pure false)

theorem GateArgs.inputs_payload {args : GateArgs} {inputs : GateInputs}
    (found : args.inputs = some inputs) : args.payload = some inputs.payload := by
  unfold GateArgs.inputs at found
  obtain ⟨payload, here, rest⟩ := Option.bind_eq_some_iff.mp found
  obtain ⟨zimage, _, rest⟩ := Option.bind_eq_some_iff.mp rest
  obtain ⟨dtb, _, rest⟩ := Option.bind_eq_some_iff.mp rest
  cases rest
  exact here

/-- The course of a run with a recorded PASS. -/
theorem gateMain_recorded (args : GateArgs) (rounds : Nat) :
    (gateMain sha args rounds).Meets Recorded (fun _ => True)
      (fun status t => status = 0 → .pass ∈ t.filterMap recorded →
        ∃ payload, args.payload = some payload ∧ ∃ c : Course, c.trace = t ∧ c.Proper ∧
          sha c.back = sha payload ∧ t.filterMap reported = [c.report])
      (fun _ _ => True) [] := by
  unfold gateMain
  cases found : args.inputs with
  | none =>
    intro no
    cases no
  | some inputs =>
    simp only
    split
    · exact fun _ recorded => absurd recorded List.not_mem_nil
    · have start : Quiet [] := rfl
      apply (start.stage quiet_inVitaOS).seq
      intro vita t quiet
      split
      · have body : (tryCatch (gateBody sha inputs args.timeout rounds)
            fun _ => return .fail).Meets Recorded (fun _ => True)
            (fun verdict t => verdict = .pass → ∃ c : Course, c.trace = t ∧ c.recording = [] ∧
              c.Proper ∧ sha c.back = sha inputs.payload ∧ t.filterMap reported = [c.report])
            (fun _ _ => True) t := by
          rw [meets_tryCatch]
          apply (gateBody_recorded inputs args.timeout rounds quiet).imp (fun _ _ ran => ran)
          intro e t _ no
          cases no
        apply body.seq
        intro verdict t ran
        rw [meets_bind]
        apply meets_orRaise
        apply recorded_ask
        intro manifest
        refine ⟨?_, fun _ _ => trivial⟩
        rintro _ rfl
        rw [meets_bind]
        apply meets_orRaise
        apply recorded_ask
        intro result
        refine ⟨?_, fun _ _ => trivial⟩
        rintro _ rfl
        cases verdict with
        | fail =>
          intro no
          cases no
        | pass =>
          intro _ _
          obtain ⟨c, rfl, empty, proper, same, reports⟩ := ran rfl
          let recording : Trace :=
            [⟨.record "manifest.json" .pass, .ok ()⟩, ⟨.record "RESULT.md" .pass, .ok ()⟩]
          refine ⟨inputs.payload, GateArgs.inputs_payload found, { c with recording }, ?_,
            proper.record empty rfl rfl, same, ?_⟩
          · rw [Course.record_trace empty]
            simp only [recording, List.append_assoc, List.cons_append, List.nil_append]
          · rw [List.filterMap_append, List.filterMap_append, reports]
            rfl
      · rw [meets_bind]
        apply recorded_ask
        intro _
        rw [meets_bind]
        apply recorded_ask
        intro _ no
        cases no

/-- A PASS is sound exactly when the boot report has not failed, and the payload that was
read back is not another one with the same hash. -/
theorem pass_sound_iff {args : GateArgs} {rounds : Nat} {events : List (Event Trace Call Reply)}
    {t : Trace} (run : Exec Recorded (gateMain sha args rounds) [] events (ended (.ok 0)) t)
    (passed : .pass ∈ t.filterMap recorded) :
    ∃ payload, args.payload = some payload ∧
      (Evidence payload t ↔
        (∀ command report, ⟨.ssh command, report⟩ ∈ t → report.status = some 0) ∧
        ∀ back, (t.filterMap readBack).getLast? = some back → sha back = sha payload →
          back = payload) := by
  obtain ⟨payload, given, c, rfl, proper, same, reports⟩ :=
    ((gateMain_recorded args rounds).exec run).2 rfl passed
  have only : ∀ command report, ⟨.ssh command, report⟩ ∈ c.trace → report = c.report := by
    intro command report member
    have listed : report ∈ c.trace.filterMap reported :=
      List.mem_filterMap.mpr ⟨_, member, rfl⟩
    rw [reports] at listed
    exact List.mem_singleton.mp listed
  have last : ∀ d : Course, d.Proper → (d.trace.filterMap readBack).getLast? = some d.back := by
    intro d proper
    rw [proper.last, List.getLast?_append]
    rfl
  refine ⟨payload, given, ?_, ?_⟩
  · rintro ⟨d, trace, others, rfl, status⟩
    have report : d.report = c.report := only BOOT_REPORT d.report (trace ▸ d.report_mem)
    constructor
    · intro command e member
      rw [only command e member, ← report]
      exact status
    · intro back read _
      rw [← trace, last d others] at read
      exact (Option.some.inj read).symm
  · rintro ⟨ran, genuine⟩
    exact ⟨c, rfl, proper, genuine c.back (last c proper) same, ran _ _ c.report_mem⟩

/-- A device that boots when it is told to; its boot report ends with a given status. -/
structure Host where
  disk : Disk
  status : Option Int
  trace : Trace

/-- Only SSH is open once the launch has been sent, and only the ports of VitaOS before. -/
def Host.reply (h : Host) : (call : Call) → Option (Reply call × Disk)
  | .probe port =>
    some (decide (port = SSH_PORT ↔ "launch PLGINLDR0" ∈ h.trace.filterMap sent), h.disk)
  | .clock => some (0, h.disk)
  | .send _ => some (.ok "", h.disk)
  | .ssh _ => some ({ status := h.status, stdout := "", stderr := "" }, h.disk)
  | .record _ _ => some (.ok (), h.disk)
  | call => h.disk.answer call

def Host.answer (h : Host) (call : Call) : Option (Reply call × Host) :=
  (h.reply call).map fun r => (r.1, { h with disk := r.2, trace := h.trace ++ [⟨call, r.1⟩] })

theorem Host.answer_recorded (h : Host) (call : Call) (r : Reply call) (k : Host)
    (answered : h.answer call = some (r, k)) : Recorded h.trace call r k.trace := by
  obtain ⟨replied, _, same⟩ := Option.map_eq_some_iff.mp answered
  cases same
  exact .answer h.trace call replied.1

def sampleArgs : GateArgs :=
  { payload := some [2], zimage := none, dtb := none, timeout := 600, dry_run := false }

def sampleReport (status : Option Int) : SshEnd := { status, stdout := "", stderr := "" }

/-- What is left by the run of the gate against a device whose boot report ends with a status. -/
def sampleRun (status : Option Int) : Option (Except PyError Nat × Host) :=
  (gateMain sampleSha sampleArgs 1).run Host.answer { disk := oldDisk, status, trace := [] }

theorem sampleRun_exec (status : Option Int)
    (ran : (sampleRun status).map (fun o => (o.1, o.2.trace.filterMap recorded,
      o.2.trace.filterMap reported, o.2.trace.filterMap readBack)) =
      some (.ok 0, [.pass], [sampleReport status], [[1], [2]])) :
    ∃ events t, Exec Recorded (gateMain sampleSha sampleArgs 1) [] events (ended (.ok 0)) t ∧
      t.filterMap recorded = [.pass] ∧ t.filterMap reported = [sampleReport status] ∧
      t.filterMap readBack = [[1], [2]] := by
  obtain ⟨⟨outcome, k⟩, run, left⟩ := Option.map_eq_some_iff.mp ran
  simp only [Prod.mk.injEq] at left
  obtain ⟨rfl, verdicts, reports, backs⟩ := left
  exact ⟨_, k.trace, exec_run Host.answer_recorded run, verdicts, reports, backs⟩

theorem pass_sound_iff_booted : ∃ events t,
    Exec Recorded (gateMain sampleSha sampleArgs 1) [] events (ended (.ok 0)) t ∧
      Evidence [2] t := by
  obtain ⟨events, t, run, verdicts, reports, backs⟩ :=
    sampleRun_exec (some 0) (by decide +kernel)
  obtain ⟨payload, given, iff⟩ := pass_sound_iff run (verdicts ▸ List.mem_singleton_self _)
  cases given
  refine ⟨events, t, run, iff.mpr ⟨?_, ?_⟩⟩
  · intro command report member
    have listed : report ∈ t.filterMap reported := List.mem_filterMap.mpr ⟨_, member, rfl⟩
    rw [reports] at listed
    rw [List.mem_singleton.mp listed]
    rfl
  · intro back read _
    rw [backs] at read
    exact (Option.some.inj read).symm

/-- The boot report fails, and the gate passes. -/
theorem pass_without_report : ∃ events t,
    Exec Recorded (gateMain sampleSha sampleArgs 1) [] events (ended (.ok 0)) t ∧
      .pass ∈ t.filterMap recorded ∧ ¬ Evidence [2] t := by
  obtain ⟨events, t, run, verdicts, reports, backs⟩ :=
    sampleRun_exec (some 255) (by decide +kernel)
  refine ⟨events, t, run, verdicts ▸ List.mem_singleton_self _, ?_⟩
  rintro ⟨c, rfl, _, _, status⟩
  have listed : c.report ∈ c.trace.filterMap reported :=
    List.mem_filterMap.mpr ⟨_, c.report_mem, rfl⟩
  rw [reports] at listed
  rw [List.mem_singleton.mp listed] at status
  cases status

end VitaLinux.Tools
