import VitaLinux.Tools.DeployPayload
import VitaLinux.Tools.HardwareGate
import VitaLinux.Tools.Server

/-!
# Is deploying a payload atomic?

The swap is two renames: the old payload is parked, then the uploaded file takes its
place. When a single operation of a run fails, `payload.bin` is in place afterwards,
old or new, unless that operation is the second rename.
-/

namespace VitaLinux.Tools

open VitaLinux.Base Prog

variable {sha : Bytes → String} {old new : Bytes} {tmp : String} {α : Type} {s t : Faults}

/-- The rename that puts the uploaded file in the place of the payload. -/
def swap (tmp : String) : Call := .rename tmp PAYLOAD_NAME

/-- The payload is there, with the old bytes or the new ones. -/
def Intact (old new : Bytes) (f : Files) : Prop :=
  f PAYLOAD_NAME = some old ∨ f PAYLOAD_NAME = some new

/-- The payload is intact unless the swap has failed after a park. -/
def Atomic (tmp : String) (old new : Bytes) (parks : Prop) (s : Faults) : Prop :=
  Intact old new s.files ↔ ¬ (s.fault = some (swap tmp) ∧ parks)

/-- The old payload is in place; if `spent`, something has failed already. -/
structure Untouched (tmp : String) (old : Bytes) (spent : Prop) (s : Faults) : Prop where
  old : s.files PAYLOAD_NAME = some old
  fault : s.fault ≠ some (swap tmp)
  spent : spent → s.fault ≠ none

/-- The old payload is parked, and the new one is waiting. -/
structure Waiting (tmp : String) (new : Bytes) (s : Faults) : Prop where
  gone : s.files PAYLOAD_NAME = none
  staged : s.files tmp = some new
  fault : s.fault ≠ some (swap tmp)

/-- The new payload is in place. -/
structure Swapped (tmp : String) (new : Bytes) (s : Faults) : Prop where
  new : s.files PAYLOAD_NAME = some new
  fault : s.fault ≠ some (swap tmp)

theorem Untouched.atomic {spent parks : Prop} (h : Untouched tmp old spent s) :
    Atomic tmp old new parks s := by
  constructor
  · rintro _ ⟨failed, _⟩
    exact h.fault failed
  · intro _
    exact Or.inl h.old

theorem Swapped.atomic {parks : Prop} (h : Swapped tmp new s) : Atomic tmp old new parks s := by
  constructor
  · rintro _ ⟨failed, _⟩
    exact h.fault failed
  · intro _
    exact Or.inr h.new

/-- An operation fails only if none has failed before. -/
theorem Faulty.fault {call : Call} {r : Reply call} (answer : Faulty s call r t) :
    t.fault = s.fault ∨ s.fault = none ∧ t.fault = some call := by
  cases answer with
  | serves served => exact Or.inl rfl
  | refuses refused raised => exact Or.inl rfl
  | fails raised => exact Or.inr ⟨rfl, rfl⟩

theorem Faulty.other {call : Call} {r : Reply call} (answer : Faulty s call r t)
    (other : call ≠ swap tmp) (h : s.fault ≠ some (swap tmp)) : t.fault ≠ some (swap tmp) := by
  obtain same | ⟨_, failed⟩ := answer.fault
  · rwa [same]
  · rw [failed]
    intro same
    exact other (Option.some.inj same)

theorem Faulty.spent {call : Call} {r : Reply call} (answer : Faulty s call r t)
    (h : s.fault ≠ none) : t.fault ≠ none := by
  obtain same | ⟨fresh, _⟩ := answer.fault
  · rwa [same]
  · exact absurd fresh h

theorem Faulty.read {call : Call} {r : Reply call} (answer : Faulty s call r t)
    (h : call.writes = false) : t.files = s.files := by
  cases answer with
  | refuses refused raised => rfl
  | fails raised => rfl
  | serves served =>
    cases served with
    | stor name data => cases h
    | rename source target there => cases h
    | _ => rfl

/-- A reply that raises nothing is an operation done. -/
theorem Faulty.served {call : Call} {r : Reply call} (answer : Faulty s call r t)
    (quiet : ∀ e, ¬ Raises e call r) : Serves s.files call r t.files ∧ t.fault = s.fault := by
  cases answer with
  | refuses refused raised => exact absurd raised (quiet _)
  | fails raised => exact absurd raised (quiet _)
  | serves served => exact ⟨served, rfl⟩

theorem Faulty.renamed {source target : String}
    (answer : Faulty s (.rename source target) (.ok ()) t) :
    t.files = s.files.renamed source target ∧ t.fault = s.fault := by
  obtain ⟨served, fault⟩ := answer.served (by rintro e ⟨⟩)
  generalize t.files = files at served
  cases served with
  | rename source target there => exact ⟨rfl, fault⟩

theorem Faulty.stored {name : String} {data : Bytes} (answer : Faulty s (.stor name data) (.ok ()) t) :
    t.files = Function.update s.files name (some data) := by
  obtain ⟨served, _⟩ := answer.served (by rintro e ⟨⟩)
  generalize t.files = files at served
  cases served with
  | stor name data => rfl

theorem Faulty.retrieved {name : String} {data : Bytes}
    (answer : Faulty s (.retr name) (.ok data) t) : s.files name = some data := by
  obtain ⟨served, _⟩ := answer.served (by rintro e ⟨⟩)
  generalize s.files = files at served
  generalize t.files = files' at served
  cases served with
  | retr name data there => exact there

theorem Uploads.ne_swap {call : Call} (h : Uploads tmp call) : call ≠ swap tmp := by
  rintro rfl
  obtain read | ⟨data, stored⟩ := h
  · cases read
  · cases stored

/-- Uploads leave the old payload in place. -/
theorem Untouched.upload {spent : Prop} (other : tmp ≠ PAYLOAD_NAME)
    (h : Untouched tmp old spent s) {call : Call} {r : Reply call} (uploads : Uploads tmp call)
    (answer : Faulty s call r t) : Untouched tmp old spent t := by
  refine ⟨?_, answer.other uploads.ne_swap h.fault, fun used => answer.spent (h.spent used)⟩
  obtain read | ⟨data, rfl⟩ := uploads
  · rw [answer.read read]
    exact h.old
  · cases answer with
    | refuses refused raised => exact h.old
    | fails raised => exact h.old
    | serves served =>
      cases served with
      | stor name data => exact (Function.update_of_ne other.symm _ _).trans h.old

/-- A part that only uploads. -/
theorem Untouched.uploads {spent : Prop} (other : tmp ≠ PAYLOAD_NAME) {part : Script α}
    (uses : part.Uses (Uploads tmp)) (h : Untouched tmp old spent s) :
    part.Meets Faulty (fun _ => True) (fun _ => Untouched tmp old spent)
      (fun _ => Untouched tmp old spent) s :=
  (uses.meets (I := Untouched tmp old spent)
    (fun _ _ _ _ uploads before answer => before.upload other uploads answer) h).mono
    (fun _ _ => trivial) (fun _ _ after => after) fun _ _ after => after

/-- Reading operations change nothing about it. -/
theorem Atomic.read {parks : Prop} (h : Atomic tmp old new parks s) {call : Call}
    {r : Reply call} (read : call.writes = false) (answer : Faulty s call r t) :
    Atomic tmp old new parks t := by
  have other : call ≠ swap tmp := by
    rintro rfl
    cases read
  unfold Atomic
  rw [answer.read read]
  obtain same | ⟨fresh, failed⟩ := answer.fault
  · rw [same]
    exact h
  · have intact : Intact old new s.files := h.mpr fun broken => by
      rw [fresh] at broken
      cases broken.1
    have unswapped : ¬ (t.fault = some (swap tmp) ∧ parks) := by
      rintro ⟨swapped, _⟩
      exact other (Option.some.inj (failed.symm.trans swapped))
    exact ⟨fun _ => unswapped, fun _ => intact⟩

theorem Atomic.reads {parks : Prop} {part : Script α} (uses : part.Uses (·.writes = false))
    (h : Atomic tmp old new parks s) :
    part.Meets Faulty (fun _ => True) (fun _ => Atomic tmp old new parks)
      (fun _ => Atomic tmp old new parks) s :=
  (uses.meets (I := Atomic tmp old new parks)
    (fun _ _ _ _ read before answer => before.read read answer) h).mono
    (fun _ _ => trivial) (fun _ _ after => after) fun _ _ after => after

/-- The old payload is in place, and the new one has been uploaded. -/
structure Staged (tmp : String) (old new : Bytes) (spent : Prop) (s : Faults) : Prop
    extends Untouched tmp old spent s where
  staged : s.files tmp = some new

section staging

variable {spent : Prop} (other : tmp ≠ PAYLOAD_NAME)
include other

theorem Untouched.stor (h : Untouched tmp old spent s) :
    (orRaise (ask (.stor tmp new))).Meets Faulty (fun _ => True)
      (fun _ => Staged tmp old new spent) (fun _ => Untouched tmp old spent) s := by
  apply meets_orRaise
  intro r t answer
  have untouched := h.upload other (Or.inr ⟨new, rfl⟩) answer
  refine ⟨trivial, ?_, fun _ _ => untouched⟩
  rintro _ rfl
  refine ⟨untouched, ?_⟩
  rw [Faulty.stored answer]
  exact Function.update_self ..

/-- Reading leaves what has been staged. -/
theorem Staged.read (h : Staged tmp old new spent s) {call : Call} {r : Reply call}
    (reads : call.writes = false) (answer : Faulty s call r t) : Staged tmp old new spent t := by
  refine ⟨h.upload other (Or.inl reads) answer, ?_⟩
  rw [answer.read reads]
  exact h.staged

theorem Staged.retr (h : Staged tmp old new spent s) (name : String) :
    (orRaise (ask (.retr name))).Meets Faulty (fun _ => True)
      (fun _ => Staged tmp old new spent) (fun _ => Untouched tmp old spent) s := by
  apply meets_orRaise
  intro r t answer
  have staged := h.read other rfl answer
  exact ⟨trivial, fun _ _ => staged, fun _ _ => staged.toUntouched⟩

theorem putOnce_staged (h : Untouched tmp old spent s) :
    (putOnce sha new tmp).Meets Faulty (fun _ => True) (fun _ => Staged tmp old new spent)
      (fun _ => Untouched tmp old spent) s := by
  unfold putOnce
  apply (h.stor other).seq
  intro _ t staged
  apply (staged.retr other tmp).seq
  intro back u staged
  split
  · exact staged.toUntouched
  · exact staged

end staging

theorem ftpPutVerified_staged {spent : Prop} (attempts : Nat)
    (h : Untouched GATE_TMP old spent s) :
    (ftpPutVerified sha new GATE_TMP attempts).Meets Faulty (fun _ => True)
      (fun _ => Staged GATE_TMP old new spent) (fun _ => Untouched GATE_TMP old spent) s := by
  have other : GATE_TMP ≠ PAYLOAD_NAME := by decide
  induction attempts generalizing s with
  | zero => exact h
  | succ left ih =>
    unfold ftpPutVerified
    rw [meets_tryCatch]
    apply (putOnce_staged other h).imp (fun _ _ staged => staged)
    intro e t untouched
    split
    · exact untouched
    · apply (untouched.uploads other uploads_reconnect).seq
      intro _ u untouched
      exact ih untouched

theorem deployUpload_staged {spent : Prop} (h : Untouched DEPLOY_TMP old spent s) :
    (deployUpload new).Meets Faulty (fun _ => True) (fun _ => Staged DEPLOY_TMP old new spent)
      (fun _ => Untouched DEPLOY_TMP old spent) s := by
  have other : DEPLOY_TMP ≠ PAYLOAD_NAME := by decide
  unfold deployUpload
  apply (h.stor other).seq
  intro _ t staged
  apply (staged.retr other DEPLOY_TMP).seq
  intro back u staged
  split
  · exact staged
  · exact staged.toUntouched

/-- The park: when it fails, the old payload has not moved. -/
theorem park_waiting {spent : Prop} (other : tmp ≠ PAYLOAD_NAME) (fresh : ¬ Prev tmp)
    (current : Bytes) (h : Staged tmp old new spent s) :
    (park sha current).Meets Faulty (fun _ => True) (fun _ => Waiting tmp new)
      (fun _ => Untouched tmp old spent) s := by
  unfold park
  have names : (orRaise (ask .nlst)).Meets Faulty (fun _ => True)
      (fun _ => Staged tmp old new spent) (fun _ => Untouched tmp old spent) s := by
    apply meets_orRaise
    intro r t answer
    have staged := h.read other rfl answer
    exact ⟨trivial, fun _ _ => staged, fun _ _ => staged.toUntouched⟩
  apply names.seq
  intro names t staged
  cases found : parkedName sha current names with
  | none => exact absurd found (parkedName_ne_none sha current names)
  | some parked =>
    obtain ⟨_, prev⟩ := parkedName_some found
    have parks : Call.rename PAYLOAD_NAME parked ≠ swap tmp := by
      intro same
      cases same
      exact other rfl
    have renamed : (orRaise (ask (.rename PAYLOAD_NAME parked))).Meets Faulty (fun _ => True)
        (fun _ => Waiting tmp new) (fun _ => Untouched tmp old spent) t := by
      apply meets_orRaise
      intro r u answer
      have fault := answer.other parks staged.fault
      refine ⟨trivial, ?_, ?_⟩
      · rintro _ rfl
        obtain ⟨files, _⟩ := answer.renamed
        have gone := t.files.renamed_source prev.ne_payload.symm
        have kept := t.files.renamed_of_ne other fun same => fresh (same ▸ prev)
        exact ⟨files ▸ gone, files ▸ kept.trans staged.staged, fault⟩
      · rintro e rfl
        cases answer with
        | serves served => cases served
        | refuses refused raised => exact staged.toUntouched
        | fails raised => exact ⟨staged.old, fault, fun _ => Option.some_ne_none _⟩
    exact renamed.seq fun _ u waiting => waiting

/-- A swap that succeeds puts what has been staged in place. -/
theorem swapped (staged : s.files tmp = some new) (fault : s.fault ≠ some (swap tmp))
    (answer : Faulty s (swap tmp) (.ok ()) t) : Swapped tmp new t := by
  obtain ⟨files, same⟩ := answer.renamed
  have moved := s.files.renamed_target tmp PAYLOAD_NAME
  exact ⟨files ▸ moved.trans staged, same ▸ fault⟩

/-- The swap after a park: only here is the payload missing when it fails. -/
theorem Waiting.swap {parks : Prop} (parked : parks)
    (h : Waiting tmp new s) :
    (orRaise (ask (swap tmp))).Meets Faulty (fun _ => True) (fun _ => Swapped tmp new)
      (fun _ => Atomic tmp old new parks) s := by
  have missing : ¬ Intact old new s.files := by
    rintro (here | here)
    · exact Option.some_ne_none old (here.symm.trans h.gone)
    · exact Option.some_ne_none new (here.symm.trans h.gone)
  apply meets_orRaise
  intro r t answer
  refine ⟨trivial, ?_, ?_⟩
  · rintro _ rfl
    exact swapped h.staged h.fault answer
  · rintro e rfl
    cases answer with
    | serves served => cases served
    | refuses refused raised =>
      exfalso
      cases refused with
      | noSource source target missing => exact Option.some_ne_none new (h.staged.symm.trans missing)
      | taken source target taken => exact taken h.gone
    | fails raised =>
      exact ⟨fun intact => absurd intact missing, fun whole => absurd ⟨rfl, parked⟩ whole⟩

/-- The swap without a park: the old payload stays in place when it fails. -/
theorem Staged.swap {parks : Prop} (h : Staged tmp old new parks s) :
    (orRaise (ask (swap tmp))).Meets Faulty (fun _ => True) (fun _ => Swapped tmp new)
      (fun _ => Atomic tmp old new parks) s := by
  apply meets_orRaise
  intro r t answer
  refine ⟨trivial, ?_, ?_⟩
  · rintro _ rfl
    exact swapped h.staged h.fault answer
  · rintro e rfl
    cases answer with
    | serves served => cases served
    | refuses refused raised => exact h.toUntouched.atomic
    | fails raised =>
      constructor
      · rintro _ ⟨_, parked⟩
        exact h.spent parked rfl
      · intro _
        exact Or.inl h.old

/-- An empty payload may have been read because the reading failed; then nothing else fails. -/
theorem readCurrent_untouched {f : Files} (here : f PAYLOAD_NAME = some old) :
    readCurrent.Meets Faulty (fun _ => True)
      (fun current t => (current = [] ∨ current = old) ∧
        Untouched GATE_TMP old (old ≠ [] ∧ current = []) t)
      (fun _ => Untouched GATE_TMP old False) ⟨f, none⟩ := by
  have fine : (none : Option Call) ≠ some (swap GATE_TMP) := (Option.some_ne_none _).symm
  have start : Untouched GATE_TMP old False ⟨f, none⟩ := ⟨here, fine, False.elim⟩
  unfold readCurrent
  rw [meets_tryCatch]
  unfold ftpRead
  apply meets_orRaise
  intro r t answer
  have after := start.upload (by decide) (Or.inl rfl) answer
  refine ⟨trivial, ?_, ?_⟩
  · rintro data rfl
    have same : data = old := Option.some.inj ((Faulty.retrieved answer).symm.trans here)
    refine ⟨Or.inr same, after.old, after.fault, ?_⟩
    rintro ⟨nonempty, empty⟩
    exact absurd (same.symm.trans empty) nonempty
  · rintro e rfl
    have spent : t.fault ≠ none := by
      cases answer with
      | serves served => cases served
      | fails raised => exact Option.some_ne_none _
      | refuses refused raised =>
        cases refused with
        | missing name none => exact absurd (here.symm.trans none) (Option.some_ne_none old)
    split
    · exact ⟨Or.inl rfl, after.old, after.fault, fun _ => spent⟩
    · exact after

/-- Without a park, the swap fails only if the old payload is empty. -/
theorem parkCurrent_staged {current : Bytes} (empty : current = [] ∨ current = old)
    (h : Staged GATE_TMP old new (old ≠ [] ∧ current = []) s) :
    (parkCurrent sha current).Meets Faulty (fun _ => True)
      (fun _ t => Waiting GATE_TMP new t ∧ old ≠ [] ∨ Staged GATE_TMP old new (old ≠ []) t)
      (fun _ => Atomic GATE_TMP old new (old ≠ [])) s := by
  unfold parkCurrent
  split
  · next none =>
    right
    exact ⟨⟨h.old, h.fault, fun nonempty => h.spent ⟨nonempty, none⟩⟩, h.staged⟩
  · next some =>
    rw [meets_bind]
    apply (park_waiting (by decide) (by decide) current h).imp _
      (fun _ _ untouched => untouched.atomic)
    intro parked t waiting
    obtain none | rfl := empty
    · exact absurd none some
    · exact Or.inl ⟨waiting, some⟩

theorem parkAndDeploy_atomic {f : Files} (here : f PAYLOAD_NAME = some old) (new : Bytes) :
    (parkAndDeploy sha new).Meets Faulty (fun _ => True)
      (fun _ => Atomic GATE_TMP old new (old ≠ [])) (fun _ => Atomic GATE_TMP old new (old ≠ []))
      ⟨f, none⟩ := by
  unfold parkAndDeploy
  rw [meets_bind]
  apply (readCurrent_untouched here).imp _
    (fun _ _ untouched => untouched.atomic)
  rintro current t ⟨empty, untouched⟩
  rw [meets_bind]
  apply (ftpPutVerified_staged 3 untouched).imp _
    (fun _ _ untouched => untouched.atomic)
  intro new_sha t staged
  apply (parkCurrent_staged empty staged).seq
  intro parked_as t parked
  have swaps : (orRaise (ask (swap GATE_TMP))).Meets Faulty (fun _ => True)
      (fun _ => Swapped GATE_TMP new) (fun _ => Atomic GATE_TMP old new (old ≠ [])) t := by
    obtain ⟨waiting, nonempty⟩ | staged := parked
    · exact waiting.swap nonempty
    · exact staged.swap
  apply swaps.seq
  intro _ t swapped
  refine Atomic.reads ?_ swapped.atomic
  apply (uses_orRaise (reads_ask rfl)).bind
  intro back
  exact (uses_throw _).ite (uses_pure _)

theorem deploySwap_atomic {spent : Prop} (current : Bytes)
    (h : Staged DEPLOY_TMP old new spent s) :
    (deploySwap sha current).Meets Faulty (fun _ => True) (fun _ => Swapped DEPLOY_TMP new)
      (fun _ => Atomic DEPLOY_TMP old new True) s := by
  unfold deploySwap
  rw [meets_bind]
  apply (park_waiting (by decide) (by decide) current h).imp _
    (fun _ _ untouched => untouched.atomic)
  intro parked t waiting
  exact waiting.swap trivial

/-- Only reads come before `preserve` returns, and after the swap. -/
theorem deployBody_atomic (args : DeployArgs)
    (h : Untouched DEPLOY_TMP old False s) :
    (deployBody sha args).Meets Faulty (fun _ => True)
      (fun _ => Atomic DEPLOY_TMP old (args.candidate.getD old) True)
      (fun _ => Atomic DEPLOY_TMP old (args.candidate.getD old) True) s := by
  have other : DEPLOY_TMP ≠ PAYLOAD_NAME := by decide
  have untouched : ∀ {α : Type} {part : Script α} {t : Faults}, part.Uses (Uploads DEPLOY_TMP) →
      Untouched DEPLOY_TMP old False t →
      part.Meets Faulty (fun _ => True) (fun _ => Untouched DEPLOY_TMP old False)
        (fun _ => Atomic DEPLOY_TMP old (args.candidate.getD old) True) t := by
    intro α part t uses before
    exact (before.uploads other uses).imp (fun _ _ after => after)
      fun _ _ after => after.atomic
  unfold deployBody
  apply (untouched (uses_orRaise (uses_ask (Or.inl rfl))) h).seq
  intro _ t h
  apply (untouched (uses_orRaise (uses_ask (Or.inl rfl))) h).seq
  intro _ t h
  apply (untouched uses_preserve h).seq
  intro current t h
  cases args.candidate with
  | none => exact h.atomic
  | some data =>
    simp only [Option.getD_some]
    rw [meets_bind]
    apply (deployUpload_staged h).imp _
      (fun _ _ untouched => untouched.atomic)
    intro _ t staged
    apply (deploySwap_atomic current staged).seq
    intro _ t swapped
    exact Atomic.reads (reads_deployCheck data) swapped.atomic

theorem deployMain_atomic {f : Files} (here : f PAYLOAD_NAME = some old) (args : DeployArgs) :
    (deployMain sha args).Meets Faulty (fun _ => True)
      (fun _ => Atomic DEPLOY_TMP old (args.candidate.getD old) True)
      (fun _ => Atomic DEPLOY_TMP old (args.candidate.getD old) True) ⟨f, none⟩ := by
  have other : DEPLOY_TMP ≠ PAYLOAD_NAME := by decide
  have fine : (none : Option Call) ≠ some (swap DEPLOY_TMP) := (Option.some_ne_none _).symm
  have start : Untouched DEPLOY_TMP old False ⟨f, none⟩ := ⟨here, fine, False.elim⟩
  have closes : (orRaise (ask .close)).Uses (·.writes = false) := uses_orRaise (reads_ask rfl)
  unfold deployMain
  split
  · exact start.atomic
  · rw [meets_bind]
    apply (start.uploads other (uses_orRaise (uses_ask (Or.inl rfl)))).imp _
      (fun _ _ untouched => untouched.atomic)
    intro _ t untouched
    rw [meets_bind]
    apply (untouched.uploads other (uses_orRaise (uses_ask (Or.inl rfl)))).imp _
      (fun _ _ untouched => untouched.atomic)
    intro _ t untouched
    rw [meets_bind, meets_tryCatch]
    apply (deployBody_atomic args untouched).imp
    · intro status t atomic
      exact atomic.reads (closes.bind fun _ => uses_pure status)
    · intro error t atomic
      exact (atomic.reads (closes.bind fun _ => uses_throw error)).imp
        (fun _ t atomic => atomic.reads (closes.bind fun _ => uses_pure _))
        fun _ _ atomic => atomic

/-- When both tools leave the payload in place: unless the failing operation is the swap, and
the gate has parked something. -/
theorem deploy_atomic_iff {f : Files} (here : f PAYLOAD_NAME = some old) :
    (∀ new events outcome t,
      Exec Faulty (parkAndDeploy sha new) ⟨f, none⟩ events (ended outcome) t →
      (Intact old new t.files ↔ ¬ (t.fault = some (swap GATE_TMP) ∧ old ≠ []))) ∧
    ∀ args events outcome t,
      Exec Faulty (deployMain sha args) ⟨f, none⟩ events (ended outcome) t →
      (Intact old (args.candidate.getD old) t.files ↔ t.fault ≠ some (swap DEPLOY_TMP)) := by
  constructor
  · intro new events outcome t run
    have atomic := ((parkAndDeploy_atomic here new).exec run).2
    cases outcome with
    | ok info => exact atomic
    | error error => exact atomic
  · intro args events outcome t run
    have atomic := ((deployMain_atomic here args).exec run).2
    have iff : Atomic DEPLOY_TMP old (args.candidate.getD old) True t := by
      cases outcome with
      | ok info => exact atomic
      | error error => exact atomic
    unfold Atomic at iff
    rwa [and_true] at iff

/-- A device on which the swap fails. -/
def swapless (tmp : String) : Disk := { oldDisk with failing := some (swap tmp) }

theorem deploy_atomic_iff_one_deployment :
    ∃ info events t, Exec Faulty (parkAndDeploy sampleSha [2]) ⟨oldDisk.look, none⟩ events
      (ended (.ok info)) t ∧ Intact [1] [2] t.files := by
  let swapped : Disk :=
    { oldDisk with files := [(PAYLOAD_NAME, [2]), ("payload.bin.prev-4bf5122f3445", [1])] }
  let info : DeployInfo :=
    { previous_sha256 := some (sampleSha [1])
      previous_bytes := 1
      parked_as := some "payload.bin.prev-4bf5122f3445"
      deployed_sha256 := sampleSha [2]
      deployed_bytes := 1 }
  have ran : (parkAndDeploy sampleSha [2]).run Disk.answer oldDisk =
      some (.ok info, swapped) := by
    rfl
  have run := exec_run Disk.answer_faulty ran
  have whole : ¬ (swapped.fault = some (swap GATE_TMP) ∧ ([1] : Bytes) ≠ []) := by decide
  have here : oldDisk.look PAYLOAD_NAME = some [1] := rfl
  have iff := (deploy_atomic_iff here).1 [2] _ _ _ run
  exact ⟨_, _, _, run, iff.mpr whole⟩

/-- The swap fails after the park: no payload is left to boot. -/
theorem swap_failure_removes :
    (∃ events t, Exec Faulty (parkAndDeploy sampleSha [2]) ⟨oldDisk.look, none⟩ events
      (ended (.error .transport)) t ∧ t.files PAYLOAD_NAME = none) ∧
    ∃ events t, Exec Faulty (deployMain sampleSha
        { payload := some [2], target_dir := LIVE_DIR, preserve_only := false })
      ⟨oldDisk.look, none⟩ events (ended (.error .transport)) t ∧
      t.files PAYLOAD_NAME = none := by
  let parked (tmp : String) : Disk :=
    { swapless tmp with
      files := [("payload.bin.prev-4bf5122f3445", [1]), (tmp, [2])]
      fault := some (swap tmp) }
  constructor
  · have ran : (parkAndDeploy sampleSha [2]).run Disk.answer (swapless GATE_TMP) =
        some (.error .transport, parked GATE_TMP) := by
      rfl
    have run := exec_run Disk.answer_faulty ran
    exact ⟨_, _, run, rfl⟩
  · have ran : (deployMain sampleSha
          { payload := some [2], target_dir := LIVE_DIR, preserve_only := false }).run
        Disk.answer (swapless DEPLOY_TMP) = some (.error .transport, parked DEPLOY_TMP) := by
      rfl
    have run := exec_run Disk.answer_faulty ran
    exact ⟨_, _, run, rfl⟩

end VitaLinux.Tools
