import VitaLinux.Tools.DeployPayload
import VitaLinux.Tools.HardwareGate
import VitaLinux.Tools.Server

/-!
# No payload is lost

Both tools move `payload.bin` only to a free name of a parked payload, and put the new
file in its place only when nothing is there. So whatever has been `payload.bin` stays
on the device, however the runs of the tools fail.
-/

namespace VitaLinux.Tools

open VitaLinux.Base Prog

variable {sha : Bytes → String} {f g : Files} {α : Type}

/-- The bytes are still on the device, live or parked. -/
def Kept (f : Files) (data : Bytes) : Prop :=
  f PAYLOAD_NAME = some data ∨ ∃ name, Prev name ∧ f name = some data

/-- There is no payload, or an empty one. -/
def Vacant (f : Files) : Prop := f PAYLOAD_NAME = none ∨ f PAYLOAD_NAME = some []

/-- How the tools write and rename. -/
structure Careful (e : Event Files Call Reply) : Prop where
  uploads : ∀ name data, e.call = .stor name data → name ≠ PAYLOAD_NAME ∧ ¬ Prev name
  renames : ∀ source target, e.call = .rename source target →
    (source = PAYLOAD_NAME ∧ Prev target ∧ e.before target = none) ∨
    (source ≠ PAYLOAD_NAME ∧ ¬ Prev source ∧ target = PAYLOAD_NAME ∧ Vacant e.before)

/-- A careful operation leaves every parked payload as it is. -/
theorem careful_prev {e : Event Files Call Reply} (h : Careful e)
    (answer : Device e.before e.call e.reply e.after) {name : String} {data : Bytes}
    (prev : Prev name) (here : e.before name = some data) : e.after name = some data := by
  obtain ⟨before, call, reply, after⟩ := e
  change Device before call reply after at answer
  cases answer with
  | fails raised honest => exact here
  | serves served =>
    cases served with
    | stor uploaded bytes =>
      obtain ⟨_, other⟩ := h.uploads uploaded bytes rfl
      have different : name ≠ uploaded := by
        rintro rfl
        exact other prev
      exact (Function.update_of_ne different _ _).trans here
    | rename source target there =>
      obtain ⟨rfl, _, free⟩ | ⟨_, other, rfl, _⟩ := h.renames source target rfl
      · have different : name ≠ target := by
          rintro rfl
          exact absurd (free.symm.trans here) (Option.some_ne_none data).symm
        exact (before.renamed_of_ne prev.ne_payload different).trans here
      · have different : name ≠ source := by
          rintro rfl
          exact other prev
        exact (before.renamed_of_ne different prev.ne_payload).trans here
    | _ => exact here

/-- A careful operation keeps every payload that is not empty. -/
theorem careful_kept {e : Event Files Call Reply} (h : Careful e)
    (answer : Device e.before e.call e.reply e.after) {data : Bytes} (nonempty : data ≠ [])
    (kept : Kept e.before data) : Kept e.after data := by
  obtain live | ⟨name, prev, parked⟩ := kept
  · obtain ⟨before, call, reply, after⟩ := e
    change Device before call reply after at answer
    cases answer with
    | fails raised honest => exact Or.inl live
    | serves served =>
      cases served with
      | stor uploaded bytes =>
        obtain ⟨other, _⟩ := h.uploads uploaded bytes rfl
        exact Or.inl ((Function.update_of_ne other.symm _ _).trans live)
      | rename source target there =>
        obtain ⟨rfl, prev, _⟩ | ⟨_, _, _, vacant⟩ := h.renames source target rfl
        · right
          refine ⟨target, prev, ?_⟩
          exact (before.renamed_target PAYLOAD_NAME target).trans live
        · exfalso
          obtain gone | empty := vacant
          · exact absurd (gone.symm.trans live) (Option.some_ne_none data).symm
          · exact nonempty (Option.some.inj (live.symm.trans empty))
      | _ => exact Or.inl live
  · exact Or.inr ⟨name, prev, careful_prev h answer prev parked⟩

theorem Careful.of_read {e : Event Files Call Reply} (h : e.call.writes = false) : Careful e where
  uploads name data stored := by
    rw [stored] at h
    cases h
  renames source target renamed := by
    rw [renamed] at h
    cases h

theorem Uploads.careful {tmp : String} (other : tmp ≠ PAYLOAD_NAME) (fresh : ¬ Prev tmp)
    {e : Event Files Call Reply} (h : Uploads tmp e.call) : Careful e := by
  obtain read | ⟨data, stored⟩ := h
  · exact .of_read read
  · refine ⟨?_, ?_⟩
    · intro name bytes same
      rw [stored] at same
      cases same
      exact ⟨other, fresh⟩
    · intro source target same
      rw [stored] at same
      cases same

/-- An operation that changes no file. -/
theorem Device.read {call : Call} {r : Reply call} (answer : Device f call r g)
    (h : call.writes = false) : g = f := by
  cases answer with
  | fails raised honest => rfl
  | serves served =>
    cases served with
    | stor name data => cases h
    | rename source target there => cases h
    | _ => rfl

/-- An upload leaves the payload alone. -/
theorem Uploads.payload {tmp : String} (other : tmp ≠ PAYLOAD_NAME) {call : Call} {r : Reply call}
    (h : Uploads tmp call) (answer : Device f call r g) : g PAYLOAD_NAME = f PAYLOAD_NAME := by
  obtain read | ⟨data, rfl⟩ := h
  · rw [answer.read read]
  · cases answer with
    | fails raised honest => rfl
    | serves served =>
      cases served with
      | stor name data => exact Function.update_of_ne other.symm _ _

theorem upload_careful {tmp : String} (other : tmp ≠ PAYLOAD_NAME) (fresh : ¬ Prev tmp)
    {part : Script α} (uses : part.Uses (Uploads tmp)) (f : Files) :
    part.Meets Device Careful (fun _ g => g PAYLOAD_NAME = f PAYLOAD_NAME) (fun _ _ => True) f := by
  have kept : ∀ s c r t, Uploads tmp c → s PAYLOAD_NAME = f PAYLOAD_NAME → Device s c r t →
      t PAYLOAD_NAME = f PAYLOAD_NAME :=
    fun s c r t uploads same answer => (uploads.payload other answer).trans same
  exact (uses.meets kept rfl).mono (fun _ event => event.1.careful other fresh)
    (fun _ _ same => same) fun _ _ _ => trivial

/-- What is read as the current payload is the payload, or there is none. -/
theorem readCurrent_careful (f : Files) :
    readCurrent.Meets Device Careful
      (fun current g => g = f ∧ (f PAYLOAD_NAME = some current ∨
        f PAYLOAD_NAME = none ∧ current = [])) (fun _ _ => True) f := by
  unfold readCurrent
  rw [meets_tryCatch]
  unfold ftpRead
  apply meets_orRaise
  intro r g answer
  refine ⟨.of_read rfl, ?_, ?_⟩
  · rintro data rfl
    cases answer with
    | serves served =>
      cases served with
      | retr name data here => exact ⟨rfl, Or.inl here⟩
    | fails raised honest => cases raised
  · rintro e rfl
    cases answer with
    | serves served => cases served
    | fails raised honest =>
      cases raised
      split
      · next perm => exact ⟨rfl, Or.inr ⟨honest rfl perm, rfl⟩⟩
      · trivial

theorem nlst_careful (f : Files) :
    (orRaise (ask .nlst)).Meets Device Careful
      (fun names g => g = f ∧ ∀ name, name ∈ names ↔ f name ≠ none) (fun _ _ => True) f := by
  apply meets_orRaise
  intro r g answer
  refine ⟨.of_read rfl, ?_, fun _ _ => trivial⟩
  rintro names rfl
  cases answer with
  | serves served =>
    cases served with
    | nlst names all => exact ⟨rfl, all⟩
  | fails raised honest => cases raised

/-- A careful rename, after which its source is gone. -/
theorem rename_careful {source target : String} (moved : source ≠ target)
    (careful : ∀ r g, Careful ⟨f, .rename source target, r, g⟩) :
    (orRaise (ask (.rename source target))).Meets Device Careful (fun _ g => g source = none)
      (fun _ _ => True) f := by
  apply meets_orRaise
  intro r g answer
  refine ⟨careful r g, ?_, fun _ _ => trivial⟩
  rintro _ rfl
  cases answer with
  | serves served =>
    cases served with
    | rename source target there => exact f.renamed_source moved
  | fails raised honest => cases raised

theorem Careful.parks {target : String} (prev : Prev target) (free : f target = none)
    (r : Except PyError Unit) (g : Files) : Careful ⟨f, .rename PAYLOAD_NAME target, r, g⟩ where
  uploads name data stored := by cases stored
  renames source target renamed := by
    cases renamed
    exact Or.inl ⟨rfl, prev, free⟩

theorem Careful.swaps {source : String} (other : source ≠ PAYLOAD_NAME) (fresh : ¬ Prev source)
    (vacant : Vacant f) (r : Except PyError Unit) (g : Files) :
    Careful ⟨f, .rename source PAYLOAD_NAME, r, g⟩ where
  uploads name data stored := by cases stored
  renames source target renamed := by
    cases renamed
    exact Or.inr ⟨other, fresh, rfl, vacant⟩

/-- The payload is parked under a free name. -/
theorem park_careful (current : Bytes) (f : Files) :
    (park sha current).Meets Device Careful (fun _ g => g PAYLOAD_NAME = none)
      (fun _ _ => True) f := by
  unfold park
  apply (nlst_careful f).seq
  rintro names g ⟨rfl, all⟩
  cases found : parkedName sha current names with
  | none => exact absurd found (parkedName_ne_none sha current names)
  | some parked =>
    obtain ⟨free, prev⟩ := parkedName_some found
    have unused : g parked = none := by
      rw [all] at free
      exact Classical.not_not.mp free
    apply (rename_careful prev.ne_payload.symm (Careful.parks prev unused)).seq
    intro _ h gone
    exact gone

theorem read_careful (name : String) (f : Files) :
    (orRaise (ask (.retr name))).Meets Device Careful (fun _ _ => True) (fun _ _ => True) f := by
  apply meets_orRaise
  intro r g answer
  exact ⟨.of_read rfl, fun _ _ => trivial, fun _ _ => trivial⟩

/-- Only a vacant place is filled with the new payload. -/
theorem parkCurrent_careful {current : Bytes} (here : f PAYLOAD_NAME = some current ∨
    f PAYLOAD_NAME = none ∧ current = []) :
    (parkCurrent sha current).Meets Device Careful (fun _ g => Vacant g) (fun _ _ => True) f := by
  unfold parkCurrent
  split
  · next empty =>
    obtain some | ⟨none, _⟩ := here
    · exact Or.inr (empty ▸ some)
    · exact Or.inl none
  · apply (park_careful current f).seq
    intro parked g gone
    exact Or.inl gone

theorem parkAndDeploy_careful (data : Bytes) :
    Guarantees Device Careful (parkAndDeploy sha data) := by
  have other : GATE_TMP ≠ PAYLOAD_NAME := by decide
  have fresh : ¬ Prev GATE_TMP := by decide
  intro f
  unfold parkAndDeploy
  apply (readCurrent_careful f).seq
  rintro current g ⟨rfl, here⟩
  apply (upload_careful other fresh (uploads_gate data) g).seq
  intro new_sha h same
  rw [← same] at here
  apply (parkCurrent_careful here).seq
  intro parked_as g vacant
  apply (rename_careful other (Careful.swaps other fresh vacant)).seq
  intro _ h _
  apply (read_careful PAYLOAD_NAME h).seq
  intro back h _
  split <;> trivial

theorem deploySwap_careful (current : Bytes) :
    Guarantees Device Careful (deploySwap sha current) := by
  have other : DEPLOY_TMP ≠ PAYLOAD_NAME := by decide
  have fresh : ¬ Prev DEPLOY_TMP := by decide
  intro f
  unfold deploySwap
  apply (park_careful current f).seq
  intro _ g gone
  exact (rename_careful other (Careful.swaps other fresh (Or.inl gone))).mono
    (fun _ event => event) (fun _ _ _ => trivial) fun _ _ _ => trivial

theorem deployMain_careful (args : DeployArgs) :
    Guarantees Device Careful (deployMain sha args) := by
  have quiet : ∀ {α : Type} {part : Script α}, part.Uses (Uploads DEPLOY_TMP) →
      Guarantees Device Careful part := by
    intro α part uses
    exact uses.guarantees fun e event => event.careful (by decide) (by decide)
  have reads : ∀ {c : Call}, c.writes = false → ∀ op : Script (Except PyError Unit),
      op.Uses (· = c) → Guarantees Device Careful (orRaise op) := by
    intro c read op uses
    apply (uses_orRaise uses).guarantees
    rintro e rfl
    exact .of_read read
  have body : Guarantees Device Careful (deployBody sha args) := by
    unfold deployBody
    apply (reads rfl (ask (.cwd args.target_dir)) (uses_ask rfl)).bind
    intro _
    apply (reads rfl (ask .pwd) (uses_ask rfl)).bind
    intro _
    apply (quiet uses_preserve).bind
    intro current
    cases args.candidate with
    | none => exact .pure _
    | some data =>
      apply (quiet (uses_deployUpload data)).bind
      intro _
      exact (deploySwap_careful current).bind fun _ =>
        quiet ((reads_deployCheck data).mono fun _ read => Or.inl read)
  have closes := reads rfl (ask .close) (uses_ask rfl)
  unfold deployMain
  apply Guarantees.ite (.pure _)
  apply (reads rfl (ask .connect) (uses_ask rfl)).bind
  intro _
  apply (reads rfl (ask .login) (uses_ask rfl)).bind
  intro _
  have ends : Guarantees Device Careful (tryCatch (deployBody sha args) fun error => do
      orRaise (ask .close)
      throw error) := body.tryCatch fun error => closes.bind fun _ _ => trivial
  exact ends.bind fun status => closes.bind fun _ => .pure _

/-- The runs that deploy a payload, of either tool. -/
inductive Deploys (sha : Bytes → String) : Script Unit → Prop where
  | gate (data : Bytes) : Deploys sha (do let _ ← parkAndDeploy sha data)
  | deploy (args : DeployArgs) : Deploys sha (do let _ ← deployMain sha args)

/-- Runs of the tools on one device directory, each to its end or cut anywhere. -/
abbrev Deployments (sha : Bytes → String) : Files → List (Event Files Call Reply) → Files → Prop :=
  History Device (Deploys sha) fun _ _ => False

theorem deploys_careful {p : Script Unit} (h : Deploys sha p) : Guarantees Device Careful p := by
  cases h with
  | gate data => exact (parkAndDeploy_careful data).bind fun _ => .pure _
  | deploy args => exact (deployMain_careful args).bind fun _ => .pure _

/-- After any runs of the tools, every payload there ever was is still on the device unless
it was empty, no parked payload has been overwritten, and the parked name is always found. -/
theorem no_payload_lost {f g : Files} {events : List (Event Files Call Reply)}
    (history : Deployments sha f events g) :
    (∀ data, data ≠ [] →
      (f PAYLOAD_NAME = some data ∨ ∃ e ∈ events, e.after PAYLOAD_NAME = some data) →
      Kept g data) ∧
    (∀ e ∈ events, ∀ name data, Prev name → e.before name = some data →
      e.after name = some data) ∧
    ∀ current names, (parkedName sha current names).isSome = true := by
  have careful := history.guarantees fun _ known => deploys_careful known
  have answers := history.answers
  refine ⟨?_, ?_, parkedName_isSome sha⟩
  · intro data nonempty ever
    have step : ∀ e ∈ events, Device e.before e.call e.reply e.after →
        Kept e.before data → Kept e.after data :=
      fun e member answer => careful_kept (careful e member) answer nonempty
    obtain first | ⟨e, member, live⟩ := ever
    · exact history.preserves (I := (Kept · data)) step (fun _ _ no => no.elim) (Or.inl first)
    · exact history.preserves_after (I := (Kept · data)) step (fun _ _ no => no.elim) member
        (Or.inl live)
  · intro e member name data prev here
    exact careful_prev (careful e member) (answers e member) prev here

theorem no_payload_lost_one_deployment :
    ∃ events g, Deployments sampleSha oldDisk.look events g ∧ g PAYLOAD_NAME = some [2] ∧
      Kept g [1] := by
  let parked : Disk :=
    { oldDisk with files := [(PAYLOAD_NAME, [2]), ("payload.bin.prev-4bf5122f3445", [1])] }
  have ran : (do let _ ← parkAndDeploy sampleSha [2] : Script Unit).run Disk.answer oldDisk =
      some (.ok (), parked) := by
    rfl
  have history : Deployments sampleSha oldDisk.look _ parked.look :=
    .run .nil (.gate [2]) (exec_run Disk.answer_device ran)
  have kept := (no_payload_lost history).1 [1] (by decide) (Or.inl rfl)
  exact ⟨_, _, history, rfl, kept⟩

end VitaLinux.Tools
