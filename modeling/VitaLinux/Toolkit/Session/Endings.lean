import VitaLinux.Toolkit.Session.Start

/-!
# Where a start gives up

The `status` that a start prints tells the point at which it has given up, and the point, the
storage report and the mount table tell what it has done by then (`start_endings`).
-/

namespace VitaLinux.Toolkit.Session

open VitaLinux.Base Prog

/-- Where a start gives up. -/
inductive Point where
  /-- no mount has been made -/
  | beforeTransport
  /-- the transport has been mounted, if it had to be -/
  | beforeUpgrade
  /-- and made writable, if it had to be -/
  | beforeImage
  /-- the image has been mounted, and is no toolkit -/
  | unrecognized
  /-- the image has been mounted, and is one -/
  | afterImage
  deriving DecidableEq, Repr

/-- The point, by what the start has printed. -/
def pointOf (report : String) : Point :=
  if report ∈ ["payload_missing", "ambiguous_payload", "transport_remount_failed"] then
    .beforeUpgrade
  else if report ∈ ["unverified", "checksum_mismatch", "already_mounted", "target_unavailable",
      "mount_failed"] then .beforeImage
  else if report = "payload_unrecognized" then .unrecognized
  else if report ∈ ["workspace_unavailable", "workspace_unwritable", "state_unavailable", ""] then
    .afterImage
  else .beforeTransport

/-- The one candidate of a storage report. -/
def discovered (awk : Awk) (c : Config) (report : Option Text) : Option Discovered :=
  report.bind fun report =>
    let storage := report ++ ['\n']
    let digits := extract (· = "storage_count".toList) secondField storage
    match (List.range' 1 (Nat.ofDigitChars 10 digits 0)).filterMap (candidate awk c storage) with
    | [found] => some found
    | _ => none

/-- Where the transport is, and whether it has to be mounted. -/
def transportOf (awk : Awk) (c : Config) (report : Option Text) : Text × Bool :=
  if c.explicitFile ≠ [] then (c.transport, false)
  else
    match discovered awk c report with
    | some found =>
      if found.mountpoint = "NONE".toList ∨ found.mountpoint = [] then (c.transport, true)
      else (found.mountpoint, false)
    | none => (c.transport, false)

/-- `--rw-workspace` finds the transport among the mounts, read-only, and it is. -/
def Upgrades (awk : Awk) (canon : Text → Text) (c : Config) (report : Option Text) (w : World) :
    Prop :=
  c.rwWorkspace = true ∧ isMounted awk w.mounts (transportOf awk c report).1 = true ∧
    mountIsRo (mountOptionsFor awk w.mounts (transportOf awk c report).1) = true ∧
    (topmost w.mounts (canon (transportOf awk c report).1)).any (mountIsRo ·.options) = true

instance (awk : Awk) (canon : Text → Text) (c : Config) (report : Option Text) (w : World) :
    Decidable (Upgrades awk canon c report w) := inferInstanceAs (Decidable (_ ∧ _))

/-- The system, with its storage: the report is what `vita-storage` answers. -/
def Reporting (canon : Text → Text) (report : Option Text) : Environment World Call Reply :=
  fun s call reply t => Box canon s call reply t ∧
    match call, reply with
    | .storage, reply => reply = report
    | _, _ => True

abbrev Logged (canon : Text → Text) (report : Option Text) :
    Environment (World × List Done) Call Reply :=
  noted (note canon) (Reporting canon report)

/-- What has been done at a point, when the transport has to be mounted, or made writable. -/
def DoneAt (mounts upgrades : Prop) (log : List Done) : Point → Prop
  | .beforeTransport => log = []
  | .beforeUpgrade => (.transport ∈ log ↔ mounts) ∧ .remounted ∉ log ∧ .image ∉ log
  | .beforeImage =>
    (.transport ∈ log ↔ mounts) ∧ (¬ mounts → (.remounted ∈ log ↔ upgrades)) ∧ .image ∉ log
  | .unrecognized =>
    (.transport ∈ log ↔ mounts) ∧ (¬ mounts → (.remounted ∈ log ↔ upgrades)) ∧ .image ∈ log
  | .afterImage => .image ∈ log ∧ .unmounted ∉ log

section throws

variable {awk : Awk} {c : Config} {P : Ending → Prop}

theorem throws_ask {call : Call} : (ask call).Throws P := fun _ => trivial

theorem throws_orFail {command : Script Bool} {report : String} (h : command.Throws P)
    (k : P ⟨1, report⟩) : (orFail command report).Throws P := by
  unfold orFail
  exact h.bind fun _ => Throws.ite trivial k

theorem throws_regularFiles (candidates : List Text) : (regularFiles candidates).Throws P := by
  induction candidates with
  | nil => trivial
  | cons candidate rest ih => exact throws_ask.bind fun _ => ih.bind fun _ => trivial

theorem throws_discoverPayload (dir : Text) :
    (discoverPayload c dir).Throws fun e => pointOf e.report = .beforeUpgrade := by
  unfold discoverPayload
  apply throws_ask.bind
  intro candidates
  apply (throws_regularFiles candidates).bind
  intro found
  split
  · rfl
  · trivial
  · rfl

theorem throws_verify (payload : Text) :
    (verify awk payload).Throws fun e => pointOf e.report = .beforeImage := by
  have checksums : (checksum awk payload).Throws fun e => pointOf e.report = .beforeImage := by
    unfold checksum
    apply throws_ask.bind
    intro sidecar
    apply Throws.ite
    · exact throws_ask.bind fun _ => trivial
    · apply throws_ask.bind
      intro sums
      apply Throws.ite
      · exact throws_ask.bind fun _ => trivial
      · trivial
  have resolved : (resolveExpectedHash awk payload).Throws
      fun e => pointOf e.report = .beforeImage := by
    unfold resolveExpectedHash
    exact checksums.bind fun _ => trivial
  unfold verify
  apply resolved.bind
  intro expected
  cases expected with
  | none => rfl
  | some expected => exact throws_ask.bind fun _ => Throws.ite trivial rfl

theorem throws_recognized : (recognized c).Throws P := by
  unfold recognized
  apply throws_ask.bind
  intro manifest
  exact Throws.ite trivial throws_ask

theorem throws_createWorkspace (transport : Text) :
    (createWorkspace c transport).Throws fun e => pointOf e.report = .afterImage := by
  unfold createWorkspace
  apply Throws.ite
  · apply Throws.bind
    · apply Throws.forM
      intro sub _
      exact throws_orFail throws_ask rfl
    · intro _
      apply Throws.bind
      · exact throws_orFail throws_ask rfl
      · exact fun _ => trivial
  · trivial

theorem throws_checkPaths :
    (checkPaths c).Throws fun e => pointOf e.report = .beforeTransport := by
  unfold checkPaths
  exact Throws.ite rfl (Throws.ite rfl (throws_orFail throws_ask rfl))

end throws

section endings

variable {awk : Awk} {canon : Text → Text} {c : Config} {report : Option Text} {w : World}
  {s t u : World × List Done} {α : Type}

theorem Logged.noted {call : Call} {reply : Reply call} (h : Logged canon report s call reply t) :
    Noted canon s call reply t := ⟨h.1.1, h.2⟩

/-- What a start that gives up has done by then. -/
def GivesUp (awk : Awk) (canon : Text → Text) (c : Config) (report : Option Text) (w : World)
    (ending : Ending) (s : World × List Done) : Prop :=
  DoneAt ((transportOf awk c report).2 = true) (Upgrades awk canon c report w) s.2
    (pointOf ending.report)

/-- A part that reads, followed by another: it gives up at one point, with nothing done. -/
theorem seq_of_reads (point : Point) {β : Type} {p : Script α} {f : α → Script β}
    {Q : β → World × List Done → Prop} (uses : p.Uses (·.reads = true))
    (throws : p.Throws fun e => pointOf e.report = point)
    (gives : ∀ e : Ending, pointOf e.report = point → GivesUp awk canon c report w e s)
    (k : ∀ a, (f a).Meets (Logged canon report) (fun _ => True) Q
      (GivesUp awk canon c report w) s) :
    (p >>= f).Meets (Logged canon report) (fun _ => True) Q (GivesUp awk canon c report w) s := by
  have reading : p.Meets (Logged canon report) (fun _ => True) (fun _ t => t = s)
      (fun _ t => t = s) s :=
    (meets_of_reads uses s).restrict fun _ _ _ _ => Logged.noted
  apply ((reading.throws throws).imp (fun _ _ same => same)
    fun e t quit => quit.1 ▸ gives e quit.2).seq
  rintro a _ rfl
  exact k a

/-- The transport has been found, and mounted if it had to be. -/
structure Sought (awk : Awk) (c : Config) (report : Option Text) (w : World) (found : Text × Bool)
    (s : World × List Done) : Prop where
  place : found = transportOf awk c report
  log : s.2 = if found.2 then [.transport] else []
  same : found.2 = false → s.1 = w

/-- The transport is as it has to be. -/
structure Prepared (awk : Awk) (canon : Text → Text) (c : Config) (report : Option Text)
    (w : World) (log : List Done) : Prop where
  transport : .transport ∈ log ↔ (transportOf awk c report).2 = true
  remounted : ¬ (transportOf awk c report).2 = true →
    (.remounted ∈ log ↔ Upgrades awk canon c report w)
  image : .image ∉ log
  unmounted : .unmounted ∉ log

theorem GivesUp.untouched {ending : Ending}
    (h : s = (w, []) ∧ pointOf ending.report = .beforeTransport) :
    GivesUp awk canon c report w ending s := by
  unfold GivesUp
  rw [h.1, h.2]
  rfl

theorem Sought.unmounted {place : Text} (h : transportOf awk c report = (place, false)) :
    Sought awk c report w (place, false) (w, []) where
  place := h.symm
  log := rfl
  same _ := rfl

theorem Sought.transport_iff {found : Text × Bool} (h : Sought awk c report w found s) :
    .transport ∈ s.2 ↔ (transportOf awk c report).2 = true := by
  rw [h.log, ← h.place]
  cases found.2 <;> simp

/-- Before the upgrade, the log has at most the mount of the transport. -/
theorem Sought.not_mem {found : Text × Bool} (h : Sought awk c report w found s) {d : Done}
    (other : d ≠ .transport) : d ∉ s.2 := by
  rw [h.log]
  cases found.2 <;> simp [other]

theorem Sought.givesUp {found : Text × Bool} {ending : Ending}
    (h : Sought awk c report w found s) (point : pointOf ending.report = .beforeUpgrade) :
    GivesUp awk canon c report w ending s := by
  unfold GivesUp
  rw [point]
  exact ⟨h.transport_iff, h.not_mem (by decide), h.not_mem (by decide)⟩

/-- A transport that is left as it is was not to be made writable. -/
theorem Sought.prepared {found : Text × Bool} (h : Sought awk c report w found s)
    (kept : found.2 = false → ¬ Upgrades awk canon c report w) :
    Prepared awk canon c report w s.2 where
  transport := h.transport_iff
  remounted untouched := by
    rw [← h.place] at untouched
    exact iff_of_false (h.not_mem (by decide)) (kept (Bool.eq_false_iff.mpr untouched))
  image := h.not_mem (by decide)
  unmounted := h.not_mem (by decide)

/-- A remount that works counts where it makes a transport of others writable. -/
theorem Sought.remounted {found : Text × Bool} {log : List Done} {ro : Bool}
    (h : Sought awk c report w found s) (grown : log = s.2 ++ if ro then [.remounted] else [])
    (upgrades : found.2 = false → (ro = true ↔ Upgrades awk canon c report w)) :
    Prepared awk canon c report w log where
  transport := by
    rw [grown, List.mem_append, h.transport_iff]
    split <;> simp
  remounted untouched := by
    rw [← h.place] at untouched
    rw [← upgrades (Bool.eq_false_iff.mpr untouched), grown]
    simp [h.not_mem]
  image := by
    rw [grown]
    simp [h.not_mem]
  unmounted := by
    rw [grown]
    simp [h.not_mem]

theorem Prepared.givesUp {ending : Ending} (h : Prepared awk canon c report w s.2)
    (point : pointOf ending.report = .beforeImage) : GivesUp awk canon c report w ending s := by
  unfold GivesUp
  rw [point]
  exact ⟨h.transport, h.remounted, h.image⟩

theorem meets_ask_storage {X : Ending → World × List Done → Prop} :
    (ask .storage).Meets (Logged canon report) (fun _ => True)
      (fun reply t => t = s ∧ reply = report) X s := by
  rintro reply t ⟨⟨box, same⟩, log⟩
  exact ⟨trivial, (Noted.same rfl ⟨box, log⟩).1, same⟩

theorem meets_ask_procMounts {X : Ending → World × List Done → Prop} :
    (ask .procMounts).Meets (Logged canon report) (fun _ => True)
      (fun mounts t => t = s ∧ mounts = s.1.mounts) X s :=
  (meets_ask_reads rfl).restrict fun _ _ _ _ => Logged.noted

theorem discoverTransport_quits : (discoverTransport awk c).Meets (Logged canon report)
    (fun _ => True) (fun found t => t = (w, []) ∧ discovered awk c report = some found)
    (GivesUp awk canon c report w) (w, []) := by
  unfold discoverTransport
  apply meets_ask_storage.seq
  rintro reply _ ⟨rfl, rfl⟩
  cases reply with
  | none => exact GivesUp.untouched ⟨rfl, rfl⟩
  | some text =>
    apply Meets.ite
    · exact fun _ => GivesUp.untouched ⟨rfl, rfl⟩
    intro _
    apply Meets.ite
    · exact fun _ => GivesUp.untouched ⟨rfl, rfl⟩
    intro _
    split
    · exact GivesUp.untouched ⟨rfl, rfl⟩
    · rename_i found only
      refine ⟨rfl, ?_⟩
      simp only [discovered, Option.bind_some, only]
    · exact GivesUp.untouched ⟨rfl, rfl⟩

theorem mountTransport_quits {found : Discovered} (discover : c.explicitFile = [])
    (only : discovered awk c report = some found) :
    (mountTransport c found).Meets (Logged canon report) (fun _ => True)
      (Sought awk c report w) (GivesUp awk canon c report w) (w, []) := by
  unfold mountTransport
  have place : transportOf awk c report =
      if found.mountpoint = "NONE".toList ∨ found.mountpoint = [] then (c.transport, true)
      else (found.mountpoint, false) := by
    unfold transportOf
    rw [if_neg (not_not_intro discover), only]
  apply Meets.ite
  · intro needed
    rw [if_pos needed] at place
    apply seq_of_reads .beforeTransport (uses_orFail (reads_ask rfl) _)
      (throws_orFail throws_ask rfl) fun _ point => GivesUp.untouched ⟨rfl, point⟩
    intro _
    have mounted : (orFail (ask (.mount none (transportOptions c) found.device c.transport))
        "transport_mount_failed").Meets (Logged canon report) (fun _ => True)
        (fun _ t => t.2 = [.transport]) (GivesUp awk canon c report w) (w, []) := by
      apply meets_orFail
      intro reply t answer
      refine ⟨trivial, ?_⟩
      obtain ⟨rfl, m, _, _, _, log⟩ | ⟨rfl, rfl⟩ := answer.noted.mount
      · exact log
      · have given : GivesUp awk canon c report w ⟨1, "transport_mount_failed"⟩ (w, []) :=
          GivesUp.untouched ⟨rfl, rfl⟩
        exact given
    exact mounted.seq fun _ t log => ⟨place.symm, log, fun other => Bool.noConfusion other⟩
  · intro there
    rw [if_neg there] at place
    exact Sought.unmounted place

theorem locate_quits : (locate awk c).Meets (Logged canon report) (fun _ => True)
    (fun found => Sought awk c report w (found.transport, found.owned))
    (GivesUp awk canon c report w) (w, []) := by
  unfold locate
  apply Meets.ite
  · intro explicit
    have sought : Sought awk c report w (c.transport, false) (w, []) := by
      apply Sought.unmounted
      unfold transportOf
      rw [if_pos explicit]
    apply Meets.ite
    · exact fun _ => GivesUp.untouched ⟨rfl, rfl⟩
    · intro _
      apply seq_of_reads .beforeUpgrade (uses_orFail (reads_ask rfl) _)
        (throws_orFail throws_ask rfl) fun _ => sought.givesUp
      exact fun _ => sought
  · intro discover
    apply discoverTransport_quits.seq
    rintro found _ ⟨rfl, only⟩
    apply (mountTransport_quits (not_not.mp discover) only).seq
    rintro ⟨transport, owned⟩ s sought
    apply seq_of_reads .beforeUpgrade (reads_discoverPayload transport)
      (throws_discoverPayload transport) fun _ => sought.givesUp
    exact fun payload => sought

theorem upgradeTransport_quits {found : Text × Bool} (h : Sought awk c report w found s) :
    (upgradeTransport awk c found.1).Meets (Logged canon report) (fun _ => True)
      (fun _ t => Prepared awk canon c report w t.2) (GivesUp awk canon c report w) s := by
  unfold upgradeTransport
  apply Meets.ite
  swap
  · exact fun reading => h.prepared fun _ upgrades => reading upgrades.1
  intro writing
  apply meets_ask_procMounts.seq
  rintro _ _ ⟨rfl, rfl⟩
  rename_i s
  apply Meets.ite
  swap
  · intro absent
    refine h.prepared fun own upgrades => absent ?_
    rw [h.same own, h.place]
    exact upgrades.2.1
  intro mounted
  apply meets_ask_procMounts.seq
  rintro _ _ ⟨rfl, rfl⟩
  rename_i s
  apply Meets.ite
  swap
  · intro writable
    refine h.prepared fun own upgrades => writable ?_
    rw [h.same own, h.place]
    exact upgrades.2.2.1
  intro ro
  apply meets_orFail
  intro reply t answer
  refine ⟨trivial, ?_⟩
  obtain ⟨rfl, front, back, m, options, top, _, _, log⟩ | ⟨rfl, rfl⟩ := answer.noted.remount
  · refine h.remounted log fun own => ?_
    have found := top.found
    rw [h.same own] at mounted ro found
    rw [h.place] at mounted ro found
    simp [Upgrades, writing, mounted, ro, found]
  · have given : GivesUp awk canon c report w ⟨1, "transport_remount_failed"⟩ t := h.givesUp rfl
    exact given

/-- The image has been mounted, and nothing has been done since. -/
def Mounted (awk : Awk) (canon : Text → Text) (c : Config) (report : Option Text) (w : World)
    (log : List Done) : Prop :=
  ∃ before, Prepared awk canon c report w before ∧ log = before ++ [.image]

theorem Mounted.givesUp {ending : Ending} (h : Mounted awk canon c report w s.2)
    (point : pointOf ending.report = .afterImage) : GivesUp awk canon c report w ending s := by
  obtain ⟨before, prepared, log⟩ := h
  unfold GivesUp
  rw [point, log]
  exact ⟨by simp, by simp [prepared.unmounted]⟩

theorem mountPayload_quits (payload : Text) (h : Prepared awk canon c report w s.2) :
    (mountPayload awk c payload).Meets (Logged canon report) (fun _ => True)
      (fun _ t => Mounted awk canon c report w t.2) (GivesUp awk canon c report w) s := by
  unfold mountPayload
  apply meets_ask_procMounts.seq
  rintro _ _ ⟨rfl, rfl⟩
  rename_i s
  apply Meets.ite
  · have given : GivesUp awk canon c report w ⟨0, "already_mounted"⟩ s := h.givesUp rfl
    exact fun _ => given
  intro _
  apply seq_of_reads .beforeImage (uses_orFail (reads_ask rfl) _) (throws_orFail throws_ask rfl)
    fun _ => h.givesUp
  intro _
  apply meets_orFail
  intro reply t answer
  refine ⟨trivial, ?_⟩
  obtain ⟨rfl, m, _, _, _, log⟩ | ⟨rfl, rfl⟩ := answer.noted.mount
  · exact ⟨_, h, log⟩
  · have given : GivesUp awk canon c report w ⟨1, "mount_failed"⟩ t := h.givesUp rfl
    exact given

/-- An image that is no toolkit is unmounted, or stays. -/
theorem checkMarkers_quits (h : Mounted awk canon c report w s.2) :
    (checkMarkers c).Meets (Logged canon report) (fun _ => True)
      (fun _ t => Mounted awk canon c report w t.2) (GivesUp awk canon c report w) s := by
  unfold checkMarkers
  apply seq_of_reads .afterImage reads_recognized throws_recognized fun _ => h.givesUp
  intro found
  apply Meets.ite
  · exact fun _ => h
  intro _ reply t answer
  refine ⟨trivial, ?_⟩
  obtain ⟨before, prepared, log⟩ := h
  have given : GivesUp awk canon c report w ⟨1, "payload_unrecognized"⟩ t := by
    have logged : t.2 = before ++ [.image, if reply then .unmounted else .refused] := by
      obtain ⟨rfl, _, _, _, _, rfl⟩ | ⟨rfl, rfl⟩ := answer.noted.umount
      all_goals simp [log]
    refine ⟨?_, fun untouched => ?_, ?_⟩
    all_goals rw [logged]
    · rw [List.mem_append, prepared.transport]
      cases reply <;> simp
    · rw [List.mem_append, prepared.remounted untouched]
      cases reply <;> simp
    · simp
  exact given

theorem writeState_quits (fields : List (String × Text))
    (h : Mounted awk canon c report w s.2) :
    (writeState c fields).Meets (Logged canon report) (fun _ => True) (fun _ _ => True)
      (GivesUp awk canon c report w) s := by
  unfold writeState
  apply seq_of_reads .afterImage (uses_orFail (reads_ask rfl) _) (throws_orFail throws_ask rfl)
    fun _ => h.givesUp
  intro _
  apply meets_orFail
  intro reply t answer
  refine ⟨trivial, ?_⟩
  obtain ⟨_, ⟨rfl, _⟩ | ⟨rfl, log⟩⟩ := answer.noted.writeSession
  · trivial
  · rw [← log] at h
    have given : GivesUp awk canon c report w ⟨1, ""⟩ t := h.givesUp rfl
    exact given

/-- A start that gives up has done what its point says. -/
theorem start_endings : (start awk c).Meets (Logged canon report) (fun _ => True)
    (fun _ _ => True) (GivesUp awk canon c report w) (w, []) := by
  unfold start
  apply seq_of_reads .beforeTransport reads_checkPaths throws_checkPaths
    fun _ point => GivesUp.untouched ⟨rfl, point⟩
  intro _
  apply locate_quits.seq
  intro found s sought
  apply (upgradeTransport_quits sought).seq
  intro _ s prepared
  apply seq_of_reads .beforeImage (reads_verify found.payload) (throws_verify found.payload)
    fun _ => prepared.givesUp
  intro digest
  apply (mountPayload_quits found.payload prepared).seq
  intro _ s mounted
  apply (checkMarkers_quits mounted).seq
  intro _ s mounted
  apply seq_of_reads .afterImage (reads_createWorkspace found.transport)
    (throws_createWorkspace found.transport) fun _ => mounted.givesUp
  rintro ⟨mode, workspace⟩
  exact writeState_quits _ mounted

end endings

end VitaLinux.Toolkit.Session
