import VitaLinux.Toolkit.Session.Endings

/-!
# Is starting a session all or nothing?

A start that gives up undoes one thing only: an image that turns out not to be a toolkit.
What it leaves behind is told by the point at which it gives up, by the storage report and
the mount table, and by the answer to that one `umount`.
-/

namespace VitaLinux.Toolkit.Session

open VitaLinux.Base Prog

variable {awk : Awk} {canon : Text → Text} {c : Config} {w t : World} {s : World × List Done}

/-- Nothing has been done that has not been undone. -/
def Harmless (log : List Done) : Prop :=
  .transport ∉ log ∧ .remounted ∉ log ∧ (.image ∈ log → .unmounted ∈ log)

instance (log : List Done) : Decidable (Harmless log) := by
  unfold Harmless
  infer_instance

theorem Ready.harmless_iff {owned : Bool} (h : Ready canon c w owned s) :
    (.transport ∉ s.2 ∧ .remounted ∉ s.2) ↔ s.2 = [] := by
  constructor
  · rintro ⟨transport, remounted⟩
    apply List.eq_nil_iff_forall_not_mem.mpr
    intro d member
    obtain rfl | rfl := h.log d member
    · exact transport member
    · exact remounted member
  · intro none
    rw [none]
    exact ⟨List.not_mem_nil, List.not_mem_nil⟩

/-- Before the image, the log knows nothing of it. -/
theorem Ready.not_mem {owned : Bool} (h : Ready canon c w owned s) {d : Done}
    (transport : d ≠ .transport) (remounted : d ≠ .remounted) : d ∉ s.2 := by
  intro member
  obtain same | same := h.log d member
  · exact transport same
  · exact remounted same

theorem Left.harmless_iff (h : Left canon c w s) :
    (s.1.mounts = w.mounts ∧ s.1.session = w.session) ↔ Harmless s.2 := by
  cases h with
  | early ready =>
    have image : .image ∉ s.2 := ready.not_mem (by decide) (by decide)
    constructor
    · rintro ⟨same, _⟩
      obtain ⟨transport, remounted⟩ := ready.harmless_iff.mpr (ready.table.mp same)
      exact ⟨transport, remounted, fun mounted => absurd mounted image⟩
    · rintro ⟨transport, remounted, _⟩
      exact ⟨ready.table.mpr (ready.harmless_iff.mp ⟨transport, remounted⟩), ready.session⟩
  | @undone _ u _ ready same log =>
    rw [same, log]
    constructor
    · rintro ⟨same, _⟩
      rw [ready.table.mp same]
      decide
    · rintro ⟨transport, remounted, _⟩
      rw [List.mem_append, not_or] at transport remounted
      exact ⟨ready.table.mpr (ready.harmless_iff.mp ⟨transport.1, remounted.1⟩), ready.session⟩
  | @imaged _ u _ m ready mounts log =>
    have unmounted : .unmounted ∉ u.2 := ready.not_mem (by decide) (by decide)
    constructor
    · rintro ⟨same, _⟩
      have counts := congrArg List.length ready.places
      rw [places_length, List.length_append, places_length, ← same, mounts,
        List.length_append, List.length_singleton] at counts
      omega
    · rintro ⟨_, _, undone⟩
      obtain log | log := log <;> rw [log] at undone <;> simp [unmounted] at undone

/-- An `umount` that has succeeded. -/
def released : Event World Call Reply → Bool
  | ⟨_, .umount _, true, _⟩ => true
  | _ => false

theorem unmounted_iff (canon : Text → Text) (events : List (Event World Call Reply)) :
    .unmounted ∈ log canon events ↔ events.any released = true := by
  rw [List.any_eq_true, log, List.mem_flatMap]
  apply exists_congr
  rintro ⟨before, call, reply, after⟩
  apply and_congr_right
  intro _
  cases call with
  | mount fstype =>
    cases reply with
    | true => cases fstype <;> simp [note, done, released]
    | false => simp [note, done, released]
  | remount =>
    cases reply with
    | true =>
      simp only [note, done, released]
      split <;> simp
    | false => simp [note, done, released]
  | umount => cases reply <;> simp [note, done, released]
  | writeSession => cases reply <;> simp [note, done, released]
  | _ => simp [note, done, released]

/-- A start that gives up at a point leaves nothing behind, when the transport has to be mounted,
or made writable, and an `umount` succeeds. -/
def RolledBack (mounts upgrades unmounts : Prop) : Point → Prop
  | .beforeTransport => True
  | .beforeUpgrade => ¬ mounts
  | .beforeImage => ¬ mounts ∧ ¬ upgrades
  | .unrecognized => ¬ mounts ∧ ¬ upgrades ∧ unmounts
  | .afterImage => False

theorem DoneAt.harmless_iff {mounts upgrades : Prop} {log : List Done} {point : Point}
    (h : DoneAt mounts upgrades log point) :
    Harmless log ↔ RolledBack mounts upgrades (.unmounted ∈ log) point := by
  unfold Harmless
  cases point with
  | beforeTransport =>
    obtain rfl : log = [] := h
    simp [RolledBack]
  | beforeUpgrade =>
    obtain ⟨transport, remounted, image⟩ := h
    simp [RolledBack, transport, remounted, image]
  | beforeImage =>
    obtain ⟨transport, remounted, image⟩ := h
    rw [transport]
    apply and_congr_right
    intro untouched
    simp [remounted untouched, image]
  | unrecognized =>
    obtain ⟨transport, remounted, image⟩ := h
    rw [transport]
    apply and_congr_right
    intro untouched
    simp [remounted untouched, image]
  | afterImage =>
    obtain ⟨image, unmounted⟩ := h
    simp [RolledBack, image, unmounted]

/-- A start that gives up leaves the mount table and the state file as they were if and only if
it has not had to mount the transport or to make it writable, as far as it has come, and the
image was no toolkit and could be unmounted, if it has come to that. -/
theorem all_or_nothing_iff {report : Option Text} {events : List (Event World Call Reply)}
    {ending : Ending}
    (run : Exec (Reporting canon report) (start awk c) w events (.raise ending) t) :
    (t.mounts = w.mounts ∧ t.session = w.session) ↔
      RolledBack ((transportOf awk c report).2 = true) (Upgrades awk canon c report w)
        (events.any released = true) (pointOf ending.report) := by
  have boxed : Exec (Box canon) (start awk c) w events (.raise ending) t :=
    run.of_events fun _ _ answer => answer.1
  have left : Left canon c w (t, [] ++ log canon events) := start_meets.exec_noted boxed
  have givesUp : GivesUp awk canon c report w ending (t, [] ++ log canon events) :=
    start_endings.exec_noted run
  rw [← unmounted_iff canon]
  exact left.harmless_iff.trans givesUp.harmless_iff

section sample

/-- The defaults of the script. -/
def defaults : Config where
  target := "/opt/vita-toolkit".toList
  transport := "/mnt/vita-storage".toList
  stateDir := "/run/vita-toolkit".toList
  expectedLabel := []
  payloadGlob := "vita-toolkit*.squashfs".toList
  explicitFile := []
  rwWorkspace := false

/-- The report on one card that is not mounted. -/
def oneCard : Text := unlines (["schema=1", "storage_count=1", "storage_1_device=/dev/sda1",
  "storage_1_filesystem=exfat", "storage_1_mountpoint=NONE"].map String.toList)

/-- The report on no storage at all. -/
def noCard : Text := unlines (["schema=1", "storage_count=0"].map String.toList)

/-- A digest that every file of the card has. -/
def sampleDigest : Text := List.replicate 64 'a'

/-- A system with this storage, with these files on the card, where every command works. -/
def cardAnswer (storage : Text) (files : List Text) (s : World) :
    (call : Call) → Option (Reply call × World)
  | .storage => some (some storage, s)
  | .mountsReadable | .isFile _ | .mkdir _ | .workspaceInfo _ => some (true, s)
  | .procMounts => some (s.mounts, s)
  | .expand _ _ => some (files, s)
  | .contents _ | .hashFile _ => some (sampleDigest, s)
  | .readSession => some (s.session, s)
  | .mount _ options source target =>
    some (true, { s with mounts := s.mounts ++ [⟨source, target, options.toList, true⟩] })
  | .remount _ => some (false, s)
  | .umount target =>
    if s.mounts.getLast?.map (·.target) = some target then
      some (true, { s with mounts := s.mounts.dropLast })
    else none
  | .writeSession fields => some (true, { s with session := some (keyFile fields) })
  | .removeSession => some (true, { s with session := none })

theorem cardAnswer_box {storage : Text} {files : List Text} (h : World) (call : Call)
    (reply : Reply call) (k : World) (answer : cardAnswer storage files h call = some (reply, k)) :
    Box id h call reply k := by
  cases call with
  | mount fstype options source target =>
    cases answer
    exact .mounts ⟨source, target, options.toList, true⟩ rfl rfl
  | remount target =>
    cases answer
    exact .remountFails
  | umount target =>
    change (if h.mounts.getLast?.map (·.target) = some target then
      some (true, { h with mounts := h.mounts.dropLast }) else none) = some (reply, k) at answer
    by_cases last : h.mounts.getLast?.map (·.target) = some target
    · rw [if_pos last] at answer
      cases answer
      obtain ⟨m, found, here⟩ := Option.map_eq_some_iff.mp last
      have split := (List.dropLast_append_getLast? m found).symm
      have top : Topmost h.mounts (id target) h.mounts.dropLast m [] :=
        ⟨split, here, fun b member => absurd member List.not_mem_nil⟩
      have popped : Box id h (.umount target) true { h with mounts := h.mounts.dropLast ++ [] } :=
        .umounts top
      rw [List.append_nil] at popped
      exact popped
    · rw [if_neg last] at answer
      cases answer
  | writeSession fields =>
    cases answer
    exact .writes
  | removeSession =>
    cases answer
    exact .removes
  | procMounts | readSession =>
    cases answer
    exact .reads rfl rfl
  | _ =>
    cases answer
    exact .reads rfl trivial

/-- The report on one card that has been mounted by hand. -/
def mountedCard : Text := unlines (["schema=1", "storage_count=1", "storage_1_device=/dev/sda1",
  "storage_1_filesystem=exfat", "storage_1_mountpoint=/mnt/card"].map String.toList)

def handMount : Mount := ⟨"/dev/sda1".toList, "/mnt/card".toList, "ro".toList, false⟩

def handPayload : Text := "/mnt/card/vita-toolkit.squashfs".toList

/-- The same system, where the image on the card is no toolkit. -/
def strangeImage (s : World) : (call : Call) → Option (Reply call × World)
  | .isFile path => some (decide ¬ defaults.target <+: path, s)
  | call => cardAnswer mountedCard [handPayload] s call

theorem strangeImage_reporting (h : World) (call : Call) (reply : Reply call) (k : World)
    (answer : strangeImage h call = some (reply, k)) :
    Reporting id (some mountedCard) h call reply k := by
  cases call with
  | isFile path =>
    cases answer
    exact ⟨.reads rfl trivial, trivial⟩
  | storage =>
    cases answer
    exact ⟨.reads rfl trivial, rfl⟩
  | _ =>
    have answer : cardAnswer mountedCard [handPayload] h _ = some (reply, k) := answer
    exact ⟨cardAnswer_box _ _ _ _ answer, trivial⟩

/-- An image that is no toolkit, on a card that is mounted, is unmounted, and nothing has
changed. -/
theorem all_or_nothing_iff_unrecognized : ∃ events t,
    Exec (Reporting id (some mountedCard)) (start .plain defaults) ⟨[handMount], none⟩ events
        (.raise ⟨1, "payload_unrecognized"⟩) t ∧
      events.any released = true ∧ t.mounts = [handMount] ∧ t.session = none := by
  have ran : (start .plain defaults).run strangeImage ⟨[handMount], none⟩ =
      some (.error ⟨1, "payload_unrecognized"⟩, ⟨[handMount], none⟩) := by decide +kernel
  have umounts : ((start .plain defaults).calls id strangeImage ⟨[handMount], none⟩).any
      released = true := by decide +kernel
  have run := exec_run strangeImage_reporting ran
  have there : ¬ (transportOf .plain defaults (some mountedCard)).2 = true := by decide +kernel
  have reading : ¬ Upgrades .plain id defaults (some mountedCard) ⟨[handMount], none⟩ := by
    decide +kernel
  exact ⟨_, _, run, umounts, (all_or_nothing_iff run).mpr ⟨there, reading, umounts⟩⟩

/-- The card that a start has mounted. -/
def cardMount : Mount :=
  ⟨"/dev/sda1".toList, "/mnt/vita-storage".toList, "ro,nosuid,nodev".toList, true⟩

theorem start_cardWithoutPayload : (start .plain defaults).run (cardAnswer oneCard []) ⟨[], none⟩ =
    some (.error ⟨1, "payload_missing"⟩, ⟨[cardMount], none⟩) := by decide +kernel

/-- A start that fails, on a card without a payload, leaves the card mounted. -/
theorem start_leaves_transport : ∃ events ending t,
    Exec (Box id) (start .plain defaults) ⟨[], none⟩ events (.raise ending) t ∧
      ending.status ≠ 0 ∧ t.mounts ≠ [] := by
  have run := exec_run cardAnswer_box start_cardWithoutPayload
  exact ⟨_, ⟨1, "payload_missing"⟩, ⟨[cardMount], none⟩, run, by decide, List.cons_ne_nil _ _⟩

end sample

end VitaLinux.Toolkit.Session
