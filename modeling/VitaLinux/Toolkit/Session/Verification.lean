import VitaLinux.Toolkit.Session.AllOrNothing
import VitaLinux.Toolkit.Session.Report

/-!
# Is the payload verified before it is mounted?

A start mounts an image only after it has found exactly one payload, or has been given it,
and has compared its digest with the one that is listed for it. Which line of `SHA256SUMS`
lists it is left to awk's `==`, which also holds of names that are equal as numbers. The
payload is verified if and only if such a line does not pass for its own.
-/

namespace VitaLinux.Toolkit.Session

open VitaLinux.Base Prog

/-- The files that a start reads, and the storage it is told of. They do not change. -/
structure Files where
  report : Option Text
  expand : (dir pattern : Text) → List Text
  /-- the regular files -/
  present : Text → Bool
  contents : Text → Text
  sha256 : Text → Text

def Files.Answers (files : Files) : (call : Call) → Reply call → Prop
  | .storage, report => report = files.report
  | .expand dir pattern, found => found = files.expand dir pattern
  | .isFile path, present => present = files.present path
  | .contents path, text => text = files.contents path
  | .hashFile path, digest => digest = files.sha256 path
  | _, _ => True

/-- Any system with these files. -/
def Files.env (files : Files) : Environment World Call Reply :=
  fun _ call reply _ => files.Answers call reply

/-- The image that a call mounts. -/
def Call.squashfs : Call → Option Text
  | .mount fstype _ source _ => if fstype = some "squashfs" then some source else none
  | _ => none

variable {awk : Awk} {c : Config} {files : Files} {payload : Text}

section specification

/-- The report is one that a start can read. -/
def Files.WellKeyed (files : Files) : Prop :=
  ∀ report, files.report = some report → Session.WellKeyed (report ++ ['\n'])

/-- The payload has been given, or is the only one on the only storage for it. -/
inductive Payload (c : Config) (files : Files) (payload : Text) : Prop where
  | given (explicit : c.explicitFile ≠ []) (same : payload = c.explicitFile)
      (valid : validPath payload = true) (present : files.present payload = true)
  | discovered {report dir : Text} {index : Nat} (asked : c.explicitFile = [])
      (told : files.report = some report) (only : OnlyEligible c (report ++ ['\n']) index)
      (carried : Carried c (report ++ ['\n']) index dir)
      (matching : (files.expand dir c.payloadGlob).filter files.present = [payload])

def sidecar (payload : Text) : Text := payload ++ ".sha256".toList

def sumsFile (payload : Text) : Text := dirname payload ++ "/SHA256SUMS".toList

/-- The digest of the first entry for the payload's basename. -/
def entryHash (base sums : Text) : Text :=
  match (lines sums).find? (fun line => sumName line = base) with
  | some line => (words line).headD []
  | none => []

/-- The payload has a digest that is listed, in `SHA256SUMS` by what `entry` reads there. -/
structure Checked (entry : Text → Text → Text) (files : Files) (payload : Text) : Prop where
  digest : validDigest (files.sha256 payload) = true
  listed : if files.present (sidecar payload) then
      files.sha256 payload = sidecarHash (files.contents (sidecar payload))
    else files.present (sumsFile payload) = true ∧
      files.sha256 payload = entry (basename payload) (files.contents (sumsFile payload))

/-- The payload may be mounted. -/
structure Verified (c : Config) (files : Files) (payload : Text) : Prop where
  located : Payload c files payload
  checked : Checked entryHash files payload

/-- Awk's `==` takes the name in a line for the basename; a name of which something has been
cut off is compared as a text. -/
def TakenFor (awk : Awk) (base line : Text) : Prop :=
  if sumName line = (words line)[1]?.getD [] then awk.is (sumName line) base = true
  else sumName line = awk.assign base

/-- The first line that awk takes for the payload's has the payload's digest, and the first one
that is the payload's has not. -/
structure Mistaken (awk : Awk) (files : Files) (payload : Text) : Prop where
  digest : validDigest (files.sha256 payload) = true
  beside : files.present (sidecar payload) = false
  sums : files.present (sumsFile payload) = true
  taken : ∃ before line after, lines (files.contents (sumsFile payload)) = before ++ line :: after ∧
    (∀ earlier ∈ before, ¬ TakenFor awk (basename payload) earlier) ∧
    TakenFor awk (basename payload) line ∧ (words line).headD [] = files.sha256 payload
  other : entryHash (basename payload) (files.contents (sumsFile payload)) ≠ files.sha256 payload

theorem lists_iff {base line : Text} : lists awk base line = true ↔ TakenFor awk base line := by
  unfold lists TakenFor
  split
  · exact Iff.rfl
  · exact beq_iff_eq

/-- The digest that is listed is that of the first line that awk takes for the payload's. -/
theorem listedHash_iff {base sums digest : Text} (valid : validDigest digest = true) :
    listedHash awk base sums = digest ↔
      ∃ before line after, lines sums = before ++ line :: after ∧
        (∀ earlier ∈ before, ¬ TakenFor awk base earlier) ∧
        TakenFor awk base line ∧ (words line).headD [] = digest := by
  have nonempty : digest ≠ [] := by
    rintro rfl
    exact absurd valid (by decide)
  unfold listedHash
  constructor
  · intro listed
    cases found : (lines sums).find? (lists awk base) with
    | none =>
      rw [found] at listed
      exact absurd listed.symm nonempty
    | some line =>
      rw [found] at listed
      obtain ⟨taken, before, after, split, none⟩ := List.find?_eq_some_iff_append.mp found
      refine ⟨before, line, after, split, fun earlier member => ?_, lists_iff.mp taken, listed⟩
      rw [← lists_iff]
      simpa using none earlier member
  · rintro ⟨before, line, after, split, none, taken, listed⟩
    have found : (lines sums).find? (lists awk base) = some line := by
      refine List.find?_eq_some_iff_append.mpr ⟨lists_iff.mpr taken, before, after, split, ?_⟩
      intro earlier member
      have untaken := none earlier member
      rw [← lists_iff] at untaken
      simpa using untaken
    rw [found]
    exact listed

theorem mistaken_iff : Mistaken awk files payload ↔
    Checked (listedHash awk) files payload ∧ ¬ Checked entryHash files payload := by
  constructor
  · rintro ⟨digest, beside, sums, taken, other⟩
    refine ⟨⟨digest, ?_⟩, ?_⟩
    · rw [if_neg (by rw [beside]; decide)]
      exact ⟨sums, ((listedHash_iff digest).mpr taken).symm⟩
    · rintro ⟨_, listed⟩
      rw [if_neg (by rw [beside]; decide)] at listed
      exact other listed.2.symm
  · rintro ⟨⟨digest, listed⟩, unchecked⟩
    by_cases beside : files.present (sidecar payload) = true
    · rw [if_pos beside] at listed
      exact absurd ⟨digest, by rw [if_pos beside]; exact listed⟩ unchecked
    · rw [if_neg beside] at listed
      refine ⟨digest, Bool.eq_false_iff.mpr beside, listed.1,
        (listedHash_iff digest).mp listed.2.symm, ?_⟩
      intro same
      exact unchecked ⟨digest, by rw [if_neg beside]; exact ⟨listed.1, same.symm⟩⟩

/-- The digest that is expected of the payload. -/
def Files.expected (entry : Text → Text → Text) (files : Files) (payload : Text) : Text :=
  if files.present (sidecar payload) then sidecarHash (files.contents (sidecar payload))
  else if files.present (sumsFile payload) then
    entry (basename payload) (files.contents (sumsFile payload))
  else []

theorem checked_iff {entry : Text → Text → Text} : Checked entry files payload ↔
    validDigest (files.sha256 payload) = true ∧
      files.sha256 payload = files.expected entry payload := by
  unfold Files.expected
  constructor
  · rintro ⟨digest, listed⟩
    refine ⟨digest, ?_⟩
    split at listed
    case isTrue beside => rw [if_pos beside, listed]
    case isFalse alone => rw [if_neg alone, if_pos listed.1, ← listed.2]
  · rintro ⟨digest, same⟩
    refine ⟨digest, ?_⟩
    split at same
    case isTrue beside =>
      rw [if_pos beside]
      exact same
    case isFalse alone =>
      rw [if_neg alone]
      split at same
      case isTrue sums => exact ⟨sums, same⟩
      case isFalse none =>
        rw [same] at digest
        cases digest

/-- A payload that is discovered is the only match where the storage is. -/
theorem Payload.matches (well : files.WellKeyed) {report dir : Text} {index : Nat}
    (asked : c.explicitFile = []) (told : files.report = some report)
    (only : OnlyEligible c (report ++ ['\n']) index)
    (carried : Carried c (report ++ ['\n']) index dir) (located : Payload c files payload) :
    (files.expand dir c.payloadGlob).filter files.present = [payload] := by
  cases located with
  | given explicit => exact absurd asked explicit
  | @discovered report' dir' index' _ told' only' carried' matching =>
    obtain rfl : report = report' := Option.some.inj (told.symm.trans told')
    obtain rfl := only.unique (well report told) only'
    obtain rfl : dir' = dir :=
      ((carried_iff .plain (well report told)).mp carried').trans
        ((carried_iff .plain (well report told)).mp carried).symm
    exact matching

theorem Payload.unique (well : files.WellKeyed) {other : Text} (h : Payload c files payload)
    (k : Payload c files other) : payload = other := by
  cases h with
  | given explicit same =>
    cases k with
    | given _ too => exact same.trans too.symm
    | discovered asked => exact absurd asked explicit
  | discovered asked told only carried matching =>
    exact List.singleton_inj.mp (matching.symm.trans (k.matches well asked told only carried))

end specification

section reading

variable {S : Type} {env : Environment S Call Reply} {s : S}
  (answered : ∀ s call reply t, env s call reply t → files.Answers call reply)
include answered

/-- What a call that mounts no image is answered is what the files say. -/
theorem meets_ask_files {call : Call} (quiet : call.squashfs = none) {X : Ending → S → Prop} :
    (ask call).Meets env (fun e => e.call.squashfs = none)
      (fun reply _ => files.Answers call reply) X s := by
  intro reply t answer
  exact ⟨quiet, answered _ _ _ _ answer⟩

theorem regularFiles_finds (candidates : List Text) {X : Ending → S → Prop} :
    (regularFiles candidates).Meets env (fun e => e.call.squashfs = none)
      (fun found _ => found = candidates.filter files.present) X s := by
  induction candidates generalizing s with
  | nil => rfl
  | cons candidate rest ih =>
    apply (meets_ask_files answered rfl).seq
    intro isFile t known
    apply ih.seq
    intro others u found
    change isFile = files.present candidate at known
    rw [meets_pure, List.filter_cons, known, found]

/-- The payload is the only file that matches. -/
theorem discoverPayload_finds (dir : Text) :
    (discoverPayload c dir).Meets env (fun e => e.call.squashfs = none)
      (fun payload _ => (files.expand dir c.payloadGlob).filter files.present = [payload])
      (fun _ _ => ∀ payload, (files.expand dir c.payloadGlob).filter files.present ≠ [payload])
      s := by
  unfold discoverPayload
  apply (meets_ask_files answered rfl).seq
  intro candidates t known
  apply (regularFiles_finds answered candidates).seq
  intro found u same
  change candidates = files.expand dir c.payloadGlob at known
  rw [known] at same
  rw [← same]
  split
  · exact fun payload none => List.cons_ne_nil _ _ none.symm
  · exact rfl
  case h_3 ambiguous => exact fun payload one => ambiguous payload one

theorem checksum_reads (payload : Text) {X : Ending → S → Prop} :
    (checksum awk payload).Meets env (fun e => e.call.squashfs = none)
      (fun expected _ => expected = files.expected (listedHash awk) payload) X s := by
  unfold checksum Files.expected
  apply (meets_ask_files answered rfl).seq
  intro beside t known
  change beside = files.present (sidecar payload) at known
  rw [← known]
  cases beside with
  | true =>
    apply (meets_ask_files answered rfl).seq
    intro text u read
    exact congrArg sidecarHash read
  | false =>
    apply (meets_ask_files answered rfl).seq
    intro sums u present
    change sums = files.present (sumsFile payload) at present
    rw [← present]
    cases sums with
    | true =>
      apply (meets_ask_files answered rfl).seq
      intro text v read
      exact congrArg (listedHash awk (basename payload)) read
    | false => rfl

/-- The payload is checked with what awk reads. -/
theorem verify_checks (payload : Text) :
    (verify awk payload).Meets env (fun e => e.call.squashfs = none)
      (fun _ _ => Checked (listedHash awk) files payload)
      (fun _ _ => ¬ Checked (listedHash awk) files payload) s := by
  unfold verify
  have resolved : (resolveExpectedHash awk payload).Meets env (fun e => e.call.squashfs = none)
      (fun found _ => found = if validDigest (files.expected (listedHash awk) payload) then
        some (files.expected (listedHash awk) payload) else none)
      (fun _ _ => ¬ Checked (listedHash awk) files payload) s := by
    apply (checksum_reads answered payload).seq
    intro expected t known
    rw [known]
    rfl
  apply resolved.seq
  intro found t known
  split at known
  case isTrue digest =>
    rw [known]
    apply (meets_ask_files answered rfl).seq
    intro actual u hashed
    change actual = files.sha256 payload at hashed
    rw [hashed]
    split
    case isTrue same => exact checked_iff.mpr ⟨same ▸ digest, same⟩
    case isFalse different => exact fun checked => different (checked_iff.mp checked).2
  case isFalse malformed =>
    rw [known]
    intro checked
    obtain ⟨digest, same⟩ := checked_iff.mp checked
    exact malformed (same ▸ digest)

/-- Discovery finds the only eligible partition. -/
theorem discoverTransport_finds (well : files.WellKeyed) :
    (discoverTransport awk c).Meets env (fun e => e.call.squashfs = none)
      (fun found _ => ∃ report index, files.report = some report ∧
        OnlyEligible c (report ++ ['\n']) index ∧
        ⟨storageField awk (report ++ ['\n']) index "device",
          storageField awk (report ++ ['\n']) index "mountpoint"⟩ = found)
      (fun _ _ => ∀ report index, files.report = some report →
        ¬ OnlyEligible c (report ++ ['\n']) index) s := by
  unfold discoverTransport
  apply (meets_ask_files answered rfl).seq
  intro reply t told
  change reply = files.report at told
  cases reply with
  | none =>
    intro report index same
    rw [← told] at same
    cases same
  | some report =>
    have keyed := well report told.symm
    have same {other : Text} (too : files.report = some other) : report = other :=
      Option.some.inj (told.trans too)
    -- what is read as the count is one of those that the report can give
    have counted {index count : Nat} (counts : Counts (report ++ ['\n']) count)
        (from_one : 1 ≤ index) (to_count : index ≤ count) :=
      (counts_iff keyed (from_one.trans to_count) rfl).mp counts
    apply Meets.ite
    · intro malformed other index too only
      obtain rfl := same too
      obtain ⟨count, counts, from_one, to_count, _⟩ := only.counted
      exact (counted counts from_one to_count).1 malformed
    intro digits
    apply Meets.ite
    · intro outside other index too only
      obtain rfl := same too
      obtain ⟨count, counts, from_one, to_count, _⟩ := only.counted
      obtain ⟨_, read, comparable⟩ := counted counts from_one to_count
      omega
    intro inside
    rw [not_or, Nat.not_lt, Nat.not_lt] at inside
    have counts := (counts_iff keyed inside.1 rfl).mpr ⟨digits, rfl, inside.2⟩
    -- a partition that is the only eligible one would have been found alone
    have alone {other : Text} {index : Nat} (too : files.report = some other)
        (only : OnlyEligible c (other ++ ['\n']) index) : ∃ found,
          (List.range' 1 (Nat.ofDigitChars 10 (extract (· = "storage_count".toList) secondField
            (report ++ ['\n'])) 0)).filterMap (candidate awk c (report ++ ['\n'])) = [found] := by
      obtain rfl := same too
      exact ⟨_, (onlyEligible_iff keyed counts).mpr ⟨index, only, rfl⟩⟩
    split
    case h_1 none =>
      intro other index too only
      obtain ⟨found, one⟩ := alone too only
      exact List.cons_ne_nil _ _ (one.symm.trans none)
    case h_2 found one =>
      obtain ⟨index, only, here⟩ := (onlyEligible_iff keyed counts).mp one
      exact ⟨report, index, told.symm, only, here⟩
    case h_3 many =>
      intro other index too only
      obtain ⟨found, one⟩ := alone too only
      exact many found one

end reading

/-- The commands succeed, and nothing is mounted. -/
def Working : (call : Call) → Reply call → Prop
  | .mountsReadable, ok | .mkdir _, ok | .mount _ _ _ _, ok => ok = true
  | .procMounts, mounts => mounts = []
  | _, _ => True

/-- A system that a start cannot fail on, but for its files. -/
def Works {S : Type} (env : Environment S Call Reply) : Prop :=
  ∀ s call reply t, env s call reply t → Working call reply

/-- What is said of the images that a call mounts, when it mounts none. -/
theorem mounts_nothing {S : Type} {P : Text → Prop} (e : Event S Call Reply)
    (quiet : e.call.squashfs = none) : ∀ image, e.call.squashfs = some image → P image := by
  intro image mounted
  rw [quiet] at mounted
  cases mounted

section stages

variable {S : Type} {env : Environment S Call Reply} {s : S}

theorem meets_ask_works {call : Call} (quiet : call.squashfs = none) {X : Ending → S → Prop} :
    (ask call).Meets env (fun e => e.call.squashfs = none)
      (fun reply _ => Works env → Working call reply) X s := by
  intro reply t answer
  exact ⟨quiet, fun works => works _ _ _ _ answer⟩

/-- A command that succeeds where everything works. -/
theorem meets_command {command : Script Bool} {report : String}
    (h : command.Meets env (fun e => e.call.squashfs = none)
      (fun ok _ => Works env → ok = true) (fun _ _ => ¬ Works env) s) :
    (orFail command report).Meets env (fun e => e.call.squashfs = none) (fun _ _ => True)
      (fun _ _ => ¬ Works env) s := by
  apply meets_orFail
  apply h.imp ?_ fun _ _ broken => broken
  intro ok t succeeds
  cases ok with
  | true => trivial
  | false => exact fun works => Bool.false_ne_true (succeeds works)

theorem checkPaths_allows :
    (checkPaths c).Meets env (fun e => e.call.squashfs = none)
      (fun _ _ => validPath c.target = true ∧ validPath c.transport = true)
      (fun _ _ => Works env → ¬ (validPath c.target = true ∧ validPath c.transport = true)) s := by
  unfold checkPaths
  apply Meets.ite
  · exact fun refused _ valid => refused valid.1
  intro target
  apply Meets.ite
  · exact fun refused _ valid => refused valid.2
  intro transport
  apply (meets_command (meets_ask_works rfl)).imp
  · exact fun _ _ _ => ⟨not_not.mp target, not_not.mp transport⟩
  · exact fun _ _ broken works => absurd works broken

theorem mountTransport_places (found : Discovered) :
    (mountTransport c found).Meets env (fun e => e.call.squashfs = none)
      (fun placed _ => placed.1 =
        if found.mountpoint = "NONE".toList ∨ found.mountpoint = [] then c.transport
        else found.mountpoint)
      (fun _ _ => ¬ Works env) s := by
  unfold mountTransport
  split
  · apply (meets_command (meets_ask_works rfl)).seq
    intro _ t _
    apply (meets_command (meets_ask_works rfl)).seq
    intro _ u _
    rfl
  · rfl

theorem upgradeTransport_works (transport : Text) :
    (upgradeTransport awk c transport).Meets env (fun e => e.call.squashfs = none)
      (fun _ _ => True) (fun _ _ => ¬ Works env) s := by
  unfold upgradeTransport
  apply Meets.ite
  · intro _
    apply (meets_ask_works rfl).seq
    intro mounts t table
    apply Meets.ite
    · intro mounted
      have broken : ¬ Works env := by
        intro works
        have none : mounts = [] := table works
        rw [none] at mounted
        cases mounted
      apply (meets_ask_works rfl).seq
      intro _ u _
      apply Meets.ite
      · intro _
        apply meets_orFail
        intro ok v _
        refine ⟨rfl, ?_⟩
        cases ok with
        | true => trivial
        | false => exact broken
      · exact fun _ => trivial
    · exact fun _ => trivial
  · exact fun _ => trivial

variable (answered : ∀ s call reply t, env s call reply t → files.Answers call reply)
include answered

/-- A start finds the payload, if there is one. -/
theorem locate_finds (well : files.WellKeyed) :
    (locate awk c).Meets env (fun e => e.call.squashfs = none)
      (fun found _ => Payload c files found.payload)
      (fun _ _ => Works env → ∀ payload, ¬ Payload c files payload) s := by
  unfold locate
  apply Meets.ite
  · intro explicit
    apply Meets.ite
    · intro refused works payload located
      cases located with
      | given _ same valid => exact refused (same ▸ valid)
      | discovered asked => exact explicit asked
    intro valid
    have checked : (orFail (ask (.isFile c.explicitFile)) "payload_missing").Meets env
        (fun e => e.call.squashfs = none) (fun _ _ => files.present c.explicitFile = true)
        (fun _ _ => Works env → ∀ payload, ¬ Payload c files payload) s := by
      apply meets_orFail
      apply (meets_ask_files answered rfl).imp ?_ fun _ _ none => none
      intro present t known
      cases present with
      | true => exact known.symm
      | false =>
        intro _ payload located
        cases located with
        | given _ same _ present =>
          rw [same] at present
          exact Bool.false_ne_true (known.trans present)
        | discovered asked => exact explicit asked
    apply checked.seq
    intro _ t present
    exact .given explicit rfl (not_not.mp valid) present
  · intro asked
    rw [not_not] at asked
    apply (discoverTransport_finds answered well).seq_of (fun _ quiet => quiet)
    · intro _ t none _ payload located
      cases located with
      | given explicit => exact explicit asked
      | discovered _ told only => exact none _ _ told only
    rintro found t ⟨report, index, told, only, rfl⟩
    apply (mountTransport_places _).seq_of (fun _ quiet => quiet)
      fun _ _ broken works => absurd works broken
    rintro ⟨dir, owned⟩ u placed
    have carried : Carried c (report ++ ['\n']) index dir :=
      (carried_iff awk (well report told)).mpr placed
    apply (discoverPayload_finds answered dir).seq_of (fun _ quiet => quiet)
    · intro _ v many _ payload located
      exact many payload (located.matches well asked told only carried)
    intro payload v matching
    exact .discovered asked told only carried matching

omit answered in
theorem mountPayload_mounts (payload : Text) :
    (mountPayload awk c payload).Meets env
      (fun e => ∀ image, e.call.squashfs = some image → image = payload)
      (fun _ _ => True) (fun _ _ => True) s := by
  unfold mountPayload
  apply (meets_ask_works rfl).seq_of mounts_nothing fun _ _ raised => raised
  intro mounts t _
  apply Meets.ite
  · exact fun _ => trivial
  intro _
  apply (meets_command (meets_ask_works rfl)).seq_of mounts_nothing fun _ _ _ => trivial
  intro _ u _
  apply meets_orFail
  intro ok v _
  refine ⟨fun image mounted => (Option.some.inj mounted).symm, ?_⟩
  cases ok with
  | true => trivial
  | false => trivial

omit answered in
/-- What a start does once the image is mounted. -/
theorem finish_quiet (found : Located) (digest : Text) :
    (do
      checkMarkers c
      let (mode, workspace) ← createWorkspace c found.transport
      writeState c (sessionFields c found digest mode workspace) : Script Unit).Uses
      (·.squashfs = none) := by
  have reads : ∀ call : Call, call.reads = true → call.squashfs = none := by
    intro call kind
    cases call with
    | mount => cases kind
    | _ => rfl
  have quiet {call : Call} (silent : call.squashfs = none) :
      (ask call).Uses (·.squashfs = none) := uses_ask silent
  apply Uses.bind
  · unfold checkMarkers
    apply (reads_recognized.mono reads).bind
    intro known
    apply Uses.ite
    · exact uses_pure _
    · exact (quiet rfl).bind fun _ => uses_throw _
  intro _
  apply ((reads_createWorkspace _).mono reads).bind
  rintro ⟨mode, workspace⟩
  unfold writeState
  exact (uses_orFail (quiet rfl) _).bind fun _ => uses_orFail (quiet rfl) _

/-- What a start has found out when it mounts an image. -/
structure Passed (awk : Awk) (c : Config) (files : Files) (image : Text) : Prop where
  target : validPath c.target = true
  transport : validPath c.transport = true
  located : Payload c files image
  checked : Checked (listedHash awk) files image

theorem start_passes (well : files.WellKeyed) :
    (start awk c).Meets env
      (fun e => ∀ image, e.call.squashfs = some image → Passed awk c files image)
      (fun _ _ => True) (fun _ _ => True) s := by
  unfold start
  apply checkPaths_allows.seq_of mounts_nothing fun _ _ _ => trivial
  intro _ t valid
  apply (locate_finds answered well).seq_of mounts_nothing fun _ _ _ => trivial
  intro found u located
  apply (upgradeTransport_works _).seq_of mounts_nothing fun _ _ _ => trivial
  intro _ v _
  apply (verify_checks answered _).seq_of mounts_nothing fun _ _ _ => trivial
  intro digest w checked
  apply (mountPayload_mounts _).seq_of ?_ fun _ _ _ => trivial
  · intro _ x _
    exact (finish_quiet found digest).guarantees mounts_nothing x
  · intro e only image mounted
    obtain rfl := only image mounted
    exact ⟨valid.1, valid.2, located, checked⟩

end stages

/-- Any system with these files on which a start cannot fail otherwise. -/
def Files.working (files : Files) : Environment World Call Reply :=
  fun _ call reply _ => files.Answers call reply ∧ Working call reply

theorem Files.working_total (s : World) (call : Call) :
    ∃ reply t, files.working s call reply t := by
  cases call with
  | storage => exact ⟨_, s, rfl, trivial⟩
  | isFile | expand | contents | hashFile => exact ⟨_, s, rfl, trivial⟩
  | mountsReadable | mkdir | mount => exact ⟨true, s, trivial, rfl⟩
  | procMounts => exact ⟨[], s, trivial, rfl⟩
  | remount | umount | workspaceInfo | writeSession | removeSession =>
    exact ⟨true, s, trivial, trivial⟩
  | readSession => exact ⟨none, s, trivial, trivial⟩

/-- That system, with the images that have been mounted. -/
abbrev Files.logged (files : Files) : Environment (World × List Text) Call Reply :=
  noted (fun e => e.call.squashfs.toList) files.working

theorem mountPayload_logs (payload : Text) (s : World × List Text) :
    (mountPayload awk c payload).Meets files.logged (fun _ => True) (fun _ t => payload ∈ t.2)
      (fun _ t => payload ∈ t.2) s := by
  have works : Works files.logged := fun _ _ _ _ answer => answer.1.2
  unfold mountPayload
  apply Meets.seq (R := fun mounts _ => mounts = [])
  · intro mounts t answer
    exact ⟨trivial, answer.1.2⟩
  rintro mounts t rfl
  have free : ¬ isMounted awk [] c.target = true := Bool.false_ne_true
  rw [if_neg free]
  apply (meets_command (meets_ask_works rfl)).seq_of (fun _ _ => trivial)
    fun _ _ broken => absurd works broken
  intro _ u _
  apply meets_orFail
  rintro ok ⟨v, log⟩ ⟨⟨_, succeeds⟩, logged⟩
  have mounted : payload ∈ log := by
    rw [show log = u.2 ++ [payload] from logged]
    exact List.mem_append_right _ List.mem_cons_self
  refine ⟨trivial, ?_⟩
  rw [meets_done]
  split
  · exact mounted
  · exact mounted

/-- A payload that passes the check as awk makes it is mounted where everything works. -/
theorem start_mounts (well : files.WellKeyed) (target : validPath c.target = true)
    (transport : validPath c.transport = true) (located : Payload c files payload)
    (checked : Checked (listedHash awk) files payload) (s : World × List Text) :
    (start awk c).Meets files.logged (fun _ => True) (fun _ t => payload ∈ t.2)
      (fun _ t => payload ∈ t.2) s := by
  have answered : ∀ s call reply t, files.logged s call reply t → files.Answers call reply :=
    fun _ _ _ _ answer => answer.1.1
  have works : Works files.logged := fun _ _ _ _ answer => answer.1.2
  unfold start
  apply checkPaths_allows.seq_of (fun _ _ => trivial)
    fun _ _ refused => absurd ⟨target, transport⟩ (refused works)
  intro _ t _
  apply (locate_finds answered well).seq_of (fun _ _ => trivial)
    fun _ _ missing => absurd located (missing works payload)
  intro found u here
  obtain rfl := here.unique well located
  apply (upgradeTransport_works _).seq_of (fun _ _ => trivial)
    fun _ _ broken => absurd works broken
  intro _ v _
  apply (verify_checks answered _).seq_of (fun _ _ => trivial)
    fun _ _ unchecked => absurd checked unchecked
  intro digest w _
  apply (mountPayload_logs found.payload w).seq
  intro _ x mounted
  have kept : ∀ s (call : Call) (reply : Reply call) t, call.squashfs = none →
      found.payload ∈ s.2 → files.logged s call reply t → found.payload ∈ t.2 := by
    intro s call reply t _ mounted answer
    rw [answer.2]
    exact List.mem_append_left _ mounted
  exact ((finish_quiet found digest).meets kept mounted).mono (fun _ _ => trivial)
    (fun _ _ mounted => mounted) fun _ _ mounted => mounted

/-- Every image that a start mounts has been verified if and only if no payload that it finds
is mistaken for one that `SHA256SUMS` lists. -/
theorem verified_before_mount_iff (well : files.WellKeyed) :
    (∀ s events rest t, Exec files.env (start awk c) s events rest t →
      ∀ e ∈ events, ∀ image, e.call.squashfs = some image → Verified c files image) ↔
    (validPath c.target = true → validPath c.transport = true →
      ∀ payload, Payload c files payload → ¬ Mistaken awk files payload) := by
  constructor
  · intro verified target transport payload located mistaken
    obtain ⟨checked, unchecked⟩ := mistaken_iff.mp mistaken
    obtain ⟨events, outcome, t, run⟩ := Exec.complete files.working_total (start awk c) ⟨[], none⟩
    -- the image has been mounted in this run
    have mounts := start_mounts well target transport located checked (⟨[], none⟩, [])
    have ends := mounts.exec_noted run
    have logged : payload ∈ events.flatMap fun e => e.call.squashfs.toList := by
      cases outcome with
      | ok => exact ends
      | error => exact ends
    obtain ⟨e, member, image⟩ := List.mem_flatMap.mp logged
    have possible : Exec files.env (start awk c) ⟨[], none⟩ events (ended outcome) t :=
      run.of_events fun _ _ answer => answer.1
    have mounted := Option.mem_toList.mp image
    exact unchecked (verified _ _ _ _ possible e member payload mounted).checked
  · intro plain s events rest t run e member image mounted
    have passes : (start awk c).Meets files.env _ _ _ s :=
      start_passes (fun _ _ _ _ answer => answer) well
    have passed := (passes.exec run).1 e member image mounted
    refine ⟨passed.located, ?_⟩
    by_contra unchecked
    have mistaken := mistaken_iff.mpr ⟨passed.checked, unchecked⟩
    exact plain passed.target passed.transport image passed.located mistaken

/-- For a name that is no number and has no escape sequence, awk finds the right entry. -/
theorem listedHash_eq_entryHash {base : Text} (plain : '\\' ∉ base) (word : Wordlike base)
    (sums : Text) : listedHash awk base sums = entryHash base sums := by
  have same (line : Text) : lists awk base line = decide (sumName line = base) := by
    rw [Bool.eq_iff_iff, decide_eq_true_iff, lists]
    split
    · exact awk.is_iff plain word
    · rw [beq_iff_eq, awk.assign_plain base plain]
  have found : (lines sums).find? (lists awk base) =
      (lines sums).find? fun line => sumName line = base :=
    congrArg (List.find? · (lines sums)) (funext same)
  unfold listedHash entryHash
  cases entry : (lines sums).find? (fun line => decide (sumName line = base)) with
  | none => simp only [found, entry]
  | some line => simp only [found, entry]

theorem not_mistaken (plain : '\\' ∉ basename payload) (word : Wordlike (basename payload)) :
    ¬ Mistaken awk files payload := by
  intro mistaken
  have listed := (listedHash_iff mistaken.digest).mpr mistaken.taken
  exact mistaken.other (listedHash_eq_entryHash plain word _ ▸ listed)

section sample

/-- The number that awk takes a text for, if it is written with digits and an exponent. -/
def numberOf (text : Text) : Option Nat :=
  let digits := text.takeWhile Char.isDigit
  match text.dropWhile Char.isDigit with
  | [] => if digits = [] then none else some (Nat.ofDigitChars 10 digits 0)
  | 'e' :: exponent =>
    if digits ≠ [] ∧ exponent ≠ [] ∧ exponent.all Char.isDigit then
      some (Nat.ofDigitChars 10 (digits ++ List.replicate (Nat.ofDigitChars 10 exponent 0) '0') 0)
    else none
  | _ => none

theorem numberOf_word {text : Text} (word : Wordlike text) : numberOf text = none := by
  obtain ⟨c, rest, rfl, other⟩ := word
  have letter : ¬ c.isDigit = true := by
    intro digit
    have digits : ∀ n < 10, Char.ofNat (48 + n) ∈ " \t\n+-.0123456789iInN".toList := by decide
    have digit : 48 ≤ c.toNat ∧ c.toNat ≤ 57 := Char.isDigit_iff_toNat.mp digit
    have spelt : Char.ofNat (48 + (c.toNat - 48)) = c := by
      rw [Nat.add_sub_cancel' digit.1, Char.ofNat_toNat]
    exact other (spelt ▸ digits (c.toNat - 48) (by omega))
  have digits : (c :: rest).takeWhile Char.isDigit = [] := List.takeWhile_cons_of_neg letter
  have after : (c :: rest).dropWhile Char.isDigit = c :: rest := List.dropWhile_cons_of_neg letter
  unfold numberOf
  rw [digits, after]
  split
  case h_1 none => cases none
  case h_2 => exact if_neg fun number => number.1 rfl
  case h_3 => rfl

/-- The awk that compares numbers as numbers. -/
def numericAwk : Awk where
  assign text := text
  equal field text :=
    match numberOf field, numberOf text with
    | some m, some n => m == n
    | _, _ => field == text
  assign_plain _ _ := rfl
  equal_word field text word := by
    rw [numberOf_word word]
    split
    case h_1 number => cases number
    case h_2 => exact beq_iff_eq

/-- The system with these files where every command works. -/
def Files.answer (files : Files) (s : World) : (call : Call) → Option (Reply call × World)
  | .storage => some (files.report, s)
  | .isFile path => some (files.present path, s)
  | .expand dir pattern => some (files.expand dir pattern, s)
  | .contents path => some (files.contents path, s)
  | .hashFile path => some (files.sha256 path, s)
  | .procMounts => some ([], s)
  | .readSession => some (none, s)
  | .mountsReadable | .mkdir _ | .mount _ _ _ _ | .remount _ | .umount _ | .workspaceInfo _
  | .writeSession _ | .removeSession => some (true, s)

theorem Files.answer_env {files : Files} (h : World) (call : Call) (reply : Reply call) (k : World)
    (answer : files.answer h call = some (reply, k)) : files.env h call reply k := by
  cases call with
  | storage | isFile | expand | contents | hashFile =>
    cases answer
    rfl
  | _ => trivial

/-- A run on these files that mounts an image. -/
theorem Files.mounts {image : Text} {t : World}
    (ran : (start awk c).run files.answer ⟨[], none⟩ = some (.ok (), t))
    (mounts : ((start awk c).calls id files.answer ⟨[], none⟩).any
      (·.call.squashfs = some image) = true) :
    ∃ events, Exec files.env (start awk c) ⟨[], none⟩ events (.done ()) t ∧
      ∃ e ∈ events, e.call.squashfs = some image := by
  have run : Exec files.env (start awk c) (id ⟨[], none⟩) _ (.done ()) (id t) :=
    exec_run Files.answer_env ran
  obtain ⟨e, member, mounted⟩ := List.any_eq_true.mp mounts
  exact ⟨_, run, e, member, of_decide_eq_true mounted⟩

/-- A card with one payload, which is the only entry of `SHA256SUMS`. -/
def cardFiles : Files where
  report := some (chomp oneCard)
  expand _ _ := ["/mnt/vita-storage/vita-toolkit.squashfs".toList]
  present path := ["/mnt/vita-storage/vita-toolkit.squashfs", "/mnt/vita-storage/SHA256SUMS",
    "/opt/vita-toolkit/VERSION"].any (·.toList = path)
  contents _ := sampleDigest ++ "  vita-toolkit.squashfs\n".toList
  sha256 _ := sampleDigest

theorem cardFiles_wellKeyed : cardFiles.WellKeyed := by
  intro report told
  obtain rfl : chomp oneCard = report := Option.some.inj told
  constructor
  · decide +kernel
  · decide +kernel

theorem cardFiles_plain (located : Payload defaults cardFiles payload) :
    ¬ Mistaken awk cardFiles payload := by
  cases located with
  | given explicit => exact absurd rfl explicit
  | @discovered _ dir _ _ _ _ _ matching =>
    have only : (cardFiles.expand dir defaults.payloadGlob).filter cardFiles.present =
        ["/mnt/vita-storage/vita-toolkit.squashfs".toList] := by
      change ["/mnt/vita-storage/vita-toolkit.squashfs".toList].filter cardFiles.present = _
      decide +kernel
    obtain rfl := List.singleton_inj.mp (only.symm.trans matching)
    have base : basename "/mnt/vita-storage/vita-toolkit.squashfs".toList =
        "vita-toolkit.squashfs".toList := by decide +kernel
    apply not_mistaken
    · rw [base]
      decide
    · rw [base]
      exact ⟨'v', _, rfl, by decide⟩

/-- The payload on the card is mounted, and has been verified. -/
theorem verified_before_mount_iff_card : ∃ events t,
    Exec cardFiles.env (start numericAwk defaults) ⟨[], none⟩ events (.done ()) t ∧
      ∃ e ∈ events, ∃ image, e.call.squashfs = some image ∧ Verified defaults cardFiles image := by
  have ran : (start numericAwk defaults).run cardFiles.answer ⟨[], none⟩ =
      some (.ok (), ⟨[], none⟩) := by decide +kernel
  have mounts : ((start numericAwk defaults).calls id cardFiles.answer ⟨[], none⟩).any
      (·.call.squashfs = some "/mnt/vita-storage/vita-toolkit.squashfs".toList) = true := by
    decide +kernel
  obtain ⟨events, run, e, member, mounted⟩ := Files.mounts ran mounts
  refine ⟨events, _, run, e, member, _, mounted, ?_⟩
  exact (verified_before_mount_iff cardFiles_wellKeyed).mpr
    (fun _ _ _ located => cardFiles_plain located) _ _ _ _ run e member _ mounted

/-- Files with names that are numbers: `10` has the digest that is listed for `1e1`. -/
def numberedFiles : Files where
  report := some (chomp noCard)
  expand _ _ := []
  present path := ["/mnt/vita-storage/10", "/mnt/vita-storage/SHA256SUMS",
    "/opt/vita-toolkit/VERSION"].any (·.toList = path)
  contents _ := unlines [sampleDigest ++ "  1e1".toList, List.replicate 64 'b' ++ "  10".toList]
  sha256 _ := sampleDigest

def numbered : Config := { defaults with explicitFile := "/mnt/vita-storage/10".toList }

/-- A file is mounted whose digest is listed for another one, and not for it. -/
theorem mounted_as_another : numberedFiles.WellKeyed ∧ ∃ events t,
    Exec numberedFiles.env (start numericAwk numbered) ⟨[], none⟩ events (.done ()) t ∧
      ∃ e ∈ events, ∃ image, e.call.squashfs = some image ∧
        ¬ Verified numbered numberedFiles image := by
  have ran : (start numericAwk numbered).run numberedFiles.answer ⟨[], none⟩ =
      some (.ok (), ⟨[], none⟩) := by decide +kernel
  have mounts : ((start numericAwk numbered).calls id numberedFiles.answer ⟨[], none⟩).any
      (·.call.squashfs = some "/mnt/vita-storage/10".toList) = true := by decide +kernel
  obtain ⟨events, run, e, member, mounted⟩ := Files.mounts ran mounts
  refine ⟨?_, events, _, run, e, member, _, mounted, ?_⟩
  · intro report told
    obtain rfl : chomp noCard = report := Option.some.inj told
    constructor
    · decide +kernel
    · decide +kernel
  · intro verified
    have unlisted : sampleDigest ≠
        numberedFiles.expected entryHash "/mnt/vita-storage/10".toList := by decide +kernel
    exact unlisted (checked_iff.mp verified.checked).2

end sample

end VitaLinux.Toolkit.Session
