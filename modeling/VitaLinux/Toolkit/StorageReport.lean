import Mathlib.Data.Bool.AllAny
import VitaLinux.Toolkit.Storage

/-!
# Whose attributes a storage report has

What the search for a tag can take from a blkid line is the value of any tag whose name ends
in it, and also what follows a value that ends in the tag and `=`. The last such text is
reported.
-/

namespace VitaLinux.Toolkit.Storage

open VitaLinux.Base

/-- The texts that read as the value of a tag, in the order of the line. -/
def candidates (tag : Text) : List (Text × Text) → List Text
  | [] => []
  | (name, value) :: tags =>
    (if tag <:+ name then [value] else []) ++
      (match tags with
        | [] => []
        | (next, _) :: _ => if tag ++ ['='] <:+ value then [' ' :: next ++ ['=']] else []) ++
      candidates tag tags

/-- The value of the partition's own tag. -/
def ownTag (tag : Text) (tags : List (Text × Text)) : Text :=
  (tags.lookup tag).getD "UNKNOWN".toList

/-- The last text that reads as the value of the tag is the value of that tag. -/
def Attributed (tag : Text) (tags : List (Text × Text)) : Prop :=
  known ((candidates tag tags).getLast?.getD []) = ownTag tag tags

/-- The entry of the mount table for the partition. -/
def ownEntry (mounts : List MountEntry) (p : Partition) : Option MountEntry :=
  mounts.find? fun entry => entry.source == dev p.name

/-- What the script should find out about a partition. -/
def ownReport (mounts : List MountEntry) (p : Partition) : Report where
  device := dev p.name
  parent := dev p.parent
  removable := withoutSpace p.removable
  filesystem := ownTag tagType p.blkid.tags
  label := ownTag tagLabel p.blkid.tags
  uuid := ownTag tagUuid p.blkid.tags
  mounted := if (ownEntry mounts p).isSome then "1".toList else "0".toList
  mountpoint := ((ownEntry mounts p).map MountEntry.target).getD "NONE".toList

section search

/-- The pieces between the quotes of a list of tags that stands after `start`. -/
def pieces (start : Text) : List (Text × Text) → List Text
  | [] => [start]
  | (name, value) :: tags => (start ++ ' ' :: name ++ ['=']) :: value :: pieces [] tags

theorem pieces_ne_nil (start : Text) (tags : List (Text × Text)) : pieces start tags ≠ [] := by
  cases tags <;> exact List.cons_ne_nil _ _

theorem intercalate_pieces (start : Text) (tags : List (Text × Text)) :
    ['"'].intercalate (pieces start tags) = start ++ tags.flatMap fun tag =>
      ' ' :: tag.1 ++ '=' :: '"' :: tag.2 ++ ['"'] := by
  induction tags generalizing start with
  | nil => simp [pieces]
  | cons tag tags ih =>
    rw [pieces, List.intercalate_cons_cons,
      List.intercalate_cons_of_ne_nil (pieces_ne_nil [] tags), ih]
    simp

variable {tag : Text}

/-- A tag stands before a quote exactly if the name there ends in it. -/
theorem ends_iff (word : ' ' ∉ tag) (start name : Text) :
    tag ++ ['='] <:+ start ++ ' ' :: name ++ ['='] ↔ tag <:+ name := by
  constructor
  · rintro ⟨before, same⟩
    rw [← List.append_assoc] at same
    have ends : tag <:+ start ++ ' ' :: name := ⟨before, List.append_cancel_right same⟩
    have blank : ' ' :: name <:+ start ++ ' ' :: name := List.suffix_append _ _
    have short : tag.length ≤ name.length := by
      by_contra long
      exact word ((List.suffix_of_suffix_length_le blank ends (by simp; omega)).mem
        List.mem_cons_self)
    exact List.suffix_of_suffix_length_le ends ((List.suffix_cons ' ' name).trans blank) short
  · rintro ⟨before, rfl⟩
    exact ⟨start ++ ' ' :: before, by simp⟩

theorem quotedAfter_pieces (word : ' ' ∉ tag) (start : Text) (tags : List (Text × Text)) :
    quotedAfter (tag ++ ['=']) (pieces start tags) = candidates tag tags := by
  induction tags generalizing start with
  | nil => rfl
  | cons first tags ih =>
    have later := ih []
    match tags with
    | [] =>
      rw [pieces, quotedAfter, candidates]
      simp only [ends_iff word, ne_eq, pieces_ne_nil, not_false_eq_true, and_true]
      simp [pieces, quotedAfter, candidates]
    | next :: tags =>
      rw [pieces, quotedAfter, candidates, ← later]
      simp only [ends_iff word, ne_eq, pieces_ne_nil, not_false_eq_true, and_true]
      simp [pieces, quotedAfter]

/-- A character that no name, value or start has, and no `" name="` either. -/
theorem pieces_plain {c : Char} (blank : c ≠ ' ') (equals : c ≠ '=') {start : Text}
    {tags : List (Text × Text)} (before : c ∉ start)
    (plain : ∀ tag ∈ tags, c ∉ tag.1 ∧ c ∉ tag.2) : ∀ piece ∈ pieces start tags, c ∉ piece := by
  induction tags generalizing start with
  | nil => simpa [pieces] using before
  | cons first tags ih =>
    obtain ⟨⟨name, value⟩, others⟩ := List.forall_mem_cons.mp plain
    have later := ih List.not_mem_nil others
    intro piece member
    rw [pieces] at member
    simp only [List.mem_cons] at member
    obtain rfl | rfl | member := member
    · simp [before, blank, equals, name]
    · exact value
    · exact later piece member

theorem BlkidLine.text_eq (line : BlkidLine) :
    line.text = ['"'].intercalate (pieces (line.device ++ [':']) line.tags) := by
  rw [intercalate_pieces]
  simp [BlkidLine.text]

theorem BlkidLine.pieces_unquoted (line : BlkidLine) :
    ∀ piece ∈ pieces (line.device ++ [':']) line.tags, '"' ∉ piece := by
  apply pieces_plain (by decide) (by decide)
  · simpa using fun mem => (line.device_plain _ mem).1 rfl
  · exact fun tag mem => ⟨fun h => (line.name_plain tag mem _ h).1 rfl,
      fun h => (line.value_plain tag mem _ h).1 rfl⟩

theorem BlkidLine.pieces_whole (line : BlkidLine) :
    ∀ piece ∈ pieces (line.device ++ [':']) line.tags, '\n' ∉ piece := by
  apply pieces_plain (by decide) (by decide)
  · simpa using fun mem => (line.device_plain _ mem).2 rfl
  · exact fun tag mem => ⟨fun h => (line.name_plain tag mem _ h).2.1 rfl,
      fun h => (line.value_plain tag mem _ h).2 rfl⟩

theorem BlkidLine.candidate_whole (word : ' ' ∉ tag) (line : BlkidLine) {value : Text}
    (found : value ∈ candidates tag line.tags) : '\n' ∉ value := by
  rw [← quotedAfter_pieces word (line.device ++ [':'])] at found
  exact line.pieces_whole value (quotedAfter_subset _ _ found)

/-- What is found for a tag is the last candidate. -/
theorem sedTag_eq (word : ' ' ∉ tag) (quoted : '"' ∉ tag) (line : BlkidLine) :
    sedTag tag (chomp (line.text ++ ['\n'])) = (candidates tag line.tags).getLast?.getD [] := by
  have whole : '\n' ∉ line.text := by
    rw [line.text_eq]
    exact not_mem_intercalate (by decide) line.pieces_whole
  have printed : chomp (line.text ++ ['\n']) = line.text := by
    simpa [unlines] using chomp_unlines_singleton whole
  have read : lines (line.text ++ ['\n']) = [line.text] := lines_line whole []
  have found : lastQuoted '"' (tag ++ ['=']) (['"'].intercalate _) = _ :=
    lastQuoted_intercalate (by simpa using quoted) (by simp) line.pieces_unquoted
  rw [← line.text_eq, quotedAfter_pieces word] at found
  rw [printed, sedTag, read]
  cases last : (candidates tag line.tags).getLast? with
  | none =>
    have nothing := found.trans last
    rw [List.filterMap_cons_none nothing]
    rfl
  | some value =>
    rw [List.filterMap_cons_some (found.trans last)]
    exact chomp_unlines_singleton (line.candidate_whole word (List.mem_of_getLast? last))

/-- What is found for a tag fits in a line. -/
theorem known_candidate_whole (word : ' ' ∉ tag) (line : BlkidLine) :
    '\n' ∉ known ((candidates tag line.tags).getLast?.getD []) := by
  rw [known]
  split
  · decide
  · cases last : (candidates tag line.tags).getLast? with
    | none => exact List.not_mem_nil
    | some value => exact line.candidate_whole word (List.mem_of_getLast? last)

end search

theorem dev_plain (name : BlockName) {c : Char} (mem : c ∈ special) : c ∉ dev name := by
  have apart : ∀ c ∈ special, c ∉ "/dev/".toList :=
    List.all_iff_forall_prop.mp (by decide)
  intro here
  obtain start | rest := List.mem_append.mp here
  · exact apart c mem start
  · exact name.property c rest mem

theorem mountpointOf_eq (awk : Awk) (mounts : List MountEntry) (p : Partition) :
    mountpointOf awk mounts (dev p.name) =
      ((ownEntry mounts p).map MountEntry.target).getD [] := by
  have word : Wordlike (dev p.name) := ⟨'/', _, rfl, by decide⟩
  have plain : '\\' ∉ dev p.name := dev_plain p.name (by decide)
  have same : (fun entry : MountEntry => awk.is entry.source (dev p.name)) =
      fun entry => entry.source == dev p.name := by
    funext entry
    rw [Bool.eq_iff_iff, awk.is_iff plain word, beq_iff_eq]
  rw [mountpointOf, same, ← ownEntry]
  cases ownEntry mounts p with
  | none => rfl
  | some entry => exact chomp_unlines_singleton entry.target_plain

/-- What the script finds out, whatever awk it has: of the three tags, the last candidate. -/
theorem collect_eq (awk : Awk) (mounts : List MountEntry) (p : Partition) :
    collect awk mounts p =
      { ownReport mounts p with
        filesystem := known ((candidates tagType p.blkid.tags).getLast?.getD [])
        label := known ((candidates tagLabel p.blkid.tags).getLast?.getD [])
        uuid := known ((candidates tagUuid p.blkid.tags).getLast?.getD []) } := by
  rw [collect, mountpointOf_eq]
  simp only [sedTag_eq (show ' ' ∉ tagType by decide) (by decide),
    sedTag_eq (show ' ' ∉ tagLabel by decide) (by decide),
    sedTag_eq (show ' ' ∉ tagUuid by decide) (by decide)]
  cases found : ownEntry mounts p with
  | none => simp [ownReport, found]
  | some entry => simp [ownReport, found, entry.target_named]

theorem collect_whole (awk : Awk) (mounts : List MountEntry) (p : Partition) :
    '\n' ∉ record (collect awk mounts p) := by
  have names (name : BlockName) : '\n' ∉ dev name := dev_plain name (by decide)
  have removable : '\n' ∉ withoutSpace p.removable := by
    simp [withoutSpace, isSpace]
  rw [collect_eq]
  apply not_mem_intercalate (by decide)
  simp only [Report.fields, ownReport, List.forall_mem_cons, List.not_mem_nil, false_imp_iff,
    forall_const, and_true]
  refine ⟨names p.name, names p.parent, removable, known_candidate_whole (by decide) p.blkid,
    known_candidate_whole (by decide) p.blkid, known_candidate_whole (by decide) p.blkid, ?_, ?_⟩
  · split <;> decide
  · cases ownEntry mounts p with
    | none => decide
    | some entry => exact entry.target_plain

section printing

theorem record_ne_nil (r : Report) : record r ≠ [] := by
  simp [record, Report.fields]

/-- The records are read back from the lines that they were collected in. -/
theorem recordWords_eq (shell : Shell) {records : List Text}
    (whole : ∀ record ∈ records, record ≠ [] ∧ '\n' ∉ record) :
    recordWords shell (['\n'].intercalate records) = records.flatMap shell.expand := by
  cases records with
  | nil => rfl
  | cons first records =>
    rw [recordWords, List.splitOn_intercalate '\n' (fun l mem => (whole l mem).2) (by simp),
      List.filter_eq_self.mpr fun l mem => decide_eq_true (whole l mem).1]

theorem not_mem_of_mem_splitFields {text field : Text} (member : field ∈ splitFields text) :
    '|' ∉ field := by
  rw [splitFields] at member
  split at member
  · exact not_mem_of_mem_splitOn (List.mem_of_mem_dropLast member)
  · exact not_mem_of_mem_splitOn member

theorem splitFields_record {r : Report} (whole : ∀ field ∈ r.fields, '|' ∉ field)
    (ends : r.mountpoint ≠ []) : splitFields (record r) = r.fields := by
  rw [splitFields, record, List.splitOn_intercalate '|' whole (List.cons_ne_nil _ _)]
  exact if_neg fun last => ends (Option.some.inj last)

/-- A record whose fields have no separator, and which is no pattern, is taken apart again. -/
theorem positional_record (shell : Shell) {r : Report} (whole : ∀ field ∈ r.fields, '|' ∉ field)
    (ends : r.mountpoint ≠ []) (unmatched : ¬Pattern (record r)) :
    positional shell (record r) = r.fields := by
  rw [positional, splitFields_record whole ends]
  have each : ∀ field ∈ r.fields, shell.expand field = [field] := fun field mem =>
    shell.expand_plain field fun pattern => unmatched (pattern.mono (infix_intercalate ['|'] mem))
  rw [List.flatMap_congr each]
  exact List.flatMap_singleton' _

theorem reportLines_inj {index : Nat} {r r' : Report}
    (same : reportLines index r = reportLines index r') : r = r' := by
  obtain ⟨_, _, _, _, _, _, _, _⟩ := r
  obtain ⟨_, _, _, _, _, _, _, _⟩ := r'
  simpa [reportLines] using same

theorem machineLines_inj {count : Nat} {reports reports' : List Report}
    (same : machineLines count reports = machineLines count reports') : reports = reports' := by
  have body := (List.cons.inj (List.cons.inj same).2).2
  clear same
  generalize 1 = index at body
  induction reports generalizing reports' index with
  | nil =>
    cases reports' with
    | nil => rfl
    | cons r' reports' => simp [reportLines] at body
  | cons r reports ih =>
    cases reports' with
    | nil => simp [reportLines] at body
    | cons r' reports' =>
      rw [List.zipIdx_cons, List.zipIdx_cons, List.flatMap_cons, List.flatMap_cons] at body
      obtain ⟨first, others⟩ := List.append_inj body rfl
      have same : r = r' := reportLines_inj first
      rw [same, ih _ others]

theorem mapM_printRecord {shell : Shell} {reports : List Report}
    (parted : ∀ r ∈ reports, positional shell (record r) = r.fields) :
    (reports.map record).mapM (printRecord shell) = some reports := by
  induction reports with
  | nil => rfl
  | cons r reports ih =>
    obtain ⟨first, others⟩ := List.forall_mem_cons.mp parted
    have printed : printRecord shell (record r) = some r := by
      rw [printRecord, first]
      rfl
    rw [List.map_cons, List.mapM_cons, printed, ih others]
    rfl

/-- Where one record cannot be printed, the script ends early. -/
theorem printRecord_of_mapM {shell : Shell} {words : List Text} {reports : List Report}
    (printed : words.mapM (printRecord shell) = some reports) :
    ∀ word ∈ words, printRecord shell word ≠ none := by
  induction words generalizing reports with
  | nil => exact fun word mem => absurd mem List.not_mem_nil
  | cons first words ih =>
    rw [List.mapM_cons] at printed
    obtain ⟨r, here, rest⟩ := Option.bind_eq_some_iff.mp printed
    obtain ⟨others, later, -⟩ := Option.bind_eq_some_iff.mp rest
    exact List.forall_mem_cons.mpr ⟨by simp [here], ih later⟩

end printing

section machine

variable {mounts : List MountEntry} {partitions : List Partition}

theorem collected_words (shell : Shell) (awk : Awk) (mounts : List MountEntry)
    (found : List Partition) :
    recordWords shell (['\n'].intercalate (found.map fun p => record (collect awk mounts p))) =
      found.flatMap fun p => shell.expand (record (collect awk mounts p)) := by
  rw [recordWords_eq, List.flatMap_map]
  intro text member
  obtain ⟨p, -, rfl⟩ := List.mem_map.mp member
  exact ⟨record_ne_nil _, collect_whole awk mounts p⟩

/-- Where every record stays whole and is taken apart again, what was collected is printed. -/
theorem machine_eq {shell : Shell} {awk : Awk}
    (kept : ∀ p ∈ partitions, p.listed →
      shell.expand (record (collect awk mounts p)) = [record (collect awk mounts p)])
    (parted : ∀ p ∈ partitions, p.listed →
      positional shell (record (collect awk mounts p)) = (collect awk mounts p).fields) :
    machine shell awk mounts partitions = some (machineLines
      (partitions.filter Partition.listed).length
      ((partitions.filter Partition.listed).map (collect awk mounts))) := by
  have words : recordWords shell (['\n'].intercalate ((partitions.filter Partition.listed).map
      fun p => record (collect awk mounts p))) =
      ((partitions.filter Partition.listed).map (collect awk mounts)).map record := by
    rw [collected_words, List.map_map, List.map_eq_flatMap]
    apply List.flatMap_congr
    intro p member
    obtain ⟨among, listed⟩ := List.mem_filter.mp member
    exact kept p among listed
  have printed : (((partitions.filter Partition.listed).map (collect awk mounts)).map
      record).mapM (printRecord shell) =
      some ((partitions.filter Partition.listed).map (collect awk mounts)) := by
    apply mapM_printRecord
    intro r member
    obtain ⟨p, found, rfl⟩ := List.mem_map.mp member
    obtain ⟨among, listed⟩ := List.mem_filter.mp found
    exact parted p among listed
  rw [machine]
  simp only [words, printed]
  rfl

/-- If every shell prints a report, no collected record is a pattern. -/
theorem unmatched_of_printed
    (printed : ∀ shell, machine shell Awk.plain mounts partitions ≠ none)
    {p : Partition} (among : p ∈ partitions) (listed : p.listed) :
    ¬Pattern (record (collect Awk.plain mounts p)) := by
  classical
  intro pattern
  -- A file `x` is all that any pattern matches.
  let shell : Shell :=
    { expand := fun text => if Pattern text then [['x']] else [text]
      expand_plain := fun text plain => if_neg plain
      expand_ne_nil := fun text => by split <;> exact List.cons_ne_nil _ _ }
  have word : ['x'] ∈ recordWords shell (['\n'].intercalate
      ((partitions.filter Partition.listed).map fun p => record (collect Awk.plain mounts p))) := by
    rw [collected_words]
    refine List.mem_flatMap.mpr ⟨p, List.mem_filter.mpr ⟨among, listed⟩, ?_⟩
    simp [shell, pattern]
  have lone : printRecord shell ['x'] = none := by
    have fields : positional shell ['x'] = [['x']] := by
      have split : splitFields ['x'] = [['x']] := by decide
      rw [positional, split, List.flatMap_singleton]
      exact ite_self _
    rw [printRecord, fields]
  cases reports : (recordWords shell (['\n'].intercalate ((partitions.filter
      Partition.listed).map fun p => record (collect Awk.plain mounts p)))).mapM
      (printRecord shell) with
  | none =>
    apply printed shell
    rw [machine]
    simp only [reports]
    rfl
  | some reports' => exact printRecord_of_mapM reports ['x'] word lone

end machine

/-- The report has for each listed partition its own attributes, and each record is taken
apart into the fields that it was joined from. -/
structure ReportsOwn (mounts : List MountEntry) (partitions : List Partition) : Prop where
  printed : ∀ shell awk, machine shell awk mounts partitions = some (machineLines
    (partitions.filter Partition.listed).length
    ((partitions.filter Partition.listed).map (ownReport mounts)))
  unshifted : ∀ shell awk, ∀ p ∈ partitions, p.listed →
    positional shell (record (collect awk mounts p)) = (collect awk mounts p).fields

/-- A report of the own attributes is one of what was collected. -/
theorem ReportsOwn.collected {mounts : List MountEntry} {partitions : List Partition}
    (own : ReportsOwn mounts partitions) {p : Partition} (among : p ∈ partitions)
    (listed : p.listed) : ownReport mounts p = collect Awk.plain mounts p := by
  have printed : machine Shell.plain Awk.plain mounts partitions = _ :=
    machine_eq (fun _ _ _ => rfl) (own.unshifted Shell.plain Awk.plain)
  rw [own.printed] at printed
  have same := machineLines_inj (Option.some.inj printed)
  exact List.map_inj_left.mp same p (List.mem_filter.mpr ⟨among, listed⟩)

/-- The line and the mount entry of a partition can be reported. -/
structure Reportable (mounts : List MountEntry) (p : Partition) : Prop where
  filesystem : Attributed tagType p.blkid.tags
  label : Attributed tagLabel p.blkid.tags
  uuid : Attributed tagUuid p.blkid.tags
  whole : ∀ field ∈ (ownReport mounts p).fields, '|' ∉ field
  unmatched : ¬Pattern (record (ownReport mounts p))

theorem Reportable.collect_own {mounts : List MountEntry} {p : Partition}
    (own : Reportable mounts p) (awk : Awk) : collect awk mounts p = ownReport mounts p := by
  rw [collect_eq, own.filesystem, own.label, own.uuid]
  rfl

theorem ownReport_mountpoint (mounts : List MountEntry) (p : Partition) :
    (ownReport mounts p).mountpoint ≠ [] := by
  rw [ownReport]
  cases ownEntry mounts p with
  | none => exact List.cons_ne_nil _ _
  | some entry => exact entry.target_named

theorem reports_own_iff (mounts : List MountEntry) (partitions : List Partition) :
    ReportsOwn mounts partitions ↔ ∀ p ∈ partitions, p.listed → Reportable mounts p := by
  constructor
  · intro own p among listed
    have here := own.collected among listed
    have split := own.unshifted Shell.plain Awk.plain p among listed
    have unmatched : ¬Pattern (record (collect Awk.plain mounts p)) :=
      unmatched_of_printed (fun shell => by rw [own.printed]; exact Option.some_ne_none _)
        among listed
    rw [← here] at split unmatched
    rw [collect_eq] at here
    exact
      { filesystem := (congrArg Report.filesystem here).symm
        label := (congrArg Report.label here).symm
        uuid := (congrArg Report.uuid here).symm
        whole := fun field mem => not_mem_of_mem_splitFields (by
          rwa [← split, positional, Shell.plain, List.flatMap_singleton'] at mem)
        unmatched := unmatched }
  · intro own
    have collected (awk : Awk) : ∀ p ∈ partitions, p.listed →
        collect awk mounts p = ownReport mounts p :=
      fun p among listed => (own p among listed).collect_own awk
    have parted (shell : Shell) (awk : Awk) : ∀ p ∈ partitions, p.listed →
        positional shell (record (collect awk mounts p)) = (collect awk mounts p).fields := by
      intro p among listed
      rw [collected awk p among listed]
      exact positional_record shell (own p among listed).whole (ownReport_mountpoint mounts p)
        (own p among listed).unmatched
    refine ⟨?_, parted⟩
    intro shell awk
    rw [machine_eq ?_ (parted shell awk)]
    · congr 2
      apply List.map_congr_left
      intro p member
      obtain ⟨among, listed⟩ := List.mem_filter.mp member
      exact collected awk p among listed
    · intro p among listed
      rw [collected awk p among listed]
      exact shell.expand_plain _ (own p among listed).unmatched

/-- The stick of the storage test, on a disk with a partition table. -/
def stick : Partition where
  name := ⟨"sdb1".toList, List.all_iff_forall_prop.mp (by decide)⟩
  parent := ⟨"sdb".toList, List.all_iff_forall_prop.mp (by decide)⟩
  removable := "1\n".toList
  cardType := []
  present := true
  blkid :=
    { device := "/dev/sdb1".toList
      tags := [("LABEL".toList, "New Volume".toList), ("UUID".toList, "806A-41E2".toList),
        ("TYPE".toList, "exfat".toList), ("PARTUUID".toList, "0007-01".toList)]
      device_plain := by simp
      name_plain := by simp
      value_plain := by simp
      distinct := by decide }

/-- The identifier of the partition is reported as that of its filesystem. -/
theorem stick_misreported : ¬ReportsOwn [] [stick] := by
  intro own
  have same := congrArg Report.uuid (own.collected (p := stick) List.mem_cons_self (by decide))
  rw [collect_eq] at same
  exact absurd same (by decide)

end VitaLinux.Toolkit.Storage
