import VitaLinux.Toolkit.Session.Script
import Mathlib.Data.List.Nodup

/-!
# The report that discovery reads

Where the keys of a report are distinct and its values have no `=`, what awk reads of a key
is what the report says of it, and the loop over the partitions finds the one that can
carry the payload, if there is exactly one.
-/

namespace VitaLinux.Toolkit.Session

open VitaLinux.Base

/-- The report has a line with this key and this value. -/
def Says (storage key value : Text) : Prop := key ++ '=' :: value ∈ lines storage

structure WellKeyed (storage : Text) : Prop where
  distinct : ((lines storage).map firstField).Nodup
  short : ∀ line ∈ lines storage, '=' ∉ afterEquals line

theorem filter_keyed {α β : Type} [DecidableEq β] {f : α → β} {l : List α}
    (distinct : (l.map f).Nodup) {a : α} (member : a ∈ l) :
    l.filter (fun b => f b = f a) = [a] := by
  induction l with
  | nil => exact absurd member List.not_mem_nil
  | cons b l ih =>
    rw [List.map_cons, List.nodup_cons] at distinct
    obtain ⟨new, distinct⟩ := distinct
    obtain rfl | later := List.mem_cons.mp member
    · have others : l.filter (fun b => f b = f a) = [] := by
        rw [List.filter_eq_nil_iff]
        intro c inside same
        exact new (List.mem_map.mpr ⟨c, inside, of_decide_eq_true same⟩)
      rw [List.filter_cons_of_pos (by simp), others]
    · have different : f b ≠ f a := fun same => new (same ▸ List.mem_map_of_mem later)
      rw [List.filter_cons_of_neg (by simpa using different), ih distinct later]

/-- A loop that finds exactly one thing. -/
theorem filterMap_eq_singleton_iff {α β : Type} {l : List α} (distinct : l.Nodup)
    {f : α → Option β} {b : β} :
    l.filterMap f = [b] ↔ ∃ a ∈ l, f a = some b ∧ ∀ other ∈ l, (f other).isSome → other = a := by
  induction l with
  | nil => simp
  | cons a l ih =>
    obtain ⟨new, distinct⟩ := List.nodup_cons.mp distinct
    cases found : f a with
    | none =>
      rw [List.filterMap_cons_none found, ih distinct]
      constructor
      · rintro ⟨c, inside, here, only⟩
        refine ⟨c, List.mem_cons_of_mem _ inside, here, ?_⟩
        intro other member some
        obtain rfl | later := List.mem_cons.mp member
        · rw [found] at some
          cases some
        · exact only other later some
      · rintro ⟨c, inside, here, only⟩
        obtain rfl | later := List.mem_cons.mp inside
        · rw [found] at here
          cases here
        · exact ⟨c, later, here, fun other member => only other (List.mem_cons_of_mem _ member)⟩
    | some d =>
      rw [List.filterMap_cons_some found, List.cons_eq_cons, List.filterMap_eq_nil_iff]
      constructor
      · rintro ⟨rfl, none⟩
        refine ⟨a, List.mem_cons_self, found, ?_⟩
        intro other member some
        obtain rfl | later := List.mem_cons.mp member
        · rfl
        · rw [none other later] at some
          cases some
      · rintro ⟨c, inside, here, only⟩
        obtain rfl : a = c := only a List.mem_cons_self (by rw [found]; rfl)
        refine ⟨Option.some.inj (found.symm.trans here), ?_⟩
        intro other later
        rw [Option.eq_none_iff_forall_ne_some]
        intro e some
        have same : other = a := only other (List.mem_cons_of_mem _ later) (by rw [some]; rfl)
        exact new (same ▸ later)

section keys

variable {storage key value : Text}

/-- What a line with an `=` says. -/
theorem keyed_of_mem {line : Text} (equals : '=' ∈ line) :
    '=' ∉ firstField line ∧ line = firstField line ++ '=' :: afterEquals line := by
  obtain ⟨key, value, rfl, plain⟩ := List.eq_append_cons_of_mem equals
  have first : firstField (key ++ '=' :: value) = key := takeWhile_keyLine plain value
  have after : afterEquals (key ++ '=' :: value) = value := by
    rw [afterEquals, if_pos equals, dropWhile_keyLine plain]
    rfl
  rw [first, after]
  exact ⟨plain, rfl⟩

theorem WellKeyed.plain (well : WellKeyed storage) (plain : '=' ∉ key)
    (said : Says storage key value) : '=' ∉ value := by
  have short := well.short _ said
  rwa [afterEquals, if_pos (List.mem_append_right _ List.mem_cons_self),
    dropWhile_keyLine plain] at short

theorem whole_secondField {line : Text} (member : line ∈ lines storage) :
    '\n' ∉ secondField line := by
  intro newline
  have inside := (List.takeWhile_sublist _).subset newline
  have inside := (List.dropWhile_sublist _).subset ((List.drop_sublist 1 _).subset inside)
  exact not_mem_of_mem_lines member inside

variable {isKey : Text → Bool} (isKey_iff : ∀ field, isKey field = true ↔ field = key)
include isKey_iff

/-- Awk reads the only line with a key. -/
theorem WellKeyed.extract_of_mem (well : WellKeyed storage) {line : Text}
    (member : line ∈ lines storage) (here : firstField line = key) :
    extract isKey secondField storage = secondField line := by
  have only : ((lines storage).filter fun line => isKey (firstField line)) = [line] := by
    rw [← filter_keyed well.distinct member, here]
    apply List.filter_congr
    intro other _
    rw [Bool.eq_iff_iff, isKey_iff, decide_eq_true_iff]
  rw [extract, only, List.map_singleton, chomp_unlines_singleton (whole_secondField member)]

/-- What the report says of a key is what awk reads. -/
theorem WellKeyed.extract_eq (well : WellKeyed storage) (plain : '=' ∉ key)
    (said : Says storage key value) : extract isKey secondField storage = value := by
  have first : firstField (key ++ '=' :: value) = key := takeWhile_keyLine plain value
  rw [well.extract_of_mem isKey_iff said first, secondField, dropWhile_keyLine plain,
    List.drop_one, List.tail_cons, List.takeWhile_eq_self_iff]
  intro c member
  exact decide_eq_true fun same => well.plain plain said (same ▸ member)

/-- What awk reads of a key, if it reads anything, is what the report says of it. -/
theorem WellKeyed.says_of_extract (well : WellKeyed storage)
    (read : extract isKey secondField storage = value) (something : value ≠ []) :
    Says storage key value := by
  have known : ∃ line ∈ lines storage, firstField line = key := by
    by_contra none
    have nothing : ((lines storage).filter fun line => isKey (firstField line)) = [] := by
      rw [List.filter_eq_nil_iff]
      intro line member here
      exact none ⟨line, member, (isKey_iff _).mp here⟩
    rw [extract, nothing] at read
    exact something read.symm
  obtain ⟨line, member, here⟩ := known
  rw [well.extract_of_mem isKey_iff member here] at read
  have equals : '=' ∈ line := by
    by_contra none
    have all : ∀ c ∈ line, decide (c ≠ '=') = true := by
      intro c inside
      exact decide_eq_true fun same => none (same ▸ inside)
    rw [secondField, List.dropWhile_eq_nil_iff.mpr all] at read
    exact something read.symm
  obtain ⟨plain, split⟩ := keyed_of_mem equals
  have said : Says storage key (afterEquals line) := by
    rw [here] at split
    exact (congrArg (· ∈ lines storage) split).mp member
  rw [← well.extract_of_mem isKey_iff member here,
    well.extract_eq isKey_iff (here ▸ plain) said] at read
  exact read ▸ said

theorem WellKeyed.says_iff (well : WellKeyed storage) (plain : '=' ∉ key)
    (something : value ≠ []) :
    extract isKey secondField storage = value ↔ Says storage key value :=
  ⟨fun read => well.says_of_extract isKey_iff read something, well.extract_eq isKey_iff plain⟩

omit isKey_iff in
/-- A report says one thing of a key. -/
theorem WellKeyed.says_unique (well : WellKeyed storage) (plain : '=' ∉ key) {other : Text}
    (said : Says storage key value) (too : Says storage key other) : value = other := by
  have isKey_iff (field : Text) : decide (field = key) = true ↔ field = key := decide_eq_true_iff
  rw [← well.extract_eq isKey_iff plain said, well.extract_eq isKey_iff plain too]

end keys

section partitions

variable {awk : Awk} {c : Config} {storage : Text} {index : Nat}

/-- `storage_<index>_<name>` -/
def storageKey (index : Nat) (name : String) : Text :=
  "storage_".toList ++ Nat.toDigits 10 index ++ '_' :: name.toList

/-- What the script asks of a partition. -/
def storageNames : List String := ["filesystem", "label", "device", "mountpoint"]

theorem not_mem_storageKey {name : String} (known : name ∈ storageNames) {c : Char}
    (sign : c = '=' ∨ c = '\\') : c ∉ storageKey index name := by
  have letters : ∀ text ∈ "storage_" :: storageNames, ∀ d ∈ text.toList, d ≠ '=' ∧ d ≠ '\\' := by
    have all : ("storage_" :: storageNames).all (fun text =>
        text.toList.all fun d => d != '=' && d != '\\') = true := by decide +kernel
    simpa using all
  have digits : ∀ d ∈ Nat.toDigits 10 index, d ≠ '=' ∧ d ≠ '\\' := by
    intro d member
    have digit := Nat.isDigit_of_mem_toDigits (by decide) (by decide) member
    constructor
    · rintro rfl
      exact absurd digit (by decide)
    · rintro rfl
      exact absurd digit (by decide)
  have plain : ∀ d ∈ storageKey index name, d ≠ '=' ∧ d ≠ '\\' := by
    have start := letters _ List.mem_cons_self
    have ends := letters name (List.mem_cons_of_mem _ known)
    have mark : '_' ≠ '=' ∧ '_' ≠ '\\' := by decide
    exact List.forall_mem_append.mpr ⟨List.forall_mem_append.mpr ⟨start, digits⟩,
      List.forall_mem_cons.mpr ⟨mark, ends⟩⟩
  intro member
  obtain rfl | rfl := sign
  · exact (plain _ member).1 rfl
  · exact (plain _ member).2 rfl

theorem wordlike_storageKey {name : String} : Wordlike (storageKey index name) :=
  ⟨'s', _, rfl, by decide⟩

theorem is_storageKey_iff {name : String} (known : name ∈ storageNames) (field : Text) :
    awk.is field (storageKey index name) = true ↔ field = storageKey index name :=
  awk.is_iff (not_mem_storageKey known (Or.inr rfl)) wordlike_storageKey

/-- A field of a partition that has a value is what the report says. -/
theorem WellKeyed.storageField_iff (awk : Awk) (well : WellKeyed storage) {name : String}
    (known : name ∈ storageNames) {value : Text} (something : value ≠ []) :
    storageField awk storage index name = value ↔ Says storage (storageKey index name) value :=
  well.says_iff (is_storageKey_iff known) (not_mem_storageKey known (Or.inl rfl)) something

/-- The partition has a filesystem that can be mounted, and the label that is expected. -/
structure Eligible (c : Config) (storage : Text) (index : Nat) : Prop where
  filesystem : Says storage (storageKey index "filesystem") "exfat".toList ∨
    Says storage (storageKey index "filesystem") "vfat".toList
  label : c.expectedLabel ≠ [] → Says storage (storageKey index "label") c.expectedLabel

/-- The loop in `discover_transport` takes the eligible partitions. -/
theorem candidate_iff (well : WellKeyed storage) {found : Discovered} :
    candidate awk c storage index = some found ↔
      Eligible c storage index ∧
        ⟨storageField awk storage index "device",
          storageField awk storage index "mountpoint"⟩ = found := by
  let fs := storageField awk storage index "filesystem"
  let label := storageField awk storage index "label"
  have filesystem : (fs ≠ "exfat".toList ∧ fs ≠ "vfat".toList) ↔
      ¬ (Says storage (storageKey index "filesystem") "exfat".toList ∨
        Says storage (storageKey index "filesystem") "vfat".toList) := by
    rw [not_or, ← well.storageField_iff awk (by decide) (by decide),
      ← well.storageField_iff awk (by decide) (by decide)]
  have labelled : (c.expectedLabel ≠ [] ∧ label ≠ c.expectedLabel) ↔
      ¬ (c.expectedLabel ≠ [] → Says storage (storageKey index "label") c.expectedLabel) := by
    rw [Classical.not_imp]
    apply and_congr_right
    intro something
    rw [← well.storageField_iff awk (by decide) something]
  change (if fs ≠ "exfat".toList ∧ fs ≠ "vfat".toList then none
    else if c.expectedLabel ≠ [] ∧ label ≠ c.expectedLabel then none else some _) = _ ↔ _
  split
  case isTrue unsupported =>
    constructor
    · intro none
      cases none
    · rintro ⟨eligible, _⟩
      exact absurd eligible.filesystem (filesystem.mp unsupported)
  case isFalse supported =>
    split
    case isTrue unexpected =>
      constructor
      · intro none
        cases none
      · rintro ⟨eligible, _⟩
        exact absurd eligible.label (labelled.mp unexpected)
    case isFalse expected =>
      have eligible : Eligible c storage index :=
        ⟨not_not.mp (mt filesystem.mpr supported), not_not.mp (mt labelled.mpr expected)⟩
      rw [Option.some_inj]
      exact ⟨fun same => ⟨eligible, same⟩, fun found => found.2⟩

/-- The report counts the partitions. -/
structure Counts (storage : Text) (count : Nat) : Prop where
  said : ∃ digits, Says storage "storage_count".toList digits ∧ digits.all Char.isDigit = true ∧
    Nat.ofDigitChars 10 digits 0 = count
  comparable : count ≤ INTMAX_MAX

/-- The partition is the only one of those counted that is eligible. -/
structure OnlyEligible (c : Config) (storage : Text) (index : Nat) : Prop where
  eligible : Eligible c storage index
  counted : ∃ count, Counts storage count ∧ 1 ≤ index ∧ index ≤ count ∧
    ∀ other, 1 ≤ other → other ≤ count → Eligible c storage other → other = index

theorem plain_storageCount : '=' ∉ "storage_count".toList := by decide

theorem Counts.unique (well : WellKeyed storage) {m n : Nat} (h : Counts storage m)
    (k : Counts storage n) : m = n := by
  obtain ⟨digits, said, _, rfl⟩ := h.said
  obtain ⟨others, too, _, rfl⟩ := k.said
  rw [well.says_unique plain_storageCount said too]

/-- What `discover_transport` reads as the count. -/
theorem counts_iff (well : WellKeyed storage) {count : Nat} (positive : 1 ≤ count) {digits : Text}
    (read : extract (· = "storage_count".toList) secondField storage = digits) :
    Counts storage count ↔
      ¬ (digits = [] ∨ ¬ digits.all Char.isDigit) ∧ Nat.ofDigitChars 10 digits 0 = count ∧
        count ≤ INTMAX_MAX := by
  have isKey_iff (field : Text) : decide (field = "storage_count".toList) = true ↔
      field = "storage_count".toList := decide_eq_true_iff
  rw [not_or, not_not]
  constructor
  · rintro ⟨⟨spelt, said, digit, rfl⟩, comparable⟩
    obtain rfl := read.symm.trans (well.extract_eq isKey_iff plain_storageCount said)
    refine ⟨⟨?_, digit⟩, rfl, comparable⟩
    rintro rfl
    exact absurd positive (by decide)
  · rintro ⟨⟨something, digit⟩, same, comparable⟩
    exact ⟨⟨digits, well.says_of_extract isKey_iff read something, digit, same⟩, comparable⟩

/-- The loop finds the only eligible partition. -/
theorem onlyEligible_iff (well : WellKeyed storage) {count : Nat} (counts : Counts storage count)
    {found : Discovered} :
    (List.range' 1 count).filterMap (candidate awk c storage) = [found] ↔
      ∃ index, OnlyEligible c storage index ∧
        ⟨storageField awk storage index "device",
          storageField awk storage index "mountpoint"⟩ = found := by
  rw [filterMap_eq_singleton_iff List.nodup_range']
  have taken (index : Nat) : (candidate awk c storage index).isSome ↔ Eligible c storage index := by
    rw [Option.isSome_iff_exists]
    exact ⟨fun ⟨_, found⟩ => ((candidate_iff well).mp found).1,
      fun eligible => ⟨_, (candidate_iff well).mpr ⟨eligible, rfl⟩⟩⟩
  constructor
  · rintro ⟨index, inside, some, only⟩
    obtain ⟨eligible, same⟩ := (candidate_iff well).mp some
    rw [List.mem_range'_1] at inside
    refine ⟨index, ⟨eligible, count, counts, inside.1, by omega, ?_⟩, same⟩
    intro other from_one to_count too
    exact only other (List.mem_range'_1.mpr ⟨from_one, by omega⟩) ((taken other).mpr too)
  · rintro ⟨index, ⟨eligible, count', counts', from_one, to_count, only⟩, same⟩
    obtain rfl := counts.unique well counts'
    refine ⟨index, List.mem_range'_1.mpr ⟨from_one, by omega⟩,
      (candidate_iff well).mpr ⟨eligible, same⟩, ?_⟩
    intro other inside some
    rw [List.mem_range'_1] at inside
    exact only other inside.1 (by omega) ((taken other).mp some)

theorem OnlyEligible.unique (well : WellKeyed storage) {other : Nat}
    (h : OnlyEligible c storage index) (k : OnlyEligible c storage other) : index = other := by
  obtain ⟨m, count, from_one, to_count, _⟩ := h.counted
  obtain ⟨n, same, _, _, only⟩ := k.counted
  obtain rfl := count.unique well same
  exact only index from_one to_count h.eligible

/-- The payload is under the mountpoint that the report gives, or under that of the session. -/
structure Carried (c : Config) (storage : Text) (index : Nat) (dir : Text) : Prop where
  mounted : ∀ place, Says storage (storageKey index "mountpoint") place → place ≠ [] →
    place ≠ "NONE".toList → dir = place
  unmounted : (∀ place, Says storage (storageKey index "mountpoint") place →
    place = [] ∨ place = "NONE".toList) → dir = c.transport

theorem carried_iff (awk : Awk) (well : WellKeyed storage) {dir : Text} :
    Carried c storage index dir ↔
      dir = if storageField awk storage index "mountpoint" = "NONE".toList ∨
          storageField awk storage index "mountpoint" = [] then c.transport
        else storageField awk storage index "mountpoint" := by
  have read {place : Text} (said : Says storage (storageKey index "mountpoint") place) :
      storageField awk storage index "mountpoint" = place :=
    well.extract_eq (is_storageKey_iff (by decide))
      (not_mem_storageKey (by decide) (Or.inl rfl)) said
  split
  case isTrue unmounted =>
    have nowhere : ∀ place, Says storage (storageKey index "mountpoint") place →
        place = [] ∨ place = "NONE".toList := by
      intro place said
      rw [← read said]
      exact unmounted.symm
    constructor
    · intro carried
      exact carried.unmounted nowhere
    · intro same
      refine ⟨?_, fun _ => same⟩
      intro place said something somewhere
      obtain empty | none := nowhere place said
      · exact absurd empty something
      · exact absurd none somewhere
  case isFalse mounted =>
    rw [not_or] at mounted
    have said : Says storage (storageKey index "mountpoint")
        (storageField awk storage index "mountpoint") :=
      (well.storageField_iff awk (by decide) mounted.2).mp rfl
    constructor
    · intro carried
      exact carried.mounted _ said mounted.2 mounted.1
    · intro same
      refine ⟨fun place other _ _ => same.trans (read other), ?_⟩
      intro nowhere
      obtain empty | none := nowhere _ said
      · exact absurd empty mounted.2
      · exact absurd none mounted.1

end partitions

end VitaLinux.Toolkit.Session
