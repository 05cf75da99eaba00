import VitaLinux.Tools.ElfListings

/-!
# vita-extract-initramfs.py

The tool maps the addresses of two symbols to places in the image file, through the first
section in the listing of readelf that contains them, and reads the length of the initramfs
from the image. The output file is opened after the last check. What a section of the table
holds in memory, and whether it is loaded, the tool does not ask.
-/

namespace VitaLinux.Tools.Initramfs

open VitaLinux.Base

abbrev Bytes := List UInt8

/-- What the tool reads: nothing where a command fails, or the file cannot be read. -/
structure Inputs where
  /-- `readelf -h` -/
  header : Option Text
  /-- `nm` -/
  symbols : Option Text
  /-- `readelf -S -W` -/
  sections : Option Text
  data : Option Bytes

inductive Failure where
  | command
  | endianness
  | symbol (name : Text)
  | noSection (name : Text) (addr : Nat)
  | truncatedSize
  | badSize (size : Nat)
  | truncatedBlob
  deriving DecidableEq, Repr

/-- What the tool prints; of a command, Python prints the exception. -/
def Failure.message : Failure → Text
  | .command => []
  | .endianness => "vita-extract-initramfs: could not determine ELF endianness".toList
  | .symbol name => "vita-extract-initramfs: symbol not found: ".toList ++ name
  | .noSection name addr => "vita-extract-initramfs: no ELF section contains ".toList ++ name ++
      " (0x".toList ++ Nat.toDigits 16 addr ++ [')']
  | .truncatedSize => "vita-extract-initramfs: truncated read of __initramfs_size".toList
  | .badSize size => "vita-extract-initramfs: implausible __initramfs_size value: ".toList ++
      Nat.toDigits 10 size
  | .truncatedBlob => "vita-extract-initramfs: truncated read of initramfs blob".toList

def startSymbol : Text := "__initramfs_start".toList

def sizeSymbol : Text := "__initramfs_size".toList

def sectionContaining (sections : List Listed) (addr : Nat) : Option Listed :=
  sections.find? fun s => s.Contains addr

/-- The output, and what is reported of it. -/
structure Extraction where
  order : ByteOrder
  startAddr : Nat
  startSection : Listed
  sizeAddr : Nat
  sizeSection : Listed
  blob : Bytes
  deriving DecidableEq, Repr

def required {α : Type} (value : Option α) (failure : Failure) : Except Failure α :=
  match value with
  | some a => .ok a
  | none => .error failure

/-- The tool writes `blob`, or it exits with an error and writes nothing. -/
def main (py : Python) (i : Inputs) : Except Failure Extraction := do
  let header ← required i.header .command
  let order ← required (checkEndianness py header) .endianness
  let symbols ← required i.symbols .command
  let startAddr ← required (findSymbolAddr symbols startSymbol) (.symbol startSymbol)
  let sizeAddr ← required (findSymbolAddr symbols sizeSymbol) (.symbol sizeSymbol)
  let listing ← required i.sections .command
  let sections := listSections py listing
  let startSection ← required (sectionContaining sections startAddr)
    (.noSection startSymbol startAddr)
  let sizeSection ← required (sectionContaining sections sizeAddr) (.noSection sizeSymbol sizeAddr)
  let data ← required i.data .command
  let sizeBytes := (data.drop (sizeSection.place sizeAddr)).take 4
  if sizeBytes.length ≠ 4 then .error .truncatedSize
  else
    let size := order.value sizeBytes
    if size = 0 ∨ data.length < size then .error (.badSize size)
    else
      let blob := (data.drop (startSection.place startAddr)).take size
      if blob.length ≠ size then .error .truncatedBlob
      else return ⟨order, startAddr, startSection, sizeAddr, sizeSection, blob⟩

/-! ## The memory of the image -/

/-- The bytes of a section in memory: those of the file, or zeros. -/
def memory (data : Bytes) (s : Section) (addr len : Nat) : Option Bytes :=
  if s.type = NOBITS then some (List.replicate len 0) else slice data (s.place addr) len

/-- The section is loaded, and all these addresses are in it. -/
def Section.Holds (s : Section) (addr len : Nat) : Prop := s.alloc = true ∧ s.Covers addr len

instance (s : Section) (addr len : Nat) : Decidable (s.Holds addr len) :=
  inferInstanceAs (Decidable (_ ∧ _))

/-- The output is the memory of a loaded section, from the start symbol on, with the length
that the memory at the size symbol gives. -/
structure Right (table : List Section) (data : Bytes) (e : Extraction) : Prop where
  blob : ∃ s ∈ table, s.Holds e.startAddr e.blob.length ∧
    memory data s e.startAddr e.blob.length = some e.blob
  size : ∃ s ∈ table, s.Holds e.sizeAddr 4 ∧
    (memory data s e.sizeAddr 4).map e.order.value = some e.blob.length

/-- A loaded section that holds the range has it at the place in the file that the listed
section gives, or at another place with the same bytes. -/
def Mapped (table : List Section) (data : Bytes) (l : Listed) (addr len : Nat) : Prop :=
  (∃ s ∈ table, s.Holds addr len ∧ s.type ≠ NOBITS ∧ s.place addr = l.place addr) ∨
  ∃ s ∈ table, s.Holds addr len ∧ (s.type = NOBITS ∨ s.place addr ≠ l.place addr) ∧
    memory data s addr len = slice data (l.place addr) len

/-- Both symbols are mapped as the memory is. -/
def WellMapped (py : Python) (table : List Section) (i : Inputs) : Prop :=
  ∀ header symbols listing data order start sizeAddr startSection sizeSection,
    i = ⟨some header, some symbols, some listing, some data⟩ →
    checkEndianness py header = some order →
    findSymbolAddr symbols startSymbol = some start →
    findSymbolAddr symbols sizeSymbol = some sizeAddr →
    sectionContaining (listSections py listing) start = some startSection →
    sectionContaining (listSections py listing) sizeAddr = some sizeSection →
    Mapped table data startSection start
      (order.value ((data.drop (sizeSection.place sizeAddr)).take 4)) ∧
    Mapped table data sizeSection sizeAddr 4

section main

variable {py : Python} {i : Inputs} {e : Extraction}

theorem required_bind_ok {α β : Type} {value : Option α} {failure : Failure}
    {next : α → Except Failure β} {b : β} :
    (required value failure >>= next) = .ok b ↔ ∃ a, value = some a ∧ next a = .ok b := by
  cases value with
  | none =>
    constructor
    · nofun
    · rintro ⟨_, ⟨⟩, _⟩
  | some a =>
    constructor
    · exact fun h => ⟨a, rfl, h⟩
    · rintro ⟨_, ⟨⟩, h⟩
      exact h

/-- What has been read and checked when the tool writes. -/
structure Extracted (py : Python) (header symbols listing : Text) (data : Bytes) (e : Extraction) :
    Prop where
  order : checkEndianness py header = some e.order
  startAddr : findSymbolAddr symbols startSymbol = some e.startAddr
  sizeAddr : findSymbolAddr symbols sizeSymbol = some e.sizeAddr
  startSection : sectionContaining (listSections py listing) e.startAddr = some e.startSection
  sizeSection : sectionContaining (listSections py listing) e.sizeAddr = some e.sizeSection
  size : e.order.value ((data.drop (e.sizeSection.place e.sizeAddr)).take 4) = e.blob.length
  sizeBytes : ((data.drop (e.sizeSection.place e.sizeAddr)).take 4).length = 4
  blob : (data.drop (e.startSection.place e.startAddr)).take e.blob.length = e.blob
  nonempty : 0 < e.blob.length

theorem main_ok (ran : main py i = .ok e) : ∃ header symbols listing data,
    i = ⟨some header, some symbols, some listing, some data⟩ ∧
      Extracted py header symbols listing data e := by
  obtain ⟨header?, symbols?, sections?, data?⟩ := i
  simp only [main, required_bind_ok] at ran
  obtain ⟨header, rfl, order, order_read, symbols, rfl, start, start_read, sizeAddr, sizeAddr_read,
    listing, rfl, startSection, start_found, sizeSection, size_found, data, rfl, ran⟩ := ran
  refine ⟨header, symbols, listing, data, rfl, ?_⟩
  split at ran
  · cases ran
  · next four =>
    split at ran
    · cases ran
    · next fits =>
      split at ran
      · cases ran
      · next whole =>
        cases ran
        have whole := not_not.mp whole
        have four := not_not.mp four
        refine ⟨order_read, start_read, sizeAddr_read, start_found, size_found, whole.symm, four, ?_, ?_⟩
        · dsimp only
          rw [whole]
        · dsimp only
          rw [whole]
          omega

variable {table : List Section} {data : Bytes}

theorem memory_length {s : Section} {addr len : Nat} {bytes : Bytes}
    (held : memory data s addr len = some bytes) : bytes.length = len := by
  unfold memory at held
  split at held
  · rw [← Option.some.inj held, List.length_replicate]
  · exact slice_length held

/-- Where the file has the bytes, a range is mapped exactly when a loaded section that holds it
has them in memory. -/
theorem mapped_iff {l : Listed} {addr len : Nat} {bytes : Bytes}
    (found : slice data (l.place addr) len = some bytes) :
    Mapped table data l addr len ↔
      ∃ s ∈ table, s.Holds addr len ∧ memory data s addr len = some bytes := by
  constructor
  · rintro (⟨s, member, holds, stored, same⟩ | ⟨s, member, holds, _, equal⟩)
    · refine ⟨s, member, holds, ?_⟩
      rw [memory, if_neg stored, same, found]
    · exact ⟨s, member, holds, equal.trans found⟩
  · rintro ⟨s, member, holds, held⟩
    by_cases same : s.type ≠ NOBITS ∧ s.place addr = l.place addr
    · exact .inl ⟨s, member, holds, same⟩
    · exact .inr ⟨s, member, holds, by tauto, held.trans found.symm⟩

/-- The symbols, the sections and the size of a run that writes. -/
theorem wellMapped_iff {header symbols listing : Text}
    (x : Extracted py header symbols listing data e) :
    WellMapped py table ⟨some header, some symbols, some listing, some data⟩ ↔
      Mapped table data e.startSection e.startAddr e.blob.length ∧
        Mapped table data e.sizeSection e.sizeAddr 4 := by
  constructor
  · intro well
    have both := well _ _ _ _ _ _ _ _ _ rfl x.order x.startAddr x.sizeAddr x.startSection
      x.sizeSection
    rwa [x.size] at both
  · rintro both _ _ _ _ order start sizeAddr startSection sizeSection ⟨⟩ orderRead startRead
      sizeRead startFound sizeFound
    obtain rfl := Option.some.inj (x.order.symm.trans orderRead)
    obtain rfl := Option.some.inj (x.startAddr.symm.trans startRead)
    obtain rfl := Option.some.inj (x.sizeAddr.symm.trans sizeRead)
    obtain rfl := Option.some.inj (x.startSection.symm.trans startFound)
    obtain rfl := Option.some.inj (x.sizeSection.symm.trans sizeFound)
    rwa [x.size]

/-- When the tool writes, what it writes is right exactly when both symbols are mapped as the
memory is. -/
theorem extracts_right_iff (ran : main py i = .ok e) :
    Right table (i.data.getD []) e ↔ WellMapped py table i := by
  obtain ⟨header, symbols, listing, data, rfl, x⟩ := main_ok ran
  have blob : slice data (e.startSection.place e.startAddr) e.blob.length = some e.blob :=
    (slice_eq_some x.nonempty).mpr ⟨x.blob, rfl⟩
  let off := e.sizeSection.place e.sizeAddr
  have four : slice data off 4 = some ((data.drop off).take 4) :=
    (slice_eq_some (by omega)).mpr ⟨rfl, x.sizeBytes⟩
  rw [wellMapped_iff x, mapped_iff blob, mapped_iff four, Option.getD_some]
  constructor
  · rintro ⟨right, s, member, holds, value⟩
    refine ⟨right, s, member, holds, ?_⟩
    obtain ⟨bytes, held, stored⟩ := Option.map_eq_some_iff.mp value
    rw [held, e.order.value_inj ((memory_length held).trans x.sizeBytes.symm)
      (stored.trans x.size.symm)]
  · rintro ⟨right, s, member, holds, held⟩
    refine ⟨right, s, member, holds, ?_⟩
    rw [held, Option.map_some, x.size]

end main

section listing

variable {py : Python} {rows : List (Nat × Section × Text)} {before after : List Text} {addr : Nat}

/-- In the listing of a table with plain names, the section that the tool takes is the first of
the table with a place in the file that contains the address. -/
theorem sectionContaining_listing (ascii : py.Ascii)
    (plain : ∀ row ∈ rows, row.2.1.Plain ∧ ∀ c ∈ row.2.2, isLineBreak c = false)
    (whole : ∀ line ∈ before ++ after, ∀ c ∈ line, isLineBreak c = false)
    (empty : ∀ line ∈ before ++ after, ∀ l, listedOn py line = some l → l.size = 0) :
    sectionContaining (listSections py (unlines (before ++
        rows.map (fun row => sectionLine row.1 row.2.1 row.2.2) ++ after))) addr =
      (((rows.map fun row => row.2.1).filter (·.type ≠ NOBITS)).find? fun s => s.Contains addr).map
        Section.listed := by
  have none : ∀ ls : List Text, (∀ line ∈ ls, line ∈ before ++ after) →
      (ls.filterMap (listedOn py)).find? (fun l => l.Contains addr) = none := by
    intro ls others
    rw [List.find?_eq_none]
    intro l member contains
    obtain ⟨line, listed, read⟩ := List.mem_filterMap.mp member
    have size := empty line (others line listed) l read
    have inside := of_decide_eq_true contains
    unfold Extent.Contains at inside
    omega
  rw [listSections_listing ascii plain whole, sectionContaining, List.find?_append,
    List.find?_append, none before fun _ => List.mem_append_left after,
    none after fun _ => List.mem_append_right before, Option.none_or, Option.or_none,
    List.find?_map]
  rfl

/-- The section that contains the address is loaded and holds the range: it is mapped. -/
theorem mapped_of_first {table : List Section} {data : Bytes} {s : Section} {len : Nat}
    (first : (table.filter (·.type ≠ NOBITS)).find? (fun s => s.Contains addr) = some s)
    (holds : s.Holds addr len) : Mapped table data s.listed addr len := by
  obtain ⟨member, stored⟩ := List.mem_filter.mp (List.mem_of_find?_eq_some first)
  exact .inl ⟨s, member, holds, of_decide_eq_true stored, rfl⟩

end listing

section sample

/-- The Python of an image whose listings are ASCII. -/
def Python.plain : Python where
  isDecimal := Char.isDigit
  isWord c := c.isAlphanum || c == '_'
  lower text := text.map Char.toLower

/-- An image with these sections, with the symbols at these addresses. -/
def sampleImage (table : List Section) (start sizeAddr : Nat) (data : Bytes) : Inputs where
  header := some "  Data:    2's complement, little endian\n".toList
  symbols := some (unlines ([⟨sizeSymbol, 'D', some sizeAddr⟩,
    ⟨startSymbol, 'D', some start⟩].map symbolLine))
  sections := some (unlines (table.map fun s => sectionLine 1 s "00   A  0   0  4".toList))
  data := some data

/-- An image of four bytes, and their number behind it. -/
def ramfsTable : List Section :=
  [⟨⟨0xc0000000, 4, 4⟩, ".init.ramfs".toList, "PROGBITS".toList, true⟩,
    ⟨⟨0xc0000004, 8, 4⟩, ".init.ramfs.info".toList, "PROGBITS".toList, true⟩]

def ramfsData (size : UInt8) : Bytes := [127, 69, 76, 70, 1, 2, 3, 4, size, 0, 0, 0, 5, 6, 7, 8]

/-- The number and the image in a section at address 0, and a section that is not loaded. -/
def lowTable : List Section :=
  [⟨⟨0, 4, 8⟩, ".comment".toList, "PROGBITS".toList, false⟩,
    ⟨⟨0, 12, 8⟩, ".init.ramfs".toList, "PROGBITS".toList, true⟩]

def lowData : Bytes := [127, 69, 76, 70, 4, 0, 0, 0, 71, 67, 67, 0, 4, 0, 0, 0, 1, 2, 3, 4]

def ramfsExtraction (blob : Bytes) : Extraction :=
  ⟨.little, 0xc0000000, ⟨⟨0xc0000000, 4, 4⟩, ".init.ramfs".toList⟩, 0xc0000004,
    ⟨⟨0xc0000004, 8, 4⟩, ".init.ramfs.info".toList⟩, blob⟩

theorem extracts_right_iff_ramfs :
    Right ramfsTable (ramfsData 4) (ramfsExtraction [1, 2, 3, 4]) := by
  have ran : main .plain (sampleImage ramfsTable 0xc0000000 0xc0000004 (ramfsData 4)) =
      .ok (ramfsExtraction [1, 2, 3, 4]) := by decide +kernel
  refine (extracts_right_iff ran).mpr ?_
  obtain ⟨header, symbols, listing, data, given, x⟩ := main_ok ran
  rw [given]
  exact (wellMapped_iff x).mpr ⟨.inl (by decide +kernel), .inl (by decide +kernel)⟩

/-- A size of 8 takes four bytes from behind the section. And a section that is not loaded is
taken for the one at address 0. -/
theorem extracts_wrong :
    (main .plain (sampleImage ramfsTable 0xc0000000 0xc0000004 (ramfsData 8)) =
        .ok (ramfsExtraction [1, 2, 3, 4, 8, 0, 0, 0]) ∧
      ¬ Right ramfsTable (ramfsData 8) (ramfsExtraction [1, 2, 3, 4, 8, 0, 0, 0])) ∧
    ∃ e, main .plain (sampleImage lowTable 4 0 lowData) = .ok e ∧ e.blob = [71, 67, 67, 0] ∧
      ¬ Right lowTable lowData e := by
  refine ⟨⟨by decide +kernel, ?_⟩, ⟨.little, 4, ⟨⟨0, 4, 8⟩, ".comment".toList⟩, 0,
    ⟨⟨0, 4, 8⟩, ".comment".toList⟩, [71, 67, 67, 0]⟩, by decide +kernel, rfl, ?_⟩
  · rintro ⟨blob, _⟩
    revert blob
    decide +kernel
  · rintro ⟨blob, _⟩
    revert blob
    decide +kernel

end sample

end VitaLinux.Tools.Initramfs
