import VitaLinux.Base.Extents
import VitaLinux.Base.Hexadecimal

/-!
# What nm and readelf print

vita-extract-initramfs.py reads the tables of an ELF image from the listings of nm and
readelf, line by line, with regular expressions. A section whose name is one word is read as
it is listed (`listSections_listing`), and so is a symbol (`findSymbolAddr_listing`).
-/

namespace VitaLinux.Tools.Initramfs

open VitaLinux.Base

/-- What Python leaves to Unicode: `\d`, `\w`, and `str.lower`. -/
structure Python where
  isDecimal : Char → Bool
  isWord : Char → Bool
  lower : Text → Text

def spaces : List Nat :=
  [0x09, 0x0a, 0x0b, 0x0c, 0x0d, 0x1c, 0x1d, 0x1e, 0x1f, 0x20, 0x85, 0xa0, 0x1680, 0x2000, 0x2001,
    0x2002, 0x2003, 0x2004, 0x2005, 0x2006, 0x2007, 0x2008, 0x2009, 0x200a, 0x2028, 0x2029, 0x202f,
    0x205f, 0x3000]

/-- `\s`, and what `str.strip` strips -/
def isSpace (c : Char) : Bool := spaces.contains c.toNat

def isLineBreak (c : Char) : Bool :=
  [0x0a, 0x0b, 0x0c, 0x0d, 0x1c, 0x1d, 0x1e, 0x85, 0x2028, 0x2029].contains c.toNat

/-- `str.splitlines` -/
def splitlines : Text → List Text
  | [] => []
  | '\r' :: '\n' :: rest => [] :: splitlines rest
  | c :: rest =>
    if isLineBreak c then [] :: splitlines rest
    else
      match splitlines rest with
      | [] => [[c]]
      | line :: others => (c :: line) :: others

/-- The pieces of a line between spaces. -/
def pieces (line : Text) : List Text := (line.splitOnP isSpace).filter (· ≠ [])

/-- A match of `^([0-9a-fA-F]+)\s+\S\s+(\S+)$` for the symbol. -/
def symbolMatch (name line : Text) : Option Nat :=
  match pieces line with
  | [value, [_], symbol] =>
    if value.all isHex ∧ symbol = name then some (hexValue value) else none
  | _ => none

def findSymbolAddr (listing name : Text) : Option Nat :=
  (splitlines listing).findSome? (symbolMatch name)

/-- The groups of `SECTION_RE`. -/
structure SectionLine where
  name : Text
  type : Text
  addr : Text
  off : Text
  size : Text
  deriving DecidableEq, Repr

section sections

variable (py : Python)

/-- `[0-9a-fA-F]+\b` at the start of a piece -/
def leadingHex (piece : Text) : Option Text :=
  let digits := piece.takeWhile isHex
  if digits = [] then none
  else
    match piece.dropWhile isHex with
    | [] => some digits
    | c :: _ => if py.isWord c then none else some digits

/-- The groups after the name. -/
def sectionGroups (name : Text) : List Text → Option SectionLine
  | type :: addr :: off :: size :: _ =>
    if addr.all isHex ∧ off.all isHex then
      (leadingHex py size).map fun digits => ⟨name, type, addr, off, digits⟩
    else none
  | _ => none

/-- The groups after the bracket. The name may be empty where there are two spaces or more:
the expression gives one of them back and takes the next piece for the type. -/
def afterBracket (rest : Text) : Option SectionLine :=
  match (rest.takeWhile isSpace).length, pieces rest with
  | 0, _ => none
  | _, [] => none
  | blanks, name :: others =>
    (sectionGroups py name others).or
      (if 2 ≤ blanks then sectionGroups py [] (name :: others) else none)

/-- `SECTION_RE.match` -/
def sectionMatch (line : Text) : Option SectionLine :=
  match line.dropWhile isSpace with
  | '[' :: rest =>
    let number := rest.dropWhile isSpace
    match number.takeWhile py.isDecimal, number.dropWhile py.isDecimal with
    | _ :: _, ']' :: rest => afterBracket py rest
    | _, _ => none
  | _ => none

/-- A section of `list_sections`. -/
structure Listed extends Extent where
  name : Text
  deriving DecidableEq, Repr

def NOBITS : Text := "NOBITS".toList

/-- The section of a line, unless it has no place in the file. -/
def listedOn (line : Text) : Option Listed :=
  match sectionMatch py line with
  | some m =>
    if m.type = NOBITS then none
    else some ⟨⟨hexValue m.addr, hexValue m.off, hexValue m.size⟩, m.name⟩
  | none => none

def listSections (listing : Text) : List Listed := (splitlines listing).filterMap (listedOn py)

def checkEndianness (header : Text) : Option ByteOrder :=
  if "little endian".toList <:+: py.lower header then some .little
  else if "big endian".toList <:+: py.lower header then some .big
  else none

end sections

/-! ## The listings of a table -/

/-- A section of the table of an ELF image. -/
structure Section extends Extent where
  name : Text
  type : Text
  /-- the flag `A`: the section is loaded -/
  alloc : Bool
  deriving DecidableEq, Repr

def padLeft (width : Nat) (text : Text) : Text :=
  List.replicate (width - text.length) ' ' ++ text

def padRight (width : Nat) (text : Text) : Text :=
  text ++ List.replicate (width - text.length) ' '

/-- A line of `readelf -S -W`; `rest` is the entry size and what follows it. -/
def sectionLine (nr : Nat) (s : Section) (rest : Text) : Text :=
  "  [".toList ++ padLeft 2 (Nat.toDigits 10 nr) ++ ']' :: ' ' :: (padRight 17 s.name ++ ' ' ::
    (padRight 15 s.type ++ ' ' :: (hexText 8 s.addr ++ ' ' :: (hexText 6 s.off ++ ' ' ::
      (hexText 6 s.size ++ ' ' :: rest)))))

/-- A section as `list_sections` has it. -/
def Section.listed (s : Section) : Listed := ⟨s.toExtent, s.name⟩

structure Symbol where
  name : Text
  kind : Char
  /-- nothing for an undefined symbol -/
  value : Option Nat
  deriving DecidableEq, Repr

/-- A line of `nm`. -/
def symbolLine (s : Symbol) : Text :=
  (match s.value with
    | some value => hexText 8 value
    | none => List.replicate 8 ' ') ++ ' ' :: s.kind :: ' ' :: s.name

/-- The text is one piece. -/
structure OneWord (text : Text) : Prop where
  nonempty : text ≠ []
  whole : ∀ c ∈ text, isSpace c = false

section pieces

theorem pieces_space {c : Char} (space : isSpace c = true) (before after : Text) :
    pieces (before ++ c :: after) = pieces before ++ pieces after := by
  rw [pieces, List.splitOnP_append_cons before after space, List.filter_append]
  rfl

theorem pieces_word {word : Text} (one : OneWord word) : pieces word = [word] := by
  rw [pieces, List.splitOnP_eq_singleton one.whole]
  simp [one.nonempty]

theorem pieces_word_space {word : Text} (one : OneWord word) (rest : Text) :
    pieces (word ++ ' ' :: rest) = word :: pieces rest := by
  rw [pieces_space (by decide), pieces_word one]
  rfl

theorem pieces_blank (rest : Text) : pieces (' ' :: rest) = pieces rest :=
  pieces_space (c := ' ') (by decide) [] rest

theorem pieces_blanks (k : Nat) (rest : Text) :
    pieces (List.replicate k ' ' ++ rest) = pieces rest := by
  induction k with
  | zero => rfl
  | succ k ih => rw [List.replicate_succ, List.cons_append, pieces_blank, ih]

theorem pieces_padRight (width : Nat) {word : Text} (one : OneWord word) (rest : Text) :
    pieces (padRight width word ++ ' ' :: rest) = word :: pieces rest := by
  have blanks : padRight width word ++ ' ' :: rest =
      word ++ ' ' :: (List.replicate (width - word.length) ' ' ++ rest) := by
    rw [padRight, List.append_assoc, ← List.singleton_append, ← List.append_assoc _ [' '],
      ← List.replicate_succ', List.replicate_succ]
    rfl
  rw [blanks, pieces_word_space one, pieces_blanks]

/-- A kind of characters without spaces. -/
theorem not_isSpace {p : Char → Bool} (none : ∀ n ∈ spaces, p (Char.ofNat n) = false) {c : Char}
    (kind : p c = true) : isSpace c = false := by
  cases space : isSpace c with
  | false => rfl
  | true =>
    rw [isSpace, List.contains_iff_mem] at space
    have other := none c.toNat space
    rw [Char.ofNat_toNat, kind] at other
    cases other

theorem oneWord_hexText (width n : Nat) : OneWord (hexText width n) :=
  ⟨hexText_ne_nil width n, fun c member =>
    not_isSpace (p := isHex) (by decide) (isHex_hexText width n c member)⟩

theorem digits_solid (n : Nat) : ∀ c ∈ Nat.toDigits 10 n, isSpace c = false := fun _ member =>
  not_isSpace (p := Char.isDigit) (by decide)
    (Nat.isDigit_of_mem_toDigits (by decide) (by decide) member)

end pieces

section lines

theorem splitlines_line {line : Text} (whole : ∀ c ∈ line, isLineBreak c = false) (rest : Text) :
    splitlines (line ++ '\n' :: rest) = line :: splitlines rest := by
  induction line with
  | nil => rfl
  | cons c line ih =>
    obtain ⟨first, others⟩ := List.forall_mem_cons.mp whole
    rw [List.cons_append, splitlines, if_neg (by rw [first]; decide), ih others]
    rintro _ rfl
    exact absurd first (by decide)

/-- Lines without line breaks in them are read as they are printed. -/
theorem splitlines_unlines {ls : List Text} (whole : ∀ line ∈ ls, ∀ c ∈ line, isLineBreak c = false) :
    splitlines (unlines ls) = ls := by
  induction ls with
  | nil => rfl
  | cons line ls ih =>
    obtain ⟨first, others⟩ := List.forall_mem_cons.mp whole
    rw [unlines, List.flatMap_cons, List.append_assoc, List.singleton_append, splitlines_line first]
    exact congrArg (line :: ·) (ih others)

theorem not_isLineBreak {c : Char} (solid : isSpace c = false ∨ c = ' ') :
    isLineBreak c = false := by
  obtain solid | rfl := solid
  · cases lineBreak : isLineBreak c with
    | false => rfl
    | true =>
      rw [isLineBreak, List.contains_iff_mem] at lineBreak
      have spaces_of : ∀ n ∈ [0x0a, 0x0b, 0x0c, 0x0d, 0x1c, 0x1d, 0x1e, 0x85, 0x2028, 0x2029],
          n ∈ spaces := by decide
      rw [isSpace, ← Bool.not_eq_true, List.contains_iff_mem] at solid
      exact absurd (spaces_of _ lineBreak) solid
  · decide

end lines

section symbols

/-- The symbol is listed as three pieces. -/
structure Symbol.Plain (s : Symbol) : Prop where
  name : OneWord s.name
  kind : isSpace s.kind = false

theorem pieces_symbolLine {s : Symbol} (plain : s.Plain) :
    pieces (symbolLine s) = match s.value with
      | some value => [hexText 8 value, [s.kind], s.name]
      | none => [[s.kind], s.name] := by
  have kind : OneWord [s.kind] :=
    ⟨List.cons_ne_nil _ _, fun c member => List.mem_singleton.mp member ▸ plain.kind⟩
  have ends : pieces (s.kind :: ' ' :: s.name) = [[s.kind], s.name] := by
    rw [← List.singleton_append, pieces_word_space kind, pieces_word plain.name]
  unfold symbolLine
  cases s.value with
  | some value => rw [pieces_word_space (oneWord_hexText 8 value), ends]
  | none =>
    have blanks := pieces_blanks 9 (s.kind :: ' ' :: s.name)
    rw [ends] at blanks
    exact blanks

theorem symbolLine_whole {s : Symbol} (plain : s.Plain) :
    ∀ c ∈ symbolLine s, isLineBreak c = false := by
  have hex : ∀ value, ∀ c ∈ hexText 8 value, isSpace c = false :=
    fun value => (oneWord_hexText 8 value).whole
  have kind := plain.kind
  have name := plain.name.whole
  intro c member
  apply not_isLineBreak
  unfold symbolLine at member
  cases s.value <;> grind

theorem symbolMatch_symbolLine {s : Symbol} (plain : s.Plain) (name : Text) :
    symbolMatch name (symbolLine s) = if s.name = name then s.value else none := by
  rw [symbolMatch, pieces_symbolLine plain]
  cases s.value with
  | none => simp
  | some value =>
    have hex : (hexText 8 value).all isHex = true := List.all_eq_true.mpr (isHex_hexText 8 value)
    simp [hex, hexValue_hexText]

/-- The address that is found is that of the first symbol in the listing with the name. -/
theorem findSymbolAddr_listing {symbols : List Symbol} (plain : ∀ s ∈ symbols, s.Plain)
    (name : Text) : findSymbolAddr (unlines (symbols.map symbolLine)) name =
      symbols.findSome? fun s => if s.name = name then s.value else none := by
  have whole : ∀ line ∈ symbols.map symbolLine, ∀ c ∈ line, isLineBreak c = false := by
    intro line member
    obtain ⟨s, listed, rfl⟩ := List.mem_map.mp member
    exact symbolLine_whole (plain s listed)
  rw [findSymbolAddr, splitlines_unlines whole]
  clear whole
  induction symbols with
  | nil => rfl
  | cons s symbols ih =>
    obtain ⟨first, others⟩ := List.forall_mem_cons.mp plain
    rw [List.map_cons, List.findSome?_cons, List.findSome?_cons, symbolMatch_symbolLine first,
      ih others]

end symbols

section sections

/-- The section is listed as pieces. -/
structure Section.Plain (s : Section) : Prop where
  name : OneWord s.name
  type : OneWord s.type

/-- The digits, and no bracket, are decimal. -/
structure Python.Ascii (py : Python) : Prop where
  digit : ∀ c, c.isDigit = true → py.isDecimal c = true
  bracket : py.isDecimal ']' = false

variable {py : Python}

theorem leadingHex_hexText (width n : Nat) :
    leadingHex py (hexText width n) = some (hexText width n) := by
  have hex := isHex_hexText width n
  rw [leadingHex, List.takeWhile_eq_self_iff.mpr hex, List.dropWhile_eq_nil_iff.mpr hex,
    if_neg (hexText_ne_nil width n)]

/-- The columns after the number. -/
theorem afterBracket_columns {s : Section} (plain : s.Plain) (rest : Text) :
    afterBracket py (' ' :: (padRight 17 s.name ++ ' ' :: (padRight 15 s.type ++ ' ' ::
      (hexText 8 s.addr ++ ' ' :: (hexText 6 s.off ++ ' ' :: (hexText 6 s.size ++ ' ' :: rest)))))) =
      some ⟨s.name, s.type, hexText 8 s.addr, hexText 6 s.off, hexText 6 s.size⟩ := by
  obtain ⟨a, name, named⟩ := List.exists_cons_of_ne_nil plain.name.nonempty
  have solid : isSpace a = false := plain.name.whole a (named ▸ List.mem_cons_self)
  have one : ∀ after, (' ' :: (padRight 17 s.name ++ after)).takeWhile isSpace = [' '] := by
    intro after
    rw [padRight, named, List.takeWhile_cons_of_pos (by decide), List.append_assoc,
      List.cons_append, List.takeWhile_cons_of_neg (by rw [solid]; decide)]
  have columns : pieces (' ' :: (padRight 17 s.name ++ ' ' :: (padRight 15 s.type ++ ' ' ::
      (hexText 8 s.addr ++ ' ' :: (hexText 6 s.off ++ ' ' :: (hexText 6 s.size ++ ' ' :: rest)))))) =
      s.name :: s.type :: hexText 8 s.addr :: hexText 6 s.off :: hexText 6 s.size :: pieces rest := by
    rw [pieces_blank, pieces_padRight 17 plain.name, pieces_padRight 15 plain.type,
      pieces_word_space (oneWord_hexText 8 s.addr), pieces_word_space (oneWord_hexText 6 s.off),
      pieces_word_space (oneWord_hexText 6 s.size)]
  have hex : ∀ width n, (hexText width n).all isHex = true :=
    fun width n => List.all_eq_true.mpr (isHex_hexText width n)
  rw [afterBracket, one, columns]
  simp [sectionGroups, hex, leadingHex_hexText]

/-- A line of the table is read as it is printed. -/
theorem sectionMatch_sectionLine (ascii : py.Ascii) (nr : Nat) {s : Section} (plain : s.Plain)
    (rest : Text) : sectionMatch py (sectionLine nr s rest) =
      some ⟨s.name, s.type, hexText 8 s.addr, hexText 6 s.off, hexText 6 s.size⟩ := by
  obtain ⟨d, digits, spelled⟩ := List.exists_cons_of_ne_nil (Nat.toDigits_ne_nil (n := nr) (b := 10))
  have solid : isSpace d = false := digits_solid nr d (spelled ▸ List.mem_cons_self)
  have number : ∀ after, (padLeft 2 (Nat.toDigits 10 nr) ++ after).dropWhile isSpace =
      Nat.toDigits 10 nr ++ after := by
    intro after
    rw [padLeft, List.append_assoc, List.dropWhile_append_of_pos, spelled, List.cons_append,
      List.dropWhile_cons_of_neg (by rw [solid]; decide)]
    intro c member
    rw [List.eq_of_mem_replicate member]
    decide
  have decimal : ∀ c ∈ Nat.toDigits 10 nr, py.isDecimal c = true :=
    fun c member => ascii.digit c (Nat.isDigit_of_mem_toDigits (by decide) (by decide) member)
  have bracket : ¬ py.isDecimal ']' = true := by rw [ascii.bracket]; decide
  have taken : ∀ after, (Nat.toDigits 10 nr ++ ']' :: after).takeWhile py.isDecimal =
      d :: digits := by
    intro after
    rw [List.takeWhile_append_of_pos decimal, List.takeWhile_cons_of_neg bracket, List.append_nil,
      spelled]
  have dropped : ∀ after, (Nat.toDigits 10 nr ++ ']' :: after).dropWhile py.isDecimal =
      ']' :: after := by
    intro after
    rw [List.dropWhile_append_of_pos decimal, List.dropWhile_cons_of_neg bracket]
  have start : ∀ after, ("  [".toList ++ after).dropWhile isSpace = '[' :: after := fun _ => rfl
  rw [sectionMatch, sectionLine, List.append_assoc, start]
  simp only [number, taken, dropped]
  exact afterBracket_columns plain rest

theorem listedOn_sectionLine (ascii : py.Ascii) (nr : Nat) {s : Section} (plain : s.Plain)
    (rest : Text) : listedOn py (sectionLine nr s rest) =
      if s.type = NOBITS then none else some s.listed := by
  simp only [listedOn, sectionMatch_sectionLine ascii nr plain rest, hexValue_hexText]
  rfl

theorem sectionLine_whole (nr : Nat) {s : Section} (plain : s.Plain) {rest : Text}
    (ends : ∀ c ∈ rest, isLineBreak c = false) :
    ∀ c ∈ sectionLine nr s rest, isLineBreak c = false := by
  have digit : ∀ c ∈ Nat.toDigits 10 nr, isLineBreak c = false :=
    fun c member => not_isLineBreak (.inl (digits_solid nr c member))
  have hex : ∀ width n, ∀ c ∈ hexText width n, isLineBreak c = false :=
    fun width n c member => not_isLineBreak (.inl ((oneWord_hexText width n).whole c member))
  have name : ∀ c ∈ s.name, isLineBreak c = false :=
    fun c member => not_isLineBreak (.inl (plain.name.whole c member))
  have type : ∀ c ∈ s.type, isLineBreak c = false :=
    fun c member => not_isLineBreak (.inl (plain.type.whole c member))
  have marks : ∀ c ∈ [' ', '[', ']'], isLineBreak c = false := by simp [isLineBreak]
  intro c member
  simp only [sectionLine, padLeft, padRight, List.mem_append, List.mem_cons, List.mem_replicate]
    at member
  grind

/-- A table of sections with plain names, between lines of other kinds. -/
theorem listSections_listing (ascii : py.Ascii) {rows : List (Nat × Section × Text)}
    (plain : ∀ row ∈ rows, row.2.1.Plain ∧ ∀ c ∈ row.2.2, isLineBreak c = false)
    {before after : List Text} (whole : ∀ line ∈ before ++ after, ∀ c ∈ line, isLineBreak c = false) :
    listSections py (unlines (before ++ rows.map (fun row => sectionLine row.1 row.2.1 row.2.2) ++
        after)) =
      before.filterMap (listedOn py) ++
        ((rows.map fun row => row.2.1).filter (·.type ≠ NOBITS)).map Section.listed ++
        after.filterMap (listedOn py) := by
  obtain ⟨front, back⟩ := List.forall_mem_append.mp whole
  have table : ∀ line ∈ rows.map (fun row => sectionLine row.1 row.2.1 row.2.2),
      ∀ c ∈ line, isLineBreak c = false := by
    intro line member
    obtain ⟨row, listed, rfl⟩ := List.mem_map.mp member
    exact sectionLine_whole row.1 (plain row listed).1 (plain row listed).2
  rw [listSections, splitlines_unlines, List.filterMap_append, List.filterMap_append]
  · congr 2
    clear table
    induction rows with
    | nil => rfl
    | cons row rows ih =>
      obtain ⟨first, others⟩ := List.forall_mem_cons.mp plain
      rw [List.map_cons, List.filterMap_cons, listedOn_sectionLine ascii row.1 first.1, ih others]
      by_cases nobits : row.2.1.type = NOBITS <;> simp [nobits]
  · exact List.forall_mem_append.mpr ⟨List.forall_mem_append.mpr ⟨front, table⟩, back⟩

end sections

end VitaLinux.Tools.Initramfs
