import VitaLinux.Base.Decimal

/-!
# PPM files

`read_ppm` and what it makes of well-formed files: a header of three decimal numbers with
white space and comments between them, one white-space byte, and the raster.
-/

namespace VitaLinux.Cart.FlashCheck

open VitaLinux.Base

/-- How a run ends early: `die`, or an exception that nothing catches. -/
inductive Stop where
  | died | raised
  deriving DecidableEq, Repr

/-- `in b" \t\r\n"` -/
def isBlank (c : UInt8) : Bool := c = 32 || c = 9 || c = 13 || c = 10

/-- `in b"\r\n"` -/
def isLineEnd (c : UInt8) : Bool := c = 13 || c = 10

/-- White space and comments are skipped; `comment` while inside a comment. -/
def skipBlank (comment : Bool) : List UInt8 → List UInt8
  | [] => []
  | c :: rest =>
    if comment then if isLineEnd c then skipBlank false rest else skipBlank true rest
    else if isBlank c then skipBlank false rest
    else if c = 35 then skipBlank true rest
    else c :: rest

/-- The next token of the header, and what follows it. -/
def nextToken (data : List UInt8) : List UInt8 × List UInt8 :=
  let rest := skipBlank false data
  (rest.takeWhile fun c => !isBlank c, rest.dropWhile fun c => !isBlank c)

/-- Digits, with single underscores between them. -/
def plainDigits : List UInt8 → Option (List UInt8)
  | [] => none
  | [c] => if isDigit c then some [c] else none
  | c :: 95 :: rest => if isDigit c then (c :: ·) <$> plainDigits rest else none
  | c :: rest => if isDigit c then (c :: ·) <$> plainDigits rest else none

/-- White space to `int`. -/
def isSpace (c : UInt8) : Bool := c = 32 || 9 ≤ c.toNat && c.toNat ≤ 13

/-- `int(token)` -/
def pyInt (token : List UInt8) : Option Int :=
  let stripped := ((token.dropWhile isSpace).reverse.dropWhile isSpace).reverse
  match stripped with
  | 43 :: digits => (fun text => (decimalValue text : Int)) <$> plainDigits digits
  | 45 :: digits => (fun text => -(decimalValue text : Int)) <$> plainDigits digits
  | digits => (fun text => (decimalValue text : Int)) <$> plainDigits digits

/-- `body[:n]` -/
def sliceTo (body : List UInt8) (n : Int) : List UInt8 :=
  if 0 ≤ n then body.take n.toNat else body.take (body.length - (-n).toNat)

def readPpm (data : List UInt8) : Except Stop (Int × Int × List UInt8) :=
  if data.take 2 ≠ [80, 54] then throw .raised
  else
    let first := nextToken (data.drop 2)
    let second := nextToken first.2
    let third := nextToken second.2
    match pyInt first.1, pyInt second.1, pyInt third.1 with
    | some width, some height, some maxval =>
      if maxval ≠ 255 then throw .raised
      else
        let body := third.2.drop 1
        if (body.length : Int) < width * height * 3 then throw .raised
        else return (width, height, sliceTo body (width * height * 3))
    | _, _, _ => throw .raised

/-- White space and comments between the numbers of a header. -/
inductive Gap : List UInt8 → Prop where
  | nil : Gap []
  | blank {c : UInt8} {rest : List UInt8} (blank : isBlank c = true) (gap : Gap rest) :
      Gap (c :: rest)
  | comment {text rest : List UInt8} {c : UInt8} (line : ∀ b ∈ text, isLineEnd b = false)
      (ends : isLineEnd c = true) (gap : Gap rest) : Gap (35 :: (text ++ c :: rest))

/-- A decimal number. -/
structure Numeral (n : Nat) (text : List UInt8) : Prop where
  some : text ≠ []
  digits : ∀ c ∈ text, isDigit c = true
  value : decimalValue text = n

/-- A number of the header, after white space. -/
inductive Field (n : Nat) : List UInt8 → Prop where
  | field {c : UInt8} {gap text : List UInt8} (blank : isBlank c = true) (between : Gap gap)
      (number : Numeral n text) : Field n (c :: (gap ++ text))

/-- A PPM file of one picture with 8-bit samples. -/
inductive Ppm (width height : Nat) (raster : List UInt8) : List UInt8 → Prop where
  | file {w h m : List UInt8} {c : UInt8} (wide : 0 < width) (high : 0 < height)
      (whole : raster.length = width * height * 3) (first : Field width w) (second : Field height h)
      (third : Field 255 m) (blank : isBlank c = true) :
      Ppm width height raster ([80, 54] ++ (w ++ (h ++ (m ++ c :: raster))))

theorem isDigit_plain {c : UInt8} (digit : isDigit c = true) :
    isBlank c = false ∧ isSpace c = false ∧ c ≠ 35 ∧ c ≠ 43 ∧ c ≠ 45 ∧ c ≠ 95 := by
  have bounds : 48 ≤ c.toNat ∧ c.toNat ≤ 57 := by simpa [isDigit] using digit
  have other : ∀ n : UInt8, n.toNat < 48 ∨ 57 < n.toNat → c ≠ n := by
    rintro n outside rfl
    omega
  refine ⟨?_, ?_, other 35 (by decide), other 43 (by decide), other 45 (by decide),
    other 95 (by decide)⟩
  · unfold isBlank
    simp [other 32 (by decide), other 9 (by decide), other 13 (by decide), other 10 (by decide)]
  · unfold isSpace
    simp [other 32 (by decide)]
    omega

theorem skipBlank_comment {text rest : List UInt8} {c : UInt8}
    (line : ∀ b ∈ text, isLineEnd b = false) (ends : isLineEnd c = true) :
    skipBlank true (text ++ c :: rest) = skipBlank false rest := by
  induction text with
  | nil => simp [skipBlank, ends]
  | cons b text ih =>
    obtain ⟨first, others⟩ := List.forall_mem_cons.mp line
    rw [List.cons_append, skipBlank, if_pos rfl, if_neg (by simp [first])]
    exact ih others

theorem skipBlank_gap {gap rest : List UInt8} (h : Gap gap) :
    skipBlank false (gap ++ rest) = skipBlank false rest := by
  induction h with
  | nil => rfl
  | blank blank gap ih =>
    rw [List.cons_append, skipBlank, if_neg Bool.false_ne_true, if_pos blank]
    exact ih
  | comment line ends gap ih =>
    rw [List.cons_append, skipBlank, if_neg Bool.false_ne_true, if_neg (by decide), if_pos rfl,
      List.append_assoc, List.cons_append, skipBlank_comment line ends]
    exact ih

theorem Field.starts {n : Nat} {field : List UInt8} (h : Field n field) (rest : List UInt8) :
    ∃ d more, field ++ rest = d :: more ∧ isBlank d = true := by
  cases h with
  | @field c gap text first between number => exact ⟨c, (gap ++ text) ++ rest, rfl, first⟩

/-- The token ends where the next white space starts. -/
theorem nextToken_field {n : Nat} {field rest : List UInt8} (h : Field n field)
    (ends : ∃ d more, rest = d :: more ∧ isBlank d = true) :
    ∃ text, Numeral n text ∧ nextToken (field ++ rest) = (text, rest) := by
  obtain ⟨d, rest, rfl, blank⟩ := ends
  cases h with
  | @field c gap text first between number =>
    refine ⟨text, number, ?_⟩
    have plain : ∀ c ∈ text, (!isBlank c) = true := by
      intro c member
      rw [(isDigit_plain (number.digits c member)).1]
      rfl
    have skipped : skipBlank false (c :: (gap ++ text) ++ d :: rest) = text ++ d :: rest := by
      obtain ⟨b, others, rfl⟩ := List.exists_cons_of_ne_nil number.some
      obtain ⟨notBlank, _, notComment, _⟩ := isDigit_plain (number.digits b List.mem_cons_self)
      rw [List.cons_append, List.append_assoc, skipBlank, if_neg Bool.false_ne_true,
        if_pos first, skipBlank_gap between, List.cons_append, skipBlank,
        if_neg Bool.false_ne_true, if_neg (by simp [notBlank]), if_neg notComment]
    unfold nextToken
    simp only [skipped]
    rw [List.takeWhile_append_of_pos plain, List.dropWhile_append_of_pos plain,
      List.takeWhile_cons_of_neg (by simp [blank]), List.dropWhile_cons_of_neg (by simp [blank]),
      List.append_nil]

theorem plainDigits_digits {text : List UInt8} (some : text ≠ [])
    (digits : ∀ c ∈ text, isDigit c = true) : plainDigits text = Option.some text := by
  induction text with
  | nil => exact absurd rfl some
  | cons c rest ih =>
    obtain ⟨first, others⟩ := List.forall_mem_cons.mp digits
    cases rest with
    | nil => simp [plainDigits, first]
    | cons d rest =>
      have plain := (isDigit_plain (others d List.mem_cons_self)).2.2.2.2.2
      have later := ih (List.cons_ne_nil _ _) others
      rw [plainDigits]
      · rw [if_pos first, later]
        rfl
      · exact List.cons_ne_nil _ _
      · rintro _ same
        cases same
        exact plain rfl

theorem dropWhile_isSpace {text : List UInt8} (digits : ∀ c ∈ text, isDigit c = true) :
    text.dropWhile isSpace = text := by
  cases text with
  | nil => rfl
  | cons c rest =>
    have plain := (isDigit_plain (digits c List.mem_cons_self)).2.1
    rw [List.dropWhile_cons_of_neg (by simp [plain])]

theorem pyInt_numeral {n : Nat} {text : List UInt8} (h : Numeral n text) :
    pyInt text = some (n : Int) := by
  have reversed : ∀ c ∈ text.reverse, isDigit c = true :=
    fun c member => h.digits c (List.mem_reverse.mp member)
  have stripped : ((text.dropWhile isSpace).reverse.dropWhile isSpace).reverse = text := by
    rw [dropWhile_isSpace h.digits, dropWhile_isSpace reversed, List.reverse_reverse]
  have read : (fun text => (decimalValue text : Int)) <$> plainDigits text = some (n : Int) := by
    rw [plainDigits_digits h.some h.digits]
    exact congrArg (fun n : Nat => some (n : Int)) h.value
  unfold pyInt
  simp only [stripped]
  split
  · next digits => exact absurd rfl (isDigit_plain (h.digits 43 List.mem_cons_self)).2.2.2.1
  · next digits => exact absurd rfl (isDigit_plain (h.digits 45 List.mem_cons_self)).2.2.2.2.1
  · exact read

/-- A well-formed file is read as it is. -/
theorem readPpm_ppm {width height : Nat} {raster data : List UInt8}
    (h : Ppm width height raster data) :
    readPpm data = .ok ((width : Int), (height : Int), raster) := by
  cases h with
  | @file w h m c wide high whole first second third blank =>
    obtain ⟨widthText, widthNumeral, widthToken⟩ :=
      nextToken_field first (second.starts (m ++ c :: raster))
    obtain ⟨heightText, heightNumeral, heightToken⟩ :=
      nextToken_field second (third.starts (c :: raster))
    obtain ⟨maxText, maxNumeral, maxToken⟩ :=
      nextToken_field third ⟨c, raster, rfl, blank⟩
    have magic : ([80, 54] ++ (w ++ (h ++ (m ++ c :: raster)))).drop 2 =
        w ++ (h ++ (m ++ c :: raster)) := rfl
    have all : raster.take (width * height * 3) = raster := by
      rw [← whole, List.take_length]
    unfold readPpm
    simp only [magic, widthToken, heightToken, maxToken, pyInt_numeral widthNumeral,
      pyInt_numeral heightNumeral, pyInt_numeral maxNumeral, List.drop_one, List.tail_cons]
    rw [if_neg (by simp), if_neg (by simp), if_neg (by rw [whole]; push_cast; omega)]
    unfold sliceTo
    rw [if_pos (by positivity)]
    have size : ((width : Int) * height * 3).toNat = width * height * 3 := by
      exact_mod_cast Int.toNat_natCast (width * height * 3)
    rw [size, all]
    rfl

end VitaLinux.Cart.FlashCheck
