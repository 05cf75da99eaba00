import Mathlib.Data.List.TakeWhile
import VitaLinux.Base.Decimal
import VitaLinux.Base.Machine

/-!
# The rate-limit state file of vita-control

`vita-control next` keeps the clock reading of the last trigger as decimal text in
a file. This module has what one invocation computes from that text; the order
in which several invocations touch the file is in `VitaLinux.Toolkit.Control.Next`.
-/

namespace VitaLinux.Toolkit.Control

open VitaLinux.Base

/-- The bytes before the terminating zero. -/
def cString (buffer : List UInt8) : List UInt8 :=
  buffer.takeWhile (· ≠ 0)

/-- `isspace` in the C locale -/
def isspace (c : UInt8) : Bool := c = 32 || (9 ≤ c.toNat && c.toNat ≤ 13)

/-- What `strtoull(text, &end, 10)` leaves behind: the value, `errno == ERANGE`, whether
`end` moved past `text`, and the text at `end`. -/
structure Strtoull where
  value : U64
  erange : Bool
  moved : Bool
  rest : List UInt8

def strtoull (text : List UInt8) : Strtoull :=
  let trimmed := text.dropWhile isspace
  let negative := trimmed.head? = some 45
  let unsigned := if negative || trimmed.head? = some 43 then trimmed.tail else trimmed
  let digits := unsigned.takeWhile isDigit
  if digits.isEmpty then
    { value := 0, erange := false, moved := false, rest := text }
  else if decimalValue digits > UINT64_MAX.toNat then
    { value := UINT64_MAX, erange := true, moved := true, rest := unsigned.dropWhile isDigit }
  else
    let magnitude := BitVec.ofNat 64 (decimalValue digits)
    { value := if negative then -magnitude else magnitude
      erange := false, moved := true, rest := unsigned.dropWhile isDigit }

def parseUnsigned (text : List UInt8) : Option U64 :=
  if text.isEmpty then
    none
  else
    let parsed := strtoull text
    if parsed.erange || !parsed.moved || !parsed.rest.isEmpty then none else some parsed.value

/-- An interval that `load_interval` accepts. -/
structure MinInterval where
  ms : U64
  bounded : ms ≤ 3600000
  deriving DecidableEq

/-- `"500"` -/
def defaultInterval : List UInt8 := [53, 48, 48]

/-- The interval of `--min-interval-ms`, else of `VITA_CONTROL_MIN_INTERVAL_MS`. -/
def loadInterval (override environment : Option (List UInt8)) : Option MinInterval :=
  match parseUnsigned ((override <|> environment).getD defaultInterval) with
  | none => none
  | some milliseconds =>
    if bounded : milliseconds ≤ 3600000 then some { ms := milliseconds, bounded } else none

/-- `interval_ms * 1000000ULL` -/
def MinInterval.ns (interval : MinInterval) : U64 := interval.ms * 1000000

def PID_BUFFER : Nat := 32

/-- The text that `update_rate_state` reads from the file into `previous_text`. -/
def previousText (file : List UInt8) : List UInt8 :=
  cString (file.take (PID_BUFFER - 1))

/-- The check of `update_rate_state`: `retry_ms` when the invocation is rate limited. An
empty or unreadable text and a timestamp after `now_ns` limit nothing. -/
def rateLimited (interval : MinInterval) (now_ns : U64) (file : List UInt8) : Option U64 :=
  match parseUnsigned (previousText file) with
  | none => none
  | some previous_ns =>
    if now_ns ≥ previous_ns then
      let elapsed_ns := now_ns - previous_ns
      if elapsed_ns < interval.ns then
        some ((interval.ns - elapsed_ns + 999999) / 1000000)
      else none
    else none

def nowText (now_ns : U64) : List UInt8 := decimal now_ns.toNat

/-- The nanoseconds of an accepted interval do not wrap. -/
theorem MinInterval.ns_toNat (interval : MinInterval) :
    interval.ns.toNat = interval.ms.toNat * 1000000 := by
  have bounded : interval.ms.toNat ≤ 3600000 := interval.bounded
  unfold MinInterval.ns
  rw [BitVec.toNat_mul]
  apply Nat.mod_eq_of_lt
  have scaled := Nat.mul_le_mul_right 1000000 bounded
  exact Nat.lt_of_le_of_lt scaled (by decide)

/-- `now_text` fits its buffer, so the length check of `update_rate_state` never fails. -/
theorem nowText_length (now_ns : U64) : (nowText now_ns).length < PID_BUFFER := by
  have small : now_ns.toNat < 10 ^ 20 := Nat.lt_trans now_ns.isLt (by decide)
  exact Nat.lt_of_le_of_lt (decimal_length_le (by decide) small) (by decide)

theorem isDigit_not_isspace {c : UInt8} (h : isDigit c = true) : isspace c = false := by
  simp only [isDigit, Bool.and_eq_true, decide_eq_true_eq] at h
  have notBlank : c ≠ 32 := by
    rintro rfl
    exact absurd h.1 (by decide)
  simp only [isspace, notBlank, decide_false, Bool.false_or, Bool.and_eq_false_iff,
    decide_eq_false_iff_not]
  omega

theorem isDigit_toNat {c : UInt8} (h : isDigit c = true) : 48 ≤ c.toNat := by
  simp only [isDigit, Bool.and_eq_true, decide_eq_true_eq] at h
  exact h.1

/-- Digits alone are read as their value. -/
theorem parseUnsigned_digits {text : List UInt8} (nonempty : text ≠ [])
    (digits : ∀ c ∈ text, isDigit c = true) (small : decimalValue text ≤ UINT64_MAX.toNat) :
    parseUnsigned text = some (BitVec.ofNat 64 (decimalValue text)) := by
  obtain ⟨c, rest, rfl⟩ := List.exists_cons_of_ne_nil nonempty
  have first : isDigit c = true := digits c (by simp)
  have bound := isDigit_toNat first
  have noSign : c ≠ 45 ∧ c ≠ 43 := by
    constructor <;> rintro rfl <;> exact absurd bound (by decide)
  have trimmed : (c :: rest).dropWhile isspace = c :: rest := by
    rw [List.dropWhile_cons_of_neg]
    simp [isDigit_not_isspace first]
  have taken : (c :: rest).takeWhile isDigit = c :: rest := List.takeWhile_eq_self_iff.mpr digits
  have dropped : (c :: rest).dropWhile isDigit = [] := List.dropWhile_eq_nil_iff.mpr digits
  have fits : ¬ decimalValue (c :: rest) > UINT64_MAX.toNat := Nat.not_lt.mpr small
  simp [parseUnsigned, strtoull, trimmed, noSign.1, noSign.2, taken, dropped, fits]

/-- What `update_rate_state` writes, the next invocation reads back. -/
theorem parseUnsigned_nowText (now_ns : U64) :
    parseUnsigned (previousText (nowText now_ns)) = some now_ns := by
  have short : (nowText now_ns).length ≤ PID_BUFFER - 1 := by
    have bound := nowText_length now_ns
    omega
  have text : previousText (nowText now_ns) = nowText now_ns := by
    unfold previousText cString
    rw [List.take_of_length_le short, List.takeWhile_eq_self_iff]
    intro c member
    have digit := isDigit_toNat (isDigit_decimal member)
    have notZero : c ≠ 0 := by
      rintro rfl
      exact absurd digit (by decide)
    simpa using notZero
  have value : decimalValue (nowText now_ns) = now_ns.toNat := decimalValue_decimal _
  have small : decimalValue (nowText now_ns) ≤ UINT64_MAX.toNat := by
    rw [value]
    have bound := now_ns.isLt
    have top : UINT64_MAX.toNat = 2 ^ 64 - 1 := by decide
    omega
  have read := parseUnsigned_digits (decimal_ne_nil _) (fun c h => isDigit_decimal h) small
  rw [text, nowText, read, ← nowText, value, BitVec.ofNat_toNat, BitVec.setWidth_eq]

/-- An invocation that is let through is an interval after the timestamp it read, or before
that timestamp. -/
theorem rateLimited_none {interval : MinInterval} {now_ns previous_ns : U64} {file : List UInt8}
    (readback : parseUnsigned (previousText file) = some previous_ns)
    (granted : rateLimited interval now_ns file = none) :
    now_ns.toNat < previous_ns.toNat ∨
      previous_ns.toNat + interval.ms.toNat * 1000000 ≤ now_ns.toNat := by
  unfold rateLimited at granted
  rw [readback] at granted
  by_cases order : now_ns ≥ previous_ns
  · right
    have elapsed : ¬ now_ns - previous_ns < interval.ns := by
      intro short
      simp [order, short] at granted
    have later : previous_ns.toNat ≤ now_ns.toNat := order
    rw [BitVec.lt_def, BitVec.toNat_sub_of_le order, interval.ns_toNat] at elapsed
    omega
  · left
    exact Nat.not_le.mp order

example : loadInterval none none = some { ms := 500, bounded := by decide } := by decide

end VitaLinux.Toolkit.Control
