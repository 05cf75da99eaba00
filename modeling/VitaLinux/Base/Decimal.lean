import Mathlib.Data.Nat.Digits.Lemmas

/-!
# Decimal text

Numbers as ASCII decimal digits, the way `%llu` prints them, and the value of a
run of digits. Printing and reading back is the identity (`decimalValue_decimal`).
-/

namespace VitaLinux.Base

/-- `'0' ≤ c ≤ '9'` -/
def isDigit (c : UInt8) : Bool := 48 ≤ c.toNat && c.toNat ≤ 57

def digitByte (d : Nat) : UInt8 := UInt8.ofNat (48 + d)

def digitValue (c : UInt8) : Nat := c.toNat - 48

/-- The decimal digits of a number, most significant first, without leading zeros. -/
def decimal (n : Nat) : List UInt8 :=
  if n = 0 then [digitByte 0] else ((Nat.digits 10 n).map digitByte).reverse

/-- The number that a run of digits denotes. -/
def decimalValue (digits : List UInt8) : Nat :=
  digits.foldl (fun value c => digitValue c + 10 * value) 0

theorem digitByte_toNat {d : Nat} (h : d < 10) : (digitByte d).toNat = 48 + d := by
  unfold digitByte
  rw [UInt8.toNat_ofNat']
  omega

theorem digitValue_digitByte {d : Nat} (h : d < 10) : digitValue (digitByte d) = d := by
  unfold digitValue
  rw [digitByte_toNat h]
  omega

theorem isDigit_digitByte {d : Nat} (h : d < 10) : isDigit (digitByte d) = true := by
  unfold isDigit
  rw [digitByte_toNat h]
  simp only [Bool.and_eq_true, decide_eq_true_eq]
  omega

theorem digits_lt_ten {n d : Nat} (h : d ∈ Nat.digits 10 n) : d < 10 :=
  Nat.digits_lt_base (by decide) h

/-- Reading the bytes of little-endian digits from the far end gives `Nat.ofDigits`. -/
theorem decimalValue_map_reverse {digits : List Nat} (small : ∀ d ∈ digits, d < 10) :
    decimalValue (digits.map digitByte).reverse = Nat.ofDigits 10 digits := by
  unfold decimalValue
  rw [List.foldl_reverse]
  induction digits with
  | nil => rfl
  | cons d digits ih =>
    have first : d < 10 := small d (by simp)
    have rest := ih fun e he => small e (List.mem_cons_of_mem _ he)
    simp only [List.map_cons, List.foldr_cons]
    rw [rest, digitValue_digitByte first, Nat.ofDigits_cons]

theorem decimalValue_decimal (n : Nat) : decimalValue (decimal n) = n := by
  unfold decimal
  split
  · next zero => rw [zero]; rfl
  · rw [decimalValue_map_reverse fun d hd => digits_lt_ten hd, Nat.ofDigits_digits]

theorem isDigit_decimal {n : Nat} {c : UInt8} (h : c ∈ decimal n) : isDigit c = true := by
  unfold decimal at h
  split at h
  · rw [List.mem_singleton.mp h]
    exact isDigit_digitByte (by decide)
  · obtain ⟨d, member, rfl⟩ := List.mem_map.mp (List.mem_reverse.mp h)
    exact isDigit_digitByte (digits_lt_ten member)

theorem decimal_ne_nil (n : Nat) : decimal n ≠ [] := by
  unfold decimal
  split
  · exact List.cons_ne_nil _ _
  · next positive =>
    intro empty
    rw [List.reverse_eq_nil_iff, List.map_eq_nil_iff, Nat.digits_eq_nil_iff_eq_zero] at empty
    exact positive empty

/-- A number below `10 ^ k` has at most `k` digits. -/
theorem decimal_length_le {n k : Nat} (positive : 0 < k) (h : n < 10 ^ k) :
    (decimal n).length ≤ k := by
  unfold decimal
  split
  · exact positive
  · rw [List.length_reverse, List.length_map]
    exact (Nat.digits_length_le_iff (by decide) n).mpr h

end VitaLinux.Base
