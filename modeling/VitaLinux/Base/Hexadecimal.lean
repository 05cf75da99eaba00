import Mathlib.Data.Nat.Digits.Lemmas
import VitaLinux.Base.Lines

/-!
# Hexadecimal numbers and stored numbers

Numbers as a listing prints them, with zeros in front, and numbers as a file stores them, in
either byte order.
-/

namespace VitaLinux.Base

def isHex (c : Char) : Bool :=
  c.isDigit || ('a' ≤ c && c ≤ 'f') || ('A' ≤ c && c ≤ 'F')

def hexDigit (c : Char) : Nat :=
  if c.isDigit then c.toNat - 48
  else if 'a' ≤ c ∧ c ≤ 'f' then c.toNat - 87
  else c.toNat - 55

/-- The number that the digits spell. -/
def hexValue (digits : Text) : Nat := digits.foldl (fun n c => 16 * n + hexDigit c) 0

/-- A number in lower case, with zeros up to a width. -/
def hexText (width n : Nat) : Text :=
  List.replicate (width - (Nat.toDigits 16 n).length) '0' ++ Nat.toDigits 16 n

theorem digitChar_hex : ∀ d < 16, isHex d.digitChar = true ∧ hexDigit d.digitChar = d := by
  decide

theorem hexValue_concat (digits : Text) (c : Char) :
    hexValue (digits ++ [c]) = 16 * hexValue digits + hexDigit c := by
  rw [hexValue, List.foldl_append]
  rfl

theorem hexValue_toDigits (n : Nat) : hexValue (Nat.toDigits 16 n) = n := by
  induction n using Nat.strongRecOn with
  | ind n ih =>
    have last := (digitChar_hex (n % 16) (Nat.mod_lt n (by decide))).2
    rw [Nat.toDigits_eq_if (by decide)]
    split
    · next small =>
      rw [Nat.mod_eq_of_lt small] at last
      simp [hexValue, last]
    · next large =>
      rw [hexValue_concat, ih (n / 16) (by omega), last]
      omega

theorem isHex_toDigits (n : Nat) : ∀ c ∈ Nat.toDigits 16 n, isHex c = true := by
  induction n using Nat.strongRecOn with
  | ind n ih =>
    rw [Nat.toDigits_eq_if (by decide)]
    split
    · next small =>
      intro c member
      rw [List.mem_singleton.mp member]
      exact (digitChar_hex n small).1
    · next large =>
      intro c member
      obtain earlier | last := List.mem_append.mp member
      · exact ih (n / 16) (by omega) c earlier
      · rw [List.mem_singleton.mp last]
        exact (digitChar_hex (n % 16) (Nat.mod_lt n (by decide))).1

/-- A printed number is read back. -/
theorem hexValue_hexText (width n : Nat) : hexValue (hexText width n) = n := by
  have zeros : ∀ k, (List.replicate k '0').foldl (fun n c => 16 * n + hexDigit c) 0 = 0 := by
    intro k
    induction k with
    | zero => rfl
    | succ k ih => rw [List.replicate_succ', List.foldl_append, ih]; rfl
  rw [hexText, hexValue, List.foldl_append, zeros]
  exact hexValue_toDigits n

theorem isHex_hexText (width n : Nat) : ∀ c ∈ hexText width n, isHex c = true := by
  intro c member
  obtain zero | digit := List.mem_append.mp member
  · rw [List.eq_of_mem_replicate zero]
    decide
  · exact isHex_toDigits n c digit

theorem hexText_ne_nil (width n : Nat) : hexText width n ≠ [] :=
  fun empty => Nat.toDigits_ne_nil (List.append_eq_nil_iff.mp empty).2

/-! ## Stored numbers -/

inductive ByteOrder where
  | little
  | big
  deriving DecidableEq, Repr

/-- The unsigned number that the bytes store. -/
def ByteOrder.value : ByteOrder → List UInt8 → Nat
  | .little, bytes => Nat.ofDigits 256 (bytes.map UInt8.toNat)
  | .big, bytes => Nat.ofDigits 256 (bytes.reverse.map UInt8.toNat)

theorem ofDigits_bytes_inj {a b : List UInt8} (same : a.length = b.length)
    (equal : Nat.ofDigits 256 (a.map UInt8.toNat) = Nat.ofDigits 256 (b.map UInt8.toNat)) :
    a = b := by
  have small : ∀ bytes : List UInt8, ∀ d ∈ bytes.map UInt8.toNat, d < 256 := by
    intro bytes d member
    obtain ⟨byte, _, rfl⟩ := List.mem_map.mp member
    exact byte.toNat_lt
  have digits := Nat.ofDigits_inj_of_len_eq (by decide) (by simpa using same) (small a) (small b)
    equal
  exact List.map_injective_iff.mpr (fun _ _ => UInt8.toNat_inj.mp) digits

/-- Bytes of one length that store the same number are the same. -/
theorem ByteOrder.value_inj (order : ByteOrder) {a b : List UInt8} (same : a.length = b.length)
    (equal : order.value a = order.value b) : a = b := by
  cases order with
  | little => exact ofDigits_bytes_inj same equal
  | big => exact List.reverse_injective (ofDigits_bytes_inj (by simpa using same) equal)

end VitaLinux.Base
