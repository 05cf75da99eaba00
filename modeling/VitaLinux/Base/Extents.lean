import Mathlib.Data.List.Basic

/-!
# Extents

Ranges of addresses that a file holds, each from a place in the file on.
-/

namespace VitaLinux.Base

/-- The addresses from `addr` on, stored from the place `off` on. -/
structure Extent where
  addr : Nat
  off : Nat
  size : Nat
  deriving DecidableEq, Repr

namespace Extent

/-- The address is one of the extent. -/
def Contains (x : Extent) (addr : Nat) : Prop := x.addr ≤ addr ∧ addr < x.addr + x.size

instance (x : Extent) (addr : Nat) : Decidable (x.Contains addr) :=
  inferInstanceAs (Decidable (_ ∧ _))

/-- So are the `len` addresses from there on. -/
def Covers (x : Extent) (addr len : Nat) : Prop := x.addr ≤ addr ∧ addr + len ≤ x.addr + x.size

instance (x : Extent) (addr len : Nat) : Decidable (x.Covers addr len) :=
  inferInstanceAs (Decidable (_ ∧ _))

/-- Where the file holds the byte at the address. -/
def place (x : Extent) (addr : Nat) : Nat := x.off + (addr - x.addr)

theorem Covers.contains {x : Extent} {addr len : Nat} (h : x.Covers addr len) (some : 0 < len) :
    x.Contains addr :=
  ⟨h.1, by have := h.2; omega⟩

end Extent

/-- The bytes of a file from a place on, if it has so many. -/
def slice {α : Type} (file : List α) (off len : Nat) : Option (List α) :=
  if off + len ≤ file.length then some ((file.drop off).take len) else none

theorem slice_eq_some {α : Type} {file bytes : List α} {off len : Nat} (some : 0 < len) :
    slice file off len = .some bytes ↔ (file.drop off).take len = bytes ∧ bytes.length = len := by
  unfold slice
  constructor
  · intro found
    split at found
    · next inside =>
      obtain rfl := Option.some.inj found
      exact ⟨rfl, by rw [List.length_take, List.length_drop]; omega⟩
    · cases found
  · rintro ⟨rfl, whole⟩
    rw [List.length_take, List.length_drop] at whole
    rw [if_pos (by omega)]

theorem slice_length {α : Type} {file bytes : List α} {off len : Nat}
    (found : slice file off len = some bytes) : bytes.length = len := by
  unfold slice at found
  split at found
  · next inside =>
    obtain rfl := Option.some.inj found
    rw [List.length_take, List.length_drop]
    omega
  · cases found

end VitaLinux.Base
