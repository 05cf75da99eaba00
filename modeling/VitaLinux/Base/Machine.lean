/-!
# C integer types

The cart is built for two data models: the static ARMv7 binary (ILP32) and the
host test builds (LP64). What depends on the width of `size_t` takes the data
model as a parameter.
-/

namespace VitaLinux

/-- `uint64_t` -/
abbrev U64 := BitVec 64

/-- `uint32_t` -/
abbrev U32 := BitVec 32

inductive Abi where
  | ilp32
  | lp64
  deriving DecidableEq, Repr

abbrev Abi.sizeBits : Abi → Nat
  | .ilp32 => 32
  | .lp64 => 64

abbrev SizeT (abi : Abi) := BitVec abi.sizeBits

def UINT64_MAX : U64 := BitVec.allOnes 64

def SIZE_MAX (abi : Abi) : SizeT abi := BitVec.allOnes abi.sizeBits

theorem Abi.sizeBits_le (abi : Abi) : abi.sizeBits ≤ 64 := by
  cases abi <;> decide

theorem Abi.le_sizeBits (abi : Abi) : 32 ≤ abi.sizeBits := by
  cases abi <;> decide

/-- A literal that fits 32 bits is itself as a `size_t`. -/
theorem Abi.toNat_ofNat (abi : Abi) {n : Nat} (h : n < UInt32.size) :
    (BitVec.ofNat abi.sizeBits n).toNat = n := by
  have fits : UInt32.size ≤ 2 ^ abi.sizeBits := by
    cases abi <;> decide
  rw [BitVec.toNat_ofNat, Nat.mod_eq_of_lt (Nat.lt_of_lt_of_le h fits)]

end VitaLinux
