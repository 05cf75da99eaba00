import VitaLinux.Toolkit.Dashboard.FbOwner
import VitaLinux.Toolkit.Dashboard.Render

/-!
# What the geometry checks establish

`fb_owner_probe` and `render_init` check the same geometry with the same products of
`unsigned int` and of `size_t`. The checks mean what they say exactly where neither
product wraps.
-/

namespace VitaLinux.Toolkit.Dashboard

variable {abi : Abi} {width height bpp given stride : U32} {frameBytes : SizeT abi}

/-- The geometry, read as natural numbers, is that of a frame of at most 64 MiB. -/
structure Consistent (width height bpp stride : U32) (frameBytes : Nat) : Prop where
  row_le : width.toNat * (bpp.toNat / 8) ≤ stride.toNat
  frame_eq : frameBytes = stride.toNat * height.toNat
  frame_le : frameBytes ≤ 64 * 1024 * 1024

/-- Neither product wraps: the packed row as `unsigned int`, and the frame, whose rows are
packed when the given stride is 0, as `size_t`. -/
structure Unwrapped (abi : Abi) (width height bpp given : U32) : Prop where
  row_lt : width.toNat * (bpp.toNat / 8) < 2 ^ 32
  frame_lt : (if given = 0 then width.toNat * (bpp.toNat / 8) else given.toNat) * height.toNat <
    2 ^ abi.sizeBits

/-- The checks that both functions make, and what they store. -/
structure Checked (width height bpp given stride : U32) (frameBytes : SizeT abi) : Prop where
  pixel : bpp ≠ 0 ∧ bpp % 8 = 0
  stride_eq : stride = if given = 0 then width * (bpp / 8) else given
  row_le : width * (bpp / 8) ≤ stride
  frame_eq : frameBytes = stride.setWidth abi.sizeBits * height.setWidth abi.sizeBits
  frame_pos : frameBytes ≠ 0
  frame_le : frameBytes ≤ FB_MAX_FRAME_BYTES.setWidth abi.sizeBits

theorem toNat_mul_eq_iff {w : Nat} {a b : BitVec w} :
    (a * b).toNat = a.toNat * b.toNat ↔ a.toNat * b.toNat < 2 ^ w := by
  rw [BitVec.toNat_mul]
  constructor
  · intro same
    rw [← same]
    exact Nat.mod_lt _ (Nat.two_pow_pos w)
  · exact Nat.mod_eq_of_lt

/-- An `unsigned int` as a `size_t` is the same number. -/
theorem toNat_size (abi : Abi) (v : U32) : (v.setWidth abi.sizeBits).toNat = v.toNat := by
  rw [BitVec.toNat_setWidth]
  exact Nat.mod_eq_of_lt (v.isLt.trans_le (Nat.pow_le_pow_right (by decide) abi.le_sizeBits))

theorem toNat_row (width bpp : U32) (fits : width.toNat * (bpp.toNat / 8) < 2 ^ 32) :
    (width * (bpp / 8)).toNat = width.toNat * (bpp.toNat / 8) := by
  have quotient : (bpp / 8).toNat = bpp.toNat / 8 := BitVec.toNat_udiv
  rw [← quotient] at fits ⊢
  exact toNat_mul_eq_iff.mpr fits

theorem Checked.toNat_stride (checked : Checked width height bpp given stride frameBytes)
    (fits : width.toNat * (bpp.toNat / 8) < 2 ^ 32) :
    stride.toNat = if given = 0 then width.toNat * (bpp.toNat / 8) else given.toNat := by
  rw [checked.stride_eq, apply_ite BitVec.toNat, toNat_row width bpp fits]

theorem Checked.consistent_iff (checked : Checked width height bpp given stride frameBytes) :
    Consistent width height bpp stride frameBytes.toNat ↔ Unwrapped abi width height bpp given := by
  have frame : frameBytes.toNat = stride.toNat * height.toNat ↔
      stride.toNat * height.toNat < 2 ^ abi.sizeBits := by
    rw [checked.frame_eq, ← toNat_size abi stride, ← toNat_size abi height]
    exact toNat_mul_eq_iff
  constructor
  · intro consistent
    have fits := consistent.row_le.trans_lt stride.isLt
    exact ⟨fits, checked.toNat_stride fits ▸ frame.mp consistent.frame_eq⟩
  · intro unwrapped
    have row := BitVec.le_def.mp checked.row_le
    have limit := BitVec.le_def.mp checked.frame_le
    rw [toNat_row width bpp unwrapped.row_lt] at row
    rw [toNat_size] at limit
    exact ⟨row, frame.mpr (checked.toNat_stride unwrapped.row_lt ▸ unwrapped.frame_lt), limit⟩

theorem strideOr_eq (io : ProbeIo) (packed : U32) :
    io.strideOr packed = if io.stride.getD 0 = 0 then packed else io.stride.getD 0 := by
  cases found : io.stride with
  | none => simp [ProbeIo.strideOr, found]
  | some stride => simp [ProbeIo.strideOr, found]

theorem Checked.of_passed (geometry : ¬(width = 0 ∨ height = 0 ∨ bpp = 0 ∨ bpp % 8 ≠ 0))
    (stride_eq : stride = if given = 0 then width * (bpp / 8) else given)
    (row : ¬stride < width * (bpp / 8))
    (frame : ¬(stride.setWidth abi.sizeBits * height.setWidth abi.sizeBits = 0 ∨
      FB_MAX_FRAME_BYTES.setWidth abi.sizeBits <
        stride.setWidth abi.sizeBits * height.setWidth abi.sizeBits)) :
    Checked width height bpp given stride
      (stride.setWidth abi.sizeBits * height.setWidth abi.sizeBits) := by
  obtain ⟨-, -, positive, whole⟩ := by simpa only [not_or, not_not] using geometry
  obtain ⟨frame_pos, frame_le⟩ := not_or.mp frame
  exact ⟨⟨positive, whole⟩, stride_eq, BitVec.not_lt.mp row, rfl, frame_pos,
    BitVec.not_lt.mp frame_le⟩

theorem FbOwner.probe_checked {owner : FbOwner abi} {io : ProbeIo} {bindFile : Option Bool}
    (accepted : (owner.probe io bindFile).2 = 0) (size : io.size = some (width, height))
    (depth : io.bpp = some bpp) :
    Checked width height bpp (io.stride.getD 0) (owner.probe io bindFile).1.stride
      (owner.probe io bindFile).1.frameBytes := by
  unfold FbOwner.probe at accepted ⊢
  rw [size, depth] at accepted ⊢
  dsimp only at accepted ⊢
  split at accepted
  · cases accepted
  rename_i idle
  rw [if_neg idle]
  split at accepted
  · cases accepted
  rename_i geometry
  rw [if_neg geometry]
  split at accepted
  · cases accepted
  rename_i row
  rw [if_neg row]
  split at accepted
  · cases accepted
  rename_i frame
  rw [if_neg frame]
  split at accepted
  · cases accepted
  · exact .of_passed geometry (strideOr_eq io _) row frame

/-- A probe that succeeds leaves the geometry of the frame it sized. -/
theorem FbOwner.probe_sized {owner : FbOwner abi} {io : ProbeIo} {bindFile : Option Bool}
    (accepted : (owner.probe io bindFile).2 = 0) :
    (owner.probe io bindFile).1.frameBytes =
        (owner.probe io bindFile).1.stride.setWidth abi.sizeBits *
          (owner.probe io bindFile).1.height.setWidth abi.sizeBits ∧
      (owner.probe io bindFile).1.width * ((owner.probe io bindFile).1.bpp / 8) ≤
        (owner.probe io bindFile).1.stride := by
  cases size : io.size with
  | none =>
    simp only [FbOwner.probe, size] at accepted
    split at accepted <;> cases accepted
  | some size' =>
    cases depth : io.bpp with
    | none =>
      simp only [FbOwner.probe, size, depth] at accepted
      split at accepted <;> cases accepted
    | some bpp =>
      unfold FbOwner.probe at accepted ⊢
      rw [size, depth] at accepted ⊢
      dsimp only at accepted ⊢
      split at accepted
      · cases accepted
      rename_i idle
      rw [if_neg idle]
      split at accepted
      · cases accepted
      rename_i geometry
      rw [if_neg geometry]
      split at accepted
      · cases accepted
      rename_i row
      rw [if_neg row]
      split at accepted
      · cases accepted
      rename_i frame
      rw [if_neg frame]
      split at accepted
      · cases accepted
      · exact ⟨rfl, BitVec.not_lt.mp row⟩

/-- Both functions size the frame alike. -/
theorem Checked.same_size {width height bpp given stride : U32} {frameBytes : SizeT abi}
    (checked : Checked width height bpp given stride frameBytes) (row : width * (bpp / 8) ≤ given) :
    stride = given := by
  rw [checked.stride_eq]
  split
  · rename_i zero
    rw [zero] at row ⊢
    exact BitVec.le_zero_iff.mp row
  · rfl

/-- What `render_init` leaves where it accepts a geometry. -/
theorem Renderer.init_checked {malloc : Option (Nat → UInt8)} {r : Renderer abi}
    (accepted : Renderer.init malloc width height bpp given = (r, 0)) :
    Checked width height bpp given r.stride r.frameBytes ∧
      r.width = width ∧ r.height = height ∧ r.bytesPerPixel = bpp / 8 := by
  unfold Renderer.init at accepted
  dsimp only at accepted
  generalize stride_eq : (if given = 0 then width * (bpp / 8) else given) = stride at accepted
  split at accepted
  · cases accepted
  rename_i geometry
  split at accepted
  · cases accepted
  rename_i row
  split at accepted
  · cases accepted
  rename_i frame
  cases malloc with
  | none => cases accepted
  | some memory =>
    obtain ⟨rfl, -⟩ := Prod.mk.inj accepted
    exact ⟨.of_passed geometry stride_eq.symm row frame, rfl, rfl, rfl⟩

/-- What the two functions accept is consistent exactly where no product wraps. -/
theorem geometry_consistent_iff (width height bpp : U32) :
    (∀ (owner : FbOwner .ilp32) (io : ProbeIo) (bindFile : Option Bool),
      io.size = some (width, height) → io.bpp = some bpp → (owner.probe io bindFile).2 = 0 →
      (Consistent width height bpp (owner.probe io bindFile).1.stride
          (owner.probe io bindFile).1.frameBytes.toNat ↔
        Unwrapped .ilp32 width height bpp (io.stride.getD 0))) ∧
    ∀ (malloc : Option (Nat → UInt8)) (stride : U32) (r : Renderer .ilp32),
      Renderer.init malloc width height bpp stride = (r, 0) →
      (Consistent width height bpp r.stride r.frameBytes.toNat ↔
        Unwrapped .ilp32 width height bpp stride) := by
  constructor
  · intro owner io bindFile size depth accepted
    exact (FbOwner.probe_checked accepted size depth).consistent_iff
  · intro malloc stride r accepted
    exact (Renderer.init_checked accepted).1.consistent_iff

/-- The owner that reads a geometry from sysfs, on a regular file of a whole frame. -/
def sysfs (width height bpp stride : U32) (size : Int) : ProbeIo :=
  { size := some (width, height), bpp := some bpp, stride := some stride
    device := .regular size, bindOpens := true, bindScans := true }

/-- A PSTV screen. -/
theorem pstv_consistent :
    Consistent 1280 720 32 5120
      (((FbOwner.init .ilp32).probe (sysfs 1280 720 32 5120 3686400) none).1.frameBytes.toNat) ∧
    ∃ r : Renderer .ilp32, Renderer.init (some fun _ => 0) 1280 720 32 0 = (r, 0) ∧
      Consistent 1280 720 32 r.stride r.frameBytes.toNat := by
  constructor
  · exact ((geometry_consistent_iff 1280 720 32).1 (FbOwner.init .ilp32)
      (sysfs 1280 720 32 5120 3686400) none rfl rfl (by decide)).mpr ⟨by decide, by decide⟩
  · have accepted : ∃ r : Renderer .ilp32,
        Renderer.init (some fun _ => 0) 1280 720 32 0 = (r, 0) := ⟨_, rfl⟩
    obtain ⟨r, accepted⟩ := accepted
    exact ⟨r, accepted, ((geometry_consistent_iff 1280 720 32).2 (some fun _ => 0) 0 r accepted).mpr
      ⟨by decide, by decide⟩⟩

/-- 2^31 pixels of 2 bytes wrap to an empty row, which a stride of 4 holds. -/
theorem wrapped_row_accepted :
    (∃ owner : FbOwner .ilp32,
      (FbOwner.init .ilp32).probe (sysfs 2147483648 1 16 4 4) none = (owner, 0) ∧
      ¬Consistent 2147483648 1 16 owner.stride owner.frameBytes.toNat) ∧
    ∃ r : Renderer .ilp32, Renderer.init (some fun _ => 0) 2147483648 1 16 4 = (r, 0) ∧
      ¬Consistent 2147483648 1 16 r.stride r.frameBytes.toNat := by
  constructor
  · exact ⟨_, rfl, fun consistent => absurd consistent.row_le (by decide)⟩
  · exact ⟨_, rfl, fun consistent => absurd consistent.row_le (by decide)⟩

end VitaLinux.Toolkit.Dashboard
