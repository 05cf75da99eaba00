import Mathlib.Algebra.Order.Ring.Abs
import Mathlib.Algebra.Order.Ring.Int
import VitaLinux.Cart.Canvas

/-!
# What the canvas primitives draw

No drawing routine reads the canvas, so a routine is the list of primitive calls
it makes (`Draw`). `Draw.covers` is the mathematical shape of a call; on a valid
canvas each primitive colours exactly the visible pixels of its shape
(`CartCanvas.draw_fills`).
-/

namespace VitaLinux.Cart

open VitaLinux.Base

/-- One call of a drawing primitive. -/
inductive Draw where
  | px (x y : Int) (color : U32)
  | rect (x y width height : Int) (color : U32)
  | circle (centerX centerY radius : Int) (color : U32)

/-- A coordinate of at most a million in size. -/
def Small (v : Int) : Prop := -1048576 ≤ v ∧ v ≤ 1048576

namespace Draw

def color : Draw → U32
  | px _ _ c => c
  | rect _ _ _ _ c => c
  | circle _ _ _ c => c

/-- The pixels of the unbounded plane a call is meant to colour. -/
def covers : Draw → Int → Int → Prop
  | px x y _, u, v => u = x ∧ v = y
  | rect x y width height _, u, v => x ≤ u ∧ u < x + width ∧ y ≤ v ∧ v < y + height
  | circle centerX centerY radius _, u, v =>
    0 ≤ radius ∧
      (u - centerX) * (u - centerX) + (v - centerY) * (v - centerY) ≤ radius * radius

/-- The arguments are small enough that no `int` sum or square of a primitive
overflows. -/
def InRange : Draw → Prop
  | px x y _ => Small x ∧ Small y
  | rect x y width height _ => Small x ∧ Small y ∧ width ≤ 1024 ∧ height ≤ 1024
  | circle centerX centerY radius _ => Small centerX ∧ Small centerY ∧ radius ≤ 1024

end Draw

namespace CartCanvas

variable {abi : Abi}

/-- The same canvas over other memory. -/
def on (canvas : CartCanvas abi) (pixels : Pixels) : CartCanvas abi := { canvas with pixels }

def draw (canvas : CartCanvas abi) : Draw → CartCanvas abi
  | .px x y color => canvas.px x y color
  | .rect x y width height color => canvas.rect x y width height color
  | .circle centerX centerY radius color => canvas.circle centerX centerY radius color

/-- Column `u` of row `v` lies on the canvas. -/
def Visible (canvas : CartCanvas abi) (u v : Int) : Prop :=
  0 ≤ u ∧ u < canvas.width.toNat ∧ 0 ≤ v ∧ v < canvas.height.toNat

/-- The memory cells of the visible pixels of a shape. -/
def cells (canvas : CartCanvas abi) (shape : Int → Int → Prop) (i : Nat) : Prop :=
  ∃ u v, canvas.Visible u v ∧ shape u v ∧ canvas.index v u = i

theorem valid_sizes {canvas : CartCanvas abi} (h : canvas.valid = true) :
    0 < canvas.width.toNat ∧ 0 < canvas.height.toNat ∧
      canvas.width.toNat ≤ canvas.stride.toNat ∧
      canvas.stride.toNat * canvas.height.toNat * 4 < 2 ^ abi.sizeBits := by
  simp only [valid] at h
  split at h
  · cases h
  rename_i sizes
  split at h
  · cases h
  rename_i product
  split at h
  · cases h
  rename_i bytes
  obtain ⟨width, height, stride⟩ : canvas.width ≠ 0 ∧ canvas.height ≠ 0 ∧
      ¬ canvas.stride < canvas.width := by simpa only [not_or] using sizes
  have width' := (BitVec.toNat_pos _).mpr ((BitVec.pos_iff_ne_zero _).mpr width)
  have height' := (BitVec.toNat_pos _).mpr ((BitVec.pos_iff_ne_zero _).mpr height)
  have stride' : canvas.width.toNat ≤ canvas.stride.toNat := by
    rw [BitVec.lt_def] at stride
    omega
  rw [BitVec.lt_def, BitVec.toNat_udiv, SIZE_MAX, BitVec.toNat_allOnes, Nat.not_lt,
    Nat.le_div_iff_mul_le (by omega)] at product
  have size : 0 < 2 ^ abi.sizeBits := Nat.two_pow_pos _
  have exact : (canvas.stride * canvas.height).toNat =
      canvas.stride.toNat * canvas.height.toNat := by
    rw [BitVec.toNat_mul, Nat.mod_eq_of_lt]
    rw [Nat.mul_comm]
    omega
  have four : (BitVec.ofNat abi.sizeBits 4).toNat = 4 := abi.toNat_ofNat (by decide)
  rw [BitVec.lt_def, BitVec.toNat_udiv, SIZE_MAX, BitVec.toNat_allOnes, four, exact, Nat.not_lt,
    Nat.le_div_iff_mul_le (by decide)] at bytes
  exact ⟨width', height', stride', by omega⟩

theorem toNat_ofInt_of_lt {w : Nat} {x : Int} (nonneg : 0 ≤ x) (bound : x.toNat < 2 ^ w) :
    (BitVec.ofInt w x).toNat = x.toNat := by
  rw [BitVec.toNat_ofInt]
  have wide : x < ((2 ^ w : Nat) : Int) := by omega
  rw [Int.emod_eq_of_lt nonneg wide]

/-- The row of a visible pixel ends inside the buffer. -/
theorem row_end_le {canvas : CartCanvas abi} {u v : Int} (visible : canvas.Visible u v) :
    v.toNat * canvas.stride.toNat + canvas.stride.toNat ≤
      canvas.stride.toNat * canvas.height.toNat := by
  obtain ⟨u0, u1, v0, v1⟩ := visible
  rw [← Nat.succ_mul, Nat.mul_comm]
  exact Nat.mul_le_mul_left _ (by omega)

/-- On a valid canvas the cell of a visible pixel is computed without wrapping. -/
theorem index_eq {canvas : CartCanvas abi} (h : canvas.valid = true) {u v : Int}
    (visible : canvas.Visible u v) :
    canvas.index v u = v.toNat * canvas.stride.toNat + u.toNat := by
  obtain ⟨_, _, stride, bytes⟩ := valid_sizes h
  have row := row_end_le visible
  obtain ⟨u0, u1, v0, v1⟩ := visible
  have vbits : v.toNat < 2 ^ abi.sizeBits := by
    have := canvas.height.isLt
    omega
  have ubits : u.toNat < 2 ^ abi.sizeBits := by
    have := canvas.width.isLt
    omega
  have product : v.toNat * canvas.stride.toNat < 2 ^ abi.sizeBits := by omega
  rw [index, BitVec.toNat_add, BitVec.toNat_mul, toNat_ofInt_of_lt v0 vbits,
    toNat_ofInt_of_lt u0 ubits, Nat.mod_eq_of_lt product, Nat.mod_eq_of_lt (by omega)]

theorem int64_eq {size : SizeT abi} (h : size.toNat < 2 ^ 63) : int64 size = size.toNat := by
  have wide : (size.setWidth 64).toNat = size.toNat := by
    rw [BitVec.toNat_setWidth, Nat.mod_eq_of_lt (by omega)]
  rw [int64, BitVec.toInt_eq_toNat_cond, wide, if_pos (by omega)]

theorem valid_int64 {canvas : CartCanvas abi} (h : canvas.valid = true) :
    int64 canvas.width = canvas.width.toNat ∧ int64 canvas.height = canvas.height.toNat := by
  obtain ⟨_, height, stride, bytes⟩ := valid_sizes h
  have range : 2 ^ abi.sizeBits ≤ 2 ^ 64 := Nat.pow_le_pow_right (by decide) abi.sizeBits_le
  have wide : canvas.stride.toNat ≤ canvas.stride.toNat * canvas.height.toNat :=
    Nat.le_mul_of_pos_right _ height
  have tall : canvas.height.toNat ≤ canvas.stride.toNat * canvas.height.toNat :=
    Nat.le_mul_of_pos_left _ (by omega)
  exact ⟨int64_eq (by omega), int64_eq (by omega)⟩

theorem on_valid (canvas : CartCanvas abi) (p : Pixels) : (canvas.on p).valid = canvas.valid := rfl

theorem fillRows_fills (canvas : CartCanvas abi) (x0 y0 x1 y1 : Int)
    (inside : Int → Int → Bool) (color : U32) :
    Fills (canvas.fillRows x0 y0 x1 y1 inside color)
      (fun i => ∃ v ∈ intRange y0 y1, ∃ u ∈ intRange x0 x1,
        inside u v = true ∧ canvas.index v u = i)
      (fun _ => color) :=
  Fills.loop _ fun v _ => Fills.loop _ fun u _ =>
    Fills.ite _ (Fills.update (canvas.index v u) fun _ => color)

theorem px_fills {canvas : CartCanvas abi} (h : canvas.valid = true) {x y : Int} (color : U32)
    (range : (Draw.px x y color).InRange) :
    Fills (fun p => ((canvas.on p).px x y color).pixels)
      (canvas.cells (Draw.px x y color).covers) (fun _ => color) := by
  obtain ⟨⟨x0, x1⟩, y0, y1⟩ := range
  have wide : 2 ^ 32 ≤ 2 ^ abi.sizeBits := Nat.pow_le_pow_right (by decide) abi.le_sizeBits
  by_cases visible : canvas.Visible x y
  · obtain ⟨u0, u1, v0, v1⟩ := visible
    have column : ¬ canvas.width ≤ BitVec.ofInt abi.sizeBits x := by
      rw [BitVec.le_def, toNat_ofInt_of_lt u0 (by omega)]
      omega
    have row : ¬ canvas.height ≤ BitVec.ofInt abi.sizeBits y := by
      rw [BitVec.le_def, toNat_ofInt_of_lt v0 (by omega)]
      omega
    have drawn : (fun p => ((canvas.on p).px x y color).pixels) =
        fun p => Function.update p (canvas.index y x) color := by
      funext p
      simp only [px, on_valid, h, Bool.not_true, Bool.false_eq_true, false_or]
      rw [if_neg]
      · rfl
      · simp only [not_or, Int.not_lt]
        exact ⟨u0, v0, column, row⟩
    rw [drawn]
    refine (Fills.update (canvas.index y x) fun _ => color).congr fun i => ?_
    simp only [cells, Draw.covers]
    constructor
    · rintro ⟨u, v, _, ⟨rfl, rfl⟩, rfl⟩
      rfl
    · rintro rfl
      exact ⟨x, y, ⟨u0, u1, v0, v1⟩, ⟨rfl, rfl⟩, rfl⟩
  · have kept : (fun p => ((canvas.on p).px x y color).pixels) = fun p => p := by
      funext p
      have outside : x < 0 ∨ y < 0 ∨ canvas.width ≤ BitVec.ofInt abi.sizeBits x ∨
          canvas.height ≤ BitVec.ofInt abi.sizeBits y := by
        by_cases x < 0
        · exact .inl ‹_›
        by_cases y < 0
        · exact .inr (.inl ‹_›)
        rw [BitVec.le_def, BitVec.le_def, toNat_ofInt_of_lt (by omega) (by omega),
          toNat_ofInt_of_lt (by omega) (by omega)]
        simp only [Visible] at visible
        omega
      simp only [px]
      rw [if_pos (.inr outside)]
      rfl
    rw [kept]
    refine (Fills.skip _).congr fun i => ?_
    simp only [cells, Draw.covers, iff_false]
    rintro ⟨u, v, shown, ⟨rfl, rfl⟩, _⟩
    exact visible shown

theorem rect_fills {canvas : CartCanvas abi} (h : canvas.valid = true)
    (x y width height : Int) (color : U32) :
    Fills (fun p => ((canvas.on p).rect x y width height color).pixels)
      (canvas.cells (Draw.rect x y width height color).covers) (fun _ => color) := by
  obtain ⟨wide, tall⟩ := valid_int64 h
  have none (empty : ∀ u v, canvas.Visible u v →
      ¬ (Draw.rect x y width height color).covers u v) :
      Fills (fun p => p) (canvas.cells (Draw.rect x y width height color).covers)
        (fun _ : Nat => color) :=
    (Fills.skip _).congr fun i => iff_false_intro fun ⟨u, v, shown, inside, _⟩ =>
      empty u v shown inside
  simp only [rect, on_valid, h, Bool.not_true, Bool.false_eq_true, false_or]
  simp only [on, wide, tall]
  generalize hx0 : (if x < 0 then 0 else x) = x0
  generalize hy0 : (if y < 0 then 0 else y) = y0
  generalize hx1 : (if (canvas.width.toNat : Int) < x + width then (canvas.width.toNat : Int)
    else x + width) = x1
  generalize hy1 : (if (canvas.height.toNat : Int) < y + height then
    (canvas.height.toNat : Int) else y + height) = y1
  by_cases degenerate : width ≤ 0 ∨ height ≤ 0
  · simp only [degenerate, if_true]
    refine none fun u v _ inside => ?_
    simp only [Draw.covers] at inside
    omega
  · simp only [degenerate, if_false]
    by_cases clipped : x1 ≤ x0 ∨ y1 ≤ y0
    · simp only [clipped, if_true]
      refine none fun u v shown inside => ?_
      simp only [Draw.covers, Visible] at inside shown
      omega
    · simp only [clipped, if_false]
      refine (fillRows_fills canvas x0 y0 x1 y1 _ color).congr fun i => ?_
      simp only [cells, Draw.covers, Visible, mem_intRange]
      constructor
      · rintro ⟨u, v, shown, inside, rfl⟩
        exact ⟨v, by omega, u, by omega, trivial, rfl⟩
      · rintro ⟨v, hv, u, hu, _, rfl⟩
        exact ⟨u, v, by omega, by omega, rfl⟩

/-- No coordinate of a disc is further from its centre than the radius. -/
theorem disc_bound {a b r : Int} (hr : 0 ≤ r) (h : a * a + b * b ≤ r * r) : -r ≤ a ∧ a ≤ r := by
  have square : a ^ 2 ≤ r ^ 2 := by
    have := mul_self_nonneg b
    rw [pow_two, pow_two]
    omega
  exact abs_le_of_sq_le_sq' square hr

theorem circle_fills {canvas : CartCanvas abi} (h : canvas.valid = true)
    (centerX centerY radius : Int) (color : U32) :
    Fills (fun p => ((canvas.on p).circle centerX centerY radius color).pixels)
      (canvas.cells (Draw.circle centerX centerY radius color).covers) (fun _ => color) := by
  obtain ⟨wide, tall⟩ := valid_int64 h
  have none (empty : ∀ u v, canvas.Visible u v →
      ¬ (Draw.circle centerX centerY radius color).covers u v) :
      Fills (fun p => p) (canvas.cells (Draw.circle centerX centerY radius color).covers)
        (fun _ : Nat => color) :=
    (Fills.skip _).congr fun i => iff_false_intro fun ⟨u, v, shown, inside, _⟩ =>
      empty u v shown inside
  have bound (u v : Int) (inside : (Draw.circle centerX centerY radius color).covers u v) :
      (-radius ≤ u - centerX ∧ u - centerX ≤ radius) ∧
        -radius ≤ v - centerY ∧ v - centerY ≤ radius :=
    ⟨disc_bound inside.1 inside.2,
      disc_bound inside.1 (by rw [Int.add_comm]; exact inside.2)⟩
  simp only [circle, on_valid, h, Bool.not_true, Bool.false_eq_true, false_or]
  simp only [on, wide, tall]
  generalize hl : (if centerX - radius < 0 then 0 else centerX - radius) = left
  generalize ht : (if centerY - radius < 0 then 0 else centerY - radius) = top
  generalize hr : (if (canvas.width.toNat : Int) ≤ centerX + radius then
    (canvas.width.toNat : Int) - 1 else centerX + radius) = right
  generalize hb : (if (canvas.height.toNat : Int) ≤ centerY + radius then
    (canvas.height.toNat : Int) - 1 else centerY + radius) = bottom
  by_cases negative : radius < 0
  · simp only [negative, if_true]
    exact none fun u v _ inside => absurd inside.1 (by omega)
  · simp only [negative, if_false]
    by_cases clipped : right < left ∨ bottom < top
    · simp only [clipped, if_true]
      refine none fun u v shown inside => ?_
      have := bound u v inside
      simp only [Visible] at shown
      omega
    · simp only [clipped, if_false]
      refine (fillRows_fills canvas left top (right + 1) (bottom + 1) _ color).congr fun i => ?_
      simp only [cells, Visible, mem_intRange, decide_eq_true_eq]
      constructor
      · rintro ⟨u, v, shown, inside, rfl⟩
        have := bound u v inside
        exact ⟨v, by omega, u, by omega, inside.2, rfl⟩
      · rintro ⟨v, hv, u, hu, inside, rfl⟩
        exact ⟨u, v, by omega, ⟨by omega, inside⟩, rfl⟩

/-- **Each primitive colours exactly the visible pixels of its shape.** -/
theorem draw_fills {canvas : CartCanvas abi} (h : canvas.valid = true) (d : Draw)
    (range : d.InRange) :
    Fills (fun p => ((canvas.on p).draw d).pixels) (canvas.cells d.covers) (fun _ => d.color) := by
  cases d with
  | px x y color => exact px_fills h color range
  | rect x y width height color => exact rect_fills h x y width height color
  | circle centerX centerY radius color => exact circle_fills h centerX centerY radius color

end CartCanvas

end VitaLinux.Cart
