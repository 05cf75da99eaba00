import VitaLinux.Base.Grid
import VitaLinux.Base.SignedArithmetic
import VitaLinux.Cart.Draw

/-!
# Exact rasterisation

`cart_canvas_rect` and `cart_canvas_circle` once more, with the `int64_t` results that
C leaves undefined and the accesses outside the buffer. On a valid canvas neither
happens, for any `int` arguments, and the words of the buffer that change are those of
the visible pixels of the shape.
-/

namespace VitaLinux.Cart

open VitaLinux.Base

/-- An `int` argument as an `int64_t`. -/
def widened (v : Int32) : Signed 64 := (Signed.ofInt v.toInt : Signed 32).cast 64

namespace CartCanvas

variable {abi : Abi}

/-- A store to the buffer, undefined outside it. -/
def checkedStore (canvas : CartCanvas abi) (row column : Signed 64) (color : U32)
    (pixels : Pixels) : Option Pixels := do
  let index := canvas.index (← row.value) (← column.value)
  if index < canvas.stride.toNat * canvas.height.toNat then
    some (Function.update pixels index color)
  else none

/-- The two nested loops. -/
def checkedFillRows (canvas : CartCanvas abi) (x0 y0 x1 y1 : Signed 64)
    (inside : Signed 64 → Signed 64 → Option Bool) (color : U32) (pixels : Pixels) :
    Option Pixels := do
  (intRange (← y0.value) (← y1.value)).foldlM (fun pixels (row : Int) => do
    (intRange (← x0.value) (← x1.value)).foldlM (fun pixels (column : Int) => do
      if ← inside (.ofInt column) (.ofInt row) then
        canvas.checkedStore (.ofInt row) (.ofInt column) color pixels
      else some pixels) pixels) pixels

/-- `cart_canvas_rect` -/
def checkedRect (canvas : CartCanvas abi) (x y width height : Int32) (color : U32) :
    Option (CartCanvas abi) :=
  if !canvas.valid ∨ width.toInt ≤ 0 ∨ height.toInt ≤ 0 then some canvas
  else do
    let x0 ← (widened x).eval
    let y0 ← (widened y).eval
    let x1 ← (x0 + widened width).eval
    let y1 ← (y0 + widened height).eval
    let x0 := if ← x0.lt 0 then 0 else x0
    let y0 := if ← y0.lt 0 then 0 else y0
    let x1 := if ← (Signed.ofInt (int64 canvas.width)).lt x1 then
      Signed.ofInt (int64 canvas.width) else x1
    let y1 := if ← (Signed.ofInt (int64 canvas.height)).lt y1 then
      Signed.ofInt (int64 canvas.height) else y1
    if (← x1.le x0) || (← y1.le y0) then some canvas
    else
      let pixels ← canvas.checkedFillRows x0 y0 x1 y1 (fun _ _ => some true) color canvas.pixels
      some { canvas with pixels }

/-- `cart_canvas_circle` -/
def checkedCircle (canvas : CartCanvas abi) (centerX centerY radius : Int32) (color : U32) :
    Option (CartCanvas abi) :=
  if !canvas.valid ∨ radius.toInt < 0 then some canvas
  else do
    let left ← (widened centerX - widened radius).eval
    let top ← (widened centerY - widened radius).eval
    let right ← (widened centerX + widened radius).eval
    let bottom ← (widened centerY + widened radius).eval
    let left := if ← left.lt 0 then 0 else left
    let top := if ← top.lt 0 then 0 else top
    let right := if ← (Signed.ofInt (int64 canvas.width)).le right then
      Signed.ofInt (int64 canvas.width) - 1 else right
    let bottom := if ← (Signed.ofInt (int64 canvas.height)).le bottom then
      Signed.ofInt (int64 canvas.height) - 1 else bottom
    if (← right.lt left) || (← bottom.lt top) then some canvas
    else
      let squaredRadius ← (widened radius * widened radius).eval
      -- the loops leave `row` and `column` one past their last value
      let pixels ← canvas.checkedFillRows left top (right + 1) (bottom + 1)
        (fun column row => do
          let deltaY ← (row - widened centerY).eval
          let deltaX ← (column - widened centerX).eval
          (deltaX * deltaX + deltaY * deltaY).le squaredRadius)
        color canvas.pixels
      some { canvas with pixels }

/-- The words of `result` that differ from those of the canvas are those of the visible
pixels of a shape, which have the colour. Column `u` of row `v` is the word
`v * stride + u`; from `width` on the columns are padding. -/
structure Rasterises (canvas result : CartCanvas abi) (shape : Int → Int → Prop)
    (color : U32) : Prop where
  painted : ∀ u v : Nat, u < canvas.width.toNat → v < canvas.height.toNat → shape u v →
    result.pixels (v * canvas.stride.toNat + u) = color
  kept : ∀ u v : Nat, u < canvas.stride.toNat → v < canvas.height.toNat →
    ¬ (u < canvas.width.toNat ∧ shape u v) →
    result.pixels (v * canvas.stride.toNat + u) = canvas.pixels (v * canvas.stride.toNat + u)
  outside : ∀ i, canvas.stride.toNat * canvas.height.toNat ≤ i →
    result.pixels i = canvas.pixels i

/-- A fill of the cells of a shape rasterises it. -/
theorem rasterises_of_fills {canvas result : CartCanvas abi} (h : canvas.valid = true)
    {shape : Int → Int → Prop} {color : U32} {f : Pixels → Pixels}
    (fills : Fills f (canvas.cells shape) fun _ => color)
    (drawn : result.pixels = f canvas.pixels) : canvas.Rasterises result shape color := by
  obtain ⟨_, _, stride, _⟩ := valid_sizes h
  have cell {u v : Int} (visible : canvas.Visible u v) : canvas.index v u =
      v.toNat * canvas.stride.toNat + u.toNat := index_eq h visible
  constructor
  case painted =>
    intro u v column row inside
    have visible : canvas.Visible u v := ⟨by omega, by omega, by omega, by omega⟩
    rw [drawn]
    exact (fills canvas.pixels _).1 ⟨u, v, visible, inside, cell visible⟩
  case kept =>
    intro u v column row apart
    rw [drawn]
    refine (fills canvas.pixels _).2 ?_
    rintro ⟨u', v', visible, inside, same⟩
    rw [cell visible] at same
    obtain ⟨u0, u1, v0, v1⟩ := visible
    obtain ⟨sameRow, sameColumn⟩ := row_column_unique (by omega) column same
    have row : (v : Int) = v' := by omega
    have column : (u : Int) = u' := by omega
    rw [row, column] at apart
    exact apart ⟨by omega, inside⟩
  case outside =>
    intro i far
    rw [drawn]
    refine (fills canvas.pixels _).2 ?_
    rintro ⟨u, v, visible, _, same⟩
    rw [cell visible] at same
    have row := row_end_le visible
    obtain ⟨u0, u1, v0, v1⟩ := visible
    omega

/-! ## No undefined step -/

theorem widened_has (v : Int32) : (widened v).Has v.toInt (-2147483648) 2147483647 :=
  (Signed.Has.ofInt v.le_toInt v.toInt_le).cast 64

/-- The sizes of a valid canvas as `int64_t`. -/
theorem size_has {canvas : CartCanvas abi} (h : canvas.valid = true) :
    (Signed.ofInt (int64 canvas.width) : Signed 64).Has (int64 canvas.width) 1
        4611686018427387904 ∧
      (Signed.ofInt (int64 canvas.height) : Signed 64).Has (int64 canvas.height) 1
        4611686018427387904 := by
  obtain ⟨wide, tall⟩ := valid_int64 h
  obtain ⟨width, height, stride, bytes⟩ := valid_sizes h
  have range : 2 ^ abi.sizeBits ≤ 2 ^ 64 := Nat.pow_le_pow_right (by decide) abi.sizeBits_le
  have column : canvas.stride.toNat ≤ canvas.stride.toNat * canvas.height.toNat :=
    Nat.le_mul_of_pos_right _ height
  have row : canvas.height.toNat ≤ canvas.stride.toNat * canvas.height.toNat :=
    Nat.le_mul_of_pos_left _ (by omega)
  exact ⟨.ofInt (by omega) (by omega), .ofInt (by omega) (by omega)⟩

theorem checkedStore_eq {canvas : CartCanvas abi} (h : canvas.valid = true) {u v : Int}
    (visible : canvas.Visible u v) (color : U32) (pixels : Pixels) :
    canvas.checkedStore (.ofInt v) (.ofInt u) color pixels =
      some (Function.update pixels (canvas.index v u) color) := by
  obtain ⟨_, _, stride, _⟩ := valid_sizes h
  obtain ⟨width, height⟩ := size_has h
  obtain ⟨wide, tall⟩ := valid_int64 h
  have index := index_eq h visible
  have row := row_end_le visible
  obtain ⟨u0, u1, v0, v1⟩ := visible
  have column : (Signed.ofInt u : Signed 64).Has u 0 4611686018427387904 :=
    .ofInt u0 ((wide ▸ u1.le).trans width.high)
  have row' : (Signed.ofInt v : Signed 64).Has v 0 4611686018427387904 :=
    .ofInt v0 ((tall ▸ v1.le).trans height.high)
  simp only [checkedStore, column.value, row'.value, Option.bind_eq_bind, Option.bind_some]
  rw [if_pos]
  omega

/-- The loops store inside the buffer while their bounds are clipped to the canvas. -/
theorem checkedFillRows_eq {canvas : CartCanvas abi} (h : canvas.valid = true)
    {left top right bottom : Signed 64} {x0 y0 x1 y1 : Int} (hx0 : left.value = some x0)
    (hy0 : top.value = some y0) (hx1 : right.value = some x1) (hy1 : bottom.value = some y1)
    (clipped : 0 ≤ x0 ∧ 0 ≤ y0 ∧ x1 ≤ int64 canvas.width ∧ y1 ≤ int64 canvas.height)
    {inside : Signed 64 → Signed 64 → Option Bool} {covered : Int → Int → Bool}
    (same : ∀ u v, x0 ≤ u → u < x1 → y0 ≤ v → v < y1 →
      inside (.ofInt u) (.ofInt v) = some (covered u v))
    (color : U32) (pixels : Pixels) :
    canvas.checkedFillRows left top right bottom inside color pixels =
      some (canvas.fillRows x0 y0 x1 y1 covered color pixels) := by
  obtain ⟨wide, tall⟩ := valid_int64 h
  simp only [checkedFillRows, hx0, hy0, hx1, hy1, Option.bind_eq_bind, Option.bind_some,
    fillRows]
  refine foldlM_some (fun v hv pixels => ?_) pixels
  refine foldlM_some (fun u hu pixels => ?_) pixels
  rw [mem_intRange] at hu hv
  have visible : canvas.Visible u v := ⟨by omega, by omega, by omega, by omega⟩
  rw [same u v hu.1 hu.2 hv.1 hv.2, Option.bind_some, checkedStore_eq h visible]
  split
  · rfl
  · rfl

theorem checkedRect_eq {canvas : CartCanvas abi} (h : canvas.valid = true)
    (x y width height : Int32) (color : U32) :
    canvas.checkedRect x y width height color =
      some (canvas.rect x.toInt y.toInt width.toInt height.toInt color) := by
  obtain ⟨columns, rows⟩ := size_has h
  have zero : Signed.Has (0 : Signed 64) 0 0 0 := .literal 0
  have left := widened_has x
  have top := widened_has y
  have right := left.add (widened_has width)
  have bottom := top.add (widened_has height)
  have x0 := Signed.Has.ite (x.toInt < 0) zero left
  have y0 := Signed.Has.ite (y.toInt < 0) zero top
  have x1 := Signed.Has.ite (int64 canvas.width < x.toInt + width.toInt) columns right
  have y1 := Signed.Has.ite (int64 canvas.height < y.toInt + height.toInt) rows bottom
  simp only [checkedRect, rect, h, Bool.not_true, Bool.false_eq_true, false_or]
  by_cases degenerate : width.toInt ≤ 0 ∨ height.toInt ≤ 0
  · rw [if_pos degenerate, if_pos degenerate]
  · rw [if_neg degenerate, if_neg degenerate]
    simp only [Signed.eval_eq left.value, Signed.eval_eq top.value, Signed.eval_eq right.value,
      Signed.eval_eq bottom.value, Signed.lt_eq left.value zero.value,
      Signed.lt_eq top.value zero.value, Signed.lt_eq columns.value right.value,
      Signed.lt_eq rows.value bottom.value, Signed.le_eq x1.value x0.value,
      Signed.le_eq y1.value y0.value, Option.bind_eq_bind, Option.bind_some]
    rw [← Bool.decide_or]
    have clipped : 0 ≤ (if x.toInt < 0 then 0 else x.toInt) ∧
        0 ≤ (if y.toInt < 0 then 0 else y.toInt) ∧
        (if int64 canvas.width < x.toInt + width.toInt then int64 canvas.width
          else x.toInt + width.toInt) ≤ int64 canvas.width ∧
        (if int64 canvas.height < y.toInt + height.toInt then int64 canvas.height
          else y.toInt + height.toInt) ≤ int64 canvas.height := by
      refine ⟨?_, ?_, ?_, ?_⟩
      all_goals split <;> omega
    generalize (if x.toInt < 0 then 0 else x.toInt) = u0 at x0 clipped ⊢
    generalize (if y.toInt < 0 then 0 else y.toInt) = v0 at y0 clipped ⊢
    generalize (if int64 canvas.width < x.toInt + width.toInt then int64 canvas.width
      else x.toInt + width.toInt) = u1 at x1 clipped ⊢
    generalize (if int64 canvas.height < y.toInt + height.toInt then int64 canvas.height
      else y.toInt + height.toInt) = v1 at y1 clipped ⊢
    by_cases empty : u1 ≤ u0 ∨ v1 ≤ v0
    · rw [if_pos (decide_eq_true empty), if_pos empty]
    · rw [if_neg (mt of_decide_eq_true empty), if_neg empty, checkedFillRows_eq h x0.value y0.value
        x1.value y1.value clipped fun _ _ _ _ _ _ => rfl]
      rfl

theorem delta_has {center radius u : Int} {e : Signed 64}
    (at_center : e.Has center (-2147483648) 2147483647) (small : radius ≤ 2147483647)
    (near : -radius ≤ u - center ∧ u - center ≤ radius) :
    ((.ofInt u : Signed 64) - e).Has (u - center) (-2147483647) 2147483647 := by
  have low := at_center.low
  have high := at_center.high
  have inside : (Signed.ofInt u : Signed 64).Has u (-4294967296) 4294967296 :=
    .ofInt (by omega) (by omega)
  exact (inside.sub at_center).within (by omega) (by omega)

/-- Within the square around a disc, the squares of the distances do not overflow. -/
theorem checkedCovers_eq {centerX centerY radius : Int32} (nonneg : 0 ≤ radius.toInt) {u v : Int}
    (hu : -radius.toInt ≤ u - centerX.toInt ∧ u - centerX.toInt ≤ radius.toInt)
    (hv : -radius.toInt ≤ v - centerY.toInt ∧ v - centerY.toInt ≤ radius.toInt) :
    (do
      let deltaY ← ((.ofInt v : Signed 64) - widened centerY).eval
      let deltaX ← ((.ofInt u : Signed 64) - widened centerX).eval
      (deltaX * deltaX + deltaY * deltaY).le (widened radius * widened radius)) =
    some (decide ((u - centerX.toInt) * (u - centerX.toInt) +
      (v - centerY.toInt) * (v - centerY.toInt) ≤ radius.toInt * radius.toInt)) := by
  have size := widened_has radius
  have squared := (size.within nonneg size.high).square 2147483647
  have deltaX := delta_has (widened_has centerX) size.high hu
  have deltaY := delta_has (widened_has centerY) size.high hv
  have squares := (deltaX.square 2147483647).add (deltaY.square 2147483647)
  simp only [Signed.eval_eq deltaX.value, Signed.eval_eq deltaY.value,
    Signed.le_eq squares.value squared.value, Option.bind_eq_bind, Option.bind_some]

theorem checkedCircle_eq {canvas : CartCanvas abi} (h : canvas.valid = true)
    (centerX centerY radius : Int32) (color : U32) :
    canvas.checkedCircle centerX centerY radius color =
      some (canvas.circle centerX.toInt centerY.toInt radius.toInt color) := by
  obtain ⟨columns, rows⟩ := size_has h
  have zero : Signed.Has (0 : Signed 64) 0 0 0 := .literal 0
  have one : Signed.Has (1 : Signed 64) 1 1 1 := .literal 1
  have column := widened_has centerX
  have row := widened_has centerY
  have size := widened_has radius
  simp only [checkedCircle, circle, h, Bool.not_true, Bool.false_eq_true, false_or]
  by_cases negative : radius.toInt < 0
  · rw [if_pos negative, if_pos negative]
  · rw [if_neg negative, if_neg negative]
    have radius_has : (widened radius).Has radius.toInt 0 2147483647 :=
      size.within (not_lt.mp negative) size.high
    have left := column.sub size
    have top := row.sub size
    have right := column.add size
    have bottom := row.add size
    have squared := radius_has.square 2147483647
    have x0 := Signed.Has.ite (centerX.toInt - radius.toInt < 0) zero left
    have y0 := Signed.Has.ite (centerY.toInt - radius.toInt < 0) zero top
    have x1 := Signed.Has.ite (int64 canvas.width ≤ centerX.toInt + radius.toInt)
      (columns.sub one) right
    have y1 := Signed.Has.ite (int64 canvas.height ≤ centerY.toInt + radius.toInt)
      (rows.sub one) bottom
    simp only [Signed.eval_eq left.value, Signed.eval_eq top.value, Signed.eval_eq right.value,
      Signed.eval_eq bottom.value, Signed.eval_eq squared.value, Signed.lt_eq left.value zero.value,
      Signed.lt_eq top.value zero.value, Signed.le_eq columns.value right.value,
      Signed.le_eq rows.value bottom.value, Signed.lt_eq x1.value x0.value,
      Signed.lt_eq y1.value y0.value, Option.bind_eq_bind, Option.bind_some]
    rw [← Bool.decide_or]
    have clipped : 0 ≤ (if centerX.toInt - radius.toInt < 0 then 0
          else centerX.toInt - radius.toInt) ∧
        0 ≤ (if centerY.toInt - radius.toInt < 0 then 0 else centerY.toInt - radius.toInt) ∧
        (if int64 canvas.width ≤ centerX.toInt + radius.toInt then int64 canvas.width - 1
          else centerX.toInt + radius.toInt) + 1 ≤ int64 canvas.width ∧
        (if int64 canvas.height ≤ centerY.toInt + radius.toInt then int64 canvas.height - 1
          else centerY.toInt + radius.toInt) + 1 ≤ int64 canvas.height := by
      refine ⟨?_, ?_, ?_, ?_⟩
      all_goals split <;> omega
    generalize hx0 : (if centerX.toInt - radius.toInt < 0 then 0
      else centerX.toInt - radius.toInt) = u0 at x0 clipped ⊢
    generalize hy0 : (if centerY.toInt - radius.toInt < 0 then 0
      else centerY.toInt - radius.toInt) = v0 at y0 clipped ⊢
    generalize hx1 : (if int64 canvas.width ≤ centerX.toInt + radius.toInt then
      int64 canvas.width - 1 else centerX.toInt + radius.toInt) = u1 at x1 clipped ⊢
    generalize hy1 : (if int64 canvas.height ≤ centerY.toInt + radius.toInt then
      int64 canvas.height - 1 else centerY.toInt + radius.toInt) = v1 at y1 clipped ⊢
    by_cases empty : u1 < u0 ∨ v1 < v0
    · rw [if_pos (decide_eq_true empty), if_pos empty]
    · rw [if_neg (mt of_decide_eq_true empty), if_neg empty, checkedFillRows_eq h x0.value y0.value
        (x1.add one).value (y1.add one).value clipped fun u v hu hu' hv hv' =>
          checkedCovers_eq (not_lt.mp negative) (by omega) (by omega)]
      rfl

/-- **Exact rasterisation.** On every valid canvas and for all `int` arguments, a
rectangle and a disc are drawn without an undefined step, and the words of the buffer
that change are those of the visible pixels of the shape. -/
theorem exact_rasterisation {canvas : CartCanvas abi} (h : canvas.valid = true) (color : U32) :
    (∀ x y width height : Int32,
      let drawn := canvas.rect x.toInt y.toInt width.toInt height.toInt color
      canvas.checkedRect x y width height color = some drawn ∧
        canvas.Rasterises drawn (fun u v => x.toInt ≤ u ∧ u < x.toInt + width.toInt ∧
          y.toInt ≤ v ∧ v < y.toInt + height.toInt) color) ∧
    ∀ centerX centerY radius : Int32,
      let drawn := canvas.circle centerX.toInt centerY.toInt radius.toInt color
      canvas.checkedCircle centerX centerY radius color = some drawn ∧
        canvas.Rasterises drawn (fun u v => 0 ≤ radius.toInt ∧
          (u - centerX.toInt) * (u - centerX.toInt) + (v - centerY.toInt) * (v - centerY.toInt) ≤
            radius.toInt * radius.toInt) color := by
  constructor
  · intro x y width height
    have fills := rect_fills h x.toInt y.toInt width.toInt height.toInt color
    exact ⟨checkedRect_eq h x y width height color, rasterises_of_fills h fills rfl⟩
  · intro centerX centerY radius
    have fills := circle_fills h centerX.toInt centerY.toInt radius.toInt color
    exact ⟨checkedCircle_eq h centerX centerY radius color, rasterises_of_fills h fills rfl⟩

/-- Two by two pixels with one word of padding in each row. -/
def tinyCanvas : CartCanvas .ilp32 := { pixels := fun _ => 0, width := 2, height := 2, stride := 3 }

theorem exact_rasterisation_corner :
    tinyCanvas.valid = true ∧
      tinyCanvas.checkedRect (-1) (-1) 2 2 7 = some (tinyCanvas.rect (-1) (-1) 2 2 7) ∧
      tinyCanvas.Rasterises (tinyCanvas.rect (-1) (-1) 2 2 7)
        (fun u v => -1 ≤ u ∧ u < -1 + 2 ∧ -1 ≤ v ∧ v < -1 + 2) 7 :=
  ⟨by decide, (exact_rasterisation (by decide) 7).1 (-1) (-1) 2 2⟩

end CartCanvas

end VitaLinux.Cart
