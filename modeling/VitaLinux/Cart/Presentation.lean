import VitaLinux.Cart.Canvas

/-!
# cart/src/presentation.c

Every logical pixel becomes a square of framebuffer pixels. A row is expanded once, into
scratch memory, and copied to as many framebuffer rows as the scale says.
-/

namespace VitaLinux.Cart

open VitaLinux.Base

def CART_PRESENTATION_LOGICAL_WIDTH : Nat := 320
def CART_PRESENTATION_LOGICAL_HEIGHT : Nat := 180
def CART_PRESENTATION_SCALE : Nat := 4
def CART_PRESENTATION_FRAMEBUFFER_WIDTH : Nat :=
  CART_PRESENTATION_LOGICAL_WIDTH * CART_PRESENTATION_SCALE
def CART_PRESENTATION_FRAMEBUFFER_HEIGHT : Nat :=
  CART_PRESENTATION_LOGICAL_HEIGHT * CART_PRESENTATION_SCALE

/-- `memcpy(target + offset, source, count * sizeof(*source))`; the buffers do not overlap -/
def memcpy (target : Pixels) (offset : Nat) (source : Pixels) (count : Nat) : Pixels :=
  fun i => if offset ≤ i ∧ i < offset + count then source (i - offset) else target i

/-- The loop that expands the logical row `y` into `row`. -/
def expandRow (logical : Pixels) (y : Nat) (row : Pixels) : Pixels :=
  (List.range CART_PRESENTATION_LOGICAL_WIDTH).foldl (fun row x =>
    (List.range CART_PRESENTATION_SCALE).foldl (fun row k =>
      Function.update row (x * CART_PRESENTATION_SCALE + k)
        (logical (y * CART_PRESENTATION_LOGICAL_WIDTH + x))) row) row

/-- The loop that copies `row` to the framebuffer rows of the logical row `y`. -/
def copyRow (row : Pixels) (y : Nat) (framebuffer : Pixels) : Pixels :=
  (List.range CART_PRESENTATION_SCALE).foldl (fun framebuffer k =>
    memcpy framebuffer ((y * CART_PRESENTATION_SCALE + k) * CART_PRESENTATION_FRAMEBUFFER_WIDTH)
      row CART_PRESENTATION_FRAMEBUFFER_WIDTH) framebuffer

/-- The body of the outer loop, on the framebuffer and the row scratch. -/
def presentRow (logical : Pixels) (buffers : Pixels × Pixels) (y : Nat) : Pixels × Pixels :=
  let row := expandRow logical y buffers.2
  (copyRow row y buffers.1, row)

/-- `cart_presentation_upscale` on non-NULL buffers: the framebuffer and the row scratch. -/
def cartPresentationUpscale (framebuffer logical row : Pixels) : Pixels × Pixels :=
  (List.range CART_PRESENTATION_LOGICAL_HEIGHT).foldl (presentRow logical) (framebuffer, row)

/-- The framebuffer cell `i` as the logical picture has it. -/
def upscaled (logical : Pixels) (i : Nat) : U32 :=
  logical (i / CART_PRESENTATION_FRAMEBUFFER_WIDTH / CART_PRESENTATION_SCALE *
    CART_PRESENTATION_LOGICAL_WIDTH +
      i % CART_PRESENTATION_FRAMEBUFFER_WIDTH / CART_PRESENTATION_SCALE)

theorem memcpy_fills {source colours : Pixels} (offset : Nat) {count : Nat}
    (same : ∀ j < count, source j = colours (offset + j)) :
    Fills (fun target => memcpy target offset source count)
      (fun i => offset ≤ i ∧ i < offset + count) colours := by
  intro target i
  simp only [memcpy]
  constructor
  · intro inside
    rw [if_pos inside, same (i - offset) (by omega), Nat.add_sub_cancel' inside.1]
  · intro outside
    rw [if_neg outside]

/-- The scratch ends with every logical pixel of the row repeated. -/
theorem expandRow_fills (logical : Pixels) (y : Nat) :
    Fills (expandRow logical y) (fun i => i < CART_PRESENTATION_FRAMEBUFFER_WIDTH)
      (fun i => logical (y * CART_PRESENTATION_LOGICAL_WIDTH + i / CART_PRESENTATION_SCALE)) := by
  have cell : ∀ x, ∀ k < CART_PRESENTATION_SCALE, Fills (fun row : Pixels =>
      Function.update row (x * CART_PRESENTATION_SCALE + k)
        (logical (y * CART_PRESENTATION_LOGICAL_WIDTH + x)))
      (fun i => x * CART_PRESENTATION_SCALE + k = i)
      (fun i => logical (y * CART_PRESENTATION_LOGICAL_WIDTH + i / CART_PRESENTATION_SCALE)) := by
    intro x k small
    have within : (x * CART_PRESENTATION_SCALE + k) / CART_PRESENTATION_SCALE = x := by
      unfold CART_PRESENTATION_SCALE at small ⊢
      omega
    have update := Fills.update (x * CART_PRESENTATION_SCALE + k)
      (fun i => logical (y * CART_PRESENTATION_LOGICAL_WIDTH + i / CART_PRESENTATION_SCALE))
    rwa [within] at update
  refine (Fills.loop _ fun x _ => Fills.loop _ fun k small =>
    cell x k (List.mem_range.mp small)).congr fun i => ?_
  simp only [List.mem_range, CART_PRESENTATION_FRAMEBUFFER_WIDTH, CART_PRESENTATION_LOGICAL_WIDTH,
    CART_PRESENTATION_SCALE]
  constructor
  · intro inside
    exact ⟨i / 4, by omega, i % 4, by omega, by omega⟩
  · rintro ⟨x, wide, k, small, rfl⟩
    omega

/-- Copying an expanded row fills the framebuffer rows it is copied to. -/
theorem copyRow_fills {row : Pixels} (logical : Pixels) (y : Nat)
    (expanded : ∀ i < CART_PRESENTATION_FRAMEBUFFER_WIDTH,
      row i = logical (y * CART_PRESENTATION_LOGICAL_WIDTH + i / CART_PRESENTATION_SCALE)) :
    Fills (copyRow row y)
      (fun i => i / CART_PRESENTATION_FRAMEBUFFER_WIDTH / CART_PRESENTATION_SCALE = y)
      (upscaled logical) := by
  have copy : ∀ k < CART_PRESENTATION_SCALE, Fills (fun framebuffer =>
      memcpy framebuffer ((y * CART_PRESENTATION_SCALE + k) * CART_PRESENTATION_FRAMEBUFFER_WIDTH)
        row CART_PRESENTATION_FRAMEBUFFER_WIDTH)
      (fun i => i / CART_PRESENTATION_FRAMEBUFFER_WIDTH = y * CART_PRESENTATION_SCALE + k)
      (upscaled logical) := by
    intro k small
    refine (memcpy_fills _ fun j wide => ?_).congr fun i => ?_
    · rw [expanded j wide]
      simp only [upscaled, CART_PRESENTATION_FRAMEBUFFER_WIDTH, CART_PRESENTATION_LOGICAL_WIDTH,
        CART_PRESENTATION_SCALE] at small wide ⊢
      have logicalRow : ((y * 4 + k) * (320 * 4) + j) / (320 * 4) / 4 = y := by omega
      have column : ((y * 4 + k) * (320 * 4) + j) % (320 * 4) = j := by omega
      rw [logicalRow, column]
    · simp only [CART_PRESENTATION_FRAMEBUFFER_WIDTH, CART_PRESENTATION_LOGICAL_WIDTH,
        CART_PRESENTATION_SCALE]
      omega
  refine (Fills.loop _ fun k small => copy k (List.mem_range.mp small)).congr fun i => ?_
  simp only [List.mem_range, CART_PRESENTATION_SCALE]
  constructor
  · rintro rfl
    exact ⟨i / CART_PRESENTATION_FRAMEBUFFER_WIDTH % 4, by omega, by omega⟩
  · rintro ⟨k, small, same⟩
    omega

/-- After the first rows, the framebuffer shows them. -/
theorem upscale_rows (framebuffer logical row : Pixels) (rows : Nat) (i : Nat)
    (inside : i / CART_PRESENTATION_FRAMEBUFFER_WIDTH / CART_PRESENTATION_SCALE < rows) :
    ((List.range rows).foldl (presentRow logical) (framebuffer, row)).1 i =
      upscaled logical i := by
  induction rows with
  | zero => exact absurd inside (Nat.not_lt_zero _)
  | succ rows ih =>
    rw [List.range_succ, List.foldl_append, List.foldl_cons, List.foldl_nil]
    generalize (List.range rows).foldl _ (framebuffer, row) = buffers at ih ⊢
    have copied := copyRow_fills logical rows
      (fun i wide => (expandRow_fills logical rows buffers.2 i).1 wide) buffers.1 i
    by_cases last : i / CART_PRESENTATION_FRAMEBUFFER_WIDTH / CART_PRESENTATION_SCALE = rows
    · exact copied.1 last
    · exact (copied.2 last).trans (ih (by omega))

/-- **A pixel of the framebuffer is the logical pixel it lies in**, whatever the framebuffer
and the scratch held before. -/
theorem upscale_pixel (framebuffer logical row : Pixels) {y x : Nat}
    (high : y < CART_PRESENTATION_FRAMEBUFFER_HEIGHT)
    (wide : x < CART_PRESENTATION_FRAMEBUFFER_WIDTH) :
    (cartPresentationUpscale framebuffer logical row).1
        (y * CART_PRESENTATION_FRAMEBUFFER_WIDTH + x) =
      logical (y / CART_PRESENTATION_SCALE * CART_PRESENTATION_LOGICAL_WIDTH +
        x / CART_PRESENTATION_SCALE) := by
  simp only [CART_PRESENTATION_FRAMEBUFFER_WIDTH, CART_PRESENTATION_FRAMEBUFFER_HEIGHT,
    CART_PRESENTATION_LOGICAL_WIDTH, CART_PRESENTATION_LOGICAL_HEIGHT,
    CART_PRESENTATION_SCALE] at high wide
  have line : (y * CART_PRESENTATION_FRAMEBUFFER_WIDTH + x) /
      CART_PRESENTATION_FRAMEBUFFER_WIDTH = y := by
    simp only [CART_PRESENTATION_FRAMEBUFFER_WIDTH, CART_PRESENTATION_LOGICAL_WIDTH,
      CART_PRESENTATION_SCALE]
    omega
  have column : (y * CART_PRESENTATION_FRAMEBUFFER_WIDTH + x) %
      CART_PRESENTATION_FRAMEBUFFER_WIDTH = x := by
    simp only [CART_PRESENTATION_FRAMEBUFFER_WIDTH, CART_PRESENTATION_LOGICAL_WIDTH,
      CART_PRESENTATION_SCALE]
    omega
  have inside : (y * CART_PRESENTATION_FRAMEBUFFER_WIDTH + x) /
      CART_PRESENTATION_FRAMEBUFFER_WIDTH / CART_PRESENTATION_SCALE <
        CART_PRESENTATION_LOGICAL_HEIGHT := by
    rw [line]
    simp only [CART_PRESENTATION_LOGICAL_HEIGHT, CART_PRESENTATION_SCALE]
    omega
  have shown := upscale_rows framebuffer logical row CART_PRESENTATION_LOGICAL_HEIGHT _ inside
  unfold upscaled at shown
  rw [line, column] at shown
  exact shown

end VitaLinux.Cart
