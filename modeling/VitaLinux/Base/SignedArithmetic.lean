import Mathlib.Algebra.Order.Ring.Int
import VitaLinux.Base.Bits

/-!
# Signed arithmetic that may be undefined

A C expression of a signed type has a value only while every step of its evaluation
fits the type and divides by something other than zero. `Signed w` is such an
expression; `Has e v lo hi` says that `e` is defined, that its value is `v`, and
between which bounds that value lies. The rules of `Has` follow the operators. What
they ask of the bounds is collected in a check, which computes where the bounds are
numbers.
-/

namespace VitaLinux.Base

/-- `v` is a value of a signed type of `w` bits. -/
def FitsSigned (w : Nat) (v : Int) : Prop :=
  -((2 ^ (w - 1) : Nat) : Int) ≤ v ∧ v < ((2 ^ (w - 1) : Nat) : Int)

instance (w : Nat) (v : Int) : Decidable (FitsSigned w v) :=
  inferInstanceAs (Decidable (_ ∧ _))

theorem FitsSigned.between {w : Nat} {lo v hi : Int} (bottom : FitsSigned w lo)
    (top : FitsSigned w hi) (low : lo ≤ v) (high : v ≤ hi) : FitsSigned w v :=
  ⟨bottom.1.trans low, high.trans_lt top.2⟩

theorem FitsSigned.shiftRight {w : Nat} {v : Int} (fits : FitsSigned w v) (n : Nat) :
    FitsSigned w (v >>> n) := by
  obtain ⟨bottom, top⟩ := fits
  have limit : (0 : Int) ≤ ((2 ^ (w - 1) : Nat) : Int) := Int.natCast_nonneg _
  have unit : (0 : Int) < ((2 ^ n : Nat) : Int) := by positivity
  have scaled : ((2 ^ (w - 1) : Nat) : Int) * 1 ≤
      ((2 ^ (w - 1) : Nat) : Int) * ((2 ^ n : Nat) : Int) := mul_le_mul_of_nonneg_left unit limit
  rw [mul_one] at scaled
  rw [Int.shiftRight_eq_div_pow]
  constructor
  · apply Int.le_ediv_of_mul_le unit
    rw [neg_mul]
    exact (neg_le_neg scaled).trans bottom
  · exact Int.ediv_lt_of_lt_mul unit (top.trans_le scaled)

theorem fitsSigned_32 {v : Int} : FitsSigned 32 v ↔ -2147483648 ≤ v ∧ v ≤ 2147483647 := by
  have limit : ((2 ^ (32 - 1) : Nat) : Int) = 2147483648 := rfl
  simp only [FitsSigned, limit]
  omega

theorem fitsSigned_64 {v : Int} :
    FitsSigned 64 v ↔ -9223372036854775808 ≤ v ∧ v ≤ 9223372036854775807 := by
  have limit : ((2 ^ (64 - 1) : Nat) : Int) = 9223372036854775808 := rfl
  simp only [FitsSigned, limit]
  omega

def fitSigned (w : Nat) (v : Int) : Option Int := if FitsSigned w v then some v else none

/-- An expression of a signed type of `w` bits: its value, or `none` where C leaves it
undefined. -/
structure Signed (w : Nat) where
  value : Option Int

namespace Signed

variable {w : Nat}

def ofInt (v : Int) : Signed w := ⟨fitSigned w v⟩

instance (n : Nat) : OfNat (Signed w) n := ⟨ofInt n⟩

instance : Add (Signed w) :=
  ⟨fun a b => ⟨do fitSigned w ((← a.value) + (← b.value))⟩⟩

instance : Sub (Signed w) :=
  ⟨fun a b => ⟨do fitSigned w ((← a.value) - (← b.value))⟩⟩

instance : Mul (Signed w) :=
  ⟨fun a b => ⟨do fitSigned w ((← a.value) * (← b.value))⟩⟩

instance : Neg (Signed w) := ⟨fun a => ⟨do fitSigned w (-(← a.value))⟩⟩

instance : Div (Signed w) :=
  ⟨fun a b => ⟨do
    let v ← a.value
    let u ← b.value
    if u = 0 then none else fitSigned w (v.tdiv u)⟩⟩

/-- A remainder is undefined with its quotient. -/
instance : Mod (Signed w) :=
  ⟨fun a b => ⟨do
    let v ← a.value
    let u ← b.value
    if u = 0 then none
    else
      let _ ← fitSigned w (v.tdiv u)
      some (v.tmod u)⟩⟩

/-- `>>` by a constant, arithmetic as compilers define it. -/
instance : HShiftRight (Signed w) Nat (Signed w) := ⟨fun a n => ⟨do some ((← a.value) >>> n)⟩⟩

/-- `&` of two's complement values. -/
instance : AndOp (Signed w) := ⟨fun a b => ⟨do some (Int.land (← a.value) (← b.value))⟩⟩

/-- `^` of two's complement values. -/
instance : XorOp (Signed w) := ⟨fun a b => ⟨do some (Int.xor (← a.value) (← b.value))⟩⟩

/-- `abs` of stdlib.h -/
def abs (a : Signed w) : Signed w := ⟨do fitSigned w ((← a.value).natAbs : Int)⟩

/-- The value in another signed type that has it. -/
def cast (w' : Nat) (a : Signed w) : Signed w' := ⟨do fitSigned w' (← a.value)⟩

/-- The expression, evaluated here. -/
def eval (a : Signed w) : Option (Signed w) := if a.value.isSome then some a else none

def lt (a b : Signed w) : Option Bool := do return decide ((← a.value) < (← b.value))

def le (a b : Signed w) : Option Bool := do return decide ((← a.value) ≤ (← b.value))

/-- `==` -/
def same (a b : Signed w) : Option Bool := do return decide ((← a.value) = (← b.value))

/-- `table[a]`, undefined outside the table. -/
def lookup {α : Type} (table : List α) (a : Signed w) : Option α := do
  let index ← a.value
  if 0 ≤ index then table[index.toNat]? else none

/-- If the check holds, the expression is defined and has this value, which lies between
these bounds. -/
structure Has (e : Signed w) (v lo hi : Int) (ok : Bool := true) : Prop where
  checked : ok = true → e.value = some v ∧ FitsSigned w v ∧ lo ≤ v ∧ v ≤ hi

/-- The check that both bounds are values of the type. -/
def boundsFit (w : Nat) (lo hi : Int) : Bool := FitsSigned w lo ∧ FitsSigned w hi

/-- A step that is defined, passed on. -/
theorem bind_of_some {α β : Type} {o : Option α} {a : α} {f : α → Option β} (h : o = some a) :
    (o >>= f) = f a := by
  rw [h]
  rfl

theorem fitSigned_eq {v : Int} (h : FitsSigned w v) : fitSigned w v = some v := if_pos h

section Values

variable {a b : Signed w} {v u : Int}

theorem value_ofInt (fits : FitsSigned w v) : (ofInt v : Signed w).value = some v :=
  fitSigned_eq fits

theorem value_add (ha : a.value = some v) (hb : b.value = some u) :
    (a + b).value = fitSigned w (v + u) := by
  change (do fitSigned w ((← a.value) + (← b.value))) = _
  rw [ha, hb]
  rfl

theorem value_sub (ha : a.value = some v) (hb : b.value = some u) :
    (a - b).value = fitSigned w (v - u) := by
  change (do fitSigned w ((← a.value) - (← b.value))) = _
  rw [ha, hb]
  rfl

theorem value_mul (ha : a.value = some v) (hb : b.value = some u) :
    (a * b).value = fitSigned w (v * u) := by
  change (do fitSigned w ((← a.value) * (← b.value))) = _
  rw [ha, hb]
  rfl

theorem value_neg (ha : a.value = some v) : (-a).value = fitSigned w (-v) := by
  change (do fitSigned w (-(← a.value))) = _
  rw [ha]
  rfl

theorem value_div (ha : a.value = some v) (hb : b.value = some u) (divisor : u ≠ 0) :
    (a / b).value = fitSigned w (v.tdiv u) := by
  change (do
    let v ← a.value
    let u ← b.value
    if u = 0 then none else fitSigned w (v.tdiv u)) = _
  rw [ha, hb]
  exact if_neg divisor

theorem value_mod (ha : a.value = some v) (hb : b.value = some u) (divisor : u ≠ 0)
    (quotient : FitsSigned w (v.tdiv u)) : (a % b).value = some (v.tmod u) := by
  change (do
    let v ← a.value
    let u ← b.value
    if u = 0 then none
    else
      let _ ← fitSigned w (v.tdiv u)
      some (v.tmod u)) = _
  rw [ha, hb]
  change (if u = 0 then none else (fitSigned w (v.tdiv u)).bind fun _ => some (v.tmod u)) = _
  rw [if_neg divisor, fitSigned_eq quotient]
  rfl

theorem value_shiftRight (ha : a.value = some v) (n : Nat) :
    (a >>> n).value = some (v >>> n) := by
  change (do some ((← a.value) >>> n)) = _
  rw [ha]
  rfl

theorem value_and (ha : a.value = some v) (hb : b.value = some u) :
    (a &&& b).value = some (Int.land v u) := by
  change (do some (Int.land (← a.value) (← b.value))) = _
  rw [ha, hb]
  rfl

theorem value_xor (ha : a.value = some v) (hb : b.value = some u) :
    (a ^^^ b).value = some (Int.xor v u) := by
  change (do some (Int.xor (← a.value) (← b.value))) = _
  rw [ha, hb]
  rfl

theorem value_abs (ha : a.value = some v) : a.abs.value = fitSigned w (v.natAbs : Int) := by
  change (do fitSigned w ((← a.value).natAbs : Int)) = _
  rw [ha]
  rfl

theorem value_cast (ha : a.value = some v) (w' : Nat) : (a.cast w').value = fitSigned w' v := by
  change (do fitSigned w' (← a.value)) = _
  rw [ha]
  rfl

theorem eval_eq (ha : a.value = some v) : a.eval = some a := by
  rw [eval, ha]
  rfl

theorem lt_eq (ha : a.value = some v) (hb : b.value = some u) :
    a.lt b = some (decide (v < u)) := by
  rw [lt, ha, hb]
  rfl

theorem le_eq (ha : a.value = some v) (hb : b.value = some u) :
    a.le b = some (decide (v ≤ u)) := by
  rw [le, ha, hb]
  rfl

theorem same_eq (ha : a.value = some v) (hb : b.value = some u) :
    a.same b = some (decide (v = u)) := by
  rw [same, ha, hb]
  rfl

theorem eval_bind {β : Type} {f : Signed w → Option β} (ha : a.value = some v) :
    (a.eval >>= f) = f a :=
  bind_of_some (eval_eq ha)

theorem lt_bind {β : Type} {f : Bool → Option β} (ha : a.value = some v)
    (hb : b.value = some u) : (a.lt b >>= f) = f (decide (v < u)) :=
  bind_of_some (lt_eq ha hb)

theorem same_bind {β : Type} {f : Bool → Option β} (ha : a.value = some v)
    (hb : b.value = some u) : (a.same b >>= f) = f (decide (v = u)) :=
  bind_of_some (same_eq ha hb)

theorem lookup_eq {α : Type} {table : List α} (ha : a.value = some v) (d : α) (low : 0 ≤ v)
    (high : v < table.length) : a.lookup table = some (table.getD v.toNat d) := by
  have inside : v.toNat < table.length := by omega
  rw [lookup, ha]
  change (if 0 ≤ v then table[v.toNat]? else none) = _
  rw [if_pos low, List.getD_eq_getElem?_getD, List.getElem?_eq_getElem inside]
  rfl

theorem value_of_eval_bind {β : Type} {f : Signed w → Option β} {r : β}
    (h : (a.eval >>= f) = some r) : ∃ v, a.value = some v := by
  rw [eval] at h
  cases defined : a.value with
  | none =>
    rw [defined] at h
    cases h
  | some v => exact ⟨v, rfl⟩

theorem dividend_of_value {r : Int} (h : (a / b).value = some r) : ∃ v, a.value = some v := by
  change (do
    let v ← a.value
    let u ← b.value
    if u = 0 then none else fitSigned w (v.tdiv u)) = _ at h
  cases defined : a.value with
  | none =>
    rw [defined] at h
    cases h
  | some v => exact ⟨v, rfl⟩

theorem fits_of_value (h : fitSigned w v = some u) : FitsSigned w v := by
  simp only [fitSigned] at h
  split at h
  · assumption
  · cases h

end Values

namespace Has

variable {a b : Signed w} {v u lo hi lo' hi' : Int} {p q : Bool}

section Checked

variable (h : Has a v lo hi)

include h

theorem value : a.value = some v := (h.checked rfl).1

theorem fits : FitsSigned w v := (h.checked rfl).2.1

theorem low : lo ≤ v := (h.checked rfl).2.2.1

theorem high : v ≤ hi := (h.checked rfl).2.2.2

/-- Other bounds that the value is known to keep. -/
theorem within (low : lo' ≤ v) (high : v ≤ hi') : Has a v lo' hi' :=
  ⟨fun _ => ⟨h.value, h.fits, low, high⟩⟩

end Checked

theorem when (h : Has a v lo hi p) (ok : p = true) : Has a v lo hi := ⟨fun _ => h.checked ok⟩

/-- What fits the type between bounds that do is a value. -/
theorem of_bounds (value : a.value = fitSigned w v) (low : lo ≤ v) (high : v ≤ hi)
    (ok : boundsFit w lo hi = true) : a.value = some v ∧ FitsSigned w v ∧ lo ≤ v ∧ v ≤ hi := by
  obtain ⟨bottom, top⟩ := of_decide_eq_true ok
  have fits := bottom.between top low high
  exact ⟨value.trans (fitSigned_eq fits), fits, low, high⟩

theorem ofInt (low : lo ≤ v) (high : v ≤ hi) :
    Has (Signed.ofInt v : Signed w) v lo hi (boundsFit w lo hi) :=
  ⟨of_bounds rfl low high⟩

theorem literal (n : Nat) :
    Has (OfNat.ofNat n : Signed w) (OfNat.ofNat n : Int) n n (boundsFit w n n) :=
  ofInt (le_refl (n : Int)) (le_refl (n : Int))

theorem congr (h : Has a v lo hi p) (same : v = u) : Has a u lo hi p := same ▸ h

/-- A conditional on a comparison made before. -/
theorem ite (c : Prop) [Decidable c] (ha : Has a v lo hi p) (hb : Has b u lo' hi' q) :
    Has (if decide c = true then a else b) (if c then v else u) (min lo lo') (max hi hi')
      (p && q) := by
  refine ⟨fun ok => ?_⟩
  rw [Bool.and_eq_true] at ok
  have ha := ha.when ok.1
  have hb := hb.when ok.2
  by_cases h : c
  · simp only [h, decide_true, if_true]
    exact ⟨ha.value, ha.fits, min_le_of_left_le ha.low, le_max_of_le_left ha.high⟩
  · simp only [h, decide_false, Bool.false_eq_true, if_false]
    exact ⟨hb.value, hb.fits, min_le_of_right_le hb.low, le_max_of_le_right hb.high⟩

theorem mono (h : Has a v lo hi p) : Has a v lo' hi' (p && (lo' ≤ lo && hi ≤ hi')) := by
  refine ⟨fun ok => ?_⟩
  simp only [Bool.and_eq_true, decide_eq_true_eq] at ok
  obtain ⟨hp, below, above⟩ := ok
  have h := h.when hp
  exact ⟨h.value, h.fits, below.trans h.low, h.high.trans above⟩

theorem add (ha : Has a v lo hi p) (hb : Has b u lo' hi' q) :
    Has (a + b) (v + u) (lo + lo') (hi + hi')
      (p && q && boundsFit w (lo + lo') (hi + hi')) := by
  refine ⟨fun ok => ?_⟩
  simp only [Bool.and_eq_true] at ok
  have ha := ha.when ok.1.1
  have hb := hb.when ok.1.2
  exact of_bounds (value_add ha.value hb.value) (add_le_add ha.low hb.low)
    (add_le_add ha.high hb.high) ok.2

theorem sub (ha : Has a v lo hi p) (hb : Has b u lo' hi' q) :
    Has (a - b) (v - u) (lo - hi') (hi - lo')
      (p && q && boundsFit w (lo - hi') (hi - lo')) := by
  refine ⟨fun ok => ?_⟩
  simp only [Bool.and_eq_true] at ok
  have ha := ha.when ok.1.1
  have hb := hb.when ok.1.2
  exact of_bounds (value_sub ha.value hb.value) (sub_le_sub ha.low hb.high)
    (sub_le_sub ha.high hb.low) ok.2

theorem neg (ha : Has a v lo hi p) :
    Has (-a) (-v) (-hi) (-lo) (p && boundsFit w (-hi) (-lo)) := by
  refine ⟨fun ok => ?_⟩
  simp only [Bool.and_eq_true] at ok
  have ha := ha.when ok.1
  exact of_bounds (value_neg ha.value) (neg_le_neg ha.high) (neg_le_neg ha.low) ok.2

/-- A product is bounded by bounds of its value. -/
theorem mul_of_bounds (ha : Has a v lo hi p) (hb : Has b u lo' hi' q) {low high : Int}
    (least : low ≤ v * u) (most : v * u ≤ high) :
    Has (a * b) (v * u) low high (p && q && boundsFit w low high) := by
  refine ⟨fun ok => ?_⟩
  simp only [Bool.and_eq_true] at ok
  exact of_bounds (value_mul (ha.when ok.1.1).value (hb.when ok.1.2).value) least most ok.2

/-- A product with a factor that is not negative. -/
theorem mul (ha : Has a v lo hi p) (hb : Has b u lo' hi' q) :
    Has (a * b) (v * u) (min (lo * lo') (lo * hi')) (max (hi * lo') (hi * hi'))
      (p && q && (0 ≤ lo' &&
        boundsFit w (min (lo * lo') (lo * hi')) (max (hi * lo') (hi * hi')))) := by
  refine ⟨fun ok => ?_⟩
  simp only [Bool.and_eq_true, decide_eq_true_eq] at ok
  obtain ⟨⟨hp, hq⟩, sign, range⟩ := ok
  have ha := ha.when hp
  have hb := hb.when hq
  have nonneg : 0 ≤ u := sign.trans hb.low
  have below : lo * u ≤ v * u := mul_le_mul_of_nonneg_right ha.low nonneg
  have above : v * u ≤ hi * u := mul_le_mul_of_nonneg_right ha.high nonneg
  have least : min (lo * lo') (lo * hi') ≤ lo * u := by
    by_cases positive : 0 ≤ lo
    · exact (min_le_left _ _).trans (mul_le_mul_of_nonneg_left hb.low positive)
    · exact (min_le_right _ _).trans
        (mul_le_mul_of_nonpos_left hb.high (not_le.mp positive).le)
  have most : hi * u ≤ max (hi * lo') (hi * hi') := by
    by_cases positive : 0 ≤ hi
    · exact (mul_le_mul_of_nonneg_left hb.high positive).trans (le_max_right _ _)
    · exact (mul_le_mul_of_nonpos_left hb.low (not_le.mp positive).le).trans (le_max_left _ _)
  exact of_bounds (value_mul ha.value hb.value) (least.trans below) (above.trans most) range

/-- A product with a literal. -/
theorem scale (ha : Has a v lo hi p) (n : Nat) :
    Has (a * (OfNat.ofNat n : Signed w)) (v * (OfNat.ofNat n : Int)) (lo * n) (hi * n)
      (p && boundsFit w n n && boundsFit w (lo * n) (hi * n)) := by
  refine ⟨fun ok => ?_⟩
  have factor : Has (OfNat.ofNat n : Signed w) (OfNat.ofNat n : Int) n n (boundsFit w n n) :=
    literal n
  have nonneg : (0 : Int) ≤ n := Int.natCast_nonneg n
  simp only [Bool.and_eq_true] at ok
  have ha := ha.when ok.1.1
  exact of_bounds (value_mul ha.value (factor.when ok.1.2).value)
    (mul_le_mul_of_nonneg_right ha.low nonneg) (mul_le_mul_of_nonneg_right ha.high nonneg) ok.2

/-- A square of something at most `size` in size. -/
theorem square (size : Int) (ha : Has a v lo hi p) :
    Has (a * a) (v * v) 0 (size * size)
      (p && (-size ≤ lo && hi ≤ size && boundsFit w 0 (size * size))) := by
  refine ⟨fun ok => ?_⟩
  simp only [Bool.and_eq_true, decide_eq_true_eq] at ok
  obtain ⟨hp, ⟨low, high⟩, range⟩ := ok
  have ha := ha.when hp
  have least : -size ≤ v := low.trans ha.low
  have most : v ≤ size := ha.high.trans high
  have bound : v * v ≤ size * size := by
    by_cases positive : 0 ≤ v
    · exact mul_le_mul most most positive (positive.trans most)
    · have opposite : 0 ≤ -v := by omega
      have small : -v ≤ size := neg_le.mp least
      have squares := mul_le_mul small small opposite (opposite.trans small)
      rwa [neg_mul_neg] at squares
  exact of_bounds (value_mul ha.value ha.value) (mul_self_nonneg v) bound range

theorem shiftRight (ha : Has a v lo hi p) (n : Nat) :
    Has (a >>> n) (v >>> n) (lo >>> n) (hi >>> n) p := by
  refine ⟨fun ok => ?_⟩
  have ha := ha.when ok
  have monotone {x y : Int} (h : x ≤ y) : x >>> n ≤ y >>> n := by
    rw [Int.shiftRight_eq_div_pow, Int.shiftRight_eq_div_pow]
    exact Int.ediv_le_ediv (by positivity) h
  exact ⟨value_shiftRight ha.value n, ha.fits.shiftRight n, monotone ha.low, monotone ha.high⟩

/-- A remainder modulo a power of two, taken by a mask. -/
theorem mask (ha : a.value = some v) (k m : Nat) :
    Has (a &&& (OfNat.ofNat m : Signed w)) (Int.land v (OfNat.ofNat m : Int)) 0 m
      (m = 2 ^ k - 1 && boundsFit w 0 m) := by
  refine ⟨fun ok => ?_⟩
  simp only [Bool.and_eq_true, decide_eq_true_eq] at ok
  obtain ⟨rfl, range⟩ := ok
  obtain ⟨bottom, top⟩ := of_decide_eq_true range
  have masked := land_mask_range v k
  have size : ((2 ^ k - 1 : Nat) : Int) = 2 ^ k - 1 := by
    push_cast [Nat.one_le_two_pow]
    rfl
  have most : Int.land v ((2 ^ k - 1 : Nat) : Int) ≤ ((2 ^ k - 1 : Nat) : Int) := by
    have below := masked.2
    omega
  exact ⟨value_and ha (value_ofInt top), bottom.between top masked.1 most, masked.1, most⟩

/-- A quotient is bounded by bounds of its value. -/
theorem div_of_bounds (ha : Has a v lo hi p) (hb : Has b u lo' hi' q) (divisor : u ≠ 0)
    {low high : Int} (least : low ≤ v.tdiv u) (most : v.tdiv u ≤ high) :
    Has (a / b) (v.tdiv u) low high (p && q && boundsFit w low high) := by
  refine ⟨fun ok => ?_⟩
  simp only [Bool.and_eq_true] at ok
  exact of_bounds (value_div (ha.when ok.1.1).value (hb.when ok.1.2).value divisor) least most
    ok.2

/-- A quotient by something positive. -/
theorem div (ha : Has a v lo hi p) (hb : Has b u lo' hi' q) :
    Has (a / b) (v.tdiv u) (min lo 0) (max hi 0)
      (p && q && (0 < lo' && boundsFit w (min lo 0) (max hi 0))) := by
  refine ⟨fun ok => ?_⟩
  simp only [Bool.and_eq_true, decide_eq_true_eq] at ok
  obtain ⟨⟨hp, hq⟩, positive, range⟩ := ok
  have ha := ha.when hp
  have hb := hb.when hq
  have divisor : 0 < u := positive.trans_le hb.low
  have least : min v 0 ≤ v.tdiv u := by
    by_cases sign : 0 ≤ v
    · exact (min_le_right _ _).trans (Int.tdiv_nonneg sign divisor.le)
    · have size := Int.tdiv_le_self u (show 0 ≤ -v by omega)
      rw [Int.neg_tdiv] at size
      exact (min_le_left _ _).trans (by omega)
  have most : v.tdiv u ≤ max v 0 := by
    by_cases sign : 0 ≤ v
    · exact (Int.tdiv_le_self u sign).trans (le_max_left _ _)
    · have size := Int.tdiv_nonneg (show 0 ≤ -v by omega) divisor.le
      rw [Int.neg_tdiv] at size
      exact le_trans (by omega) (le_max_right _ _)
  exact of_bounds (value_div ha.value hb.value divisor.ne')
    ((min_le_min_right 0 ha.low).trans least) (most.trans (max_le_max_right 0 ha.high)) range

/-- A remainder of something that is not negative. -/
theorem rem (ha : Has a v lo hi p) (hb : Has b u lo' hi' q) :
    Has (a % b) (v.tmod u) 0 (hi' - 1) (p && q && (0 ≤ lo && 0 < lo')) := by
  refine ⟨fun ok => ?_⟩
  simp only [Bool.and_eq_true, decide_eq_true_eq] at ok
  obtain ⟨⟨hp, hq⟩, sign, positive⟩ := ok
  have ha := ha.when hp
  have hb := hb.when hq
  have divisor : 0 < u := positive.trans_le hb.low
  have nonneg : 0 ≤ v := sign.trans ha.low
  have below := Int.tmod_lt_of_pos v divisor
  have least := Int.tmod_nonneg u nonneg
  obtain ⟨bottom, top⟩ := ha.fits
  have quotient : FitsSigned w (v.tdiv u) := by
    have small := Int.tdiv_le_self u nonneg
    have zero_le := Int.tdiv_nonneg nonneg divisor.le
    exact ⟨by omega, small.trans_lt top⟩
  have last : v.tmod u ≤ hi' - 1 := by
    have := hb.high
    omega
  have remains : v.tmod u < ((2 ^ (w - 1) : Nat) : Int) := below.trans_le (hb.fits.2.le)
  exact ⟨value_mod ha.value hb.value divisor.ne' quotient, ⟨by omega, remains⟩, least, last⟩

theorem abs (ha : Has a v lo hi p) (size : Int) :
    Has a.abs (v.natAbs : Int) 0 size
      (p && (-size ≤ lo && hi ≤ size && boundsFit w 0 size)) := by
  refine ⟨fun ok => ?_⟩
  simp only [Bool.and_eq_true, decide_eq_true_eq] at ok
  obtain ⟨hp, ⟨low, high⟩, range⟩ := ok
  have ha := ha.when hp
  have least := low.trans ha.low
  have most := ha.high.trans high
  exact of_bounds (value_abs ha.value) (by omega) (by omega) range

theorem cast (ha : Has a v lo hi p) (w' : Nat) :
    Has (a.cast w') v lo hi (p && boundsFit w' lo hi) := by
  refine ⟨fun ok => ?_⟩
  simp only [Bool.and_eq_true] at ok
  have ha := ha.when ok.1
  exact of_bounds (value_cast ha.value w') ha.low ha.high ok.2

/-- A loop that adds at most `step` in each turn. -/
theorem accumulate {α : Type} {turn : Signed w → α → Option (Signed w)} {g : Int → α → Int}
    {step : Int} (most : Int) (l : List α)
    (once : ∀ a ∈ l, ∀ e v hi, Has e v 0 hi → hi + step ≤ most →
      ∃ e', turn e a = some e' ∧ Has e' (g v a) 0 (hi + step))
    (nonneg : 0 ≤ step) (start : Has a v 0 hi) (room : hi + l.length * step ≤ most) :
    ∃ e, l.foldlM turn a = some e ∧ Has e (l.foldl g v) 0 (hi + l.length * step) := by
  induction l generalizing a v hi with
  | nil => exact ⟨a, rfl, by simpa using start⟩
  | cons x l ih =>
    have length : ((x :: l).length : Int) * step = step + l.length * step := by
      rw [List.length_cons, Nat.cast_succ, add_mul, one_mul, add_comm]
    have rest : 0 ≤ (l.length : Int) * step := mul_nonneg (Int.natCast_nonneg _) nonneg
    rw [length] at room ⊢
    obtain ⟨e, turned, next⟩ := once x List.mem_cons_self a v hi start (by omega)
    obtain ⟨r, ran, result⟩ := ih (fun b mem => once b (List.mem_cons_of_mem x mem)) next
      (by omega)
    refine ⟨r, ?_, ?_⟩
    · rw [List.foldlM_cons, turned]
      exact ran
    · rw [← add_assoc]
      exact result

end Has

end Signed

end VitaLinux.Base
