import Mathlib.Tactic.IntervalCases
import VitaLinux.Base.Bits
import VitaLinux.Cart.RenderFrame

/-!
# The calls of the overlays

Whatever the frame, every primitive call of every overlay has small arguments
and a solid colour.
-/

namespace VitaLinux.Cart

open VitaLinux.Base Scene2dLegacy

/-- Alpha 0xff. -/
def Solid (color : U32) : Prop := color >>> 24 = 0xff#32

instance (color : U32) : Decidable (Solid color) := inferInstanceAs (Decidable (_ = _))

theorem cartRgba_solid (red green blue : Int) : Solid (cartRgba red green blue) := by
  apply BitVec.eq_of_getLsbD_eq
  intro i _
  simp only [cartRgba, BitVec.getLsbD_ushiftRight, BitVec.getLsbD_or]
  by_cases h : i < 8
  · have alpha : (0xff000000#32).getLsbD (24 + i) = true ∧ (0xff#32).getLsbD i = true := by
      revert h
      revert i
      decide
    simp only [alpha.1, alpha.2, Bool.or_true]
  · have beyond (x : U32) : x.getLsbD (24 + i) = false := BitVec.getLsbD_of_ge _ _ (by omega)
    have low : (0xff#32).getLsbD i = false := by
      rw [BitVec.getLsbD_ofNat]
      simp only [Bool.and_eq_false_imp]
      intro _
      exact Nat.testBit_lt_two_pow (Nat.lt_of_lt_of_le (by decide : 0xff < 2 ^ 8)
        (Nat.pow_le_pow_right (by decide) (by omega)))
    simp only [beyond, low, Bool.or_false]

theorem cartMix_solid (a b amount : U32) : Solid (cartMix a b amount) :=
  cartRgba_solid _ _ _

theorem PAL_solid {i : Int} (index : 0 ≤ i ∧ i < 10) : Solid (PAL i) := by
  obtain ⟨low, high⟩ := index
  interval_cases i <;> decide

/-- A call with small arguments and a solid colour. -/
def Draw.Fine (d : Draw) : Prop := d.InRange ∧ Solid d.color

/-- Every call of a routine is fine. -/
def AllFine (l : List Draw) : Prop := ∀ d ∈ l, d.Fine

theorem AllFine.nil : AllFine [] := by simp [AllFine]

theorem AllFine.append {l m : List Draw} (h : AllFine l) (k : AllFine m) : AllFine (l ++ m) := by
  intro d hd
  cases List.mem_append.mp hd with
  | inl hl => exact h d hl
  | inr hm => exact k d hm

theorem AllFine.cons {d : Draw} {l : List Draw} (h : d.Fine) (k : AllFine l) :
    AllFine (d :: l) := by
  intro d' hd
  cases List.mem_cons.mp hd with
  | inl e => exact e ▸ h
  | inr hl => exact k d' hl

theorem AllFine.flatMap {α : Type} {l : List α} {f : α → List Draw}
    (h : ∀ a ∈ l, AllFine (f a)) : AllFine (l.flatMap f) := by
  intro d hd
  obtain ⟨a, ha, hd⟩ := List.mem_flatMap.mp hd
  exact h a ha d hd

theorem AllFine.ite {c : Prop} [Decidable c] {l m : List Draw} (h : c → AllFine l)
    (k : ¬ c → AllFine m) : AllFine (if c then l else m) := by
  split
  · exact h ‹_›
  · exact k ‹_›

/-- A coordinate near the screen. -/
def Near (v : Int) : Prop := -1000 ≤ v ∧ v ≤ 1000

instance (v : Int) : Decidable (Near v) := inferInstanceAs (Decidable (_ ∧ _))

theorem circle_fine {x y r : Int} {c : U32} (hx : Near x) (hy : Near y) (hr : r ≤ 100)
    (hc : Solid c) : (Draw.circle x y r c).Fine := by
  simp only [Near] at hx hy
  simp only [Draw.Fine, Draw.InRange, Small, Draw.color]
  exact ⟨by omega, hc⟩

theorem star_fine {cx cy r : Int} {c : U32} (hx : Near cx) (hy : Near cy) (hr : r ≤ 100)
    (hc : Solid c) : AllFine (star cx cy r c) := by
  simp only [Near] at hx hy
  refine .flatMap fun i hi => .append ?_ (.ite (fun _ => ?_) fun _ => .nil)
  all_goals
    rw [mem_intRange] at hi
    refine .cons ⟨?_, hc⟩ (.cons ⟨?_, hc⟩ .nil)
    all_goals
      simp only [Draw.InRange, Small]
      omega

theorem flower_fine {cx cy s : Int} {petal center : U32} (hx : Near cx) (hy : Near cy)
    (size : 0 ≤ s ∧ s ≤ 100) (hp : Solid petal) (hc : Solid center) :
    AllFine (flower cx cy s petal center) := by
  simp only [Near] at hx hy
  refine .cons ⟨?_, hp⟩ (.cons ⟨?_, hp⟩ (.cons ⟨?_, hp⟩ (.cons ⟨?_, hp⟩ (.cons ⟨?_, hc⟩ .nil))))
  all_goals
    simp only [Draw.InRange, Small]
    omega

theorem cell_offset {k s : Int} {n : Nat} (hn : n < 8) (hk : k = 3 ∨ k = 4) (s0 : 0 ≤ s)
    (s1 : s ≤ 100) : -400 ≤ ((n : Int) - k) * s ∧ ((n : Int) - k) * s ≤ 700 := by
  rcases hk with rfl | rfl <;> interval_cases n <;> omega

theorem heart_fine {cx cy s : Int} {c edge : U32} (hx : Near cx) (hy : Near cy)
    (size : 0 ≤ s ∧ s ≤ 100) (hc : Solid c) (he : Solid edge) :
    AllFine (heart cx cy s c edge) := by
  obtain ⟨s0, s1⟩ := size
  simp only [Near] at hx hy
  refine .append (.flatMap fun y hy' => .flatMap fun x hx' => .ite (fun _ => ?_) fun _ => .nil)
    (.ite (fun _ => ?_) fun _ => .nil)
  · have column := cell_offset (List.mem_range.mp hx') (.inr rfl) s0 s1
    have row := cell_offset (List.mem_range.mp hy') (.inl rfl) s0 s1
    refine .cons ⟨?_, ?_⟩ .nil
    · simp only [Draw.InRange, Small]
      omega
    · simp only [Draw.color]
      split
      · exact he
      · exact hc
  · refine .cons ⟨?_, show Solid 0xffffffff by decide⟩ .nil
    simp only [Draw.InRange, Small]
    omega

theorem glyph_fine {x y scale : Int} {ch : Char} {c : U32} (hx : -10000 ≤ x ∧ x ≤ 10000)
    (hy : Near y) (s0 : 0 ≤ scale) (s1 : scale ≤ 10) (hc : Solid c) :
    AllFine (glyph x y ch scale c) := by
  simp only [Near] at hy
  refine .flatMap fun yy hyy => .flatMap fun xx hxx => .ite (fun _ => ?_) fun _ => .nil
  have row : 0 ≤ (yy : Int) * scale ∧ (yy : Int) * scale ≤ 70 := by
    have := List.mem_range.mp hyy
    interval_cases yy <;> omega
  have column : 0 ≤ (xx : Int) * scale ∧ (xx : Int) * scale ≤ 50 := by
    have := List.mem_range.mp hxx
    interval_cases xx <;> omega
  refine .cons ⟨?_, hc⟩ .nil
  simp only [Draw.InRange, Small]
  omega

/-- A line may advance by at most 60 columns a character. -/
theorem textLine_fine {y scale : Int} {c : U32} (hy : Near y) (s0 : 0 ≤ scale)
    (s1 : scale ≤ 10) (hc : Solid c) {x : Int} {s : List Char} (x0 : -10000 ≤ x)
    (x1 : x + 60 * s.length ≤ 10000) : AllFine (textLine y scale c x s) := by
  induction s generalizing x with
  | nil => exact .nil
  | cons ch s ih =>
    rw [List.length_cons] at x1
    exact .append (.ite (fun _ => .nil) fun _ => glyph_fine (by omega) hy s0 s1 hc)
      (ih (by omega) (by omega))

theorem textCenter_fine {y scale : Int} {s : String} {c shadow : U32}
    (sizes : (0 ≤ y ∧ y ≤ 900) ∧ (0 ≤ scale ∧ scale ≤ 10) ∧ s.length ≤ 20)
    (hc : Solid c) (hs : Solid shadow) : AllFine (textCenter y s scale c shadow) := by
  obtain ⟨⟨y0, y1⟩, ⟨s0, s1⟩, short⟩ := sizes
  have length : s.toList.length = s.length := String.length_toList
  have width : -10 ≤ ((s.length : Int) * 6 - 1) * scale ∧
      ((s.length : Int) * 6 - 1) * scale ≤ 1190 := by
    interval_cases scale <;> omega
  simp only [textCenter, text, LW]
  generalize ((s.length : Int) * 6 - 1) * scale = w at width
  have start : -435 ≤ (320 - w).tdiv 2 ∧ (320 - w).tdiv 2 ≤ 165 := by
    by_cases h : 0 ≤ 320 - w
    · rw [Int.tdiv_eq_ediv_of_nonneg h]
      omega
    · have e : (320 - w).tdiv 2 = -((-(320 - w)).tdiv 2) := by
        rw [Int.neg_tdiv, Int.neg_neg]
      rw [e, Int.tdiv_eq_ediv_of_nonneg (by omega)]
      omega
  refine .append (.ite (fun _ => ?_) fun _ => .nil) ?_
  · exact textLine_fine (by simp only [Near]; omega) s0 s1 hs (by omega) (by omega)
  · exact textLine_fine (by simp only [Near]; omega) s0 s1 hc (by omega) (by omega)

/-! ## The arguments the overlays compute -/

theorem tmod_range {i : Int} (n : Int) (hn : 0 < n) (h : 0 ≤ i) : 0 ≤ i.tmod n ∧ i.tmod n < n :=
  ⟨Int.tmod_nonneg n h, Int.tmod_lt_of_pos i hn⟩

theorem PAL_tmod_solid {i n : Int} (h : 0 ≤ i) (modulus : 0 < n ∧ n ≤ 10) :
    Solid (PAL (i.tmod n)) := by
  have := tmod_range n modulus.1 h
  exact PAL_solid (by omega)

/-- A remainder of an unsigned value, read as an `int`. -/
theorem umod_near (v : U32) {m : Nat} (size : 0 < m ∧ m ≤ 1000) :
    Near (v % BitVec.ofNat 32 m).toInt := by
  have modulus : (BitVec.ofNat 32 m).toNat = m := by
    rw [BitVec.toNat_ofNat, Nat.mod_eq_of_lt (by omega)]
  have bound : v.toNat % m < m := Nat.mod_lt _ size.1
  rw [BitVec.toInt_eq_toNat_cond, BitVec.toNat_umod, modulus, if_pos (by omega)]
  simp only [Near]
  omega

theorem umod_sub_near (v : U32) {m k : Nat} (size : 0 < m ∧ m ≤ 1000 ∧ k ≤ 1000) :
    Near (v % BitVec.ofNat 32 m - BitVec.ofNat 32 k).toInt := by
  have modulus : (BitVec.ofNat 32 m).toNat = m := by
    rw [BitVec.toNat_ofNat, Nat.mod_eq_of_lt (by omega)]
  have amount : (BitVec.ofNat 32 k).toNat = k := by
    rw [BitVec.toNat_ofNat, Nat.mod_eq_of_lt (by omega)]
  have bound : v.toNat % m < m := Nat.mod_lt _ size.1
  rw [BitVec.toInt_eq_toNat_cond, BitVec.toNat_sub, BitVec.toNat_umod, modulus, amount]
  simp only [Near]
  split <;> omega

theorem si_bounds (sins : SineTable) (x : Int) : -1024 ≤ si sins x ∧ si sins x ≤ 1024 :=
  ⟨sins.lower _, sins.upper _⟩

/-- A multiple of the sine, scaled down to a small offset. -/
theorem si_offset (sins : SineTable) (x : Int) {k : Int} (k0 : 0 ≤ k) :
    -k ≤ (si sins x * k) >>> (10 : Nat) ∧ (si sins x * k) >>> (10 : Nat) ≤ k := by
  have bounds := si_bounds sins x
  have low : -1024 * k ≤ si sins x * k := Int.mul_le_mul_of_nonneg_right bounds.1 k0
  have high : si sins x * k ≤ 1024 * k := Int.mul_le_mul_of_nonneg_right bounds.2 k0
  have shifted := shiftRight_bounds (si sins x * k) 10
  omega

theorem white_solid : Solid (PAL 2) := PAL_solid (by decide)

theorem violet_solid : Solid (PAL 8) := PAL_solid (by decide)

theorem pink_solid : Solid (PAL 0) := PAL_solid (by decide)

theorem overlayCandy_fine (t : Int) : AllFine (overlayCandy t) := by
  refine .append (.append (.flatMap fun i hi => ?_) ?_) ?_
  · rw [mem_intRange] at hi
    have size := tmod_range 3 (by decide) hi.1
    exact star_fine (umod_near _ (by decide)) (umod_near _ (by decide))
      (by omega) white_solid
  · exact heart_fine (by decide) (by decide) (by decide) pink_solid violet_solid
  · exact textCenter_fine (by decide) white_solid violet_solid

theorem overlayGirlMode_fine (t : Int) : AllFine (overlayGirlMode t) := by
  refine .append (.append (.flatMap fun i hi => ?_) ?_) ?_
  · rw [mem_intRange] at hi
    refine heart_fine (umod_sub_near _ (by decide)) (umod_sub_near _ (by decide)) ?_
      (PAL_tmod_solid hi.1 (by decide)) violet_solid
    split <;> decide
  · exact textCenter_fine (by decide) white_solid violet_solid
  · exact textCenter_fine (by decide) pink_solid violet_solid

theorem overlayBubblegum_fine : AllFine overlayBubblegum := by
  refine .append (.append (.flatMap fun i hi => ?_) ?_) ?_
  · rw [mem_intRange] at hi
    have size := tmod_range 3 (by decide) hi.1
    exact star_fine (umod_near _ (by decide)) (umod_near _ (by decide))
      (by omega) white_solid
  · exact textCenter_fine (by decide) white_solid violet_solid
  · exact textCenter_fine (by decide) pink_solid violet_solid

theorem butterfly_fine (sins : SineTable) {t i : Int} (t0 : 0 ≤ t) (i0 : 0 ≤ i) :
    AllFine (butterfly sins t i) := by
  have step := tmod_range 3 (by decide) i0
  have start : 0 ≤ i * 29 + t * (i.tmod 3 + 1) := by
    have : 0 ≤ t * (i.tmod 3 + 1) := Int.mul_nonneg t0 (by omega)
    omega
  have column := tmod_range 350 (by decide) start
  have row := si_offset sins (t * (8 + i) + i * 193) (k := 55) (by decide)
  simp only [butterfly]
  generalize (i * 29 + t * (i.tmod 3 + 1)).tmod 350 = u at column
  generalize (si sins (t * (8 + i) + i * 193) * 55) >>> (10 : Nat) = v at row
  have left : Solid (PAL ((i + 0).tmod 5)) :=
    PAL_tmod_solid (by omega) (by decide)
  have right : Solid (PAL ((i + 3).tmod 5)) :=
    PAL_tmod_solid (by omega) (by decide)
  refine .append (.cons ?_ (.cons ?_ (.cons ?_ (.cons ?_ (.cons ?_ .nil)))))
    (.ite (fun _ => ?_) fun _ => .nil)
  · exact circle_fine (by simp only [Near]; omega) (by simp only [Near]; omega) (by decide) left
  · exact circle_fine (by simp only [Near]; omega) (by simp only [Near]; omega) (by decide) right
  · exact circle_fine (by simp only [Near]; omega) (by simp only [Near]; omega) (by decide) left
  · exact circle_fine (by simp only [Near]; omega) (by simp only [Near]; omega) (by decide) right
  · exact ⟨by simp only [Draw.InRange, Small]; omega, violet_solid⟩
  · exact star_fine (by simp only [Near]; omega) (by simp only [Near]; omega) (by decide)
      white_solid

theorem overlayButterflyRiot_fine (sins : SineTable) {t : Int} (t0 : 0 ≤ t) :
    AllFine (overlayButterflyRiot sins t) := by
  refine .append (.append (.flatMap fun i hi => ?_) (.flatMap fun i hi => ?_)) ?_
  · exact butterfly_fine sins t0 (mem_intRange.mp hi).1
  · rw [mem_intRange] at hi
    have column := tmod_range 340 (by decide) (show 0 ≤ i * 41 + t by omega)
    have row := tmod_range 140 (by decide) (show 0 ≤ i * 23 by omega)
    exact flower_fine (by simp only [Near]; omega) (by simp only [Near]; omega) (by decide)
      (PAL_tmod_solid (by omega) (by decide)) white_solid
  · exact textCenter_fine (by decide) white_solid violet_solid

theorem ball_fine {cx cy : Int} (hx : Near cx) (hy : Near cy) : AllFine (ball cx cy 39) := by
  simp only [Near] at hx hy
  refine .flatMap fun y hy' => .flatMap fun x hx' => .ite (fun _ => .cons ⟨?_, ?_⟩ .nil)
    fun _ => .nil
  all_goals rw [mem_intRange] at hx' hy'
  · simp only [Draw.InRange, Small]
    omega
  · refine PAL_tmod_solid ?_ (by decide)
    exact Int.tdiv_nonneg (by omega) (by decide)

theorem overlayHyperdrive_fine (sins : SineTable) (t : Int) :
    AllFine (overlayHyperdrive sins t) := by
  have column := si_offset sins (t * 9) (k := 28) (by decide)
  have row := si_offset sins (t * 13) (k := 9) (by decide)
  simp only [overlayHyperdrive]
  generalize (si sins (t * 9) * 28) >>> (10 : Nat) = u at column
  generalize (si sins (t * 13) * 9) >>> (10 : Nat) = v at row
  refine .append (.append (.append (.append ?_ (.cons ?_ .nil)) ?_) ?_) ?_
  · exact ball_fine (by simp only [Near]; omega) (by simp only [Near]; omega)
  · exact circle_fine (by simp only [Near]; omega) (by simp only [Near]; omega) (by decide)
      (by decide)
  · exact star_fine (by simp only [Near]; omega) (by simp only [Near]; omega) (by decide)
      (by decide)
  · exact textCenter_fine (by decide) white_solid violet_solid
  · exact textCenter_fine (by decide) pink_solid violet_solid

theorem overlayTooMuch_fine : AllFine overlayTooMuch := by
  refine .append (.append (.flatMap fun i hi => ?_) ?_) ?_
  · rw [mem_intRange] at hi
    have size := tmod_range 3 (by decide) hi.1
    have colour : Solid (PAL (i.tmod 5)) := PAL_tmod_solid hi.1 (by decide)
    have column (v : U32) : Near (v % 320).toInt := umod_near v (by decide)
    have row (v : U32) : Near (v % 180).toInt := umod_near v (by decide)
    refine .ite (fun _ => ?_) fun _ => .ite (fun _ => ?_) fun _ => ?_
    · exact heart_fine (column _) (row _) (by omega) colour violet_solid
    · exact flower_fine (column _) (row _) (by omega) colour white_solid
    · exact star_fine (column _) (row _) (by omega) white_solid
  · exact textCenter_fine (by decide) white_solid violet_solid
  · exact textCenter_fine (by decide) (PAL_solid (by decide)) violet_solid

theorem sceneDots_fine (which : Int) : AllFine (sceneDots which) := by
  intro d hd
  obtain ⟨i, hi, rfl⟩ := List.mem_map.mp hd
  rw [mem_intRange, SCENES] at hi
  refine circle_fine (by simp only [Near]; omega) (by decide) (by split <;> decide) ?_
  split
  · exact white_solid
  · exact violet_solid

/-- Every call of every overlay has small arguments and a solid colour. -/
theorem overlay_fine (sins : SineTable) (which : Int) {t : Int} (t0 : 0 ≤ t) :
    AllFine (overlay sins which t) :=
  .append
    (.ite (fun _ => overlayCandy_fine t) fun _ =>
      .ite (fun _ => overlayGirlMode_fine t) fun _ =>
      .ite (fun _ => overlayBubblegum_fine) fun _ =>
      .ite (fun _ => overlayButterflyRiot_fine sins t0) fun _ =>
      .ite (fun _ => overlayHyperdrive_fine sins t) fun _ => overlayTooMuch_fine)
    (sceneDots_fine which)

end VitaLinux.Cart
