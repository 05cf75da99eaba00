import VitaLinux.Cart.SceneArithmetic

/-!
# The overlays stay defined

A routine draws a list of calls where none of its expressions is undefined and all of the
arguments are `int` values. The routines of the overlays draw what the overlays list, and
the primitives then draw it inside the canvas.
-/

namespace VitaLinux.Cart

open VitaLinux.Base

/-- The arguments are values of `int`. -/
def Draw.FitsInt : Draw → Prop
  | px x y _ => FitsSigned 32 x ∧ FitsSigned 32 y
  | rect x y width height _ =>
    FitsSigned 32 x ∧ FitsSigned 32 y ∧ FitsSigned 32 width ∧ FitsSigned 32 height
  | circle centerX centerY radius _ =>
    FitsSigned 32 centerX ∧ FitsSigned 32 centerY ∧ FitsSigned 32 radius

namespace Scene2dLegacy

namespace Routine

/-- The routine is defined and makes these calls. -/
structure Draws (r : Routine) (l : List Draw) : Prop where
  calls : r.calls = some l
  fits : ∀ d ∈ l, d.FitsInt

namespace Draws

variable {r r' : Routine} {l l' : List Draw}

theorem skip : Draws skip [] := ⟨rfl, fun _ mem => absurd mem List.not_mem_nil⟩

theorem append (h : r.Draws l) (h' : r'.Draws l') : (r ++ r').Draws (l ++ l') := by
  refine ⟨?_, fun d mem => ?_⟩
  · change (do return (← r.calls) ++ (← r'.calls)) = _
    rw [h.calls, h'.calls]
    rfl
  · cases List.mem_append.mp mem with
    | inl first => exact h.fits d first
    | inr second => exact h'.fits d second

theorem after {α : Type} {e : Option α} {a : α} {rest : α → Routine} (value : e = some a)
    (h : (rest a).Draws l) : (Routine.after e rest).Draws l :=
  ⟨(Signed.bind_of_some value).trans h.calls, h.fits⟩

theorem palette {rest : U32 → Routine} (n : Nat) (inside : n ≤ 9)
    (h : (rest (PAL (OfNat.ofNat n))).Draws l) :
    (Routine.after (checkedPAL (OfNat.ofNat n)) rest).Draws l :=
  .after (checkedPAL_literal n inside) h

theorem test {c : Option Bool} {p : Prop} [Decidable p] (value : c = some (decide p))
    (yes : p → r.Draws l) (no : ¬ p → r'.Draws l') :
    (Routine.test c r r').Draws (if p then l else l') := by
  by_cases h : p
  · rw [if_pos h]
    refine ⟨(Signed.bind_of_some value).trans ?_, (yes h).fits⟩
    rw [decide_eq_true h]
    exact (yes h).calls
  · rw [if_neg h]
    refine ⟨(Signed.bind_of_some value).trans ?_, (no h).fits⟩
    rw [decide_eq_false h]
    exact (no h).calls

theorem loop {first stop : CInt} {a b : Int} {turn : Int → Routine} {g : Int → List Draw}
    (start : first.value = some a) (last : stop.value = some b)
    (each : ∀ i ∈ intRange a b, (turn i).Draws (g i)) :
    (Routine.loop first stop turn).Draws ((intRange a b).flatMap g) := by
  refine ⟨?_, fun d mem => ?_⟩
  · have turns := mapM_some (fun i mem => (each i mem).calls)
    rw [List.flatMap_def]
    refine (Signed.bind_of_some start).trans ((Signed.bind_of_some last).trans ?_)
    exact Signed.bind_of_some turns
  · obtain ⟨i, mem, inside⟩ := List.mem_flatMap.mp mem
    exact (each i mem).fits d inside

/-- A loop that counts from zero. -/
theorem count {stop : CInt} {n : Nat} {turn : Int → Routine} {g : Nat → List Draw}
    (last : stop.value = some (n : Int)) (each : ∀ k, k < n → (turn (k : Int)).Draws (g k)) :
    (Routine.loop 0 stop turn).Draws ((List.range n).flatMap g) := by
  have numbers : intRange 0 n = (List.range n).map fun (k : Nat) => (k : Int) := by
    simp only [intRange, Int.sub_zero, Int.toNat_natCast, Int.zero_add]
  have looped : (Routine.loop 0 stop turn).Draws
      ((intRange 0 n).flatMap fun i => g i.toNat) := by
    refine loop (Signed.Has.literal 0).value last fun i mem => ?_
    rw [mem_intRange] at mem
    have turned := each i.toNat (by omega)
    rwa [Int.toNat_of_nonneg mem.1] at turned
  rw [numbers, List.flatMap_map] at looped
  exact looped

variable {x y width height : CInt} {a b k m lo hi lo' hi' : Int} {c : U32}

theorem call {d : Draw} (drawn : r.calls = some [d]) (fits : d.FitsInt) : r.Draws [d] :=
  ⟨drawn, fun _ mem => List.mem_singleton.mp mem ▸ fits⟩

theorem px (hx : x.Has a lo hi) (hy : y.Has b lo' hi') :
    (Routine.px x y c).Draws [.px a b c] :=
  call ((Signed.bind_of_some hx.value).trans (Signed.bind_of_some hy.value))
    ⟨hx.fits, hy.fits⟩

theorem circle {lo₁ hi₁ : Int} (hx : x.Has a lo hi) (hy : y.Has b lo' hi')
    (hw : width.Has k lo₁ hi₁) : (Routine.circle x y width c).Draws [.circle a b k c] :=
  call ((Signed.bind_of_some hx.value).trans ((Signed.bind_of_some hy.value).trans
    (Signed.bind_of_some hw.value))) ⟨hx.fits, hy.fits, hw.fits⟩

theorem rect {lo₁ hi₁ lo₂ hi₂ : Int} (hx : x.Has a lo hi) (hy : y.Has b lo' hi')
    (hw : width.Has k lo₁ hi₁) (hh : height.Has m lo₂ hi₂) :
    (Routine.rect x y width height c).Draws [.rect a b k m c] :=
  call ((Signed.bind_of_some hx.value).trans ((Signed.bind_of_some hy.value).trans
    ((Signed.bind_of_some hw.value).trans (Signed.bind_of_some hh.value))))
    ⟨hx.fits, hy.fits, hw.fits, hh.fits⟩

end Draws

end Routine

/-! ## Shapes -/

section Shapes

open Routine

variable {cx cy s r : CInt} {u v k : Int}

theorem checkedStar_draws (hx : cx.Has u (-1000) 1000) (hy : cy.Has v (-1000) 1000)
    (hr : r.Has k 0 100) (c : U32) : (checkedStar cx cy r c).Draws (star u v k c) := by
  have one := Signed.Has.literal (w := 32) 1
  refine .loop hr.neg.value (hr.add one).value fun i mem => ?_
  rw [mem_intRange] at mem
  have low := hr.high
  have hi : (Signed.ofInt i : CInt).Has i (-100) 100 := .ofInt (by omega) (by omega)
  have arm := (hr.div (.literal 2)).add one
  have near := Signed.lt_eq (hi.abs 100).value arm.value
  have right := hx.add hi
  have below := hy.add hi
  have cross := (Draws.px (c := c) right hy).append (Draws.px (c := c) hx below)
  exact cross.append (.test near
    (fun _ => (Draws.px right below).append (Draws.px right (hy.sub hi))) fun _ => .skip)

theorem checkedFlower_draws (hx : cx.Has u (-1000) 1000) (hy : cy.Has v (-1000) 1000)
    (hs : s.Has k 0 100) (petal center : U32) :
    (checkedFlower cx cy s petal center).Draws (flower u v k petal center) :=
  ((((Draws.circle (hx.sub hs) hy hs).append (.circle (hx.add hs) hy hs)).append
    (.circle hx (hy.sub hs) hs)).append (.circle hx (hy.add hs) hs)).append (.circle hx hy hs)

theorem heart_cells : ∀ y < 8, ∀ x < 8,
    checkedCell (.ofInt (y : Nat)) (.ofInt (x : Nat)) '1' = some (heartCell y x == '1') ∧
      checkedBorder (.ofInt (y : Nat)) (.ofInt (x : Nat)) = some (heartBorder y x) := by
  decide

theorem checkedHeart_draws (hx : cx.Has u (-1000) 1000) (hy : cy.Has v (-1000) 1000)
    (hs : s.Has k 0 100) (c edge : U32) :
    (checkedHeart cx cy s c edge).Draws (heart u v k c edge) := by
  have eight := (Signed.Has.literal (w := 32) 8).value
  have one := (Signed.Has.literal (w := 32) 1).value
  refine .append (.count (n := 8) eight fun y row => .count (n := 8) eight fun x column => ?_) ?_
  · have hi : (Signed.ofInt (x : Int) : CInt).Has x 0 7 :=
      .ofInt (Int.natCast_nonneg x) (by omega)
    have hj : (Signed.ofInt (y : Int) : CInt).Has y 0 7 :=
      .ofInt (Int.natCast_nonneg y) (by omega)
    have across := hx.add ((hi.sub (.literal 4)).mul hs)
    have down := hy.add ((hj.sub (.literal 3)).mul hs)
    obtain ⟨cell, border⟩ := heart_cells y row x column
    refine .test ?_ (fun _ => .after border (.rect across down hs hs)) fun _ => .skip
    rw [cell, Bool.decide_eq_true]
  · refine .test (Signed.lt_eq one hs.value) (fun _ => ?_) fun _ => .skip
    have two := Signed.Has.mul (.literal 2) hs
    exact .rect (hx.sub two) (hy.sub two) hs hs

/-! ## Text -/

theorem checkedFontIndex_has (c : Char) : (checkedFontIndex c).Has (fontIndex c) 0 36 := by
  have code {low high : Char} (range : low ≤ c ∧ c ≤ high) :
      low.toNat ≤ c.toNat ∧ c.toNat ≤ high.toNat := range
  simp only [checkedFontIndex, fontIndex]
  split
  case isTrue letter =>
    obtain ⟨low, high⟩ := code letter
    have char : (Signed.ofInt (c.toNat : Int) : CInt).Has c.toNat 65 90 :=
      .ofInt (by exact Int.ofNat_le.mpr low) (by exact Int.ofNat_le.mpr high)
    have first : (Signed.ofInt ('A'.toNat : Int) : CInt).Has 'A'.toNat 65 65 :=
      .ofInt (by decide) (by decide)
    exact ((char.sub first).congr (Int.natCast_sub low).symm).mono
  case isFalse other =>
    split
    case isTrue digit =>
      obtain ⟨low, high⟩ := code digit
      have char : (Signed.ofInt (c.toNat : Int) : CInt).Has c.toNat 48 57 :=
        .ofInt (by exact Int.ofNat_le.mpr low) (by exact Int.ofNat_le.mpr high)
      have first : (Signed.ofInt ('0'.toNat : Int) : CInt).Has '0'.toNat 48 48 :=
        .ofInt (by decide) (by decide)
      have index := ((Signed.Has.literal 26).add char).sub first
      refine (index.congr ?_).mono
      rw [Int.natCast_sub (by omega), Int.natCast_add]
      rfl
    case isFalse => exact (Signed.Has.literal 36).mono

theorem FONT_rows : FONT.length = 37 ∧ ∀ row ∈ FONT, row.length = 7 := by decide

theorem checkedDot_eq {c : Char} {yy xx : Nat} (row : yy < 7) (column : xx < 5) :
    checkedDot (checkedFontIndex c) (.ofInt yy) (.ofInt xx) =
      some (((FONT.getD (fontIndex c) []).getD yy 0).testBit (4 - xx)) := by
  have index := checkedFontIndex_has c
  have hy : (Signed.ofInt (yy : Int) : CInt).Has yy 0 6 :=
    .ofInt (Int.natCast_nonneg yy) (by omega)
  have hx : (Signed.ofInt (xx : Int) : CInt).Has xx 0 4 :=
    .ofInt (Int.natCast_nonneg xx) (by omega)
  obtain ⟨glyphs, rows⟩ := FONT_rows
  have inside : fontIndex c < FONT.length := by
    have := index.high
    omega
  have line : (checkedFontIndex c).lookup FONT = some (FONT.getD (fontIndex c : Int).toNat []) :=
    Signed.lookup_eq index.value [] index.low (by omega)
  have length : (FONT.getD (fontIndex c) []).length = 7 := by
    rw [List.getD_eq_getElem?_getD, List.getElem?_eq_getElem inside]
    exact rows _ (List.getElem_mem _)
  rw [Int.toNat_natCast] at line
  have bits : (Signed.ofInt (yy : Int) : CInt).lookup (FONT.getD (fontIndex c) []) =
      some ((FONT.getD (fontIndex c) []).getD (yy : Int).toNat 0) :=
    Signed.lookup_eq hy.value 0 hy.low (by omega)
  rw [Int.toNat_natCast] at bits
  have shift := ((Signed.Has.literal 4).sub hx).value
  have amount : ((4 : Int) - xx).toNat = 4 - xx := by omega
  have valid : 0 ≤ (4 : Int) - xx ∧ (4 : Int) - xx < 31 := by omega
  rw [checkedDot, Signed.bind_of_some line, Signed.bind_of_some bits, Signed.bind_of_some shift]
  refine (if_pos valid).trans ?_
  rw [← amount]

theorem checkedGlyph_draws {x y scale : CInt} (hx : x.Has u (-10000) 10000)
    (hy : y.Has v (-1000) 1000) (hs : scale.Has k 0 10) (ch : Char) (c : U32) :
    (checkedGlyph x y ch scale c).Draws (glyph u v ch k c) := by
  have seven := (Signed.Has.literal (w := 32) 7).value
  have five := (Signed.Has.literal (w := 32) 5).value
  refine .count (n := 7) seven fun yy row => .count (n := 5) five fun xx column => ?_
  have hi : (Signed.ofInt (xx : Int) : CInt).Has xx 0 4 :=
    .ofInt (Int.natCast_nonneg xx) (by omega)
  have hj : (Signed.ofInt (yy : Int) : CInt).Has yy 0 6 :=
    .ofInt (Int.natCast_nonneg yy) (by omega)
  refine .test ?_ (fun _ => .rect (hx.add (hi.mul hs)) (hy.add (hj.mul hs)) hs hs) fun _ => .skip
  rw [checkedDot_eq row column, Bool.decide_eq_true]

/-- A line advances by at most 60 columns a character. -/
theorem checkedTextLine_draws {y scale : CInt} (hy : y.Has v (-1000) 1000)
    (hs : scale.Has k 0 10) (c : U32) {x : CInt} {s : List Char} (hx : x.Has u (-10000) 10000)
    (room : u + 60 * s.length ≤ 10000) :
    (checkedTextLine y scale c x s).Draws (textLine v k c u s) := by
  induction s generalizing x u with
  | nil => exact .skip
  | cons ch s ih =>
    rw [List.length_cons] at room
    have advance := hx.add (Signed.Has.mul (.literal 6) hs)
    have low := hx.low
    have low' := hs.low
    have high' := hs.high
    have inside : -10000 ≤ u + 6 * k ∧ u + 6 * k ≤ 10000 := ⟨by omega, by omega⟩
    have next : (x + 6 * scale).Has (u + 6 * k) (-10000) 10000 :=
      advance.within inside.1 inside.2
    refine .append ?_ (.after (Signed.eval_eq next.value) (ih next (by omega)))
    split
    · exact .skip
    · exact checkedGlyph_draws hx hy hs ch c

theorem checkedText_draws {x y scale : CInt} (hx : x.Has u (-1000) 1000)
    (hy : y.Has v 0 900) (hs : scale.Has k 0 10) {s : String} (short : s.length ≤ 20)
    (c shadow : U32) : (checkedText x y s scale c shadow).Draws (text u v s k c shadow) := by
  have length : s.toList.length = s.length := String.length_toList
  have moved : (x + scale).Has (u + k) (-10000) 10000 := (hx.add hs).mono
  have lowered : (y + scale).Has (v + k) (-1000) 1000 := (hy.add hs).mono
  have high := hx.high
  have small := hs.high
  refine .append ?_ (checkedTextLine_draws (hy.mono) hs c (hx.mono) (by omega))
  split
  · exact .after (Signed.eval_eq moved.value) (.after (Signed.eval_eq lowered.value)
      (checkedTextLine_draws lowered hs shadow moved (by omega)))
  · exact .skip

theorem checkedTextCenter_draws {y scale : CInt} (hy : y.Has v 0 900) (hs : scale.Has k 0 10)
    {s : String} (short : s.length ≤ 20) (c shadow : U32) :
    (checkedTextCenter y s scale c shadow).Draws (textCenter v s k c shadow) := by
  have size : (Signed.ofInt (s.length : Int) : CInt).Has s.length 0 20 :=
    .ofInt (Int.natCast_nonneg _) (by omega)
  have width := ((size.scale 6).sub (.literal 1)).mul hs
  have start := ((Signed.Has.literal 320).sub width).div (.literal 2)
  exact .after (Signed.eval_eq width.value) (.after (Signed.eval_eq start.value)
    (checkedText_draws start.mono hy hs short c shadow))

end Shapes

/-! ## The six overlays -/

section Overlays

open Routine

variable (sins : SineTable)

theorem unsigned_eq {a : CInt} {v lo hi : Int} (h : a.Has v lo hi) :
    unsigned a = some (u32 v) :=
  Signed.bind_of_some h.value

theorem signed_has {v : U32} (near : Near v.toInt) : (signed v).Has v.toInt (-1000) 1000 :=
  .ofInt near.1 near.2

/-- A line of text in two colours of the palette. -/
theorem title_draws (color shadow y scale : Nat)
    (sizes : (color ≤ 9 ∧ shadow ≤ 9) ∧ y ≤ 900 ∧ scale ≤ 10) {s : String}
    (short : s.length ≤ 20) :
    (Routine.after (checkedPAL (OfNat.ofNat color)) fun c =>
      .after (checkedPAL (OfNat.ofNat shadow)) fun edge =>
      checkedTextCenter (OfNat.ofNat y) s (OfNat.ofNat scale) c edge).Draws
      (textCenter (OfNat.ofNat y) s (OfNat.ofNat scale) (PAL (OfNat.ofNat color))
        (PAL (OfNat.ofNat shadow))) := by
  obtain ⟨⟨color9, shadow9⟩, y900, scale10⟩ := sizes
  have fits {n : Nat} (small : n ≤ 900) : FitsSigned 32 n := fitsSigned_32.mpr (by omega)
  have row := (Signed.Has.literal y).when (decide_eq_true ⟨fits y900, fits y900⟩)
  have size := (Signed.Has.literal scale).when
    (decide_eq_true ⟨fits (by omega), fits (by omega)⟩)
  exact .palette color color9 (.palette shadow shadow9
    (checkedTextCenter_draws (row.within (Int.natCast_nonneg y) (by exact Int.ofNat_le.mpr y900))
      (size.within (Int.natCast_nonneg scale) (by exact Int.ofNat_le.mpr scale10)) short _ _))

theorem zero_value : (0 : CInt).value = some 0 := (Signed.Has.literal 0).value

theorem checkedOverlayCandy_draws {t : CInt} {f : Int} (ht : t.Has f 0 65535) :
    (checkedOverlayCandy t).Draws (overlayCandy f) := by
  have stop := (Signed.Has.literal (w := 32) 18).value
  refine .append (.append (.loop zero_value stop fun i mem => ?_) ?_)
    (title_draws 2 8 139 3 (by decide) (by decide))
  · rw [mem_intRange] at mem
    have hi : (Signed.ofInt i : CInt).Has i 0 17 := .ofInt mem.1 (by omega)
    have third := hi.rem (.literal 3)
    have column := ht.mul ((Signed.Has.literal 1).add third)
    exact .after (unsigned_eq hi) (.after (unsigned_eq column) (.after (unsigned_eq (hi.scale 17))
      (.palette 2 (by decide) (checkedStar_draws (signed_has (umod_near _ (by decide)))
        (signed_has (umod_near _ (by decide))) ((Signed.Has.literal 2).add third).mono _))))
  · exact .palette 0 (by decide) (.palette 8 (by decide) (checkedHeart_draws
      (Signed.Has.literal 160).mono (Signed.Has.literal 82).mono (Signed.Has.literal 5).mono _ _))

theorem checkedOverlayGirlMode_draws {t : CInt} {f : Int} (ht : t.Has f 0 65535) :
    (checkedOverlayGirlMode t).Draws (overlayGirlMode f) := by
  have stop := (Signed.Has.literal (w := 32) 24).value
  refine .append (.append (.loop zero_value stop fun i mem => ?_)
    (title_draws 2 8 72 5 (by decide) (by decide))) (title_draws 0 8 119 4 (by decide) (by decide))
  rw [mem_intRange] at mem
  have hi : (Signed.ofInt i : CInt).Has i 0 23 := .ofInt mem.1 (by omega)
  have row := ht.mul ((Signed.Has.literal 2).add (hi.rem (.literal 4)))
  have third := hi.rem (.literal 3)
  have big := Signed.Has.ite (i.tmod 3 = 0) (Signed.Has.literal (w := 32) 1)
    (Signed.Has.literal 0)
  exact .after (unsigned_eq hi) (.after (unsigned_eq row)
    (.after (Signed.same_eq third.value zero_value)
    (.after (checkedPAL_eq (hi.rem (.literal 5)).mono) (.palette 8 (by decide)
      (checkedHeart_draws (signed_has (umod_sub_near _ (by decide)))
        (signed_has (umod_sub_near _ (by decide))) ((Signed.Has.literal 1).add big).mono _ _)))))

theorem checkedOverlayBubblegum_draws : checkedOverlayBubblegum.Draws overlayBubblegum := by
  have stop := (Signed.Has.literal (w := 32) 20).value
  refine .append (.append (.loop zero_value stop fun i mem => ?_)
    (title_draws 2 8 14 5 (by decide) (by decide))) (title_draws 0 8 145 4 (by decide) (by decide))
  rw [mem_intRange] at mem
  have hi : (Signed.ofInt i : CInt).Has i 0 19 := .ofInt mem.1 (by omega)
  have size := (Signed.Has.literal 1).add (hi.rem (.literal 3))
  exact .after (unsigned_eq hi) (.palette 2 (by decide)
    (checkedStar_draws (signed_has (umod_near _ (by decide)))
      (signed_has (umod_near _ (by decide))) size.mono _))

theorem checkedButterfly_draws {t i : CInt} {f k : Int} (ht : t.Has f 0 65535)
    (hi : i.Has k 0 23) : (checkedButterfly sins t i).Draws (butterfly sins f k) := by
  have two := Signed.Has.literal (w := 32) 2
  have three := Signed.Has.literal (w := 32) 3
  have four := Signed.Has.literal (w := 32) 4
  have start := (hi.scale 29).add (ht.mul ((hi.rem three).add (.literal 1)))
  have hx := (start.rem (.literal 350)).sub (.literal 15)
  have angle := (ht.mul ((Signed.Has.literal 8).add hi)).add (hi.scale 193)
  have hy := (Signed.Has.literal 70).add (((checkedSi_has sins angle).scale 55).shiftRight 10)
  have left := checkedPAL_eq ((hi.add (.literal 0)).rem (.literal 5)).mono
  have right := checkedPAL_eq ((hi.add (.literal 3)).rem (.literal 5)).mono
  have phase := (hi.add (ht.div three)).rem four
  have body := Draws.palette 8 (by decide)
    (Draws.rect (c := PAL 8) (hx.sub (.literal 1)) (hy.sub four) two (.literal 9))
  have wings (a b : U32) := ((((Draws.circle (c := a) (hx.sub four) (hy.sub two) three).append
    (.circle (c := b) (hx.add four) (hy.sub two) three)).append
    (.circle (c := a) (hx.sub three) (hy.add three) two)).append
    (.circle (c := b) (hx.add three) (hy.add three) two))
  exact .after (Signed.eval_eq hx.value) (.after (Signed.eval_eq hy.value)
    (.after left (.after right (((wings _ _).append body).append
      (.test (Signed.same_eq phase.value zero_value)
        (fun _ => .palette 2 (by decide) (checkedStar_draws (hx.sub (.literal 10)).mono
          (hy.add (.literal 5)).mono two.mono _)) fun _ => .skip)))))

theorem checkedOverlayButterflyRiot_draws {t : CInt} {f : Int} (ht : t.Has f 0 65535) :
    (checkedOverlayButterflyRiot sins t).Draws (overlayButterflyRiot sins f) := by
  have stop := (Signed.Has.literal (w := 32) 24).value
  have stop' := (Signed.Has.literal (w := 32) 12).value
  refine .append (.append (.loop zero_value stop fun i mem => ?_)
    (.loop zero_value stop' fun i mem => ?_)) (title_draws 2 8 143 3 (by decide) (by decide))
  · rw [mem_intRange] at mem
    exact checkedButterfly_draws sins ht (.ofInt mem.1 (by omega))
  · rw [mem_intRange] at mem
    have hi : (Signed.ofInt i : CInt).Has i 0 11 := .ofInt mem.1 (by omega)
    have hx := (((hi.scale 41).add ht).rem (.literal 340)).sub (.literal 10)
    have hy := (Signed.Has.literal 20).add ((hi.scale 23).rem (.literal 140))
    exact .after (checkedPAL_eq ((hi.add (.literal 1)).rem (.literal 5)).mono)
      (.palette 2 (by decide)
        (checkedFlower_draws hx.mono hy.mono (Signed.Has.literal 2).mono _ _))

theorem checkedBall_draws {cx cy : CInt} {u v : Int} (hx : cx.Has u (-1000) 1000)
    (hy : cy.Has v (-1000) 1000) : (checkedBall cx cy 39).Draws (ball u v 39) := by
  have r := Signed.Has.literal (w := 32) 39
  have stop := (r.add (.literal 1)).value
  refine .loop r.neg.value stop fun y row => .loop r.neg.value stop fun x column => ?_
  rw [mem_intRange] at row column
  have hi : (Signed.ofInt x : CInt).Has x (-39) 39 := .ofInt (by omega) (by omega)
  have hj : (Signed.ofInt y : CInt).Has y (-39) 39 := .ofInt (by omega) (by omega)
  have inside := Signed.le_eq ((hi.square 39).add (hj.square 39)).value (r.square 39).value
  have height : ((Signed.ofInt y : CInt) + 39).Has (y + 39) 0 78 := (hj.add r).mono
  have band := (height.scale 10).div ((Signed.Has.mul (.literal 2) r).add (.literal 1))
  exact .test inside (fun _ => .after (Signed.eval_eq band.value)
    (.after (checkedPAL_eq (band.rem (.literal 8)).mono) (.px (hx.add hi) (hy.add hj))))
    fun _ => .skip

theorem checkedOverlayHyperdrive_draws {t : CInt} {f : Int} (ht : t.Has f 0 65535) :
    (checkedOverlayHyperdrive sins t).Draws (overlayHyperdrive sins f) := by
  have hx := (Signed.Has.literal 160).add
    (((checkedSi_has sins (ht.scale 9)).scale 28).shiftRight 10)
  have hy := (Signed.Has.literal 67).add
    (((checkedSi_has sins (ht.scale 13)).scale 9).shiftRight 10)
  refine .after (Signed.eval_eq hx.value) (.after (Signed.eval_eq hy.value) ?_)
  refine .append (.append (.append (.append ?_ ?_) ?_)
    (title_draws 2 8 11 6 (by decide) (by decide))) (title_draws 0 8 143 4 (by decide) (by decide))
  · exact checkedBall_draws hx.mono hy.mono
  · exact .circle (hx.sub (.literal 13)) (hy.sub (.literal 15)) (.literal 7)
  · exact checkedStar_draws (hx.sub (.literal 17)).mono (hy.sub (.literal 18)).mono
      (Signed.Has.literal 6).mono _

theorem checkedOverlayTooMuch_draws : checkedOverlayTooMuch.Draws overlayTooMuch := by
  have stop := (Signed.Has.literal (w := 32) 35).value
  have one := Signed.Has.literal (w := 32) 1
  refine .append (.append (.loop zero_value stop fun i mem => ?_)
    (title_draws 2 8 54 6 (by decide) (by decide))) (title_draws 9 8 104 5 (by decide) (by decide))
  rw [mem_intRange] at mem
  have hi : (Signed.ofInt i : CInt).Has i 0 34 := .ofInt mem.1 (by omega)
  have third := hi.rem (.literal 3)
  have size := one.add third
  have wide := (Signed.Has.literal 2).add size
  have color := checkedPAL_eq (hi.rem (.literal 5)).mono
  have column (v : U32) : (signed (v % 320)).Has (v % 320).toInt (-1000) 1000 :=
    signed_has (umod_near v (by decide))
  have row (v : U32) : (signed (v % 180)).Has (v % 180).toInt (-1000) 1000 :=
    signed_has (umod_near v (by decide))
  refine .after (unsigned_eq hi) (.after (Signed.eval_eq size.value)
    (.test (Signed.same_eq third.value zero_value) (fun _ => ?_) fun _ =>
      .test (Signed.same_eq third.value one.value) (fun _ => ?_) fun _ => ?_))
  · exact .after color (.palette 8 (by decide)
      (checkedHeart_draws (column _) (row _) size.mono _ _))
  · exact .after color (.palette 2 (by decide)
      (checkedFlower_draws (column _) (row _) wide.mono _ _))
  · exact .palette 2 (by decide) (checkedStar_draws (column _) (row _) wide.mono _)

theorem checkedSceneDots_draws (which : Int) :
    (checkedSceneDots which).Draws (sceneDots which) := by
  have stop := (Signed.Has.literal (w := 32) 6).value
  rw [sceneDots, List.map_eq_flatMap]
  refine .loop zero_value stop fun i mem => ?_
  rw [mem_intRange, SCENES] at mem
  have hi : (Signed.ofInt i : CInt).Has i 0 5 := .ofInt mem.1 (by omega)
  have column := (Signed.Has.literal 145).add (hi.scale 6)
  by_cases current : i = which
  · simp only [if_pos current]
    exact .palette 2 (by decide) (.circle column (.literal 171) (.literal 2))
  · simp only [if_neg current]
    exact .palette 8 (by decide) (.circle column (.literal 171) (.literal 1))

/-- **An overlay is defined** for every phase. -/
theorem checkedOverlay_draws {f : Int} (phase : 0 ≤ f ∧ f < 65536) (which : Int) :
    (checkedOverlay sins which (.ofInt f)).Draws (overlay sins which f) := by
  have ht : (Signed.ofInt f : CInt).Has f 0 65535 := .ofInt phase.1 (by omega)
  refine .append ?_ (checkedSceneDots_draws which)
  split
  · exact checkedOverlayCandy_draws ht
  split
  · exact checkedOverlayGirlMode_draws ht
  split
  · exact checkedOverlayBubblegum_draws
  split
  · exact checkedOverlayButterflyRiot_draws sins ht
  split
  · exact checkedOverlayHyperdrive_draws sins ht
  · exact checkedOverlayTooMuch_draws

end Overlays

end Scene2dLegacy

/-! ## The primitives under the overlays -/

namespace CartCanvas

variable {abi : Abi}

theorem int32_of_fits {v : Int} (fits : FitsSigned 32 v) : (Int32.ofInt v).toInt = v := by
  rw [fitsSigned_32] at fits
  exact Int32.toInt_ofInt_of_le fits.1 (by omega)

theorem checkedPx_eq {canvas : CartCanvas abi} (h : canvas.valid = true) {x y : Int}
    (hx : FitsSigned 32 x) (hy : FitsSigned 32 y) (color : U32) :
    canvas.checkedPx x y color = some (canvas.px x y color) := by
  rw [fitsSigned_32] at hx hy
  have wide : 2 ^ 32 ≤ 2 ^ abi.sizeBits := Nat.pow_le_pow_right (by decide) abi.le_sizeBits
  rw [checkedPx, px]
  split
  case isTrue => rfl
  case isFalse shown =>
    simp only [not_or, Int.not_lt] at shown
    obtain ⟨_, x0, y0, column, row⟩ := shown
    have visible : canvas.Visible x y := by
      rw [BitVec.le_def, toNat_ofInt_of_lt x0 (by omega)] at column
      rw [BitVec.le_def, toNat_ofInt_of_lt y0 (by omega)] at row
      exact ⟨x0, by omega, y0, by omega⟩
    exact Signed.bind_of_some (checkedStore_eq h visible color canvas.pixels)

theorem checkedDraw_eq {canvas : CartCanvas abi} (h : canvas.valid = true) {d : Draw}
    (fits : d.FitsInt) : canvas.checkedDraw d = some (canvas.draw d) := by
  cases d with
  | px x y color => exact checkedPx_eq h fits.1 fits.2 color
  | rect x y width height color =>
    have drawn := checkedRect_eq h (.ofInt x) (.ofInt y) (.ofInt width) (.ofInt height) color
    obtain ⟨hx, hy, hw, hh⟩ := fits
    rwa [int32_of_fits hx, int32_of_fits hy, int32_of_fits hw, int32_of_fits hh] at drawn
  | circle x y radius color =>
    have drawn := checkedCircle_eq h (.ofInt x) (.ofInt y) (.ofInt radius) color
    obtain ⟨hx, hy, hr⟩ := fits
    rwa [int32_of_fits hx, int32_of_fits hy, int32_of_fits hr] at drawn

theorem checkedDraws_eq {canvas : CartCanvas abi} (h : canvas.valid = true) {l : List Draw}
    (fits : ∀ d ∈ l, d.FitsInt) :
    l.foldlM checkedDraw canvas = some (l.foldl draw canvas) := by
  induction l generalizing canvas with
  | nil => rfl
  | cons d l ih =>
    have next : (canvas.draw d).valid = true := by
      rw [draw_on, on_valid]
      exact h
    rw [List.foldlM_cons, Signed.bind_of_some (checkedDraw_eq h (fits d List.mem_cons_self))]
    exact ih next fun e mem => fits e (List.mem_cons_of_mem d mem)

end CartCanvas

/-! ## The words outside the canvas -/

section Canvas

open Scene2dLegacy

variable {abi : Abi}

theorem drawLow_outside {routine : List Draw} (fine : AllFine routine) {p : Pixels} {i : Nat}
    (far : 57600 ≤ i) : drawLow abi routine p i = p i := by
  induction routine generalizing p with
  | nil => rfl
  | cons d routine ih =>
    have first : Fills (fun p => ((lowCanvas abi p).draw d).pixels) _ _ :=
      draw_low_fills (fine d List.mem_cons_self).1
    have apart : ¬ (lowCanvas abi fun _ => 0).cells d.covers i := by
      rintro ⟨u, v, visible, _, same⟩
      rw [lowCanvas_index visible] at same
      rw [lowCanvas_visible] at visible
      omega
    exact (ih (fun e mem => fine e (List.mem_cons_of_mem d mem))).trans ((first p i).2 apart)

/-- **Scene arithmetic stays defined.** Both passes of every scene, at every frame number
and over every band of the canvas, are evaluated without an undefined step, and leave the
words outside the canvas alone. -/
theorem scene_arithmetic_defined (sins : SineTable) (which : Fin 6) (frame : U64)
    {rowStart rowEnd : Int} (band : 0 ≤ rowStart ∧ rowEnd ≤ 180) (phase : CartScenePhase)
    (low : Pixels) :
    let context := { canvas := lowCanvas abi low, rowStart, rowEnd, frame, phase }
    let rendered := renderLegacyScene sins context (which : Nat)
    checkedRenderLegacyScene sins context (which : Nat) = some rendered ∧
      ∀ i, 57600 ≤ i → rendered.pixels i = low i := by
  have scene := which_scene which
  have range := legacyFramePhase_range frame
  cases phase with
  | renderRows =>
    simp only [renderLegacyScene, if_neg scene]
    refine ⟨checkedRender_rows sins which frame band low, fun i far => ?_⟩
    refine (rowPass_fills band.1 _ low i).2 ?_
    omega
  | renderOverlay =>
    have drawn := checkedOverlay_draws sins range (which : Nat)
    simp only [checkedRenderLegacyScene, renderLegacyScene, if_neg scene]
    refine ⟨?_, fun i far => ?_⟩
    · exact (Signed.bind_of_some drawn.calls).trans
        (CartCanvas.checkedDraws_eq (lowCanvas_valid low) drawn.fits)
    · rw [foldl_draw]
      exact drawLow_outside (overlay_fine sins _ range.1) far

/-- All rows of a frame just before the phase wraps. -/
def lastPhase : CartSceneRenderContext .ilp32 :=
  { canvas := lowCanvas .ilp32 fun _ => 0, rowStart := 0, rowEnd := 180, frame := 65535,
    phase := .renderRows }

theorem scene_arithmetic_defined_last :
    (0 ≤ lastPhase.rowStart ∧ lastPhase.rowEnd ≤ 180) ∧
      checkedRenderLegacyScene highSines lastPhase 2 =
        some (renderLegacyScene highSines lastPhase 2) :=
  ⟨by decide, (scene_arithmetic_defined highSines 2 65535 (by decide) .renderRows fun _ => 0).1⟩

end Canvas

end VitaLinux.Cart
