import VitaLinux.Cart.Rasterisation
import VitaLinux.Cart.RenderFrame

/-!
# cart/scenes/scene_2d_legacy.c with its undefined cases

The scenes and overlays once more, in `int` expressions that have no value where C leaves
them undefined: a result outside 32 bits, a division by zero, an index outside its
table, a store outside the canvas. Unsigned expressions wrap and are as before.
-/

namespace VitaLinux.Cart

open VitaLinux.Base

abbrev CInt := Signed 32

namespace CartCanvas

variable {abi : Abi}

/-- `cart_canvas_px` -/
def checkedPx (canvas : CartCanvas abi) (x y : Int) (color : U32) : Option (CartCanvas abi) :=
  if !canvas.valid ∨ x < 0 ∨ y < 0 ∨ canvas.width ≤ BitVec.ofInt abi.sizeBits x ∨
      canvas.height ≤ BitVec.ofInt abi.sizeBits y then
    some canvas
  else do
    let pixels ← canvas.checkedStore (.ofInt y) (.ofInt x) color canvas.pixels
    some { canvas with pixels }

/-- A call of a drawing primitive, with `int` arguments. -/
def checkedDraw (canvas : CartCanvas abi) : Draw → Option (CartCanvas abi)
  | .px x y color => canvas.checkedPx x y color
  | .rect x y width height color =>
    canvas.checkedRect (.ofInt x) (.ofInt y) (.ofInt width) (.ofInt height) color
  | .circle centerX centerY radius color =>
    canvas.checkedCircle (.ofInt centerX) (.ofInt centerY) (.ofInt radius) color

end CartCanvas

/-- `(int)(color >> shift & 0xff)` -/
def checkedChannel (color : U32) (shift : Nat) : CInt := .ofInt (channel color shift)

/-- `cart_mix` -/
def checkedCartMix (source target : U32) (amount : U32) : Option U32 := do
  let amount : CInt := .ofInt (if 256#32 < amount then 256 else (amount.toNat : Int))
  let blend (shift : Nat) : CInt :=
    checkedChannel source shift +
      (((checkedChannel target shift - checkedChannel source shift) * amount) >>> (8 : Nat))
  return cartRgba (← (blend 0).value) (← (blend 8).value) (← (blend 16).value)

namespace Scene2dLegacy

/-- `PAL[i]` -/
def checkedPAL (i : CInt) : Option U32 := i.lookup palette

def checkedMix (a b : U32) (t : CInt) : Option U32 := do
  let value ← t.value
  checkedCartMix a b (if value < 0 then 0 else u32 value)

/-! ## Row passes -/

section Rows

variable (sins : SineTable)

def checkedSi (x : CInt) : CInt := ⟨(x &&& 2047).lookup (List.ofFn sins.value)⟩

def checkedCandy (t x y : CInt) : Option U32 := do
  let dx ← (x - 160).eval
  let dy ← (y - 90).eval
  let d ← ((dx * dx + dy * dy) >>> (4 : Nat)).eval
  let warp ← (checkedSi sins ((x * 9 + t * 11) &&& 2047) +
    checkedSi sins ((y * 13 - t * 7) &&& 2047)).eval
  let band ← (((d + (warp >>> (7 : Nat)) - t * 8) >>> (4 : Nat)) &&& 7).eval
  let a ← checkedPAL (band % 5)
  let b ← checkedPAL ((band + 1) % 5)
  checkedMix a b ((checkedSi sins (d * 5 + t * 17) + 1024) >>> (3 : Nat))

def checkedChecker (t x y : CInt) : Option U32 := do
  let yy ← (y + (checkedSi sins (x * 10 + t * 14) >>> (8 : Nat))).eval
  let xx ← (x + (checkedSi sins (y * 13 - t * 9) >>> (8 : Nat))).eval
  let q ← (((xx >>> (3 : Nat)) ^^^ (yy >>> (3 : Nat))) &&& 1).eval
  let glow ← ((checkedSi sins (x * 6 + y * 8 + t * 12) + 1024) >>> (4 : Nat)).eval
  let even ← q.same 0
  let a ← if even then checkedPAL 4 else checkedPAL 0
  let b ← if even then checkedPAL 5 else checkedPAL 2
  checkedMix a b glow

def checkedBubbleX (t i : CInt) : CInt :=
  160 + ((checkedSi sins (t * (7 + i) + i * 273) * (45 + i * 5)) >>> (10 : Nat))

def checkedBubbleY (t i : CInt) : CInt :=
  90 + ((checkedSi sins (t * (9 + i) + i * 411) * (28 + i * 4)) >>> (10 : Nat))

/-- The arrays `bx` and `by`, with the index of each entry. -/
def checkedBubbles (t : CInt) : Option (List (CInt × CInt × CInt)) :=
  (intRange 0 7).mapM fun i => do
    let i : CInt := .ofInt i
    return (i, ← (checkedBubbleX sins t i).eval, ← (checkedBubbleY sins t i).eval)

/-- One round of the loop over the bubbles. -/
def checkedFieldStep (x y : CInt) (field : CInt) (bubble : CInt × CInt × CInt) :
    Option CInt := do
  let (i, bx, bY) := bubble
  let dx ← (x - bx).eval
  let dy ← (y - bY).eval
  (field + (9000 + i * 700) / (18 + dx * dx + dy * dy)).eval

def checkedBubblePixel (bubbles : List (CInt × CInt × CInt)) (t x y : CInt) : Option U32 := do
  let field ← bubbles.foldlM (checkedFieldStep x y) 0
  let wave ← ((checkedSi sins (x * 8 - y * 6 + t * 18) + 1024) >>> (5 : Nat)).eval
  if ← Signed.lt 22 field then
    checkedMix (← checkedPAL 1) (← checkedPAL 5) ((field * 9 + wave) &&& 255)
  else checkedMix (← checkedPAL 8) (← checkedPAL 6) wave

def checkedRibbons (t x y : CInt) : Option U32 := do
  let wave ← (90 + (checkedSi sins (x * 12 + t * 13) >>> (5 : Nat))).eval
  let wave2 ← (90 + (checkedSi sins (x * 9 - t * 17 + 500) >>> (4 : Nat))).eval
  let d1 ← (y - wave).abs.eval
  let d2 ← (y - wave2).abs.eval
  let base ← checkedMix (← checkedPAL 3) (← checkedPAL 1) ((y * 255) / 180)
  let base ←
    if ← d1.lt 8 then checkedMix (← checkedPAL 0) (← checkedPAL 2) (d1 * 30) else some base
  if ← d2.lt 5 then checkedMix (← checkedPAL 6) (← checkedPAL 2) (d2 * 45) else some base

/-- `checkedChrome` above the horizon. -/
def checkedSky (x y : CInt) : Option U32 := do
  let glow ← ((checkedSi sins (x * 5 + y * 4) + 1024) >>> (4 : Nat)).eval
  checkedMix (← checkedPAL 8) (← checkedPAL 0) glow

/-- `checkedChrome` below the horizon. -/
def checkedFloor (x y : CInt) : Option U32 := do
  let z ← (y - 94).eval
  let horizon ← ((z * 13) &&& 31).lt 2
  let van ← ((x - 160) * 90 / (z + 8)).eval
  let vertical ← (van.abs % 42).lt 2
  if horizon || vertical then checkedPAL 2
  else checkedMix (← checkedPAL 6) (← checkedPAL 8) z

def checkedChrome (_t x y : CInt) : Option U32 := do
  if ← y.lt 95 then checkedSky sins x y else checkedFloor x y

def checkedSugar (t x y : CInt) : Option U32 := do
  let a ← (checkedSi sins (x * 10 + t * 13)).eval
  let b ← (checkedSi sins (y * 14 - t * 9)).eval
  let c ← (checkedSi sins ((x + y) * 7 + t * 5)).eval
  let v ← ((a + b + c + 3072) / 12).eval
  let ripple := checkedSi sins (t * 17 + x * 3) >>> (7 : Nat)
  let stripe ← (((x + y + ripple) >>> (3 : Nat)) &&& 3).eval
  checkedMix (← checkedPAL ((stripe + 0) % 5)) (← checkedPAL ((stripe + 2) % 5)) (v &&& 255)

/-- The loop of a row pass, which stores to the `size` words of the canvas only. -/
def checkedRowPass (y0 y1 : Int) (size : Nat) (pixel : CInt → CInt → Option U32)
    (low : Pixels) : Option Pixels :=
  (intRange y0 y1).foldlM (fun low (y : Int) =>
    (intRange 0 LW).foldlM (fun low (x : Int) => do
      let color ← pixel (.ofInt x) (.ofInt y)
      let index ← ((.ofInt y : CInt) * 320 + .ofInt x).value
      if 0 ≤ index ∧ index < size then some (Function.update low index.toNat color)
      else none) low) low

/-- The `switch` over the row passes. -/
def checkedRows (which : Int) (t : CInt) (y0 y1 : Int) (size : Nat) (low : Pixels) :
    Option Pixels := do
  if which = 0 then checkedRowPass y0 y1 size (checkedCandy sins t) low
  else if which = 1 then checkedRowPass y0 y1 size (checkedChecker sins t) low
  else if which = 2 then
    let bubbles ← checkedBubbles sins t
    checkedRowPass y0 y1 size (checkedBubblePixel sins bubbles t) low
  else if which = 3 then checkedRowPass y0 y1 size (checkedRibbons sins t) low
  else if which = 4 then checkedRowPass y0 y1 size (checkedChrome sins t) low
  else checkedRowPass y0 y1 size (checkedSugar sins t) low

end Rows

/-! ## Overlays -/

/-- The calls that a drawing routine makes, where it is defined. -/
structure Routine where
  calls : Option (List Draw)

namespace Routine

def skip : Routine := ⟨some []⟩

instance : Append Routine := ⟨fun r r' => ⟨do return (← r.calls) ++ (← r'.calls)⟩⟩

/-- A value, computed before the routine goes on. -/
def after {α : Type} (e : Option α) (rest : α → Routine) : Routine :=
  ⟨do (rest (← e)).calls⟩

def test (c : Option Bool) (yes no : Routine) : Routine := ⟨do if ← c then yes.calls else no.calls⟩

/-- `for (i = first; i < stop; i++)` -/
def loop (first stop : CInt) (turn : Int → Routine) : Routine :=
  ⟨do return (← (intRange (← first.value) (← stop.value)).mapM fun i => (turn i).calls).flatten⟩

def px (x y : CInt) (color : U32) : Routine :=
  ⟨do return [.px (← x.value) (← y.value) color]⟩

def rect (x y width height : CInt) (color : U32) : Routine :=
  ⟨do return [.rect (← x.value) (← y.value) (← width.value) (← height.value) color]⟩

def circle (centerX centerY radius : CInt) (color : U32) : Routine :=
  ⟨do return [.circle (← centerX.value) (← centerY.value) (← radius.value) color]⟩

end Routine

/-- `shape[y][x] == cell` -/
def checkedCell (y x : CInt) (cell : Char) : Option Bool := do
  let row ← y.lookup heartShape
  return (← x.lookup row.toList) == cell

/-- `&&` evaluates its right side only where the left one holds. -/
def checkedAnd (a b : Option Bool) : Option Bool := do if ← a then b else some false

def checkedOr (a b : Option Bool) : Option Bool := do if ← a then some true else b

def checkedBorder (y x : CInt) : Option Bool :=
  checkedOr (x.same 0) <| checkedOr (x.same 7) <| checkedOr (y.same 0) <|
    checkedOr (y.same 6) <| checkedOr (checkedAnd (Signed.lt 0 x) (checkedCell y (x - 1) '0')) <|
    checkedOr (checkedAnd (x.lt 7) (checkedCell y (x + 1) '0')) <|
    checkedAnd (Signed.lt 0 y) (checkedCell (y - 1) x '0')

def checkedHeart (cx cy s : CInt) (c edge : U32) : Routine :=
  (.loop 0 8 fun y => .loop 0 8 fun x =>
    let y : CInt := .ofInt y
    let x : CInt := .ofInt x
    .test (checkedCell y x '1')
      (.after (checkedBorder y x) fun border =>
        .rect (cx + (x - 4) * s) (cy + (y - 3) * s) s s (if border then edge else c))
      .skip) ++
  .test (Signed.lt 1 s) (.rect (cx - 2 * s) (cy - 2 * s) s s 0xffffffff) .skip

def checkedStar (cx cy r : CInt) (c : U32) : Routine :=
  .loop (-r) (r + 1) fun i =>
    let i : CInt := .ofInt i
    .px (cx + i) cy c ++ .px cx (cy + i) c ++
      .test (i.abs.lt (r / 2 + 1)) (.px (cx + i) (cy + i) c ++ .px (cx + i) (cy - i) c) .skip

def checkedFlower (cx cy s : CInt) (petal center : U32) : Routine :=
  .circle (cx - s) cy s petal ++ .circle (cx + s) cy s petal ++
    .circle cx (cy - s) s petal ++ .circle cx (cy + s) s petal ++
    .circle cx cy s center

def checkedFontIndex (c : Char) : CInt :=
  if 'A' ≤ c ∧ c ≤ 'Z' then .ofInt c.toNat - .ofInt 'A'.toNat
  else if '0' ≤ c ∧ c ≤ '9' then 26 + .ofInt c.toNat - .ofInt '0'.toNat
  else 36

/-- `FONT[idx][yy] & (1 << (4-xx))` -/
def checkedDot (index yy xx : CInt) : Option Bool := do
  let row ← index.lookup FONT
  let bits ← yy.lookup row
  let shift ← (4 - xx).value
  if 0 ≤ shift ∧ shift < 31 then some (bits.testBit shift.toNat) else none

def checkedGlyph (x y : CInt) (ch : Char) (scale : CInt) (c : U32) : Routine :=
  .loop 0 7 fun yy => .loop 0 5 fun xx =>
    let yy : CInt := .ofInt yy
    let xx : CInt := .ofInt xx
    .test (checkedDot (checkedFontIndex ch) yy xx)
      (.rect (x + xx * scale) (y + yy * scale) scale scale c) .skip

def checkedTextLine (y scale : CInt) (c : U32) : CInt → List Char → Routine
  | _, [] => .skip
  | x, ch :: s =>
    (if ch = ' ' then .skip else checkedGlyph x y ch scale c) ++
      .after (x + 6 * scale).eval fun x => checkedTextLine y scale c x s

def checkedText (x y : CInt) (s : String) (scale : CInt) (c shadow : U32) : Routine :=
  (if shadow ≠ 0 then
    .after (x + scale).eval fun x => .after (y + scale).eval fun y =>
      checkedTextLine y scale shadow x s.toList
  else .skip) ++
    checkedTextLine y scale c x s.toList

def checkedTextCenter (y : CInt) (s : String) (scale : CInt) (c shadow : U32) : Routine :=
  .after ((.ofInt s.length * 6 - 1) * scale).eval fun width =>
    .after ((320 - width) / 2).eval fun x => checkedText x y s scale c shadow

section Overlays

variable (sins : SineTable)

/-- An `int` operand of an unsigned expression. -/
def unsigned (a : CInt) : Option U32 := do return u32 (← a.value)

/-- An unsigned value as an `int`. -/
def signed (v : U32) : CInt := .ofInt v.toInt

def checkedOverlayCandy (t : CInt) : Routine :=
  (.loop 0 18 fun i =>
    let i : CInt := .ofInt i
    .after (unsigned i) fun seed =>
    .after (unsigned (t * (1 + i % 3))) fun column =>
    .after (unsigned (i * 17)) fun row =>
    let r := rng32 (seed * 991)
    .after (checkedPAL 2) fun white =>
    checkedStar (signed ((r + column) % 320)) (signed (((r >>> 11) + row) % 180)) (2 + i % 3)
      white) ++
  (.after (checkedPAL 0) fun pink => .after (checkedPAL 8) fun violet =>
    checkedHeart 160 82 5 pink violet) ++
  .after (checkedPAL 2) fun white => .after (checkedPAL 8) fun violet =>
    checkedTextCenter 139 "CANDY VORTEX" 3 white violet

def checkedOverlayGirlMode (t : CInt) : Routine :=
  (.loop 0 24 fun i =>
    let i : CInt := .ofInt i
    .after (unsigned i) fun seed =>
    .after (unsigned (t * (2 + i % 4))) fun row =>
    let r := rng32 (seed * 1777)
    .after ((i % 3).same 0) fun third =>
    .after (checkedPAL (i % 5)) fun color => .after (checkedPAL 8) fun violet =>
    checkedHeart (signed (r % 340 - 10)) (signed (((r >>> 10) + row) % 210 - 15))
      (1 + if third then 1 else 0) color violet) ++
  (.after (checkedPAL 2) fun white => .after (checkedPAL 8) fun violet =>
    checkedTextCenter 72 "GIRL MODE" 5 white violet) ++
  .after (checkedPAL 0) fun pink => .after (checkedPAL 8) fun violet =>
    checkedTextCenter 119 "MAXIMUM" 4 pink violet

def checkedOverlayBubblegum : Routine :=
  (.loop 0 20 fun i =>
    let i : CInt := .ofInt i
    .after (unsigned i) fun seed =>
    let r := rng32 (seed * 31337)
    .after (checkedPAL 2) fun white =>
    checkedStar (signed (r % 320)) (signed ((r >>> 10) % 180)) (1 + i % 3) white) ++
  (.after (checkedPAL 2) fun white => .after (checkedPAL 8) fun violet =>
    checkedTextCenter 14 "BUBBLEGUM" 5 white violet) ++
  .after (checkedPAL 0) fun pink => .after (checkedPAL 8) fun violet =>
    checkedTextCenter 145 "OVERDRIVE" 4 pink violet

def checkedButterfly (t i : CInt) : Routine :=
  .after ((i * 29 + t * (i % 3 + 1)) % 350 - 15).eval fun x =>
  .after (70 + ((checkedSi sins (t * (8 + i) + i * 193) * 55) >>> (10 : Nat))).eval fun y =>
  .after (checkedPAL ((i + 0) % 5)) fun left =>
  .after (checkedPAL ((i + 3) % 5)) fun right =>
  .circle (x - 4) (y - 2) 3 left ++ .circle (x + 4) (y - 2) 3 right ++
    .circle (x - 3) (y + 3) 2 left ++ .circle (x + 3) (y + 3) 2 right ++
    (.after (checkedPAL 8) fun violet => .rect (x - 1) (y - 4) 2 9 violet) ++
    .test (((i + t / 3) % 4).same 0)
      (.after (checkedPAL 2) fun white => checkedStar (x - 10) (y + 5) 2 white) .skip

def checkedOverlayButterflyRiot (t : CInt) : Routine :=
  (.loop 0 24 fun i => checkedButterfly sins t (.ofInt i)) ++
  (.loop 0 12 fun i =>
    let i : CInt := .ofInt i
    .after (checkedPAL ((i + 1) % 5)) fun petal => .after (checkedPAL 2) fun white =>
    checkedFlower ((i * 41 + t) % 340 - 10) (20 + (i * 23) % 140) 2 petal white) ++
  .after (checkedPAL 2) fun white => .after (checkedPAL 8) fun violet =>
    checkedTextCenter 143 "BUTTERFLY RIOT" 3 white violet

def checkedBall (cx cy r : CInt) : Routine :=
  .loop (-r) (r + 1) fun y => .loop (-r) (r + 1) fun x =>
    let y : CInt := .ofInt y
    let x : CInt := .ofInt x
    .test ((x * x + y * y).le (r * r))
      (.after (((y + r) * 10) / (2 * r + 1)).eval fun band =>
        .after (checkedPAL (band % 8)) fun color => .px (cx + x) (cy + y) color)
      .skip

def checkedOverlayHyperdrive (t : CInt) : Routine :=
  .after (160 + ((checkedSi sins (t * 9) * 28) >>> (10 : Nat))).eval fun cx =>
  .after (67 + ((checkedSi sins (t * 13) * 9) >>> (10 : Nat))).eval fun cy =>
  checkedBall cx cy 39 ++
  .circle (cx - 13) (cy - 15) 7 0xffffffff ++
  checkedStar (cx - 17) (cy - 18) 6 0xffffffff ++
  (.after (checkedPAL 2) fun white => .after (checkedPAL 8) fun violet =>
    checkedTextCenter 11 "SHE HER" 6 white violet) ++
  .after (checkedPAL 0) fun pink => .after (checkedPAL 8) fun violet =>
    checkedTextCenter 143 "HYPERDRIVE" 4 pink violet

def checkedOverlayTooMuch : Routine :=
  (.loop 0 35 fun i =>
    let i : CInt := .ofInt i
    .after (unsigned i) fun seed =>
    let r := rng32 (seed * 7331)
    let x := signed (r % 320)
    let y := signed ((r >>> 10) % 180)
    .after (1 + i % 3).eval fun s =>
    .test ((i % 3).same 0)
      (.after (checkedPAL (i % 5)) fun color => .after (checkedPAL 8) fun violet =>
        checkedHeart x y s color violet)
      (.test ((i % 3).same 1)
        (.after (checkedPAL (i % 5)) fun color => .after (checkedPAL 2) fun white =>
          checkedFlower x y (2 + s) color white)
        (.after (checkedPAL 2) fun white => checkedStar x y (2 + s) white))) ++
  (.after (checkedPAL 2) fun white => .after (checkedPAL 8) fun violet =>
    checkedTextCenter 54 "TOO MUCH" 6 white violet) ++
  .after (checkedPAL 9) fun hot => .after (checkedPAL 8) fun violet =>
    checkedTextCenter 104 "IS ENOUGH" 5 hot violet

def checkedSceneDots (which : Int) : Routine :=
  .loop 0 6 fun i =>
    .after (if i = which then checkedPAL 2 else checkedPAL 8) fun color =>
    .circle (145 + .ofInt i * 6) 171 (if i = which then 2 else 1) color

def checkedOverlay (which : Int) (t : CInt) : Routine :=
  (if which = 0 then checkedOverlayCandy t
   else if which = 1 then checkedOverlayGirlMode t
   else if which = 2 then checkedOverlayBubblegum
   else if which = 3 then checkedOverlayButterflyRiot sins t
   else if which = 4 then checkedOverlayHyperdrive sins t
   else checkedOverlayTooMuch) ++
  checkedSceneDots which

end Overlays

/-- `render_legacy_scene` -/
def checkedRenderLegacyScene {abi : Abi} (sins : SineTable)
    (context : CartSceneRenderContext abi) (which : Int) : Option (CartCanvas abi) :=
  if which < 0 ∨ SCENES ≤ which then some context.canvas
  else
    let frame : CInt := .ofInt (legacyFramePhase context.frame)
    let canvas := context.canvas
    match context.phase with
    | .renderRows => do
      let pixels ← checkedRows sins which frame context.rowStart context.rowEnd
        (canvas.stride.toNat * canvas.height.toNat) canvas.pixels
      return canvas.on pixels
    | .renderOverlay => do
      let calls ← (checkedOverlay sins which frame).calls
      calls.foldlM CartCanvas.checkedDraw canvas

end Scene2dLegacy

end VitaLinux.Cart
