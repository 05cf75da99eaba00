import Mathlib.Data.Int.Bitwise
import VitaLinux.Cart.Draw

/-!
# cart/scenes/scene_2d_legacy.c

The scene bodies are textually the same in v0.1 and in the current cart; only
the primitives under them differ. `mix` is therefore a parameter of the row
passes, and the overlays are lists of primitive calls. `int` is `Int` (signed
overflow is undefined in C), `uint32_t` is `U32`; `/` and `%` on `int` truncate,
`&`, `^` and `>>` act on two's complement.
-/

namespace VitaLinux.Cart.Scene2dLegacy

open VitaLinux.Base

def LW : Int := 320

def LH : Int := 180

def SCENES : Int := 6

/-- `(int)(sins[i] * 1024.0f)` for the 2048 entries of the sine table. -/
structure SineTable where
  value : Fin 2048 → Int
  lower : ∀ i, -1024 ≤ value i
  upper : ∀ i, value i ≤ 1024

def si (sins : SineTable) (x : Int) : Int :=
  sins.value (Fin.ofNat 2048 (Int.land x 2047).toNat)

def palette : List U32 := [
  0xffb8a9f5, -- trans pink
  0xffe8d6ff, -- pale pink
  0xffffffff, -- white
  0xffface5b, -- trans blue
  0xffe8bc49, -- deeper blue
  0xffff8cc5, -- lavender
  0xffff6c9d, -- purple
  0xffc8f7ff, -- cream
  0xffa82a6b, -- dark violet
  0xffa147f4] -- hot pink

/-- `PAL[i]` -/
def PAL (i : Int) : U32 := palette.getD i.toNat 0

def abs (x : Int) : Int := x.natAbs

/-! ## Row passes -/

section Rows

variable (sins : SineTable) (mix : U32 → U32 → Int → U32)

def sceneCandy (t x y : Int) : U32 :=
  let dx := x - 160
  let dy := y - 90
  let d := (dx * dx + dy * dy) >>> (4 : Nat)
  let warp := si sins (Int.land (x * 9 + t * 11) 2047) + si sins (Int.land (y * 13 - t * 7) 2047)
  let band := Int.land ((d + (warp >>> (7 : Nat)) - t * 8) >>> (4 : Nat)) 7
  mix (PAL (band.tmod 5)) (PAL ((band + 1).tmod 5))
    ((si sins (d * 5 + t * 17) + 1024) >>> (3 : Nat))

def sceneChecker (t x y : Int) : U32 :=
  let yy := y + (si sins (x * 10 + t * 14) >>> (8 : Nat))
  let xx := x + (si sins (y * 13 - t * 9) >>> (8 : Nat))
  let q := Int.land (Int.xor (xx >>> (3 : Nat)) (yy >>> (3 : Nat))) 1
  let glow := (si sins (x * 6 + y * 8 + t * 12) + 1024) >>> (4 : Nat)
  mix (if q ≠ 0 then PAL 0 else PAL 4) (if q ≠ 0 then PAL 2 else PAL 5) glow

def bubbleX (t i : Int) : Int :=
  160 + ((si sins (t * (7 + i) + i * 273) * (45 + i * 5)) >>> (10 : Nat))

def bubbleY (t i : Int) : Int :=
  90 + ((si sins (t * (9 + i) + i * 411) * (28 + i * 4)) >>> (10 : Nat))

def bubbleField (t x y : Int) : Int :=
  (intRange 0 7).foldl (fun field i =>
    let dx := x - bubbleX sins t i
    let dy := y - bubbleY sins t i
    field + (9000 + i * 700).tdiv (18 + dx * dx + dy * dy)) 0

def sceneBubbles (t x y : Int) : U32 :=
  let field := bubbleField sins t x y
  let wave := (si sins (x * 8 - y * 6 + t * 18) + 1024) >>> (5 : Nat)
  if 22 < field then mix (PAL 1) (PAL 5) (Int.land (field * 9 + wave) 255)
  else mix (PAL 8) (PAL 6) wave

def sceneRibbons (t x y : Int) : U32 :=
  let wave := 90 + (si sins (x * 12 + t * 13) >>> (5 : Nat))
  let wave2 := 90 + (si sins (x * 9 - t * 17 + 500) >>> (4 : Nat))
  let d1 := abs (y - wave)
  let d2 := abs (y - wave2)
  let base := mix (PAL 3) (PAL 1) ((y * 255).tdiv LH)
  let base := if d1 < 8 then mix (PAL 0) (PAL 2) (d1 * 30) else base
  if d2 < 5 then mix (PAL 6) (PAL 2) (d2 * 45) else base

def sceneChrome (_t x y : Int) : U32 :=
  if y < 95 then
    mix (PAL 8) (PAL 0) ((si sins (x * 5 + y * 4) + 1024) >>> (4 : Nat))
  else
    let z := y - 94
    let horizon := Int.land (z * 13) 31 < 2
    let van := ((x - 160) * 90).tdiv (z + 8)
    let vertical := (abs van).tmod 42 < 2
    if horizon ∨ vertical then PAL 2 else mix (PAL 6) (PAL 8) z

def sceneSugar (t x y : Int) : U32 :=
  let a := si sins (x * 10 + t * 13)
  let b := si sins (y * 14 - t * 9)
  let c := si sins ((x + y) * 7 + t * 5)
  let v := (a + b + c + 3072).tdiv 12
  let stripe :=
    Int.land ((x + y + (si sins (t * 17 + x * 3) >>> (7 : Nat))) >>> (3 : Nat)) 3
  mix (PAL ((stripe + 0).tmod 5)) (PAL ((stripe + 2).tmod 5)) (Int.land v 255)

/-- The `switch` over the row passes. -/
def scenePixel (which : Int) : Int → Int → Int → U32 :=
  if which = 0 then sceneCandy sins mix
  else if which = 1 then sceneChecker sins mix
  else if which = 2 then sceneBubbles sins mix
  else if which = 3 then sceneRibbons sins mix
  else if which = 4 then sceneChrome sins mix
  else sceneSugar sins mix

end Rows

/-- The loop of every row pass: `low[y*LW+x]` for the rows `[y0, y1)`. -/
def rowPass (y0 y1 : Int) (pixel : Int → Int → U32) (low : Pixels) : Pixels :=
  (intRange y0 y1).foldl (fun low y =>
    (intRange 0 LW).foldl (fun low x =>
      Function.update low (y * LW + x).toNat (pixel x y)) low) low

/-! ## Overlays -/

def heartShape : List String :=
  ["01100110", "11111111", "11111111", "11111111",
   "01111110", "00111100", "00011000", "00000000"]

/-- `shape[y][x]` -/
def heartCell (y x : Nat) : Char := (heartShape.getD y "").toList.getD x '0'

def heartBorder (y x : Nat) : Bool :=
  x == 0 || x == 7 || y == 0 || y == 6 ||
    (decide (0 < x) && heartCell y (x - 1) == '0') ||
    (decide (x < 7) && heartCell y (x + 1) == '0') ||
    (decide (0 < y) && heartCell (y - 1) x == '0')

def heart (cx cy s : Int) (c edge : U32) : List Draw :=
  ((List.range 8).flatMap fun y => (List.range 8).flatMap fun x =>
    if heartCell y x == '1' then
      [.rect (cx + ((x : Int) - 4) * s) (cy + ((y : Int) - 3) * s) s s
        (if heartBorder y x then edge else c)]
    else []) ++
  if 1 < s then [.rect (cx - 2 * s) (cy - 2 * s) s s 0xffffffff] else []

def star (cx cy r : Int) (c : U32) : List Draw :=
  (intRange (-r) (r + 1)).flatMap fun i =>
    [.px (cx + i) cy c, .px cx (cy + i) c] ++
      if abs i < r.tdiv 2 + 1 then [.px (cx + i) (cy + i) c, .px (cx + i) (cy - i) c] else []

def flower (cx cy s : Int) (petal center : U32) : List Draw :=
  [.circle (cx - s) cy s petal, .circle (cx + s) cy s petal,
   .circle cx (cy - s) s petal, .circle cx (cy + s) s petal,
   .circle cx cy s center]

def FONT : List (List Nat) := [
  [14,17,17,31,17,17,17], [30,17,17,30,17,17,30], [14,17,16,16,16,17,14],
  [30,17,17,17,17,17,30], [31,16,16,30,16,16,31], [31,16,16,30,16,16,16],
  [14,17,16,23,17,17,15], [17,17,17,31,17,17,17], [14,4,4,4,4,4,14],
  [7,2,2,2,18,18,12], [17,18,20,24,20,18,17], [16,16,16,16,16,16,31],
  [17,27,21,21,17,17,17], [17,25,21,19,17,17,17], [14,17,17,17,17,17,14],
  [30,17,17,30,16,16,16], [14,17,17,17,21,18,13], [30,17,17,30,20,18,17],
  [15,16,16,14,1,1,30], [31,4,4,4,4,4,4], [17,17,17,17,17,17,14],
  [17,17,17,17,17,10,4], [17,17,17,21,21,21,10], [17,17,10,4,10,17,17],
  [17,17,10,4,4,4,4], [31,1,2,4,8,16,31],
  [14,17,19,21,25,17,14], [4,12,4,4,4,4,14], [14,17,1,2,4,8,31],
  [30,1,1,14,1,1,30], [2,6,10,18,31,2,2], [31,16,16,30,1,1,30],
  [14,16,16,30,17,17,14], [31,1,2,4,8,8,8], [14,17,17,14,17,17,14],
  [14,17,17,15,1,1,14], [0,0,0,0,0,0,0]]

def fontIndex (c : Char) : Nat :=
  if 'A' ≤ c ∧ c ≤ 'Z' then c.toNat - 'A'.toNat
  else if '0' ≤ c ∧ c ≤ '9' then 26 + c.toNat - '0'.toNat
  else 36

/-- The five by seven dots of one character. -/
def glyph (x y : Int) (ch : Char) (scale : Int) (c : U32) : List Draw :=
  (List.range 7).flatMap fun yy => (List.range 5).flatMap fun xx =>
    if ((FONT.getD (fontIndex ch) []).getD yy 0).testBit (4 - xx) then
      [.rect (x + xx * scale) (y + yy * scale) scale scale c]
    else []

/-- The loop of `text` over the characters. -/
def textLine (y : Int) (scale : Int) (c : U32) : Int → List Char → List Draw
  | _, [] => []
  | x, ch :: s =>
    (if ch = ' ' then [] else glyph x y ch scale c) ++ textLine y scale c (x + 6 * scale) s

/-- `text`; its one recursive call has no shadow. -/
def text (x y : Int) (s : String) (scale : Int) (c shadow : U32) : List Draw :=
  (if shadow ≠ 0 then textLine (y + scale) scale shadow (x + scale) s.toList else []) ++
    textLine y scale c x s.toList

def textCenter (y : Int) (s : String) (scale : Int) (c shadow : U32) : List Draw :=
  let width := ((s.length : Int) * 6 - 1) * scale
  text ((LW - width).tdiv 2) y s scale c shadow

def rng32 (x : U32) : U32 :=
  let x := x ^^^ (x >>> 16)
  let x := x * 0x7feb352d
  let x := x ^^^ (x >>> 15)
  let x := x * 0x846ca68b
  x ^^^ (x >>> 16)

/-- An `int` operand of an unsigned expression. -/
abbrev u32 (x : Int) : U32 := BitVec.ofInt 32 x

section Overlays

variable (sins : SineTable)

def overlayCandy (t : Int) : List Draw :=
  ((intRange 0 18).flatMap fun i =>
    let r := rng32 (u32 i * 991)
    let x := ((r + u32 (t * (1 + i.tmod 3))) % 320).toInt
    let y := (((r >>> 11) + u32 (i * 17)) % 180).toInt
    star x y (2 + i.tmod 3) (PAL 2)) ++
  heart 160 82 5 (PAL 0) (PAL 8) ++
  textCenter 139 "CANDY VORTEX" 3 (PAL 2) (PAL 8)

def overlayGirlMode (t : Int) : List Draw :=
  ((intRange 0 24).flatMap fun i =>
    let r := rng32 (u32 i * 1777)
    let x := (r % 340 - 10).toInt
    let y := (((r >>> 10) + u32 (t * (2 + i.tmod 4))) % 210 - 15).toInt
    heart x y (1 + if i.tmod 3 = 0 then 1 else 0) (PAL (i.tmod 5)) (PAL 8)) ++
  textCenter 72 "GIRL MODE" 5 (PAL 2) (PAL 8) ++
  textCenter 119 "MAXIMUM" 4 (PAL 0) (PAL 8)

def overlayBubblegum : List Draw :=
  ((intRange 0 20).flatMap fun i =>
    let r := rng32 (u32 i * 31337)
    star (r % 320).toInt ((r >>> 10) % 180).toInt (1 + i.tmod 3) (PAL 2)) ++
  textCenter 14 "BUBBLEGUM" 5 (PAL 2) (PAL 8) ++
  textCenter 145 "OVERDRIVE" 4 (PAL 0) (PAL 8)

def butterfly (t i : Int) : List Draw :=
  let x := (i * 29 + t * (i.tmod 3 + 1)).tmod 350 - 15
  let y := 70 + ((si sins (t * (8 + i) + i * 193) * 55) >>> (10 : Nat))
  let left := PAL ((i + 0).tmod 5)
  let right := PAL ((i + 3).tmod 5)
  [.circle (x - 4) (y - 2) 3 left, .circle (x + 4) (y - 2) 3 right,
   .circle (x - 3) (y + 3) 2 left, .circle (x + 3) (y + 3) 2 right,
   .rect (x - 1) (y - 4) 2 9 (PAL 8)] ++
  if (i + t.tdiv 3).tmod 4 = 0 then star (x - 10) (y + 5) 2 (PAL 2) else []

def overlayButterflyRiot (t : Int) : List Draw :=
  (intRange 0 24).flatMap (butterfly sins t) ++
  ((intRange 0 12).flatMap fun i =>
    flower ((i * 41 + t).tmod 340 - 10) (20 + (i * 23).tmod 140) 2 (PAL ((i + 1).tmod 5))
      (PAL 2)) ++
  textCenter 143 "BUTTERFLY RIOT" 3 (PAL 2) (PAL 8)

/-- The banded ball of `She Her Hyperdrive`. -/
def ball (cx cy r : Int) : List Draw :=
  (intRange (-r) (r + 1)).flatMap fun y => (intRange (-r) (r + 1)).flatMap fun x =>
    if x * x + y * y ≤ r * r then
      let band := ((y + r) * 10).tdiv (2 * r + 1)
      [.px (cx + x) (cy + y) (PAL (band.tmod 8))]
    else []

def overlayHyperdrive (t : Int) : List Draw :=
  let cx := 160 + ((si sins (t * 9) * 28) >>> (10 : Nat))
  let cy := 67 + ((si sins (t * 13) * 9) >>> (10 : Nat))
  ball cx cy 39 ++
  [.circle (cx - 13) (cy - 15) 7 0xffffffff] ++
  star (cx - 17) (cy - 18) 6 0xffffffff ++
  textCenter 11 "SHE HER" 6 (PAL 2) (PAL 8) ++
  textCenter 143 "HYPERDRIVE" 4 (PAL 0) (PAL 8)

def overlayTooMuch : List Draw :=
  ((intRange 0 35).flatMap fun i =>
    let r := rng32 (u32 i * 7331)
    let x := (r % 320).toInt
    let y := ((r >>> 10) % 180).toInt
    let s := 1 + i.tmod 3
    if i.tmod 3 = 0 then heart x y s (PAL (i.tmod 5)) (PAL 8)
    else if i.tmod 3 = 1 then flower x y (2 + s) (PAL (i.tmod 5)) (PAL 2)
    else star x y (2 + s) (PAL 2)) ++
  textCenter 54 "TOO MUCH" 6 (PAL 2) (PAL 8) ++
  textCenter 104 "IS ENOUGH" 5 (PAL 9) (PAL 8)

/-- candy scene dots, not an interface -/
def sceneDots (which : Int) : List Draw :=
  (intRange 0 SCENES).map fun i =>
    .circle (145 + i * 6) 171 (if i = which then 2 else 1) (if i = which then PAL 2 else PAL 8)

def overlay (which t : Int) : List Draw :=
  (if which = 0 then overlayCandy t
   else if which = 1 then overlayGirlMode t
   else if which = 2 then overlayBubblegum
   else if which = 3 then overlayButterflyRiot sins t
   else if which = 4 then overlayHyperdrive sins t
   else overlayTooMuch) ++
  sceneDots which

end Overlays

end VitaLinux.Cart.Scene2dLegacy
