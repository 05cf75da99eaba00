import VitaLinux.Toolkit.Dashboard.Clipping
import VitaLinux.Toolkit.Dashboard.Input

/-!
# The screens of vita-dashboard

`draw_screen` of main.c, as the drawing calls it makes. On an accepted geometry whose products
do not wrap, and with a pixel of three bytes or more, every coordinate of every screen stays an
`int`.
-/

namespace VitaLinux.Toolkit.Dashboard

open VitaLinux.Base

variable {abi : Abi}

def STATUS_FIELD : Nat := 96

/-- A field of `struct dashboard_status`: the bytes before its NUL. -/
abbrev StatusField := { bytes : List UInt8 // 0 ∉ bytes ∧ bytes.length < STATUS_FIELD }

structure DashboardStatus where
  kernel : StatusField
  arch : StatusField
  cpusOnline : StatusField
  memoryAvailable : StatusField
  uptime : StatusField
  interface : StatusField
  address : StatusField
  storage : StatusField
  toolkit : StatusField
  compiler : StatusField
  workspace : StatusField
  deriving DecidableEq

def COL_BG : U32 := 0x101018FF
def COL_HEADER : U32 := 0x30E0C0FF
def COL_LABEL : U32 := 0x8090A0FF
def COL_VALUE : U32 := 0xF0F0F0FF
def COL_ACCENT : U32 := 0xE05080FF

def SCREEN_COUNT : Nat := 4

theorem zero_not_mem_cString (bytes : List UInt8) : 0 ∉ cString bytes := by
  intro mem
  have nonzero := List.mem_takeWhile_imp mem
  simp at nonzero

/-- The text that a drawing function finds in these bytes. -/
def cText (bytes : List UInt8) : CText := ⟨cString bytes, zero_not_mem_cString bytes⟩

def StatusField.text (field : StatusField) : CText := ⟨field.val, field.property.1⟩

def screenTitle (screen : Nat) : CText :=
  cText <| chars <|
    match screen with
    | 0 => "OVERVIEW"
    | 1 => "NETWORK / STORAGE"
    | 2 => "BUILD"
    | _ => "INPUT"

/-- `char buffer[128]` after `snprintf`. -/
def buffer (text : List UInt8) : CText := cText (printed 128 text)

/-- The rows of a screen, labels first. -/
def screenRows (r : Renderer abi) (screen : Nat) (status : DashboardStatus)
    (input : DashboardInput abi) (frames : SizeT abi) : List (String × CText) :=
  match screen with
  | 0 =>
    [("kernel", status.kernel.text), ("arch", status.arch.text),
      ("cpus online", status.cpusOnline.text), ("memory free", status.memoryAvailable.text),
      ("uptime", status.uptime.text)]
  | 1 =>
    [("interface", status.interface.text), ("address", status.address.text),
      ("storage", status.storage.text), ("toolkit", status.toolkit.text)]
  | 2 =>
    [("compiler", status.compiler.text), ("workspace", status.workspace.text),
      ("framebuffer", buffer (decimal r.width.toNat ++ chars "x" ++ decimal r.height.toNat ++
        chars " stride " ++ decimal r.stride.toNat)),
      ("frames written", buffer (decimal frames.toNat))]
  | _ =>
    [("input device", cText input.path), ("identity", cText input.phys),
      ("name", cText input.name), ("events seen", buffer (decimal input.eventsSeen.toNat))]

/-- The calls of the rows, the first at `y`. -/
def rowCalls (scale step : Nat) : Nat → List (String × CText) → List DrawCall
  | _, [] => []
  | y, (label, value) :: rows =>
    .row 40 (Int32.ofNat y) (some (cText (chars label))) (some value) (BitVec.ofNat 32 scale)
      COL_LABEL COL_VALUE :: rowCalls scale step (y + step) rows

/-- The calls of `draw_screen`; `none` is a coordinate that is no `int`. -/
def drawScreen (r : Renderer abi) (screen : Nat) (status : DashboardStatus)
    (input : DashboardInput abi) (runtimeMs frames : SizeT abi) : Option (List DrawCall) := do
  let scale : Nat := if 1024 ≤ r.width then 3 else 2
  let step := (8 + 1) * scale + 10
  let rule ← fitSigned 32 (r.width.toInt - 2 * 40)
  let footer ← fitSigned 32 (r.height.toInt - (40 + (8 + 1) * 2))
  let controls ← fitSigned 32 (r.height.toInt - 40)
  let footerText := buffer (chars "screen " ++ decimal (screen + 1) ++ chars "/" ++
    decimal SCREEN_COUNT ++ chars "   runtime " ++ decimal (runtimeMs.toNat / 1000) ++ chars "s")
  some <|
    [.clear COL_BG,
      .text 40 40 (some (cText (chars "VITA LINUX WORKBENCH"))) (BitVec.ofNat 32 scale) COL_HEADER,
      .text 40 (Int32.ofNat (40 + step)) (some (screenTitle screen)) (BitVec.ofNat 32 scale)
        COL_ACCENT,
      -- A thin rule under the header.
      .rect 40 (Int32.ofNat (40 + step + (step + 10) - 8)) (Int32.ofInt rule) 2 COL_LABEL] ++
    rowCalls scale step (40 + step + (step + 10) + 8)
      (screenRows r screen status input frames) ++
    [.text 40 (Int32.ofInt footer) (some footerText) 2 COL_LABEL,
      .text 40 (Int32.ofInt controls)
        (some (cText (chars "CROSS/SPACE next    CIRCLE/ESC exit"))) 2 COL_ACCENT]

/-! ## Every coordinate is an `int` -/

/-- The texts of a device, which come from buffers of 256 bytes. -/
structure DashboardInput.Bounded (input : DashboardInput abi) : Prop where
  name : input.name.length < 256
  phys : input.phys.length < 256
  path : input.path.length < 256

theorem cString_length (bytes : List UInt8) : (cString bytes).length ≤ bytes.length :=
  (List.takeWhile_prefix _).length_le

theorem buffer_length (text : List UInt8) : (buffer text).val.length < 256 := by
  have short := (cString_length (printed 128 text)).trans (List.length_take_le _ _)
  exact Nat.lt_of_le_of_lt short (by decide)

theorem StatusField.text_length (field : StatusField) : field.text.val.length < 256 :=
  field.property.2.trans (by decide)

open Renderer (LineFits)

/-- A text of a screen, where it starts within reach of the last `int`. -/
theorem line_fits {x y : Int} {line : CText} {scale : Nat} (short : line.val.length < 256)
    (small : scale ≤ 3) (hx : x ≤ 1000) (hy : y ≤ 2 ^ 30) : LineFits x y (some line) scale := by
  intro bytes same
  obtain rfl := Option.some.inj same
  have width : 9 * scale * line.val.length ≤ 9 * 3 * 255 :=
    Nat.mul_le_mul (Nat.mul_le_mul_left 9 small) (by omega)
  refine ⟨by omega, by omega, fun ch _ gy gx _ => ?_⟩
  have height : (gy.val + 1) * scale ≤ 8 * 3 := Nat.mul_le_mul gy.isLt small
  omega

theorem scale_toNat {scale : Nat} (pos : 0 < scale) (small : scale ≤ 3) :
    (Renderer.atLeastOne (BitVec.ofNat 32 scale)).toNat = scale := by
  interval_cases scale <;> rfl

theorem text_call_fits {x y : Int32} {line : CText} {scale : Nat}
    (short : line.val.length < 256) (pos : 0 < scale) (small : scale ≤ 3)
    (hx : x.toInt ≤ 1000) (hy : y.toInt ≤ 2 ^ 30) (rgba : U32) :
    (DrawCall.text x y (some line) (BitVec.ofNat 32 scale) rgba).Fits := by
  simp only [DrawCall.Fits, scale_toNat pos small]
  exact line_fits short small hx hy

theorem row_call_fits {y : Int32} {label value : CText} {scale : Nat}
    (short : label.val.length < 256) (short' : value.val.length < 256) (pos : 0 < scale)
    (small : scale ≤ 3) (hy : y.toInt ≤ 2 ^ 30) (labelRgba valueRgba : U32) :
    (DrawCall.row 40 y (some label) (some value) (BitVec.ofNat 32 scale) labelRgba
      valueRgba).Fits := by
  have start : Int32.toInt 40 = 40 := by decide
  simp only [DrawCall.Fits, scale_toNat pos small, start]
  exact ⟨line_fits short small (by decide) hy, by omega, by omega,
    line_fits short' small (by omega) hy⟩

/-- By induction on the rows; each is one step lower. -/
theorem rowCalls_fits {scale step y : Nat} {rows : List (String × CText)} (pos : 0 < scale)
    (small : scale ≤ 3) (low : y + step * rows.length ≤ 2 ^ 30)
    (short : ∀ row ∈ rows, (cText (chars row.1)).val.length < 256 ∧ row.2.val.length < 256) :
    ∀ call ∈ rowCalls scale step y rows, call.Fits := by
  induction rows generalizing y with
  | nil =>
    intro call mem
    cases mem
  | cons row rows ih =>
    obtain ⟨label, value⟩ := row
    rw [List.length_cons, Nat.mul_succ] at low
    intro call mem
    obtain rfl | mem := List.mem_cons.mp mem
    · obtain ⟨first, second⟩ := short _ List.mem_cons_self
      refine row_call_fits first second pos small ?_ ..
      rw [Int32.toInt_ofNat_of_lt (by omega)]
      omega
    · exact ih (by omega) (fun row mem => short row (List.mem_cons_of_mem _ mem)) call mem

theorem screenRows_short {input : DashboardInput abi} (bounded : input.Bounded)
    (r : Renderer abi) (screen : Nat) (status : DashboardStatus) (frames : SizeT abi) :
    (screenRows r screen status input frames).length ≤ 5 ∧
      ∀ row ∈ screenRows r screen status input frames,
        (cText (chars row.1)).val.length < 256 ∧ row.2.val.length < 256 := by
  have field := StatusField.text_length
  have own {bytes : List UInt8} (short : bytes.length < 256) : (cText bytes).val.length < 256 :=
    (cString_length bytes).trans_lt short
  have name := own bounded.name
  have phys := own bounded.phys
  have path := own bounded.path
  unfold screenRows
  split <;> simp [field, buffer_length, name, phys, path] <;> decide

theorem screenTitle_length (screen : Nat) : (screenTitle screen).val.length < 256 := by
  unfold screenTitle
  split <;> decide

/-- On a geometry of `int`s the screen is drawn, and it starts with a clear. -/
theorem drawScreen_fits {r : Renderer abi} (wide : r.width.toNat ≤ 2 ^ 26)
    (high : r.height.toNat ≤ 2 ^ 26) {input : DashboardInput abi} (bounded : input.Bounded)
    (screen : Nat) (status : DashboardStatus) (runtimeMs frames : SizeT abi) :
    ∃ calls, drawScreen r screen status input runtimeMs frames = some (.clear COL_BG :: calls) ∧
      ∀ call ∈ DrawCall.clear COL_BG :: calls, call.Fits := by
  have width : r.width.toInt = r.width.toNat := BitVec.toInt_eq_toNat_of_lt (by omega)
  have height : r.height.toInt = r.height.toNat := BitVec.toInt_eq_toNat_of_lt (by omega)
  have rule : FitsSigned 32 (r.width.toInt - 2 * 40) := fitsSigned_32.mpr (by omega)
  have footer : FitsSigned 32 (r.height.toInt - (40 + (8 + 1) * 2)) :=
    fitsSigned_32.mpr (by omega)
  have controls : FitsSigned 32 (r.height.toInt - 40) := fitsSigned_32.mpr (by omega)
  obtain ⟨few, short⟩ := screenRows_short bounded r screen status frames
  have left : Int32.toInt 40 ≤ 1000 := by decide
  have top : Int32.toInt 40 ≤ 2 ^ 30 := by decide
  rw [drawScreen, Signed.fitSigned_eq rule, Signed.fitSigned_eq footer,
    Signed.fitSigned_eq controls]
  obtain ⟨scale, scale_eq⟩ : ∃ scale : Nat, (if 1024 ≤ r.width then 3 else 2) = scale := ⟨_, rfl⟩
  have pos : 0 < scale := by rw [← scale_eq]; split <;> decide
  have small : scale ≤ 3 := by rw [← scale_eq]; split <;> decide
  simp only [scale_eq]
  have step : ((8 + 1) * scale + 10) * (screenRows r screen status input frames).length ≤
      37 * 5 := Nat.mul_le_mul (by omega) few
  refine ⟨_, rfl, fun call mem => ?_⟩
  obtain rfl | mem := List.mem_cons.mp mem
  · trivial
  obtain mem | mem := List.mem_append.mp mem
  · obtain mem | mem := List.mem_append.mp mem
    · simp only [List.mem_cons, List.not_mem_nil, or_false] at mem
      obtain rfl | rfl | rfl := mem
      · exact text_call_fits (by decide) pos small left top _
      · refine text_call_fits (screenTitle_length screen) pos small left ?_ _
        rw [Int32.toInt_ofNat_of_lt (by omega)]
        omega
      · refine .inr (.inr ?_)
        rw [Int32.toInt_ofInt_of_le (by omega) (by omega),
          Int32.toInt_ofNat_of_lt (by omega)]
        have two : Int32.toInt 2 = 2 := by decide
        omega
    · exact rowCalls_fits pos small (by omega) short call mem
  · simp only [List.mem_cons, List.not_mem_nil, or_false] at mem
    obtain rfl | rfl := mem
    · refine text_call_fits (buffer_length _) (by decide : 0 < 2) (by decide) left ?_ _
      rw [Int32.toInt_ofInt_of_le (by omega) (by omega)]
      omega
    · refine text_call_fits (by decide) (by decide : 0 < 2) (by decide) left ?_ _
      rw [Int32.toInt_ofInt_of_le (by omega) (by omega)]
      omega

end VitaLinux.Toolkit.Dashboard
