import VitaLinux.Base.Blend
import VitaLinux.Cart.Transition

/-!
# How smooth a fade is

A fade copies at its ends and mixes between them. On opaque pixels the copies are mixes
too, and each channel goes from one end to the other without turning back, by no more
at a time than the weight and rounding allow.
-/

namespace VitaLinux.Cart

open VitaLinux.Base

/-! ## Channels -/

theorem clampChannel_range (value : Int) : 0 ≤ clampChannel value ∧ clampChannel value ≤ 255 := by
  simp only [clampChannel]
  split
  · decide
  · split <;> omega

theorem clampChannel_of_range {value : Int} (low : 0 ≤ value) (high : value ≤ 255) :
    clampChannel value = value := by
  rw [clampChannel, if_neg (by omega), if_neg (by omega)]

/-- Bytes above one another are added by `|`. -/
theorem or_byte {low high k : Nat} (h : low < 2 ^ k) : low ||| high * 2 ^ k = low + high * 2 ^ k := by
  rw [Nat.or_comm, Nat.mul_comm, ← Nat.two_pow_add_eq_or_of_lt h, Nat.add_comm]

/-- The four bytes of a colour. -/
theorem cartRgba_toNat (red green blue : Int) :
    ((cartRgba red green blue).toNat : Int) = clampChannel red + clampChannel green * 256 +
      clampChannel blue * 65536 + 4278190080 := by
  have byte (value : Int) : ∃ n : Nat, clampChannel value = n ∧ n < 256 := by
    have range := clampChannel_range value
    exact ⟨(clampChannel value).toNat, by omega, by omega⟩
  obtain ⟨r, hr, r_lt⟩ := byte red
  obtain ⟨g, hg, g_lt⟩ := byte green
  obtain ⟨b, hb, b_lt⟩ := byte blue
  have shifted {n : Nat} (k : Nat) (small : n * 2 ^ k < 2 ^ 32) (fits : n < 2 ^ 32) :
      (BitVec.ofInt 32 (n : Int) <<< k).toNat = n * 2 ^ k := by
    rw [BitVec.toNat_shiftLeft, BitVec.ofInt_natCast, BitVec.toNat_ofNat, Nat.mod_eq_of_lt fits,
      Nat.shiftLeft_eq, Nat.mod_eq_of_lt small]
  have first : (BitVec.ofInt 32 (r : Int)).toNat = r := by
    rw [BitVec.ofInt_natCast, BitVec.toNat_ofNat, Nat.mod_eq_of_lt (by omega)]
  have alpha : (0xff000000#32).toNat = 255 * 2 ^ 24 := by decide
  have two : r ||| g * 2 ^ 8 = r + g * 2 ^ 8 := or_byte r_lt
  have three : r + g * 2 ^ 8 ||| b * 2 ^ 16 = r + g * 2 ^ 8 + b * 2 ^ 16 := or_byte (by omega)
  have four : r + g * 2 ^ 8 + b * 2 ^ 16 ||| 255 * 2 ^ 24 =
      r + g * 2 ^ 8 + b * 2 ^ 16 + 255 * 2 ^ 24 := or_byte (by omega)
  have bytes : (cartRgba red green blue).toNat = r + g * 2 ^ 8 + b * 2 ^ 16 + 255 * 2 ^ 24 := by
    rw [cartRgba, hr, hg, hb, BitVec.toNat_or, BitVec.toNat_or, BitVec.toNat_or, first,
      shifted 8 (by omega) (by omega), shifted 16 (by omega) (by omega), alpha, two, three, four]
  rw [hr, hg, hb, bytes]
  omega

theorem channel_eq (color : U32) (shift : Nat) :
    channel color shift = ((color.toNat / 2 ^ shift % 256 : Nat) : Int) := by
  have byte : ((color >>> shift) &&& 0xff#32).toNat = color.toNat / 2 ^ shift % 256 := by
    rw [BitVec.toNat_and, BitVec.toNat_ushiftRight, Nat.shiftRight_eq_div_pow]
    exact Nat.and_two_pow_sub_one_eq_mod _ 8
  rw [channel, byte]

theorem channel_cartRgba (red green blue : Int) :
    channel (cartRgba red green blue) 0 = clampChannel red ∧
      channel (cartRgba red green blue) 8 = clampChannel green ∧
      channel (cartRgba red green blue) 16 = clampChannel blue := by
  have bytes := cartRgba_toNat red green blue
  have r := clampChannel_range red
  have g := clampChannel_range green
  have b := clampChannel_range blue
  simp only [channel_eq]
  omega

/-- The shifts of the red, green, blue and alpha bytes. -/
def channelShifts : List Nat := [0, 8, 16, 24]

theorem channel_alpha {color : U32} (solid : Solid color) : channel color 24 = 255 := by
  have byte := congrArg BitVec.toNat solid
  rw [BitVec.toNat_ushiftRight, Nat.shiftRight_eq_div_pow] at byte
  rw [channel_eq, byte]
  rfl

/-- Solid colours with the same channels are the same. -/
theorem eq_of_channels {color color' : U32} (solid : Solid color) (solid' : Solid color')
    (same : ∀ shift ∈ [0, 8, 16], channel color shift = channel color' shift) :
    color = color' := by
  have red := same 0 (by decide)
  have green := same 8 (by decide)
  have blue := same 16 (by decide)
  have alpha := (channel_alpha solid).trans (channel_alpha solid').symm
  simp only [channel_eq] at red green blue alpha
  have low := color.isLt
  have low' := color'.isLt
  apply BitVec.eq_of_toNat_eq
  omega

/-- Each channel of a mix is mixed by itself. -/
theorem channel_cartMix {source target : U32} (solid : Solid source) (solid' : Solid target)
    {amount : U32} (small : amount ≤ 256#32) {shift : Nat} (member : shift ∈ channelShifts) :
    channel (cartMix source target amount) shift =
      mixFloor 256 (channel source shift) (channel target shift) amount.toNat := by
  have bound : (amount.toNat : Int) ≤ 256 := by exact_mod_cast BitVec.le_def.mp small
  have colour (shift : Nat) : clampChannel (channel source shift +
      ((channel target shift - channel source shift) * (amount.toNat : Int)) >>> (8 : Nat)) =
      mixFloor 256 (channel source shift) (channel target shift) amount.toNat := by
    have between := mixFloor_between (s := 256) (a := channel source shift)
      (b := channel target shift) (by decide) (Int.natCast_nonneg amount.toNat) bound
    have left := channel_range source shift
    have right := channel_range target shift
    rw [Int.shiftRight_eq_div_pow]
    exact clampChannel_of_range ((le_min left.1 right.1).trans between.1)
      (between.2.trans (max_le left.2 right.2))
  have mixed : cartMix source target amount = cartRgba _ _ _ := rfl
  have alpha := channel_alpha (cartMix_solid source target amount)
  rw [if_neg (BitVec.not_lt.mpr small)] at mixed
  rw [channelShifts, List.mem_cons, List.mem_cons, List.mem_cons, List.mem_singleton] at member
  rcases member with rfl | rfl | rfl | rfl
  · rw [mixed, (channel_cartRgba _ _ _).1, colour]
  · rw [mixed, (channel_cartRgba _ _ _).2.1, colour]
  · rw [mixed, (channel_cartRgba _ _ _).2.2, colour]
  · rw [alpha, channel_alpha solid, channel_alpha solid', mixFloor, sub_self, zero_mul]
    rfl

/-! ## The fade -/

theorem transitionWeight_le (step : U64) : transitionWeight step ≤ 256#32 :=
  (transitionWeight_monotone (BitVec.le_refl step)).2

/-- A mix with no weight is its source, one with the whole weight its target. -/
theorem cartMix_ends {source target : U32} (solid : Solid source) (solid' : Solid target) :
    cartMix source target 0 = source ∧ cartMix source target 256 = target := by
  have whole (amount : U32) := cartMix_solid source target amount
  have mixed {amount : U32} (small : amount ≤ 256#32) {shift : Nat} (member : shift ∈ [0, 8, 16]) :
      channel (cartMix source target amount) shift =
        mixFloor 256 (channel source shift) (channel target shift) amount.toNat :=
    channel_cartMix solid solid' small (List.subset_append_left [0, 8, 16] [24] member)
  constructor
  · refine eq_of_channels (whole 0) solid fun shift member => ?_
    rw [mixed (by decide) member]
    exact mixFloor_zero _ _ _
  · refine eq_of_channels (whole 256) solid' fun shift member => ?_
    rw [mixed (by decide) member]
    exact mixFloor_full _ _ (by decide)

/-- Every pixel of a blend is a mix, whichever of its three paths it takes. -/
theorem transitionBlend_eq_mix {destination source target : Pixels} {count index : Nat}
    (inside : index < count) (solid : Solid (source index)) (solid' : Solid (target index))
    (step : U64) :
    transitionBlend destination source target count step index =
      cartMix (source index) (target index) (transitionWeight step) := by
  obtain ⟨start, finish⟩ := cartMix_ends solid solid'
  simp only [transitionBlend]
  split
  case isTrue none =>
    rw [none]
    exact (if_pos inside).trans start.symm
  case isFalse =>
    split
    case isTrue whole =>
      have weight : transitionWeight step = 256 :=
        BitVec.le_antisymm (transitionWeight_le step) whole
      rw [weight]
      exact (if_pos inside).trans finish.symm
    case isFalse =>
      have turns := Fills.loop (List.range count) fun index _ =>
        Fills.update index fun i => cartMix (source i) (target i) (transitionWeight step)
      exact (turns destination index).1 ⟨index, List.mem_range.mpr inside, rfl⟩

/-- What the steps of a fade make of one pixel. Of two steps the later one lies further on
the way, by no more than its share of the distance, rounded up. -/
structure SmoothFade (source target : U32) (frame : U64 → U32) : Prop where
  mixed : ∀ step, frame step = cartMix source target (transitionWeight step)
  start : frame 0 = source
  finish : ∀ step, CART_TRANSITION_FRAMES ≤ step → frame step = target
  between : ∀ step, ∀ shift ∈ channelShifts,
    min (channel source shift) (channel target shift) ≤ channel (frame step) shift ∧
      channel (frame step) shift ≤ max (channel source shift) (channel target shift)
  rising : ∀ step later, step ≤ later → ∀ shift ∈ channelShifts,
    channel source shift ≤ channel target shift →
      channel (frame step) shift ≤ channel (frame later) shift
  falling : ∀ step later, step ≤ later → ∀ shift ∈ channelShifts,
    channel target shift ≤ channel source shift →
      channel (frame later) shift ≤ channel (frame step) shift
  bounded : ∀ step later, step ≤ later → ∀ shift ∈ channelShifts,
    |channel (frame later) shift - channel (frame step) shift| ≤
      (|channel target shift - channel source shift| *
        ((transitionWeight later).toNat - (transitionWeight step).toNat) + 255) / 256

/-- **Fades are smooth**, on every pixel of two opaque buffers. -/
theorem fade_smooth (destination : Pixels) {source target : Pixels} {count : Nat}
    (solid : ∀ i < count, Solid (source i) ∧ Solid (target i)) :
    ∀ i < count, SmoothFade (source i) (target i) fun step =>
      transitionBlend destination source target count step i := by
  intro i inside
  obtain ⟨solid, solid'⟩ := solid i inside
  have mixed (step : U64) : transitionBlend destination source target count step i =
      cartMix (source i) (target i) (transitionWeight step) :=
    transitionBlend_eq_mix inside solid solid' step
  have value (step : U64) {shift : Nat} (member : shift ∈ channelShifts) :
      channel (transitionBlend destination source target count step i) shift =
        mixFloor 256 (channel (source i) shift) (channel (target i) shift)
          (transitionWeight step).toNat := by
    rw [mixed]
    exact channel_cartMix solid solid' (transitionWeight_le step) member
  have weights {step later : U64} (h : step ≤ later) :
      ((transitionWeight step).toNat : Int) ≤ (transitionWeight later).toNat := by
    exact_mod_cast BitVec.le_def.mp (transitionWeight_monotone h).1
  have ends := cartMix_ends solid solid'
  constructor
  case mixed => exact mixed
  case start =>
    rw [mixed]
    exact ends.1
  case finish =>
    intro step late
    have whole : transitionWeight step = 256 := by
      have positive : step ≠ 0 := by
        rintro rfl
        exact absurd late (by decide)
      rw [transitionWeight, if_neg positive, if_pos late]
      rfl
    rw [mixed, whole]
    exact ends.2
  case between =>
    intro step shift member
    rw [value step member]
    exact mixFloor_between (by decide) (Int.natCast_nonneg _)
      (by exact_mod_cast BitVec.le_def.mp (transitionWeight_le step))
  case rising =>
    intro step later h shift member direction
    rw [value step member, value later member]
    exact mixFloor_monotone (by decide) direction (weights h)
  case falling =>
    intro step later h shift member direction
    rw [value step member, value later member]
    exact mixFloor_antitone (by decide) direction (weights h)
  case bounded =>
    intro step later h shift member
    rw [value step member, value later member]
    exact mixFloor_step (by decide) (weights h)

def blackPixels : Pixels := fun _ => 0xff000000

def whitePixels : Pixels := fun _ => 0xffffffff

theorem black_white_solid : ∀ i < 1, Solid (blackPixels i) ∧ Solid (whitePixels i) := by
  have black : Solid 0xff000000 := by decide
  have white : Solid 0xffffffff := by decide
  exact fun _ _ => ⟨black, white⟩

theorem fade_smooth_black_white :
    (∀ i < 1, Solid (blackPixels i) ∧ Solid (whitePixels i)) ∧
      SmoothFade (blackPixels 0) (whitePixels 0) fun step =>
        transitionBlend blackPixels blackPixels whitePixels 1 step 0 :=
  ⟨black_white_solid, fade_smooth blackPixels black_white_solid 0 (by decide)⟩

end VitaLinux.Cart
