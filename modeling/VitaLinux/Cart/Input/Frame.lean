import VitaLinux.Cart.Input.Source
import VitaLinux.Cart.InputNormalize

/-!
# cart/src/input_evdev.c: the frame

`build_frame` merges the sources in the order of their indices, and the first that has a
value for an axis keeps it.
-/

namespace VitaLinux.Cart

def CART_INPUT_MAX_SOURCES : Nat := 4

structure CartInputFrame where
  axis : AxisSlot → Int16
  axisPresent : AxisSlot → Bool
  /-- source index per axis -/
  axisOwner : AxisSlot → Nat
  heldKeys : U64
  connectedMask : U32
  generationTotal : U32

/-- The frame before its first source: no axis has an owner. -/
def CartInputFrame.zero : CartInputFrame :=
  { axis := fun _ => 0, axisPresent := fun _ => false
    axisOwner := fun _ => CART_INPUT_MAX_SOURCES
    heldKeys := 0, connectedMask := 0, generationTotal := 0 }

/-- One round of the axis loop of `build_frame`. -/
def frameAxis (source : CartInputSource) (index : SourceIndex) (frame : CartInputFrame)
    (slot : AxisSlot) : CartInputFrame :=
  if !source.axisValid slot then frame
  else
    let normalized := axisNormalize (source.lastRaw slot) (source.axis slot)
    if normalized = CART_INPUT_AXIS_INVALID then frame
    -- keep the first writer
    else if frame.axisPresent slot then frame
    else
      { frame with
        axis := Function.update frame.axis slot (Int16.ofInt normalized)
        axisPresent := Function.update frame.axisPresent slot true
        axisOwner := Function.update frame.axisOwner slot index }

/-- One round of the source loop of `build_frame`. -/
def frameSource (input : CartInput) (frame : CartInputFrame) (index : SourceIndex) :
    CartInputFrame :=
  let source := input.source index
  if source.state = .absent then frame
  else
    let frame := { frame with
      connectedMask := frame.connectedMask ||| (1 : U32) <<< index.val
      generationTotal := frame.generationTotal + source.generation
      heldKeys := frame.heldKeys ||| source.heldKeys }
    (List.finRange 8).foldl (frameAxis source index) frame

def buildFrame (input : CartInput) : CartInputFrame :=
  (List.finRange 4).foldl (frameSource input) .zero

/-- A connected source has a value for the axis. -/
def CartInputSource.Provides (source : CartInputSource) (slot : AxisSlot) : Prop :=
  source.state ≠ .absent ∧ source.axisValid slot = true ∧
    axisNormalize (source.lastRaw slot) (source.axis slot) ≠ CART_INPUT_AXIS_INVALID

instance (source : CartInputSource) (slot : AxisSlot) : Decidable (source.Provides slot) :=
  inferInstanceAs (Decidable (_ ∧ _))

/-- The source that an axis was taken from. -/
def CartInputFrame.owner (frame : CartInputFrame) (slot : AxisSlot) : Option Nat :=
  if frame.axisPresent slot then some (frame.axisOwner slot) else none

section Owner

variable (source : CartInputSource) (index : SourceIndex) (slot : AxisSlot)

theorem frameAxis_owner (connected : source.state ≠ .absent) (frame : CartInputFrame) :
    (frameAxis source index frame slot).owner slot =
      (frame.owner slot).or (if source.Provides slot then some index.val else none) := by
  simp only [frameAxis, CartInputSource.Provides]
  by_cases valid : source.axisValid slot = true
  · by_cases invalid : axisNormalize (source.lastRaw slot) (source.axis slot) =
        CART_INPUT_AXIS_INVALID
    · simp [invalid]
    · by_cases present : frame.axisPresent slot = true
      · simp [CartInputFrame.owner, valid, invalid, present]
      · simp [CartInputFrame.owner, connected, valid, invalid, present]
  · simp [valid]

theorem frameAxis_owner_of_ne {other : AxisSlot} (different : slot ≠ other)
    (frame : CartInputFrame) :
    (frameAxis source index frame other).owner slot = frame.owner slot := by
  simp only [frameAxis]
  split
  · rfl
  · split
    · rfl
    · split
      · rfl
      · simp [CartInputFrame.owner, different]

theorem frameAxes_owner_of_notMem {slots : List AxisSlot} (absent : slot ∉ slots) :
    ∀ frame, (slots.foldl (frameAxis source index) frame).owner slot = frame.owner slot := by
  induction slots with
  | nil => exact fun _ => rfl
  | cons other slots ih =>
    intro frame
    rw [List.mem_cons, not_or] at absent
    rw [List.foldl_cons, ih absent.2, frameAxis_owner_of_ne source index slot absent.1]

theorem frameAxes_owner (connected : source.state ≠ .absent) {slots : List AxisSlot}
    (nodup : slots.Nodup) (mem : slot ∈ slots) :
    ∀ frame, (slots.foldl (frameAxis source index) frame).owner slot =
      (frame.owner slot).or (if source.Provides slot then some index.val else none) := by
  induction slots with
  | nil => exact absurd mem List.not_mem_nil
  | cons other slots ih =>
    intro frame
    rw [List.nodup_cons] at nodup
    rw [List.foldl_cons]
    by_cases same : slot = other
    · subst same
      rw [frameAxes_owner_of_notMem source index slot nodup.1,
        frameAxis_owner source index slot connected]
    · rw [ih nodup.2 ((List.mem_cons.mp mem).resolve_left same),
        frameAxis_owner_of_ne source index slot same]

end Owner

theorem frameSource_owner (input : CartInput) (index : SourceIndex) (slot : AxisSlot)
    (frame : CartInputFrame) :
    (frameSource input frame index).owner slot =
      (frame.owner slot).or
        (if (input.source index).Provides slot then some index.val else none) := by
  simp only [frameSource]
  split
  case isTrue absent => simp [CartInputSource.Provides, absent]
  case isFalse connected =>
    exact frameAxes_owner _ index slot connected (List.nodup_finRange 8) (List.mem_finRange slot) _

/-- Every axis belongs to the first source that has a value for it. -/
theorem buildFrame_owner (input : CartInput) (slot : AxisSlot) :
    (buildFrame input).owner slot =
      ((List.finRange 4).find? fun index => (input.source index).Provides slot).map Fin.val := by
  have fold (indices : List SourceIndex) :
      ∀ frame : CartInputFrame, (indices.foldl (frameSource input) frame).owner slot =
        (frame.owner slot).or
          ((indices.find? fun index => (input.source index).Provides slot).map Fin.val) := by
    induction indices with
    | nil => simp
    | cons index indices ih =>
      intro frame
      rw [List.foldl_cons, ih, frameSource_owner, Option.or_assoc, List.find?_cons]
      by_cases provides : (input.source index).Provides slot
      · simp [provides]
      · simp [provides]
  exact fold _ _

end VitaLinux.Cart
