import Mathlib.Data.List.Basic

/-!
# Crossfades

A display shows one source at a time, and changes sources by a fade of a fixed
number of blended pictures over two fixed endpoints. `Display` is that machine;
`Smooth` says what a viewer sees of it, with no state at all: steady pictures
of one source and complete fades between them. `Run.smooth` connects the two.
-/

namespace VitaLinux.Base

/-- What a display works with: the picture of a source at a moment, the steps
from one picture to another, and how many of them make a fade. -/
structure Crossfade (σ φ π : Type) where
  image : σ → φ → π
  blend : π → π → Nat → π
  length : Nat

/-- A picture shown at a moment, and the source wanted then. -/
structure Shot (σ φ π : Type) where
  wanted : σ
  moment : φ
  picture : π

inductive Display (σ φ : Type) where
  | steady (shown : σ)
  | fading (source target : σ) (moment : φ) (step : Nat)

namespace Crossfade

variable {σ φ π : Type} (F : Crossfade σ φ π)

def after (source target : σ) (moment : φ) (step : Nat) : Display σ φ :=
  if step < F.length then .fading source target moment step else .steady target

/-- What a display may show next. A fade in flight does not look at what is wanted. -/
inductive Step : Display σ φ → Shot σ φ π → Display σ φ → Prop where
  | steady {shot : Shot σ φ π} (picture : shot.picture = F.image shot.wanted shot.moment) :
      Step (.steady shot.wanted) shot (.steady shot.wanted)
  | start {source : σ} {shot : Shot σ φ π} (other : shot.wanted ≠ source)
      (picture : shot.picture =
        F.blend (F.image source shot.moment) (F.image shot.wanted shot.moment) 0) :
      Step (.steady source) shot (F.after source shot.wanted shot.moment 1)
  | fade {source target : σ} {moment : φ} {step : Nat} {shot : Shot σ φ π}
      (picture : shot.picture =
        F.blend (F.image source moment) (F.image target moment) step) :
      Step (.fading source target moment step) shot (F.after source target moment (step + 1))

inductive Run : Display σ φ → List (Shot σ φ π) → Prop where
  | stop (display : Display σ φ) : Run display []
  | step {display display' : Display σ φ} {shot : Shot σ φ π} {shots : List (Shot σ φ π)}
      (first : F.Step display shot display') (rest : Run display' shots) :
      Run display (shot :: shots)

def Blends (source target : σ) (moment : φ) : Nat → List (Shot σ φ π) → Prop
  | _, [] => True
  | step, shot :: shots =>
    shot.picture = F.blend (F.image source moment) (F.image target moment) step ∧
      Blends source target moment (step + 1) shots

/-- What is seen from a steady source on. Only the end of the run may cut a fade short. -/
inductive Smooth : σ → List (Shot σ φ π) → Prop where
  | stop (source : σ) : Smooth source []
  | steady {shot : Shot σ φ π} {shots : List (Shot σ φ π)}
      (picture : shot.picture = F.image shot.wanted shot.moment)
      (rest : Smooth shot.wanted shots) : Smooth shot.wanted (shot :: shots)
  | fade {source : σ} {shot : Shot σ φ π} {fade shots : List (Shot σ φ π)}
      (other : shot.wanted ≠ source)
      (blends : F.Blends source shot.wanted shot.moment 0 (shot :: fade))
      (complete : (shot :: fade).length = F.length)
      (rest : Smooth shot.wanted shots) : Smooth source (shot :: fade ++ shots)
  | unfinished {source : σ} {shot : Shot σ φ π} {fade : List (Shot σ φ π)}
      (other : shot.wanted ≠ source)
      (blends : F.Blends source shot.wanted shot.moment 0 (shot :: fade))
      (short : (shot :: fade).length < F.length) : Smooth source (shot :: fade)

variable {F}

theorem Run.finish {source target : σ} {moment : φ} {shots : List (Shot σ φ π)} {step : Nat}
    (run : F.Run (F.after source target moment step) shots) (inside : step ≤ F.length) :
    ∃ fade rest, shots = fade ++ rest ∧ F.Blends source target moment step fade ∧
      (step + fade.length = F.length ∧ F.Run (.steady target) rest ∨
        step + fade.length < F.length ∧ rest = []) := by
  induction shots generalizing step with
  | nil =>
    by_cases more : step < F.length
    · exact ⟨[], [], rfl, trivial, .inr ⟨more, rfl⟩⟩
    · exact ⟨[], [], rfl, trivial, .inl ⟨Nat.le_antisymm inside (Nat.le_of_not_lt more), .stop _⟩⟩
  | cons shot shots ih =>
    by_cases more : step < F.length
    · rw [after, if_pos more] at run
      cases run with
      | step first rest =>
        cases first with
        | fade picture =>
          obtain ⟨fade, tail, rfl, blends, ends⟩ := ih rest more
          refine ⟨shot :: fade, tail, rfl, ⟨picture, blends⟩, ?_⟩
          rw [List.length_cons, Nat.add_comm fade.length 1, ← Nat.add_assoc]
          exact ends
    · rw [after, if_neg more] at run
      exact ⟨[], _, rfl, trivial, .inl ⟨Nat.le_antisymm inside (Nat.le_of_not_lt more), run⟩⟩

/-- **What a display shows is smooth.** -/
theorem Run.smooth (steps : 0 < F.length) {source : σ} {shots : List (Shot σ φ π)}
    (run : F.Run (.steady source) shots) : F.Smooth source shots := by
  -- a complete fade consumes many shots at once, so the induction is on their number
  induction hn : shots.length using Nat.strongRecOn generalizing source shots with
  | _ n ih =>
    cases run with
    | stop => exact .stop _
    | @step _ _ shot shots first rest =>
      cases first with
      | steady picture =>
        exact .steady picture (ih shots.length (by rw [← hn]; exact Nat.lt_succ_self _) rest rfl)
      | start other picture =>
        obtain ⟨fade, tail, rfl, blends, ends⟩ := rest.finish steps
        have begun : F.Blends source shot.wanted shot.moment 0 (shot :: fade) := ⟨picture, blends⟩
        cases ends with
        | inl complete =>
          have count : (shot :: fade).length = F.length := by
            rw [List.length_cons, Nat.add_comm]
            exact complete.1
          have fewer : tail.length < n := by
            rw [← hn, List.length_cons, List.length_append]
            omega
          exact .fade other begun count (ih tail.length fewer complete.2 rfl)
        | inr cut =>
          obtain ⟨short, rfl⟩ := cut
          rw [List.append_nil]
          refine .unfinished other begun ?_
          rw [List.length_cons, Nat.add_comm]
          exact short

end Crossfade

end VitaLinux.Base
