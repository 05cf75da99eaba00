import Mathlib.Logic.Function.Basic

/-!
# Writing to a store, cell by cell

A drawing loop writes cells of a store and never reads it. `Fills f region k`
says everything about such a program: the cells of `region` end with the colour
`k` gives them, all others are untouched. Programs that fill the same region
with the same colours are equal (`Fills.unique`), whatever order they write in.
-/

namespace VitaLinux.Base

/-- `for (v = lo; v < hi; v++)` -/
def intRange (lo hi : Int) : List Int :=
  (List.range (hi - lo).toNat).map fun (n : Nat) => lo + n

@[simp] theorem mem_intRange {lo hi v : Int} : v ∈ intRange lo hi ↔ lo ≤ v ∧ v < hi := by
  simp only [intRange, List.mem_map, List.mem_range]
  constructor
  · rintro ⟨n, hn, rfl⟩
    omega
  · intro h
    exact ⟨(v - lo).toNat, by omega, by omega⟩

section

variable {ι κ α : Type}

/-- The program ends with colour `k i` in every cell `i` of the region, and
leaves the other cells as they were. -/
def Fills (f : (ι → κ) → ι → κ) (region : ι → Prop) (k : ι → κ) : Prop :=
  ∀ b i, (region i → f b i = k i) ∧ (¬ region i → f b i = b i)

theorem Fills.skip (k : ι → κ) : Fills (fun b => b) (fun _ => False) k :=
  fun _ _ => ⟨fun h => h.elim, fun _ => rfl⟩

theorem Fills.update [DecidableEq ι] (i : ι) (k : ι → κ) :
    Fills (fun b => Function.update b i (k i)) (fun j => i = j) k := by
  intro b j
  constructor
  · rintro rfl
    exact Function.update_self ..
  · intro h
    exact Function.update_of_ne (Ne.symm h) ..

theorem Fills.congr {f : (ι → κ) → ι → κ} {region region' : ι → Prop} {k : ι → κ}
    (h : Fills f region k) (same : ∀ i, region' i ↔ region i) : Fills f region' k :=
  fun b i => ⟨fun hi => (h b i).1 ((same i).mp hi), fun hi => (h b i).2 (mt (same i).mpr hi)⟩

theorem Fills.ite {f : (ι → κ) → ι → κ} {region : ι → Prop} {k : ι → κ} (c : Prop) [Decidable c]
    (h : Fills f region k) :
    Fills (fun b => if c then f b else b) (fun i => c ∧ region i) k := by
  intro b i
  by_cases hc : c
  · simpa [hc] using h b i
  · simp [hc]

theorem Fills.comp {f g : (ι → κ) → ι → κ} {p q : ι → Prop} {k : ι → κ}
    (hf : Fills f p k) (hg : Fills g q k) : Fills (fun b => g (f b)) (fun i => p i ∨ q i) k := by
  intro b i
  obtain ⟨inner, outer⟩ := hf b i
  obtain ⟨painted, kept⟩ := hg (f b) i
  by_cases hq : q i
  · exact ⟨fun _ => painted hq, fun h => absurd (.inr hq) h⟩
  · constructor
    · rintro (hp | hq')
      · exact (kept hq).trans (inner hp)
      · exact absurd hq' hq
    · intro h
      exact (kept hq).trans (outer fun hp => h (.inl hp))

/-- A loop fills what its turns fill. -/
theorem Fills.loop {f : α → (ι → κ) → ι → κ} {region : α → ι → Prop} {k : ι → κ} (l : List α)
    (turn : ∀ a ∈ l, Fills (f a) (region a) k) :
    Fills (fun b => l.foldl (fun b a => f a b) b) (fun i => ∃ a ∈ l, region a i) k := by
  induction l with
  | nil => exact (Fills.skip k).congr (by simp)
  | cons a l ih =>
    have rest := ih fun a' ha' => turn a' (List.mem_cons_of_mem _ ha')
    exact ((turn a (by simp)).comp rest).congr (by simp)

theorem Fills.unique {f g : (ι → κ) → ι → κ} {p q : ι → Prop} {k : ι → κ}
    (hf : Fills f p k) (hg : Fills g q k) (same : ∀ i, p i ↔ q i) (b : ι → κ) : f b = g b := by
  funext i
  by_cases hp : p i
  · rw [(hf b i).1 hp, (hg b i).1 ((same i).mp hp)]
  · rw [(hf b i).2 hp, (hg b i).2 (mt (same i).mpr hp)]

/-- What a fill leaves in a cell depends on the old content of that cell only. -/
theorem Fills.agree {f : (ι → κ) → ι → κ} {region : ι → Prop} {k : ι → κ} (h : Fills f region k)
    {b b' : ι → κ} {i : ι} (same : b i = b' i) : f b i = f b' i := by
  by_cases hi : region i
  · rw [(h b i).1 hi, (h b' i).1 hi]
  · rw [(h b i).2 hi, (h b' i).2 hi, same]

/-- A loop that moves a cursor by `k` at every turn, with the cursor worked out. -/
theorem foldl_cursor {σ : Type} (turn : σ → Nat → Nat → σ) (k start count : Nat) (s : σ) :
    (List.range count).foldl (fun (c : σ × Nat) x => (turn c.1 c.2 x, c.2 + k)) (s, start) =
      ((List.range count).foldl (fun s x => turn s (start + k * x) x) s, start + k * count) := by
  induction count with
  | zero => rfl
  | succ count ih =>
    rw [List.range_succ, List.foldl_append, List.foldl_append, ih]
    simp only [List.foldl_cons, List.foldl_nil, Nat.mul_succ, Nat.add_assoc]

/-- A property of colours that the fill's own colours have survives it. -/
theorem Fills.preserves {f : (ι → κ) → ι → κ} {region : ι → Prop} {k : ι → κ}
    (h : Fills f region k) {good : κ → Prop} (colours : ∀ i, region i → good (k i)) {b : ι → κ}
    {i : ι} (old : good (b i)) : good (f b i) := by
  by_cases hi : region i
  · rw [(h b i).1 hi]
    exact colours i hi
  · rw [(h b i).2 hi]
    exact old

end

/-- A loop whose turns are all defined. -/
theorem foldlM_some {σ α : Type} {f : σ → α → Option σ} {g : σ → α → σ} {l : List α}
    (turn : ∀ a ∈ l, ∀ s, f s a = some (g s a)) (s : σ) :
    l.foldlM f s = some (l.foldl g s) := by
  induction l generalizing s with
  | nil => rfl
  | cons a l ih =>
    rw [List.foldlM_cons, turn a List.mem_cons_self]
    exact ih (fun b mem => turn b (List.mem_cons_of_mem a mem)) (g s a)

theorem mapM_some {α β : Type} {f : α → Option β} {g : α → β} {l : List α}
    (turn : ∀ a ∈ l, f a = some (g a)) : l.mapM f = some (l.map g) := by
  induction l with
  | nil => rfl
  | cons a l ih =>
    rw [List.mapM_cons, turn a List.mem_cons_self,
      ih fun b mem => turn b (List.mem_cons_of_mem a mem)]
    rfl

end VitaLinux.Base
