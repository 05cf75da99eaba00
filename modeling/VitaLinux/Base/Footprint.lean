import Mathlib.Data.List.Basic

/-!
# What a program writes, and where

The state keeps a log of the cells written, beside the cells and a part that no step
changes. `Storage.Within region s s'` says that what led from `s` to `s'` wrote only cells of
the region. Steps, sequences and loops inside a region stay inside it.
-/

namespace VitaLinux.Base

variable {σ ι κ φ α : Type}

/-- The cells of a state, the cells written so far, and the part that stays. -/
structure Storage (σ ι κ φ : Type) where
  cell : σ → ι → κ
  log : σ → List ι
  fixed : σ → φ

namespace Storage

variable {m : Storage σ ι κ φ} {region region' : ι → Prop} {s s' s'' : σ}

structure Within (m : Storage σ ι κ φ) (region : ι → Prop) (s s' : σ) : Prop where
  fixed : m.fixed s' = m.fixed s
  written : ∃ cells, m.log s' = m.log s ++ cells ∧ ∀ i ∈ cells, region i
  kept : ∀ i, ¬region i → m.cell s' i = m.cell s i

theorem Within.refl (m : Storage σ ι κ φ) (region : ι → Prop) (s : σ) : m.Within region s s :=
  ⟨rfl, ⟨[], by simp⟩, fun _ _ => rfl⟩

theorem Within.mono (h : m.Within region s s') (larger : ∀ i, region i → region' i) :
    m.Within region' s s' := by
  obtain ⟨cells, log, inside⟩ := h.written
  exact ⟨h.fixed, ⟨cells, log, fun i mem => larger i (inside i mem)⟩,
    fun i out => h.kept i (mt (larger i) out)⟩

theorem Within.trans (first : m.Within region s s') (second : m.Within region s' s'') :
    m.Within region s s'' := by
  obtain ⟨cells, log, inside⟩ := first.written
  obtain ⟨cells', log', inside'⟩ := second.written
  refine ⟨second.fixed.trans first.fixed, ⟨cells ++ cells', ?_, ?_⟩, ?_⟩
  · rw [log', log, List.append_assoc]
  · intro i mem
    exact (List.mem_append.mp mem).elim (inside i) (inside' i)
  · intro i out
    exact (second.kept i out).trans (first.kept i out)

/-- A loop whose turns stay inside the region. -/
theorem Within.foldl {f : σ → α → σ} {l : List α}
    (turn : ∀ a ∈ l, ∀ s', m.fixed s' = m.fixed s → m.Within region s' (f s' a)) :
    m.Within region s (l.foldl f s) := by
  induction l generalizing s with
  | nil => exact .refl m region s
  | cons a l ih =>
    have head := turn a List.mem_cons_self s rfl
    refine head.trans (ih fun b mem s' same => ?_)
    exact turn b (List.mem_cons_of_mem a mem) s' (same.trans head.fixed)

/-- A program that ends, and stays inside the region. -/
def Ends (m : Storage σ ι κ φ) (region : ι → Prop) (s : σ) (result : Option σ) : Prop :=
  ∃ s', result = some s' ∧ m.Within region s s'

/-- A loop whose turns end and stay inside the region. -/
theorem Ends.foldlM {f : σ → α → Option σ} {l : List α}
    (turn : ∀ a ∈ l, ∀ s', m.fixed s' = m.fixed s → m.Ends region s' (f s' a)) :
    m.Ends region s (l.foldlM f s) := by
  induction l generalizing s with
  | nil => exact ⟨s, rfl, .refl m region s⟩
  | cons a l ih =>
    obtain ⟨s₁, step, head⟩ := turn a List.mem_cons_self s rfl
    obtain ⟨s₂, run, rest⟩ := ih (s := s₁) fun b mem s' same =>
      turn b (List.mem_cons_of_mem a mem) s' (same.trans head.fixed)
    refine ⟨s₂, ?_, head.trans rest⟩
    rw [List.foldlM_cons, step]
    exact run

theorem Ends.mono {result : Option σ} (h : m.Ends region s result)
    (larger : ∀ i, region i → region' i) : m.Ends region' s result := by
  obtain ⟨s', ends, within⟩ := h
  exact ⟨s', ends, within.mono larger⟩

end Storage

end VitaLinux.Base
