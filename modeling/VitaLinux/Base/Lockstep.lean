import VitaLinux.Base.Footprint

/-!
# One program from two states

A program that reads only the part of the state that stays writes the same cells, with the
same contents, wherever it starts. `Storage.Together` says so of two runs side by side: after
them the states agree on what the program wrote, and elsewhere where they agreed before.
-/

namespace VitaLinux.Base.Storage

variable {σ ι κ φ α : Type} {m : Storage σ ι κ φ} {region : ι → Prop} {s t s' t' s'' t'' : σ}

/-- What led from `s` to `s'` and from `t` to `t'` wrote these cells, the same contents into
both, and no others. -/
structure Wrote (m : Storage σ ι κ φ) (cells : List ι) (s t s' t' : σ) : Prop where
  fixed : m.fixed s' = m.fixed s
  fixed' : m.fixed t' = m.fixed t
  same : ∀ i ∈ cells, m.cell s' i = m.cell t' i
  kept : ∀ i, i ∉ cells → m.cell s' i = m.cell s i
  kept' : ∀ i, i ∉ cells → m.cell t' i = m.cell t i

theorem Wrote.refl (m : Storage σ ι κ φ) (s t : σ) : m.Wrote [] s t s t where
  fixed := rfl
  fixed' := rfl
  same := by simp
  kept _ _ := rfl
  kept' _ _ := rfl

theorem Wrote.trans {cells cells' : List ι} (first : m.Wrote cells s t s' t')
    (second : m.Wrote cells' s' t' s'' t'') : m.Wrote (cells ++ cells') s t s'' t'' where
  fixed := second.fixed.trans first.fixed
  fixed' := second.fixed'.trans first.fixed'
  same i mem := by
    by_cases later : i ∈ cells'
    · exact second.same i later
    · have earlier : i ∈ cells := (List.mem_append.mp mem).resolve_right later
      rw [second.kept i later, second.kept' i later]
      exact first.same i earlier
  kept i out := by
    obtain ⟨before, after⟩ := not_or.mp (mt List.mem_append.mpr out)
    exact (second.kept i after).trans (first.kept i before)
  kept' i out := by
    obtain ⟨before, after⟩ := not_or.mp (mt List.mem_append.mpr out)
    exact (second.kept' i after).trans (first.kept' i before)

/-- Where the states agreed, they agree still. -/
theorem Wrote.agree {cells : List ι} (h : m.Wrote cells s t s' t') {i : ι}
    (agreed : i ∈ cells ∨ m.cell s i = m.cell t i) : m.cell s' i = m.cell t' i := by
  by_cases mem : i ∈ cells
  · exact h.same i mem
  · rw [h.kept i mem, h.kept' i mem]
    exact agreed.resolve_left mem

/-- Two runs of a program: both end, and they wrote the same cells of the region, or neither
ends. -/
def Together (m : Storage σ ι κ φ) (region : ι → Prop) (s t : σ) (x y : Option σ) : Prop :=
  (x = none ∧ y = none) ∨
    ∃ s' t' cells, x = some s' ∧ y = some t' ∧ m.Wrote cells s t s' t' ∧ ∀ i ∈ cells, region i

theorem Together.refl (m : Storage σ ι κ φ) (region : ι → Prop) (s t : σ) :
    m.Together region s t (some s) (some t) :=
  .inr ⟨s, t, [], rfl, rfl, .refl m s t, by simp⟩

theorem Together.after {cells : List ι} {x y : Option σ} (wrote : m.Wrote cells s t s' t')
    (inside : ∀ i ∈ cells, region i) (later : m.Together region s' t' x y) :
    m.Together region s t x y := by
  obtain ⟨ends, ends'⟩ | ⟨s'', t'', cells', ends, ends', wrote', inside'⟩ := later
  · exact .inl ⟨ends, ends'⟩
  · refine .inr ⟨s'', t'', cells ++ cells', ends, ends', wrote.trans wrote', fun i mem => ?_⟩
    exact (List.mem_append.mp mem).elim (inside i) (inside' i)

theorem Together.bind {f g : σ → Option σ} {x y : Option σ} (first : m.Together region s t x y)
    (second : ∀ s' t', m.fixed s' = m.fixed s → m.fixed t' = m.fixed t →
      m.Together region s' t' (f s') (g t')) :
    m.Together region s t (x.bind f) (y.bind g) := by
  obtain ⟨rfl, rfl⟩ | ⟨s', t', cells, rfl, rfl, wrote, inside⟩ := first
  · exact .inl ⟨rfl, rfl⟩
  · exact .after wrote inside (second s' t' wrote.fixed wrote.fixed')

/-- A loop, by induction on what is left to go through. -/
theorem Together.foldlM {f : σ → α → Option σ} {l : List α}
    (turn : ∀ a ∈ l, ∀ s' t', m.fixed s' = m.fixed s → m.fixed t' = m.fixed t →
      m.Together region s' t' (f s' a) (f t' a)) :
    m.Together region s t (l.foldlM f s) (l.foldlM f t) := by
  induction l generalizing s t with
  | nil => exact .refl m region s t
  | cons a l ih =>
    rw [List.foldlM_cons, List.foldlM_cons]
    refine (turn a List.mem_cons_self s t rfl rfl).bind fun s' t' same same' => ?_
    refine ih fun b mem s'' t'' next next' => ?_
    exact turn b (List.mem_cons_of_mem a mem) s'' t'' (next.trans same) (next'.trans same')

theorem Together.foldl {f : σ → α → σ} {l : List α}
    (turn : ∀ a ∈ l, ∀ s' t', m.fixed s' = m.fixed s → m.fixed t' = m.fixed t →
      m.Together region s' t' (some (f s' a)) (some (f t' a))) :
    m.Together region s t (some (l.foldl f s)) (some (l.foldl f t)) := by
  induction l generalizing s t with
  | nil => exact .refl m region s t
  | cons a l ih =>
    refine (turn a List.mem_cons_self s t rfl rfl).bind
      (f := fun s' => some (l.foldl f s')) (g := fun t' => some (l.foldl f t'))
      fun s' t' same same' => ih fun b mem s'' t'' next next' => ?_
    exact turn b (List.mem_cons_of_mem a mem) s'' t'' (next.trans same) (next'.trans same')

/-- What one turn of a loop writes, the loop has written. -/
theorem Together.writes {f : σ → α → σ} {l : List α} {a : α} (mem : a ∈ l) {i : ι}
    (turn : ∀ b ∈ l, ∀ s' t', m.fixed s' = m.fixed s → m.fixed t' = m.fixed t →
      m.Together region s' t' (some (f s' b)) (some (f t' b)))
    (hits : ∀ s' t', m.fixed s' = m.fixed s → m.fixed t' = m.fixed t →
      ∃ cells, m.Wrote cells s' t' (f s' a) (f t' a) ∧ i ∈ cells) :
    ∃ cells, m.Wrote cells s t (l.foldl f s) (l.foldl f t) ∧ i ∈ cells := by
  obtain ⟨front, back, rfl⟩ := List.append_of_mem mem
  have earlier := Together.foldl (l := front) fun b inside =>
    turn b (List.mem_append_left _ inside)
  obtain ⟨none, -⟩ | ⟨s₁, t₁, cells₁, e, e', wrote₁, -⟩ := earlier
  · cases none
  obtain rfl := Option.some.inj e
  obtain rfl := Option.some.inj e'
  obtain ⟨cells, wrote, hit⟩ := hits _ _ wrote₁.fixed wrote₁.fixed'
  have later := Together.foldl (l := back) fun b inside s'' t'' same same' =>
    turn b (List.mem_append_right _ (List.mem_cons_of_mem a inside)) s'' t''
      (same.trans (wrote.fixed.trans wrote₁.fixed))
      (same'.trans (wrote.fixed'.trans wrote₁.fixed'))
  obtain ⟨none, -⟩ | ⟨s₂, t₂, cells₂, e, e', wrote₂, -⟩ := later
  · cases none
  obtain rfl := Option.some.inj e
  obtain rfl := Option.some.inj e'
  refine ⟨cells₁ ++ (cells ++ cells₂), ?_, by simp [hit]⟩
  rw [List.foldl_append, List.foldl_append, List.foldl_cons, List.foldl_cons]
  exact wrote₁.trans (wrote.trans wrote₂)

end VitaLinux.Base.Storage
