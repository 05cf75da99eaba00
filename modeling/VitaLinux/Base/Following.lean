import VitaLinux.Base.Lines

/-!
# Following a list that grows

A list that only grows is looked at from time to time, and each time what is new is gone
through, until something ends the loop. What comes out does not depend on when the looks are:
it is what one pass over the whole list gives.
-/

namespace VitaLinux.Base

variable {α σ τ ε δ : Type}

/-- One more look continues the pass where the last one stopped. -/
theorem foldlM_drop_grown {f : σ → α → Except ε σ} {s : σ} {n : Nat} {old new : List α}
    (grown : old <+: new) : (new.drop n).foldlM f s =
      (old.drop n).foldlM f s >>= (new.drop (max n old.length)).foldlM f := by
  obtain ⟨added, rfl⟩ := grown
  rw [List.drop_append, List.foldlM_append, List.drop_append]
  by_cases bound : n ≤ old.length
  · rw [Nat.max_eq_right bound, List.drop_length, Nat.sub_self, Nat.sub_eq_zero_of_le bound]
    rfl
  · rw [Nat.max_eq_left (by omega), List.drop_eq_nil_of_le (by omega)]
    rfl

/-- The result seen through a view of the state and of what ends the pass. -/
def through (view : σ → τ) (cause : ε → δ) : Except ε σ → Except δ τ
  | .ok s => .ok (view s)
  | .error e => .error (cause e)

/-- A view that each step respects is respected by a pass. -/
theorem through_foldlM {f : σ → α → Except ε σ} {g : τ → α → Except δ τ} {view : σ → τ}
    {cause : ε → δ} (step : ∀ s a, through view cause (f s a) = g (view s) a) (l : List α) (s : σ) :
    through view cause (l.foldlM f s) = l.foldlM g (view s) := by
  induction l generalizing s with
  | nil => rfl
  | cons a l ih =>
    rw [List.foldlM_cons, List.foldlM_cons, ← step s a]
    cases first : f s a with
    | ok t => exact ih t
    | error e => rfl

theorem foldlM_invariant {f : σ → α → Except ε σ} {P : σ → Prop} {l : List α} {s t : σ}
    (step : ∀ s' a t', a ∈ l → P s' → f s' a = .ok t' → P t') (start : P s)
    (passed : l.foldlM f s = .ok t) : P t := by
  induction l generalizing s with
  | nil => exact Except.ok.inj passed ▸ start
  | cons a l ih =>
    rw [List.foldlM_cons] at passed
    cases first : f s a with
    | error e =>
      rw [first] at passed
      cases passed
    | ok next =>
      rw [first] at passed
      exact ih (fun s' b t' mem => step s' b t' (List.mem_cons_of_mem a mem))
        (step s a next List.mem_cons_self start first) passed

theorem foldlM_error {f : σ → α → Except ε σ} {l : List α} {s : σ} {e : ε}
    (ended : l.foldlM f s = .error e) :
    ∃ front a rest t, l = front ++ a :: rest ∧ front.foldlM f s = .ok t ∧ f t a = .error e := by
  induction l generalizing s with
  | nil => cases ended
  | cons a l ih =>
    rw [List.foldlM_cons] at ended
    cases first : f s a with
    | error other =>
      rw [first] at ended
      cases ended
      exact ⟨[], a, l, s, rfl, rfl, first⟩
    | ok next =>
      rw [first] at ended
      obtain ⟨front, b, rest, t, rfl, passed, last⟩ := ih ended
      refine ⟨a :: front, b, rest, t, rfl, ?_, last⟩
      rw [List.foldlM_cons, first]
      exact passed

/-- What each of some steps adds to at least, and no other step lowers, is at least their
number after a pass that goes through. -/
theorem foldlM_countP {f : σ → α → Except ε σ} {p : α → Bool} {m : σ → Nat} {l : List α} {s t : σ}
    (lower : ∀ s' a t', f s' a = .ok t' → m s' ≤ m t')
    (adds : ∀ s' a t', p a = true → f s' a = .ok t' → m s' + 1 ≤ m t')
    (passed : l.foldlM f s = .ok t) : m s + l.countP p ≤ m t := by
  induction l generalizing s with
  | nil =>
    cases passed
    rfl
  | cons a l ih =>
    rw [List.foldlM_cons] at passed
    cases first : f s a with
    | error e =>
      rw [first] at passed
      cases passed
    | ok next =>
      rw [first] at passed
      have later := ih passed
      have kept := lower s a next first
      rw [List.countP_cons]
      split
      · rename_i counted
        have added := adds s a next counted first
        omega
      · omega

/-! ## Lines of a text that grows -/

theorem readLines_line {line : Text} (whole : '\n' ∉ line) (rest : Text) :
    readLines (line ++ '\n' :: rest) = line :: readLines rest := by
  rw [readLines, splitOn_line whole, List.dropLast_cons_of_ne_nil (List.splitOn_ne_nil _ _)]
  rfl

theorem readLines_whole {text : Text} (whole : '\n' ∉ text) : readLines text = [] := by
  rw [readLines, List.splitOn_eq_singleton whole]
  rfl

/-- The complete lines of a text are those of each longer one. -/
theorem readLines_grown {old new : Text} (grown : old <+: new) : readLines old <+: readLines new := by
  induction old using cut_induction '\n' generalizing new with
  | whole old whole =>
    rw [readLines_whole whole]
    exact List.nil_prefix
  | cut line rest whole ih =>
    obtain ⟨added, rfl⟩ := grown
    rw [List.append_assoc, List.cons_append, readLines_line whole, readLines_line whole]
    exact List.cons_prefix_cons.mpr ⟨rfl, ih (List.prefix_append rest added)⟩

end VitaLinux.Base
