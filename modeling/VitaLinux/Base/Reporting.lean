import VitaLinux.Base.Lines

/-!
# Scripts that print and stop

A script prints lines as it goes, and stops at the first thing that is wrong. What it has
printed until then stays printed.
-/

namespace VitaLinux.Base

/-- The lines that were printed, and how the script went on or stopped. -/
structure Report (ε α : Type) where
  printed : List Text
  result : Except ε α

namespace Report

variable {ε α β : Type}

instance : Monad (Report ε) where
  pure value := ⟨[], .ok value⟩
  bind p f :=
    match p.result with
    | .error e => ⟨p.printed, .error e⟩
    | .ok value => ⟨p.printed ++ (f value).printed, (f value).result⟩

def say (line : Text) : Report ε Unit := ⟨[line], .ok ()⟩

def stop (e : ε) : Report ε α := ⟨[], .error e⟩

/-- Stops unless the condition holds. -/
def ensure (p : Prop) [Decidable p] (e : ε) : Report ε Unit := if p then pure () else stop e

/-- Stops unless there is a value. -/
def demand (found : Option α) (e : ε) : Report ε α :=
  match found with
  | none => stop e
  | some value => pure value

/-- The script goes on with this value. -/
def Returns (p : Report ε α) (value : α) : Prop := p.result = .ok value

/-- The script has printed the line. -/
def Prints (p : Report ε α) (line : Text) : Prop := line ∈ p.printed

/-! ## What returns -/

@[simp] theorem returns_pure {value other : α} :
    (pure value : Report ε α).Returns other ↔ value = other := by
  change (Except.ok value : Except ε α) = .ok other ↔ _
  simp

@[simp] theorem returns_say {line : Text} {value : Unit} : (say line : Report ε Unit).Returns value :=
  rfl

@[simp] theorem returns_stop {e : ε} {value : α} : ¬(stop e : Report ε α).Returns value :=
  nofun

@[simp] theorem returns_ensure {p : Prop} [Decidable p] {e : ε} {value : Unit} :
    (ensure p e).Returns value ↔ p := by
  by_cases holds : p <;> simp [ensure, holds]

@[simp] theorem returns_demand {found : Option α} {e : ε} {value : α} :
    (demand found e).Returns value ↔ found = some value := by
  cases found <;> simp [demand]

@[simp] theorem returns_bind {p : Report ε α} {f : α → Report ε β} {value : β} :
    (p >>= f).Returns value ↔ ∃ a, p.Returns a ∧ (f a).Returns value := by
  obtain ⟨printed, result⟩ := p
  cases result with
  | error e => exact ⟨nofun, fun ⟨_, returned, _⟩ => nomatch returned⟩
  | ok a =>
    constructor
    · exact fun returned => ⟨a, rfl, returned⟩
    · rintro ⟨_, ⟨⟩, returned⟩
      exact returned

/-- A list of checks is passed where every one of them is. -/
@[simp] theorem returns_forM {f : α → Report ε Unit} {l : List α} {value : Unit} :
    (forM l f : Report ε Unit).Returns value ↔ ∀ a ∈ l, (f a).Returns () := by
  induction l with
  | nil => exact ⟨fun _ _ mem => absurd mem List.not_mem_nil, fun _ => rfl⟩
  | cons a l ih =>
    rw [List.forM_cons, returns_bind, List.forall_mem_cons, ← ih]
    exact ⟨fun ⟨_, first, others⟩ => ⟨first, others⟩, fun ⟨first, others⟩ => ⟨(), first, others⟩⟩

/-- What comes after a script matters only where the script returns. -/
theorem bind_congr {p : Report ε α} {f g : α → Report ε β}
    (same : ∀ value, p.Returns value → f value = g value) : p >>= f = p >>= g := by
  obtain ⟨printed, result⟩ := p
  cases result with
  | error e => rfl
  | ok value =>
    change Report.mk _ _ = Report.mk _ _
    rw [same value rfl]

theorem ensure_congr {p q : Prop} [Decidable p] [Decidable q] (same : p ↔ q) (e : ε) :
    ensure p e = ensure q e := by
  by_cases holds : p
  · rw [ensure, ensure, if_pos holds, if_pos (same.mp holds)]
  · rw [ensure, ensure, if_neg holds, if_neg (mt same.mpr holds)]

theorem forM_congr {f g : α → Report ε Unit} {l : List α} (same : ∀ a ∈ l, f a = g a) :
    (forM l f : Report ε Unit) = forM l g := by
  induction l with
  | nil => rfl
  | cons a l ih =>
    obtain ⟨first, others⟩ := List.forall_mem_cons.mp same
    rw [List.forM_cons, List.forM_cons, first, ih others]

/-! ## What is printed -/

variable {line : Text}

@[simp] theorem prints_pure {value : α} : ¬(pure value : Report ε α).Prints line :=
  List.not_mem_nil

@[simp] theorem prints_say {other : Text} :
    (say other : Report ε Unit).Prints line ↔ line = other :=
  List.mem_singleton

@[simp] theorem prints_stop {e : ε} : ¬(stop e : Report ε α).Prints line := List.not_mem_nil

@[simp] theorem prints_ensure {p : Prop} [Decidable p] {e : ε} : ¬(ensure p e).Prints line := by
  by_cases holds : p <;> simp [ensure, holds]

@[simp] theorem prints_demand {found : Option α} {e : ε} : ¬(demand found e).Prints line := by
  cases found <;> simp [demand]

@[simp] theorem prints_bind {p : Report ε α} {f : α → Report ε β} :
    (p >>= f).Prints line ↔ p.Prints line ∨ ∃ a, p.Returns a ∧ (f a).Prints line := by
  obtain ⟨printed, result⟩ := p
  cases result with
  | error e =>
    constructor
    · exact .inl
    · rintro (before | ⟨_, ⟨⟩, _⟩)
      exact before
  | ok a =>
    refine List.mem_append.trans (or_congr_right ?_)
    constructor
    · exact fun after => ⟨a, rfl, after⟩
    · rintro ⟨_, ⟨⟩, after⟩
      exact after

/-- A list of checks prints nothing that none of them prints. -/
theorem not_prints_forM {f : α → Report ε Unit} {l : List α}
    (quiet : ∀ a ∈ l, ¬(f a).Prints line) : ¬(forM l f : Report ε Unit).Prints line := by
  induction l with
  | nil => exact List.not_mem_nil
  | cons a l ih =>
    obtain ⟨first, others⟩ := List.forall_mem_cons.mp quiet
    rw [List.forM_cons, prints_bind, not_or]
    exact ⟨first, fun ⟨_, _, later⟩ => ih others later⟩

end Report

end VitaLinux.Base
