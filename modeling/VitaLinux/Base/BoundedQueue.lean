import Mathlib.Data.List.Basic

/-!
# A queue that drops what does not fit

Items are offered to the queue and taken from it. An offer finds room or is lost. The
queue remembers what it admitted and what it returned: items are returned in the order of
their admission, each once, and an offer is returned exactly when it found room and
enough is taken afterwards (`returned_iff`).
-/

namespace VitaLinux.Base

variable {α β : Type}

inductive QueueOp (α : Type) where
  | offer (item : α)
  | take
  deriving DecidableEq

def QueueOp.map (f : α → β) : QueueOp α → QueueOp β
  | .offer item => .offer (f item)
  | .take => .take

def QueueOp.isTake : QueueOp α → Bool
  | .offer _ => false
  | .take => true

structure BoundedQueue (α : Type) where
  pending : List α
  /-- the offers that found room -/
  admitted : List α
  returned : List α

namespace BoundedQueue

def empty : BoundedQueue α := { pending := [], admitted := [], returned := [] }

def step (cap : Nat) (q : BoundedQueue α) : QueueOp α → BoundedQueue α
  | .offer item =>
    if q.pending.length < cap then
      { q with pending := q.pending ++ [item], admitted := q.admitted ++ [item] }
    else q
  | .take =>
    match q.pending with
    | [] => q
    | item :: rest => { q with pending := rest, returned := q.returned ++ [item] }

def replay (cap : Nat) (q : BoundedQueue α) (ops : List (QueueOp α)) : BoundedQueue α :=
  ops.foldl (step cap) q

section Replay

variable (cap : Nat) (q : BoundedQueue α) (op : QueueOp α) (ops later : List (QueueOp α))

@[simp] theorem replay_nil : q.replay cap [] = q := rfl

@[simp] theorem replay_cons : q.replay cap (op :: ops) = (q.step cap op).replay cap ops := rfl

theorem replay_append : q.replay cap (ops ++ later) = (q.replay cap ops).replay cap later :=
  List.foldl_append

end Replay

/-- What was admitted was returned, up to what is pending; and the queue keeps its bound. -/
structure Orderly (cap : Nat) (q : BoundedQueue α) : Prop where
  order : q.returned ++ q.pending = q.admitted
  bounded : q.pending.length ≤ cap

theorem empty_orderly (cap : Nat) : Orderly cap (empty : BoundedQueue α) :=
  ⟨rfl, Nat.zero_le cap⟩

theorem Orderly.step {cap : Nat} {q : BoundedQueue α} (h : Orderly cap q) (op : QueueOp α) :
    Orderly cap (q.step cap op) := by
  have bounded := h.bounded
  cases op with
  | offer item =>
    simp only [BoundedQueue.step]
    split
    · next room =>
      refine ⟨?_, ?_⟩
      · rw [← List.append_assoc, h.order]
      · rw [List.length_append, List.length_singleton]
        omega
    · exact h
  | take =>
    simp only [BoundedQueue.step]
    split
    · exact h
    · next item rest same =>
      rw [same, List.length_cons] at bounded
      refine ⟨?_, Nat.le_of_succ_le bounded⟩
      rw [← h.order, same, List.append_assoc, List.singleton_append]

theorem Orderly.replay {cap : Nat} {q : BoundedQueue α} (h : Orderly cap q)
    (ops : List (QueueOp α)) : Orderly cap (q.replay cap ops) := by
  induction ops generalizing q with
  | nil => exact h
  | cons op ops ih => exact ih (h.step op)

/-- What is admitted was admitted before or is offered. -/
theorem mem_replay_admitted {cap : Nat} {q : BoundedQueue α} {ops : List (QueueOp α)} {item : α}
    (h : item ∈ (q.replay cap ops).admitted) : item ∈ q.admitted ∨ .offer item ∈ ops := by
  induction ops generalizing q with
  | nil => exact Or.inl h
  | cons op ops ih =>
    obtain before | later := ih h
    · cases op with
      | offer other =>
        simp only [step] at before
        split at before
        · obtain old | new := List.mem_append.mp before
          · exact Or.inl old
          · rw [List.mem_singleton.mp new]
            exact Or.inr List.mem_cons_self
        · exact Or.inl before
      | take =>
        simp only [step] at before
        split at before
        · exact Or.inl before
        · exact Or.inl before
    · exact Or.inr (List.mem_cons_of_mem _ later)

theorem mem_replay_returned {cap : Nat} {q : BoundedQueue α} {item : α} (ops : List (QueueOp α))
    (h : item ∈ q.returned) : item ∈ (q.replay cap ops).returned := by
  induction ops generalizing q with
  | nil => exact h
  | cons op ops ih =>
    apply ih
    cases op with
    | offer other =>
      simp only [step]
      split
      · exact h
      · exact h
    | take =>
      simp only [step]
      split
      · exact h
      · exact List.mem_append_left _ h

/-- A pending item is returned once the items before it and itself are taken. -/
theorem pending_returned {cap : Nat} {q : BoundedQueue α} {before after : List α} {item : α}
    {ops : List (QueueOp α)} (waits : q.pending = before ++ item :: after)
    (enough : before.length < ops.countP QueueOp.isTake) :
    item ∈ (q.replay cap ops).returned := by
  induction ops generalizing q before after with
  | nil => exact absurd enough (Nat.not_lt_zero _)
  | cons op ops ih =>
    cases op with
    | offer other =>
      have rest : before.length < ops.countP QueueOp.isTake := by
        simpa [QueueOp.isTake] using enough
      simp only [replay_cons, step]
      split
      · have still : q.pending ++ [other] = before ++ item :: (after ++ [other]) := by
          rw [waits, List.append_assoc, List.cons_append]
        exact ih still rest
      · exact ih waits rest
    | take =>
      simp only [replay_cons, step, waits]
      cases before with
      | nil =>
        apply mem_replay_returned
        exact List.mem_append_right _ List.mem_cons_self
      | cons first before =>
        rw [List.countP_cons_of_pos rfl, List.length_cons] at enough
        exact ih rfl (Nat.lt_of_succ_lt_succ enough)

/-! ## Items by their place -/

def map (f : α → β) (q : BoundedQueue α) : BoundedQueue β :=
  { pending := q.pending.map f, admitted := q.admitted.map f, returned := q.returned.map f }

theorem step_map (cap : Nat) (f : α → β) (q : BoundedQueue α) (op : QueueOp α) :
    (q.map f).step cap (op.map f) = (q.step cap op).map f := by
  cases op with
  | offer item =>
    simp only [QueueOp.map, step, map, List.length_map]
    split
    · simp
    · rfl
  | take =>
    simp only [QueueOp.map, step, map]
    cases taken : q.pending with
    | nil => simp [taken]
    | cons item rest => simp

/-- The queue does not look at its items. -/
theorem replay_map (cap : Nat) (f : α → β) (q : BoundedQueue α) (ops : List (QueueOp α)) :
    (q.map f).replay cap (ops.map (QueueOp.map f)) = (q.replay cap ops).map f := by
  induction ops generalizing q with
  | nil => rfl
  | cons op ops ih => rw [List.map_cons, replay_cons, step_map, ih, replay_cons]

end BoundedQueue

/-- The operations with every item marked with its place. -/
def numbered (start : Nat) : List (QueueOp α) → List (QueueOp (Nat × α))
  | [] => []
  | op :: ops => op.map (Prod.mk start) :: numbered (start + 1) ops

theorem numbered_append (start : Nat) (ops later : List (QueueOp α)) :
    numbered start (ops ++ later) = numbered start ops ++ numbered (start + ops.length) later := by
  induction ops generalizing start with
  | nil => rfl
  | cons op ops ih =>
    have next : start + 1 + ops.length = start + (ops.length + 1) := by
      omega
    rw [List.cons_append, numbered, ih, numbered, List.length_cons, next, List.cons_append]

theorem numbered_snd (start : Nat) (ops : List (QueueOp α)) :
    (numbered start ops).map (QueueOp.map Prod.snd) = ops := by
  induction ops generalizing start with
  | nil => rfl
  | cons op ops ih =>
    rw [numbered, List.map_cons, ih]
    cases op <;> rfl

theorem numbered_isTake (start : Nat) (ops : List (QueueOp α)) :
    (numbered start ops).countP QueueOp.isTake = ops.countP QueueOp.isTake := by
  induction ops generalizing start with
  | nil => rfl
  | cons op ops ih =>
    rw [numbered, List.countP_cons, List.countP_cons, ih]
    cases op <;> rfl

theorem mem_numbered {start : Nat} {ops : List (QueueOp α)} {k : Nat} {item : α}
    (h : .offer (k, item) ∈ numbered start ops) : start ≤ k ∧ k < start + ops.length := by
  induction ops generalizing start with
  | nil => cases h
  | cons op ops ih =>
    rw [numbered] at h
    obtain first | rest := List.mem_cons.mp h
    · cases op with
      | offer other =>
        obtain ⟨rfl, -⟩ := Prod.mk.inj (QueueOp.offer.inj first)
        exact ⟨Nat.le_refl _, by simp⟩
      | take => cases first
    · have bounds := ih rest
      rw [List.length_cons]
      omega

/-- An offer is returned exactly when it finds room, if enough is taken afterwards. -/
theorem returned_iff {cap : Nat} {before after : List (QueueOp α)} {item : α}
    (enough : cap ≤ after.countP QueueOp.isTake) :
    (before.length, item) ∈
        (BoundedQueue.empty.replay cap (numbered 0 (before ++ .offer item :: after))).returned ↔
      (BoundedQueue.empty.replay cap before).pending.length < cap := by
  have found := BoundedQueue.replay_map cap Prod.snd BoundedQueue.empty (numbered 0 before)
  rw [numbered_snd] at found
  have size : (BoundedQueue.empty.replay cap (numbered 0 before)).pending.length =
      (BoundedQueue.empty.replay cap before).pending.length := by
    have same := congrArg (fun q => q.pending.length) found
    simpa [BoundedQueue.map, BoundedQueue.empty] using same.symm
  have tail : numbered 0 (before ++ .offer item :: after) = numbered 0 before ++
      .offer (before.length, item) :: numbered (before.length + 1) after := by
    rw [numbered_append, Nat.zero_add]
    rfl
  rw [tail, BoundedQueue.replay_append, BoundedQueue.replay_cons, ← size]
  have orderly := (BoundedQueue.empty_orderly cap).replay (numbered 0 before)
  have unseen : (before.length, item) ∉
      (BoundedQueue.empty.replay cap (numbered 0 before)).admitted := by
    intro member
    obtain none | offered := BoundedQueue.mem_replay_admitted member
    · cases none
    · have bounds := mem_numbered offered
      omega
  generalize BoundedQueue.empty.replay cap (numbered 0 before) = q at orderly unseen
  constructor
  · intro returned
    by_contra full
    simp only [BoundedQueue.step, if_neg full] at returned
    have admitted : (before.length, item) ∈
        (q.replay cap (numbered (before.length + 1) after)).admitted := by
      rw [← (orderly.replay _).order]
      exact List.mem_append_left _ returned
    obtain old | offered := BoundedQueue.mem_replay_admitted admitted
    · exact unseen old
    · have bounds := mem_numbered offered
      omega
  · intro room
    simp only [BoundedQueue.step, if_pos room]
    have waits : q.pending ++ [(before.length, item)] = q.pending ++ (before.length, item) :: [] :=
      rfl
    apply BoundedQueue.pending_returned waits
    rw [numbered_isTake]
    omega

end VitaLinux.Base
