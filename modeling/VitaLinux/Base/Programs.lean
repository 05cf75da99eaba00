import Mathlib.Data.List.Basic

/-!
# Programs that call into an environment

A program makes calls, goes on with their replies, and returns or raises. The
environment is a relation: it says which replies a call can get in a state, and
which states it can leave. `Meets` gives the weakest preconditions of a program
against such an environment, together with a guarantee for every single call;
`Exec` is the (complete or cut) executions that these are about.
-/

namespace VitaLinux.Base

/-- A program with calls in `Call`, which raises an `ε` or returns an `α`. -/
inductive Prog (Call : Type) (Reply : Call → Type) (ε α : Type) : Type where
  | done (value : α)
  | raise (error : ε)
  | ask (call : Call) (next : Reply call → Prog Call Reply ε α)

/-- `Env before call reply after`: the call can be answered so, with this effect. -/
abbrev Environment (S Call : Type) (Reply : Call → Type) : Type :=
  S → (call : Call) → Reply call → S → Prop

/-- One call of an execution. -/
structure Event (S Call : Type) (Reply : Call → Type) where
  before : S
  call : Call
  reply : Reply call
  after : S

/-- A call without what is remembered besides the state. -/
def Event.view {S Call D : Type} {Reply : Call → Type} (e : Event (S × D) Call Reply) :
    Event S Call Reply :=
  ⟨e.before.1, e.call, e.reply, e.after.1⟩

namespace Prog

variable {S Call : Type} {Reply : Call → Type} {ε α β γ : Type}

protected def bind (f : α → Prog Call Reply ε β) : Prog Call Reply ε α → Prog Call Reply ε β
  | .done value => f value
  | .raise error => .raise error
  | .ask call next => .ask call fun reply => (next reply).bind f

/-- The program with a handler for what it raises. -/
protected def handle (h : ε → Prog Call Reply ε α) : Prog Call Reply ε α → Prog Call Reply ε α
  | .done value => .done value
  | .raise error => h error
  | .ask call next => .ask call fun reply => (next reply).handle h

instance : Monad (Prog Call Reply ε) where
  pure := .done
  bind p f := p.bind f

instance : MonadExcept ε (Prog Call Reply ε) where
  throw := .raise
  tryCatch p h := p.handle h

/-- A single call. -/
def call (c : Call) : Prog Call Reply ε (Reply c) := .ask c .done

theorem bind_done (p : Prog Call Reply ε α) : p.bind .done = p := by
  induction p with
  | done value => rfl
  | raise error => rfl
  | ask call next ih =>
    unfold Prog.bind
    congr 1
    funext reply
    exact ih reply

theorem bind_assoc (p : Prog Call Reply ε α) (f : α → Prog Call Reply ε β)
    (g : β → Prog Call Reply ε γ) : (p.bind f).bind g = p.bind fun a => (f a).bind g := by
  induction p with
  | done value => rfl
  | raise error => rfl
  | ask call next ih =>
    simp only [Prog.bind]
    congr 1
    funext reply
    exact ih reply

instance : LawfulMonad (Prog Call Reply ε) :=
  LawfulMonad.mk' _ bind_done (fun _ _ => rfl) bind_assoc

variable {env : Environment S Call Reply} {E F : Event S Call Reply → Prop}
  {Q R : α → S → Prop} {X Y : ε → S → Prop}

/-- Every execution from a state makes only calls with `E`, returns only with `Q` and raises
only with `X`. -/
def Meets (env : Environment S Call Reply) (E : Event S Call Reply → Prop) (Q : α → S → Prop)
    (X : ε → S → Prop) : Prog Call Reply ε α → S → Prop
  | .done value, s => Q value s
  | .raise error, s => X error s
  | .ask call next, s => ∀ reply t, env s call reply t →
      E ⟨s, call, reply, t⟩ ∧ (next reply).Meets env E Q X t

@[simp] theorem meets_done (value : α) (s : S) :
    (done value : Prog Call Reply ε α).Meets env E Q X s ↔ Q value s := Iff.rfl

@[simp] theorem meets_pure (value : α) (s : S) :
    (pure value : Prog Call Reply ε α).Meets env E Q X s ↔ Q value s := Iff.rfl

theorem meets_ask (c : Call) (next : Reply c → Prog Call Reply ε α) (s : S) :
    (ask c next).Meets env E Q X s ↔ ∀ reply t, env s c reply t →
      E ⟨s, c, reply, t⟩ ∧ (next reply).Meets env E Q X t := Iff.rfl

theorem meets_call (c : Call) {Q : Reply c → S → Prop} (s : S) :
    (call c : Prog Call Reply ε (Reply c)).Meets env E Q X s ↔
      ∀ reply t, env s c reply t → E ⟨s, c, reply, t⟩ ∧ Q reply t := Iff.rfl

/-- A call followed by a program. -/
theorem meets_call_bind (c : Call) (f : Reply c → Prog Call Reply ε α) (s : S) :
    (call c >>= f).Meets env E Q X s ↔ ∀ reply t, env s c reply t →
      E ⟨s, c, reply, t⟩ ∧ (f reply).Meets env E Q X t := Iff.rfl

/-- What comes after a program runs from the states in which it returns. -/
theorem meets_bind (p : Prog Call Reply ε α) (f : α → Prog Call Reply ε β)
    {Q : β → S → Prop} (s : S) :
    (p >>= f).Meets env E Q X s ↔ p.Meets env E (fun a t => (f a).Meets env E Q X t) X s := by
  change (p.bind f).Meets env E Q X s ↔ _
  induction p generalizing s with
  | done value => exact Iff.rfl
  | raise error => exact Iff.rfl
  | ask call next ih => simp only [Prog.bind, meets_ask, ih]

/-- A handler runs from the states in which the program raises. -/
theorem meets_tryCatch (p : Prog Call Reply ε α) (h : ε → Prog Call Reply ε α) (s : S) :
    (tryCatch p h).Meets env E Q X s ↔
      p.Meets env E Q (fun error t => (h error).Meets env E Q X t) s := by
  change (p.handle h).Meets env E Q X s ↔ _
  induction p generalizing s with
  | done value => exact Iff.rfl
  | raise error => exact Iff.rfl
  | ask call next ih => simp only [Prog.handle, meets_ask, ih]

/-- Consequence: a weaker guarantee and weaker postconditions. -/
theorem Meets.mono {p : Prog Call Reply ε α} {s : S} (h : p.Meets env E Q X s)
    (events : ∀ e, E e → F e) (returns : ∀ a t, Q a t → R a t) (raises : ∀ e t, X e t → Y e t) :
    p.Meets env F R Y s := by
  induction p generalizing s with
  | done value => exact returns value s h
  | raise error => exact raises error s h
  | ask call next ih =>
    intro reply t answer
    obtain ⟨event, rest⟩ := h reply t answer
    exact ⟨events _ event, ih reply rest⟩

/-- The same calls with weaker postconditions. -/
theorem Meets.imp {p : Prog Call Reply ε α} {s : S} (h : p.Meets env E Q X s)
    (returns : ∀ a t, Q a t → R a t) (raises : ∀ e t, X e t → Y e t) : p.Meets env E R Y s :=
  h.mono (fun _ event => event) returns raises

/-- A program followed by another: the states between the two are those with `R`. -/
theorem Meets.seq {p : Prog Call Reply ε α} {f : α → Prog Call Reply ε β} {Q : β → S → Prop}
    {s : S} (h : p.Meets env E R X s) (k : ∀ a t, R a t → (f a).Meets env E Q X t) :
    (p >>= f).Meets env E Q X s :=
  (meets_bind p f s).mpr (h.imp k fun _ _ raised => raised)

/-- A program with a stronger guarantee of its own, followed by another. -/
theorem Meets.seq_of {p : Prog Call Reply ε α} {f : α → Prog Call Reply ε β} {Q : β → S → Prop}
    {s : S} (h : p.Meets env F R Y s) (events : ∀ e, F e → E e) (raises : ∀ e t, Y e t → X e t)
    (k : ∀ a t, R a t → (f a).Meets env E Q X t) : (p >>= f).Meets env E Q X s :=
  (h.mono events (fun _ _ returned => returned) raises).seq k

theorem Meets.ite {P : Prop} [Decidable P] {p q : Prog Call Reply ε α} {s : S}
    (h : P → p.Meets env E Q X s) (k : ¬ P → q.Meets env E Q X s) :
    (if P then p else q).Meets env E Q X s := by
  split
  case isTrue holds => exact h holds
  case isFalse fails => exact k fails

/-- The program makes only calls in `C`, whatever it is answered. -/
def Uses (C : Call → Prop) : Prog Call Reply ε α → Prop
  | .done _ => True
  | .raise _ => True
  | .ask call next => C call ∧ ∀ reply, (next reply).Uses C

variable {C : Call → Prop}

@[simp] theorem uses_pure (value : α) : (pure value : Prog Call Reply ε α).Uses C := trivial

@[simp] theorem uses_throw (error : ε) : (throw error : Prog Call Reply ε α).Uses C := trivial

@[simp] theorem uses_call (c : Call) :
    (call c : Prog Call Reply ε (Reply c)).Uses C ↔ C c := by
  unfold call
  simp [Uses]

@[simp] theorem uses_call_bind (c : Call) (f : Reply c → Prog Call Reply ε α) :
    (call c >>= f).Uses C ↔ C c ∧ ∀ reply, (f reply).Uses C := Iff.rfl

theorem Uses.mono {D : Call → Prop} {p : Prog Call Reply ε α} (h : p.Uses C)
    (weaker : ∀ c, C c → D c) : p.Uses D := by
  induction p with
  | done value => trivial
  | raise error => trivial
  | ask call next ih => exact ⟨weaker call h.1, fun reply => ih reply (h.2 reply)⟩

theorem Uses.bind {p : Prog Call Reply ε α} {f : α → Prog Call Reply ε β} (h : p.Uses C)
    (k : ∀ a, (f a).Uses C) : (p >>= f).Uses C := by
  change (p.bind f).Uses C
  induction p with
  | done value => exact k value
  | raise error => trivial
  | ask call next ih => exact ⟨h.1, fun reply => ih reply (h.2 reply)⟩

theorem Uses.tryCatch {p : Prog Call Reply ε α} {f : ε → Prog Call Reply ε α} (h : p.Uses C)
    (k : ∀ e, (f e).Uses C) : (tryCatch p f).Uses C := by
  change (p.handle f).Uses C
  induction p with
  | done value => trivial
  | raise error => exact k error
  | ask call next ih => exact ⟨h.1, fun reply => ih reply (h.2 reply)⟩

theorem Uses.ite {P : Prop} [Decidable P] {p q : Prog Call Reply ε α} (h : p.Uses C)
    (k : q.Uses C) : (if P then p else q).Uses C := by
  split
  · exact h
  · exact k

theorem Uses.forM {β : Type} {f : β → Prog Call Reply ε PUnit} (xs : List β)
    (h : ∀ x ∈ xs, (f x).Uses C) : (xs.forM f).Uses C := by
  induction xs with
  | nil => exact uses_pure _
  | cons x xs ih =>
    obtain ⟨first, others⟩ := List.forall_mem_cons.mp h
    exact first.bind fun _ => ih others

/-- What the calls in `C` preserve, a program with only such calls preserves. -/
theorem Uses.meets {I : S → Prop} {p : Prog Call Reply ε α} (uses : p.Uses C)
    (step : ∀ s c r t, C c → I s → env s c r t → I t) {s : S} (start : I s) :
    p.Meets env (fun e => C e.call ∧ I e.before ∧ I e.after) (fun _ t => I t) (fun _ t => I t)
      s := by
  induction p generalizing s with
  | done value => exact start
  | raise error => exact start
  | ask call next ih =>
    intro reply t answer
    have next := step s call reply t uses.1 start answer
    exact ⟨⟨uses.1, start, next⟩, ih reply (uses.2 reply) next⟩

/-- Every call of the program has the guarantee, from whatever state it starts. -/
def Guarantees (env : Environment S Call Reply) (E : Event S Call Reply → Prop)
    (p : Prog Call Reply ε α) : Prop :=
  ∀ s, p.Meets env E (fun _ _ => True) (fun _ _ => True) s

theorem Guarantees.bind {p : Prog Call Reply ε α} {f : α → Prog Call Reply ε β}
    (h : Guarantees env E p) (k : ∀ a, Guarantees env E (f a)) : Guarantees env E (p >>= f) :=
  fun s => (h s).seq fun a t _ => k a t

theorem Guarantees.tryCatch {p : Prog Call Reply ε α} {f : ε → Prog Call Reply ε α}
    (h : Guarantees env E p) (k : ∀ e, Guarantees env E (f e)) :
    Guarantees env E (tryCatch p f) := by
  intro s
  rw [meets_tryCatch]
  exact (h s).mono (fun _ event => event) (fun _ _ _ => trivial) fun e t _ => k e t

theorem Guarantees.ite {P : Prop} [Decidable P] {p q : Prog Call Reply ε α}
    (h : Guarantees env E p) (k : Guarantees env E q) :
    Guarantees env E (if P then p else q) := by
  split
  · exact h
  · exact k

theorem Guarantees.pure (value : α) :
    Guarantees env E (pure value : Prog Call Reply ε α) := fun _ => trivial

theorem Guarantees.forM {β : Type} {f : β → Prog Call Reply ε PUnit} (xs : List β)
    (h : ∀ x ∈ xs, Guarantees env E (f x)) : Guarantees env E (xs.forM f) := by
  induction xs with
  | nil => exact Guarantees.pure _
  | cons x xs ih =>
    obtain ⟨first, others⟩ := List.forall_mem_cons.mp h
    exact first.bind fun _ => ih others

/-- A guarantee that every call in `C` has, a program with only such calls has. -/
theorem Uses.guarantees {p : Prog Call Reply ε α} (uses : p.Uses C)
    (harmless : ∀ e, C e.call → E e) : Guarantees env E p := by
  intro s
  have kept : ∀ s c r t, C c → True → env s c r t → True := fun _ _ _ _ _ _ _ => trivial
  exact (uses.meets kept trivial).mono (fun e event => harmless e event.1)
    (fun _ _ _ => trivial) fun _ _ _ => trivial

/-- What the program raises has `P`, whatever it is answered. -/
def Throws (P : ε → Prop) : Prog Call Reply ε α → Prop
  | .done _ => True
  | .raise error => P error
  | .ask _ next => ∀ reply, (next reply).Throws P

section throws

variable {P : ε → Prop}

theorem Throws.bind {p : Prog Call Reply ε α} {f : α → Prog Call Reply ε β} (h : p.Throws P)
    (k : ∀ a, (f a).Throws P) : (p >>= f).Throws P := by
  change (p.bind f).Throws P
  induction p with
  | done value => exact k value
  | raise error => exact h
  | ask call next ih => exact fun reply => ih reply (h reply)

theorem Throws.ite {Q : Prop} [Decidable Q] {p q : Prog Call Reply ε α} (h : p.Throws P)
    (k : q.Throws P) : (if Q then p else q).Throws P := by
  split
  · exact h
  · exact k

theorem Throws.forM {β : Type} {f : β → Prog Call Reply ε PUnit} (xs : List β)
    (h : ∀ x ∈ xs, (f x).Throws P) : (xs.forM f).Throws P := by
  induction xs with
  | nil => trivial
  | cons x xs ih =>
    obtain ⟨first, others⟩ := List.forall_mem_cons.mp h
    exact first.bind fun _ => ih others

/-- A program raises what it can raise. -/
theorem Meets.throws {p : Prog Call Reply ε α} {s : S} (h : p.Meets env E Q X s)
    (throws : p.Throws P) : p.Meets env E Q (fun e t => X e t ∧ P e) s := by
  induction p generalizing s with
  | done value => exact h
  | raise error => exact ⟨h, throws⟩
  | ask call next ih => exact fun reply t answer => ⟨(h reply t answer).1,
      ih reply (h reply t answer).2 (throws reply)⟩

end throws

/-- What a program meets in an environment, it meets where fewer answers are possible. -/
theorem Meets.restrict {env' : Environment S Call Reply} {p : Prog Call Reply ε α} {s : S}
    (h : p.Meets env E Q X s) (fewer : ∀ s c r t, env' s c r t → env s c r t) :
    p.Meets env' E Q X s := by
  induction p generalizing s with
  | done value => exact h
  | raise error => exact h
  | ask call next ih =>
    intro reply t answer
    obtain ⟨event, rest⟩ := h reply t (fewer s call reply t answer)
    exact ⟨event, ih reply rest⟩

/-- The executions of a program: the calls made so far, and what is left of the program. An
execution that leaves `done` or `raise` is complete. -/
inductive Exec (env : Environment S Call Reply) :
    Prog Call Reply ε α → S → List (Event S Call Reply) → Prog Call Reply ε α → S → Prop where
  | here (p : Prog Call Reply ε α) (s : S) : Exec env p s [] p s
  | step {call : Call} {next : Reply call → Prog Call Reply ε α} {s t u : S} {reply : Reply call}
      {events : List (Event S Call Reply)} {rest : Prog Call Reply ε α}
      (answer : env s call reply t) (run : Exec env (next reply) t events rest u) :
      Exec env (.ask call next) s (⟨s, call, reply, t⟩ :: events) rest u

/-- What a program meets, its executions do; what is left of it still meets the same. -/
theorem Meets.exec {p q : Prog Call Reply ε α} {s t : S} {events : List (Event S Call Reply)}
    (h : p.Meets env E Q X s) (run : Exec env p s events q t) :
    (∀ e ∈ events, E e) ∧ q.Meets env E Q X t := by
  induction run with
  | here p s => exact ⟨fun e member => absurd member List.not_mem_nil, h⟩
  | step answer run ih =>
    obtain ⟨event, rest⟩ := h _ _ answer
    obtain ⟨others, left⟩ := ih rest
    exact ⟨List.forall_mem_cons.mpr ⟨event, others⟩, left⟩

/-- The environment with a log, to which every call adds what is noted of it. -/
def noted {D : Type} (note : Event S Call Reply → List D) (env : Environment S Call Reply) :
    Environment (S × List D) Call Reply :=
  fun s call reply t => env s.1 call reply t.1 ∧ t.2 = s.2 ++ note ⟨s.1, call, reply, t.1⟩

/-- What a program meets with a log, its executions do with the log of their calls. -/
theorem Meets.exec_noted {D : Type} {note : Event S Call Reply → List D}
    {E : Event (S × List D) Call Reply → Prop} {Q : α → S × List D → Prop}
    {X : ε → S × List D → Prop} {p q : Prog Call Reply ε α} {s t : S} {past : List D}
    {events : List (Event S Call Reply)} (h : p.Meets (noted note env) E Q X (s, past))
    (run : Exec env p s events q t) :
    q.Meets (noted note env) E Q X (t, past ++ events.flatMap note) := by
  induction run generalizing past with
  | here p s =>
    rw [List.flatMap_nil, List.append_nil]
    exact h
  | step answer run ih =>
    rw [List.flatMap_cons, ← List.append_assoc]
    exact ih (h _ _ ⟨answer, rfl⟩).2

/-- The environment that remembers the calls, and answers each as `good` has it after those
before. -/
def along (good : List Call → Event S Call Reply → Prop) (env : Environment S Call Reply) :
    Environment (S × List Call) Call Reply :=
  fun s call reply t =>
    noted (fun e => [e.call]) env s call reply t ∧ good s.2 ⟨s.1, call, reply, t.1⟩

/-- Each call is answered as `good` has it after those before. -/
def Answered (good : List Call → Event S Call Reply → Prop) :
    List Call → List (Event S Call Reply) → Prop
  | _, [] => True
  | past, e :: events => good past e ∧ Answered good (past ++ [e.call]) events

instance Answered.decidable {good : List Call → Event S Call Reply → Prop}
    [∀ past e, Decidable (good past e)] :
    ∀ past events, Decidable (Answered good past events)
  | _, [] => isTrue trivial
  | past, e :: events =>
    have : Decidable (Answered good (past ++ [e.call]) events) := Answered.decidable _ events
    inferInstanceAs (Decidable (_ ∧ _))

variable {good : List Call → Event S Call Reply → Prop}

/-- What a program meets whatever the answers are, it meets with good ones. -/
theorem Meets.remembered {p : Prog Call Reply ε α} {s : S} (h : p.Meets env E Q X s)
    (past : List Call) : p.Meets (along good env) (fun e => E e.view) (fun a t => Q a t.1)
      (fun e t => X e t.1) (s, past) := by
  induction p generalizing s past with
  | done value => exact h
  | raise error => exact h
  | ask call next ih =>
    intro reply t answer
    obtain ⟨event, rest⟩ := h reply t.1 answer.1.1
    exact ⟨event, ih reply rest t.2⟩

/-- What a program meets with good answers, its executions do when they get them. -/
theorem Meets.exec_along {p q : Prog Call Reply ε α} {Q : α → S × List Call → Prop}
    {X : ε → S × List Call → Prop} {s t : S} {past : List Call}
    {events : List (Event S Call Reply)}
    (h : p.Meets (along good env) (fun e => E e.view) Q X (s, past))
    (run : Exec env p s events q t) (answered : Answered good past events) :
    ∀ e ∈ events, E e := by
  induction run generalizing past with
  | here p s => exact fun e member => absurd member List.not_mem_nil
  | step answer run ih =>
    obtain ⟨event, rest⟩ := h _ (_, past ++ [_]) ⟨⟨answer, rfl⟩, answered.1⟩
    exact List.forall_mem_cons.mpr ⟨event, ih rest answered.2⟩

/-- The same execution against an environment that allows each of its answers. -/
theorem Exec.of_events {env' : Environment S Call Reply} {p q : Prog Call Reply ε α} {s t : S}
    {events : List (Event S Call Reply)} (run : Exec env p s events q t)
    (allowed : ∀ e ∈ events, env e.before e.call e.reply e.after →
      env' e.before e.call e.reply e.after) : Exec env' p s events q t := by
  induction run with
  | here p s => exact .here p s
  | step answer run ih =>
    obtain ⟨first, others⟩ := List.forall_mem_cons.mp allowed
    exact .step (first answer) (ih others)

/-- The calls of an execution are answered by the environment. -/
theorem Exec.answers {p q : Prog Call Reply ε α} {s t : S} {events : List (Event S Call Reply)}
    (run : Exec env p s events q t) : ∀ e ∈ events, env e.before e.call e.reply e.after := by
  induction run with
  | here p s => exact fun e member => absurd member List.not_mem_nil
  | step answer run ih => exact List.forall_mem_cons.mpr ⟨answer, ih⟩

/-- What every call of an execution preserves holds at its end. -/
theorem Exec.preserves {p q : Prog Call Reply ε α} {s t : S} {events : List (Event S Call Reply)}
    {I : S → Prop} (run : Exec env p s events q t)
    (step : ∀ e ∈ events, env e.before e.call e.reply e.after → I e.before → I e.after)
    (start : I s) : I t := by
  induction run with
  | here p s => exact start
  | step answer run ih =>
    obtain ⟨first, others⟩ := List.forall_mem_cons.mp step
    exact ih others (first answer start)

/-- What one call establishes and the others preserve holds at the end of the execution. -/
theorem Exec.preserves_after {p q : Prog Call Reply ε α} {s t : S}
    {events : List (Event S Call Reply)} {I : S → Prop} (run : Exec env p s events q t)
    (step : ∀ e ∈ events, env e.before e.call e.reply e.after → I e.before → I e.after)
    {e : Event S Call Reply} (member : e ∈ events) (holds : I e.after) : I t := by
  induction run with
  | here p s => exact absurd member List.not_mem_nil
  | step answer run ih =>
    obtain ⟨first, others⟩ := List.forall_mem_cons.mp step
    obtain rfl | later := List.mem_cons.mp member
    · exact run.preserves others holds
    · exact ih others later

/-- A history: programs run one after the other, each to its end or cut anywhere, and
between the runs the environment moves by itself. -/
inductive History (env : Environment S Call Reply) (programs : Prog Call Reply ε α → Prop)
    (moves : S → S → Prop) (s : S) : List (Event S Call Reply) → S → Prop where
  | nil : History env programs moves s [] s
  | run {t u : S} {events more : List (Event S Call Reply)} {p rest : Prog Call Reply ε α}
      (before : History env programs moves s events t) (known : programs p)
      (exec : Exec env p t more rest u) : History env programs moves s (events ++ more) u
  | move {t u : S} {events : List (Event S Call Reply)}
      (before : History env programs moves s events t) (moved : moves t u) :
      History env programs moves s events u

variable {programs : Prog Call Reply ε α → Prop} {moves : S → S → Prop}

theorem History.answers {s t : S} {events : List (Event S Call Reply)}
    (history : History env programs moves s events t) :
    ∀ e ∈ events, env e.before e.call e.reply e.after := by
  induction history with
  | nil => exact fun e member => absurd member List.not_mem_nil
  | run before known exec ih => exact List.forall_mem_append.mpr ⟨ih, exec.answers⟩
  | move before moved ih => exact ih

/-- The same history against an environment that allows each of its answers. -/
theorem History.of_events {env' : Environment S Call Reply} {s t : S}
    {events : List (Event S Call Reply)} (history : History env programs moves s events t)
    (allowed : ∀ e ∈ events, env e.before e.call e.reply e.after →
      env' e.before e.call e.reply e.after) : History env' programs moves s events t := by
  induction history with
  | nil => exact .nil
  | run before known exec ih =>
    obtain ⟨past, now⟩ := List.forall_mem_append.mp allowed
    exact .run (ih past) known (exec.of_events now)
  | move before moved ih => exact .move (ih allowed) moved

/-- A guarantee of every program is one of a history. -/
theorem History.guarantees {s t : S} {events : List (Event S Call Reply)}
    (history : History env programs moves s events t)
    (each : ∀ p, programs p → Guarantees env E p) : ∀ e ∈ events, E e := by
  induction history with
  | nil => exact fun e member => absurd member List.not_mem_nil
  | run before known exec ih =>
    exact List.forall_mem_append.mpr ⟨ih, ((each _ known _).exec exec).1⟩
  | move before moved ih => exact ih

/-- What every call of a history and every move preserves holds at its end. -/
theorem History.preserves {I : S → Prop} {s t : S} {events : List (Event S Call Reply)}
    (history : History env programs moves s events t)
    (step : ∀ e ∈ events, env e.before e.call e.reply e.after → I e.before → I e.after)
    (kept : ∀ s t, moves s t → I s → I t) (start : I s) : I t := by
  induction history with
  | nil => exact start
  | run before known exec ih =>
    obtain ⟨past, now⟩ := List.forall_mem_append.mp step
    exact exec.preserves now (ih past)
  | move before moved ih => exact kept _ _ moved (ih step)

/-- What one call of a history establishes and the others preserve holds at its end. -/
theorem History.preserves_after {I : S → Prop} {s t : S} {events : List (Event S Call Reply)}
    (history : History env programs moves s events t)
    (step : ∀ e ∈ events, env e.before e.call e.reply e.after → I e.before → I e.after)
    (kept : ∀ s t, moves s t → I s → I t) {e : Event S Call Reply} (member : e ∈ events)
    (holds : I e.after) : I t := by
  induction history with
  | nil => exact absurd member List.not_mem_nil
  | run before known exec ih =>
    obtain ⟨past, now⟩ := List.forall_mem_append.mp step
    obtain earlier | here := List.mem_append.mp member
    · exact exec.preserves now (ih past earlier)
    · exact exec.preserves_after now here holds
  | move before moved ih => exact kept _ _ moved (ih step member)

/-- The outcome of a program against an environment that is a function of its own state, which
may also leave a call without an answer. -/
def run {H : Type} (answer : H → (call : Call) → Option (Reply call × H)) :
    Prog Call Reply ε α → H → Option (Except ε α × H)
  | .done value, h => some (.ok value, h)
  | .raise error, h => some (.error error, h)
  | .ask call next, h =>
    match answer h call with
    | none => none
    | some (reply, k) => (next reply).run answer k

/-- The calls that `run` makes. -/
def calls {H : Type} (view : H → S) (answer : H → (call : Call) → Option (Reply call × H)) :
    Prog Call Reply ε α → H → List (Event S Call Reply)
  | .done _, _ => []
  | .raise _, _ => []
  | .ask call next, h =>
    match answer h call with
    | none => []
    | some (reply, k) => ⟨view h, call, reply, view k⟩ :: (next reply).calls view answer k

/-- A program that has ended so. -/
def ended : Except ε α → Prog Call Reply ε α
  | .ok value => .done value
  | .error error => .raise error

/-- Where every call can be answered, every program has a complete execution. -/
theorem Exec.complete (total : ∀ s call, ∃ reply t, env s call reply t) (p : Prog Call Reply ε α)
    (s : S) : ∃ events outcome t, Exec env p s events (ended outcome) t := by
  induction p generalizing s with
  | done value => exact ⟨[], .ok value, s, .here _ _⟩
  | raise error => exact ⟨[], .error error, s, .here _ _⟩
  | ask call next ih =>
    obtain ⟨reply, t, answer⟩ := total s call
    obtain ⟨events, outcome, u, run⟩ := ih reply t
    exact ⟨_, outcome, u, .step answer run⟩

/-- Running a program gives one of its executions, when every answer is a possible one. -/
theorem exec_run {H : Type} {view : H → S} {answer : H → (call : Call) → Option (Reply call × H)}
    (possible : ∀ h c r k, answer h c = some (r, k) → env (view h) c r (view k))
    {p : Prog Call Reply ε α} {h k : H} {outcome : Except ε α}
    (ran : p.run answer h = some (outcome, k)) :
    Exec env p (view h) (p.calls view answer h) (ended outcome) (view k) := by
  induction p generalizing h with
  | done value =>
    cases ran
    exact .here _ _
  | raise error =>
    cases ran
    exact .here _ _
  | ask call next ih =>
    unfold run at ran
    unfold calls
    cases answered : answer h call with
    | none =>
      rw [answered] at ran
      cases ran
    | some replied =>
      rw [answered] at ran
      exact .step (possible _ _ _ _ answered) (ih replied.1 ran)

end Prog

end VitaLinux.Base
