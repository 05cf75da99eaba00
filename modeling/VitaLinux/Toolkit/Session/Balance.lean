import VitaLinux.Toolkit.Session.AllOrNothing
import VitaLinux.Toolkit.Session.Stop

/-!
# Do session mounts balance?

Between two calls of the script there is no session mount, or the mounts of one session,
which its state file describes. A start that fails with the transport mounted breaks this,
and so does a stop that has unmounted the image and cannot unmount the transport.
-/

namespace VitaLinux.Toolkit.Session

open VitaLinux.Base Prog

variable {awk : Awk} {canon : Text → Text} {c : Config} {target transport : Text}
  {base : List (Text × Bool)} {owned : Bool} {w : World} {s t : World × List Done}

/-- Mounts that are neither the session's nor in its way. -/
def Foreign (target transport : Text) (places : List (Text × Bool)) : Prop :=
  ∀ p ∈ places, p.1 ≠ target ∧ p.1 ≠ transport ∧ p.2 = false

/-- The mounts of one session are on top of the others, and its state file names them. -/
structure Active (target transport : Text) (base : List (Text × Bool)) (owned : Bool)
    (s : World) : Prop where
  foreign : Foreign target transport base
  places : s.places = base ++ (if owned then [(transport, true)] else []) ++ [(target, true)]
  valid : validPath target = true ∧ validPath transport = true
  session : ∃ text, s.session = some text ∧ (readState text).target = target ∧
    (readState text).owned = (if owned then "1".toList else "0".toList) ∧
    (owned = true → (readState text).transport = transport)

/-- What holds between two calls of the script. -/
def Balanced (target transport : Text) (s : World) : Prop :=
  Foreign target transport s.places ∨ ∃ base owned, Active target transport base owned s

/-- A start has mounted nothing that is still there. -/
def Undone (log : List Done) : Prop := .transport ∉ log ∧ (.image ∈ log → .unmounted ∈ log)

instance (log : List Done) : Decidable (Undone log) := by
  unfold Undone
  infer_instance

theorem Left.undone_same (h : Left canon c w s) (undone : Undone s.2) :
    s.1.places = w.places ∧ s.1.session = w.session := by
  obtain ⟨transport, unmounted⟩ := undone
  have unheld {owned : Bool} {u : World × List Done} (ready : Ready canon c w owned u)
      (transport : .transport ∉ u.2) : u.1.places = w.places := by
    have free : owned = false := Bool.eq_false_iff.mpr fun own => transport (ready.owner.mpr own)
    rw [ready.places, free]
    exact List.append_nil _
  cases h with
  | early ready => exact ⟨unheld ready transport, ready.session⟩
  | undone ready same log =>
    rw [log, List.mem_append, not_or] at transport
    rw [same]
    exact ⟨unheld ready transport.1, ready.session⟩
  | imaged ready mounts log =>
    have before := ready.not_mem (d := .unmounted) (by decide) (by decide)
    obtain log | log := log <;> rw [log] at unmounted <;> simp [before] at unmounted

section start

variable (awk) (named : canon target = target ∧ canon transport = transport)
  (settings : c.target = target ∧ c.transport = transport)
include named settings

/-- A start keeps the balance if it comes to its end, or undoes what it has done. -/
theorem start_balanced (h : Balanced target transport w) :
    (start awk c).Meets (Noted canon) (fun _ => True)
      (fun _ t => (∀ fields, .wrote fields ∈ t.2 → Legible fields) →
        Balanced target transport t.1)
      (fun _ t => Undone t.2 → Balanced target transport t.1) (w, []) := by
  apply start_meets.imp
  · rintro _ t ⟨found, digest, mode, workspace, own, running⟩ legible
    obtain ⟨rfl, rfl⟩ := settings
    have readTarget := readState_target (legible _ running.log)
    have readTransport := readState_transport (legible _ running.log)
    have readOwned := readState_owned (legible _ running.log)
    right
    obtain foreign | ⟨base, owned, active⟩ := h
    · refine ⟨w.places, found.owned, foreign, ?_, running.valid, _, running.session, readTarget,
        readOwned, fun owned => readTransport.trans (own owned)⟩
      rw [running.places, held, named.1, named.2]
    · obtain ⟨plain, _, word⟩ := validPath_spelling active.valid.1
      have here : (c.target, true) ∈ w.places := by
        rw [active.places]
        exact List.mem_append_right _ (List.mem_singleton_self _)
      have taken : awk.is c.target c.target = true := (awk.is_iff plain word).mpr rfl
      exact absurd ((running.absent _ here).symm.trans taken) Bool.false_ne_true
  · intro ending t left undone
    obtain ⟨places, session⟩ := left.undone_same undone
    obtain foreign | ⟨base, owned, active⟩ := h
    · exact Or.inl (places ▸ foreign)
    · exact Or.inr ⟨base, owned, active.foreign, places.trans active.places, active.valid,
        session ▸ active.session⟩

end start

/-- The calls that take mounts away at most. -/
def Releases (call : Call) : Prop :=
  call.reads = true ∨ (∃ target, call = .umount target) ∨ call = .removeSession

theorem releases_of_reads {α : Type} {p : Script α} (uses : p.Uses (·.reads = true)) :
    p.Uses Releases := uses.mono fun _ kind => Or.inl kind

theorem releases_forget (report : String) : (forget report).Uses Releases := by
  unfold forget
  apply Uses.bind
  · exact uses_orFail (uses_ask (Or.inr (Or.inr rfl))) _
  · exact fun _ => uses_throw _

theorem reads_payloadUnchanged (state : State) :
    (payloadUnchanged state).Uses (·.reads = true) := by
  unfold payloadUnchanged
  apply (reads_ask rfl).bind
  intro isFile
  apply Uses.ite
  · exact (reads_ask rfl).bind fun _ => uses_pure _
  · exact uses_pure _

theorem releases_releaseTransport (state : State) :
    (releaseTransport awk state).Uses Releases := by
  unfold releaseTransport
  apply Uses.ite
  · apply (releases_of_reads (reads_ask rfl)).bind
    intro mounts
    apply Uses.ite
    · exact uses_orFail (uses_ask (Or.inr (Or.inl ⟨_, rfl⟩))) _
    · exact uses_pure _
  · exact uses_pure _

theorem releases_stop : (stop awk c).Uses Releases := by
  unfold stop
  apply (releases_of_reads reads_checkPaths).bind
  intro _
  apply (releases_of_reads (reads_ask rfl)).bind
  intro session
  cases session with
  | none => exact uses_throw _
  | some text =>
    apply (releases_of_reads (reads_ask rfl)).bind
    intro mounts
    apply Uses.ite
    · exact releases_forget _
    · apply (releases_of_reads (reads_payloadUnchanged _)).bind
      intro unchanged
      apply Uses.ite
      · apply Uses.bind
        · exact uses_orFail (uses_ask (Or.inr (Or.inl ⟨_, rfl⟩))) _
        intro _
        exact (releases_releaseTransport _).bind fun _ => releases_forget _
      · exact uses_throw _

/-- Taking mounts away leaves the others what they are. -/
theorem Foreign.released (h : Foreign target transport s.1.places) {call : Call}
    {reply : Reply call} (releases : Releases call) (answer : Noted canon s call reply t) :
    Foreign target transport t.1.places := by
  obtain kind | ⟨place, rfl⟩ | rfl := releases
  · rw [(answer.same kind).1]
    exact h
  · obtain ⟨rfl, front, back, m, top, rfl⟩ | ⟨rfl, rfl⟩ := Noted.umount answer
    · intro p member
      apply h p
      obtain ⟨n, known, rfl⟩ := List.mem_map.mp member
      apply List.mem_map_of_mem
      rw [top.split]
      obtain before | after := List.mem_append.mp known
      · exact List.mem_append_left _ before
      · exact List.mem_append_right _ (List.mem_cons_of_mem _ after)
    · exact h
  · rw [World.places, (Noted.removeSession answer).1]
    exact h

theorem Foreign.releases {α : Type} {p : Script α} (h : Foreign target transport s.1.places)
    (uses : p.Uses Releases) : p.Meets (Noted canon) (fun _ => True)
      (fun _ t => Foreign target transport t.1.places)
      (fun _ t => Foreign target transport t.1.places) s :=
  (uses.meets (I := fun s => Foreign target transport s.1.places)
    (fun _ _ _ _ releases before answer => before.released releases answer) h).mono
    (fun _ _ => trivial) (fun _ _ after => after) fun _ _ after => after

/-- The mount that was made last is the one that is taken away. -/
theorem umount_last {place : Text} {rest : List (Text × Bool)} {reply : Bool}
    (places : s.1.places = rest ++ [(place, true)]) (named : canon place = place)
    (answer : Noted canon s (.umount place) reply t) :
    (reply = true ∧ t.1.places = rest ∧ t.2 = s.2 ++ [.unmounted]) ∨
      reply = false ∧ t = (s.1, s.2 ++ [.refused]) := by
  obtain ⟨rfl, front, back, m, top, rfl⟩ | refused := answer.umount
  · left
    obtain ⟨before, after, split, first, last⟩ := List.map_eq_append_iff.mp places
    obtain ⟨n, rfl, entry⟩ := List.map_eq_singleton_iff.mp last
    have here : n.target = place := congrArg Prod.fst entry
    rw [split, named] at top
    refine ⟨rfl, ?_, rfl⟩
    change (front ++ back).map _ = rest
    rw [top.append here]
    exact first
  · exact Or.inr refused

theorem payloadUnchanged_meets (state : State) :
    (payloadUnchanged state).Meets (Noted canon) (fun _ => True) (fun _ t => t = s)
      (fun _ _ => False) s := by
  intro isFile t answer
  obtain ⟨rfl, _⟩ := answer.same rfl
  refine ⟨trivial, ?_⟩
  cases isFile with
  | false => exact rfl
  | true =>
    intro now u answer
    exact ⟨trivial, (answer.same rfl).1⟩

/-- Nothing of the session is left, or a failing stop has left all of it, unless the second
of its two `umount`s has been refused. -/
def Stopped (target transport : Text) (ending : Ending) (t : World × List Done) : Prop :=
  ¬ (.unmounted ∈ t.2 ∧ .refused ∈ t.2) → Foreign target transport t.1.places ∨
    (∃ base owned, Active target transport base owned t.1) ∧ ending.status ≠ 0

theorem forget_stopped (h : Foreign target transport s.1.places) (report : String) :
    (forget report).Meets (Noted canon) (fun _ => True) (fun _ _ => False)
      (Stopped target transport) s := by
  unfold forget
  apply meets_bind _ _ _ |>.mpr
  apply (h.releases (uses_orFail (uses_ask (Or.inr (Or.inr rfl))) _)).mono
    (fun _ event => event)
  · intro _ t foreign
    exact fun _ => Or.inl foreign
  · intro ending t foreign
    exact fun _ => Or.inl foreign

section stop

variable (named : canon target = target ∧ canon transport = transport)
include named

/-- After the image, the transport is unmounted if it is the session's. -/
theorem releaseTransport_stopped {state : State} (foreign : Foreign target transport base)
    (valid : validPath transport = true)
    (places : s.1.places = base ++ if owned then [(transport, true)] else [])
    (flag : state.owned = if owned then "1".toList else "0".toList)
    (name : owned = true → state.transport = transport) (unmounted : .unmounted ∈ s.2) :
    (releaseTransport awk state).Meets (Noted canon) (fun _ => True)
      (fun _ t => Foreign target transport t.1.places) (Stopped target transport) s := by
  unfold releaseTransport
  cases owned with
  | false =>
    have other : state.owned ≠ "1".toList := by
      rw [flag]
      decide
    rw [if_neg other]
    change Foreign target transport s.1.places
    rw [places]
    exact (List.append_nil base).symm ▸ foreign
  | true =>
    change state.owned = "1".toList at flag
    change s.1.places = base ++ [(transport, true)] at places
    rw [if_pos flag, name rfl]
    apply (meets_ask_reads rfl).seq
    rintro _ _ ⟨rfl, rfl⟩
    rename_i s
    have mounted : isMounted awk s.1.mounts transport = true := by
      rw [isMounted_iff valid, places, List.map_append]
      exact List.mem_append_right _ (List.mem_singleton_self _)
    rw [if_pos mounted]
    apply meets_orFail
    intro reply t answer
    refine ⟨trivial, ?_⟩
    obtain ⟨rfl, left, _⟩ | ⟨rfl, rfl⟩ := umount_last places named.2 answer
    · change Foreign target transport t.1.places
      rw [left]
      exact foreign
    · intro orderly
      exact absurd ⟨List.mem_append_left _ unmounted, by simp⟩ orderly

/-- A stop takes away the mounts of the session, in the order in which they lie. -/
theorem stop_stopped (h : Active target transport base owned s.1) :
    (stop awk c).Meets (Noted canon) (fun _ => True) (fun _ _ => False)
      (Stopped target transport) s := by
  have kept (ending : Ending) (failed : ending.status ≠ 0) : Stopped target transport ending s :=
    fun _ => Or.inr ⟨⟨base, owned, h⟩, failed⟩
  obtain ⟨text, session, readTarget, readOwned, readTransport⟩ := h.session
  unfold stop
  apply checkPaths_meets.seq_of (fun _ event => event)
    fun ending _ same => same.1 ▸ kept ending same.2
  rintro _ _ ⟨rfl, _⟩
  rename_i s
  apply (meets_ask_reads rfl).seq
  rintro found _ ⟨rfl, shows⟩
  rename_i s
  obtain rfl : found = some text := shows.trans session
  apply (meets_ask_reads rfl).seq
  rintro _ _ ⟨rfl, rfl⟩
  rename_i s
  have here : target ∈ s.1.places.map Prod.fst := by
    rw [h.places, List.map_append]
    exact List.mem_append_right _ (List.mem_singleton_self _)
  have mounted : isMounted awk s.1.mounts (readState text).target = true := by
    rw [readTarget, isMounted_iff h.valid.1]
    exact here
  rw [if_neg (not_not_intro mounted)]
  apply (payloadUnchanged_meets _).seq_of (fun _ event => event) fun _ _ never => never.elim
  rintro unchanged _ rfl
  rename_i s
  cases unchanged with
  | false => exact kept ⟨1, "payload_changed"⟩ Nat.one_ne_zero
  | true =>
    have unmounts : (orFail (ask (.umount (readState text).target)) "unmount_failed").Meets
        (Noted canon) (fun _ => True)
        (fun _ t => t.1.places = base ++ (if owned then [(transport, true)] else []) ∧
          .unmounted ∈ t.2) (Stopped target transport) s := by
      rw [readTarget]
      apply meets_orFail
      intro reply t answer
      refine ⟨trivial, ?_⟩
      obtain ⟨rfl, left, now⟩ | ⟨rfl, rfl⟩ := umount_last h.places named.1 answer
      · exact ⟨left, by simp [now]⟩
      · exact fun _ => Or.inr ⟨⟨base, owned, h⟩, Nat.one_ne_zero⟩
    apply unmounts.seq
    rintro _ t ⟨left, unmounted⟩
    apply (releaseTransport_stopped named h.foreign h.valid.2 left readOwned readTransport
      unmounted).seq
    intro _ u foreign
    exact forget_stopped foreign "stopped"

end stop

inductive Action where
  | start | stop
  deriving DecidableEq, Repr

def Action.script (awk : Awk) (c : Config) : Action → Script Unit
  | .start => Session.start awk c
  | .stop => Session.stop awk c

/-- A call of the script, from its first command to its exit. -/
structure Invocation where
  action : Action
  config : Config
  events : List (Event World Call Reply)
  outcome : Except Ending Unit

/-- The exit status; a script that comes to its end exits with 0. -/
def Invocation.status (i : Invocation) : Nat :=
  match i.outcome with
  | .ok _ => 0
  | .error ending => ending.status

/-- A start that mounts something comes to its end, or undoes it, and what it writes into the
state file is legible; a stop that unmounts the image is not refused the transport. -/
def Orderly (canon : Text → Text) (i : Invocation) : Prop :=
  match i.action, i.outcome with
  | .start, .ok _ => ∀ fields, .wrote fields ∈ log canon i.events → Legible fields
  | .start, .error _ => Undone (log canon i.events)
  | .stop, _ => ¬ (.unmounted ∈ log canon i.events ∧ .refused ∈ log canon i.events)

/-- Calls of the script one after the other, for one target and one transport. -/
inductive Sequence (awk : Awk) (canon : Text → Text) (target transport : Text) (w : World) :
    List Invocation → World → Prop where
  | nil : Sequence awk canon target transport w [] w
  | call {s t : World} {calls : List Invocation} {i : Invocation}
      (before : Sequence awk canon target transport w calls s)
      (settings : i.config.target = target ∧ i.config.transport = transport)
      (exec : Exec (Box canon) (i.action.script awk i.config) s i.events (ended i.outcome) t) :
      Sequence awk canon target transport w (calls ++ [i]) t

section sequence

variable (named : canon target = target ∧ canon transport = transport)
include named

/-- An orderly call keeps the balance, and after a stop that exits 0 no session is left. -/
theorem call_balanced {s t : World} {i : Invocation} (h : Balanced target transport s)
    (settings : i.config.target = target ∧ i.config.transport = transport)
    (exec : Exec (Box canon) (i.action.script awk i.config) s i.events (ended i.outcome) t)
    (orderly : Orderly canon i) :
    Balanced target transport t ∧
      (i.action = .stop → i.status = 0 → Foreign target transport t.places) := by
  obtain ⟨action, config, events, outcome⟩ := i
  cases action with
  | start =>
    have balanced := (start_balanced awk named settings h).exec_noted exec
    refine ⟨?_, fun stop => by cases stop⟩
    cases outcome with
    | ok value => exact balanced orderly
    | error ending => exact balanced orderly
  | stop =>
    obtain foreign | ⟨base, owned, active⟩ := h
    · have meets : (Session.stop awk config).Meets (Noted canon) (fun _ => True)
          (fun _ t => Foreign target transport t.1.places)
          (fun _ t => Foreign target transport t.1.places) (s, []) :=
        Foreign.releases foreign releases_stop
      have released := meets.exec_noted exec
      have after : Foreign target transport t.places := by
        cases outcome with
        | ok value => exact released
        | error ending => exact released
      exact ⟨Or.inl after, fun _ _ => after⟩
    · have meets : (Session.stop awk config).Meets (Noted canon) (fun _ => True) (fun _ _ => False)
          (Stopped target transport) (s, []) := stop_stopped named active
      have stopped := meets.exec_noted exec
      cases outcome with
      | ok value => exact stopped.elim
      | error ending =>
        obtain foreign | ⟨still, failed⟩ := stopped orderly
        · exact ⟨Or.inl foreign, fun _ _ => foreign⟩
        · exact ⟨Or.inr still, fun _ zero => absurd zero failed⟩

theorem sequence_balanced {s t : World} {calls : List Invocation}
    (h : Sequence awk canon target transport s calls t) (start : Balanced target transport s)
    (orderly : ∀ i ∈ calls, Orderly canon i) : Balanced target transport t := by
  induction h with
  | nil => exact start
  | call before settings exec ih =>
    obtain ⟨past, last⟩ := List.forall_mem_append.mp orderly
    exact (call_balanced named (ih past) settings exec (last _ (List.mem_singleton_self _))).1

end sequence

/-- After a stop that exits 0 in a sequence of orderly calls, no mount of a session is left. -/
theorem mounts_balance {t : World} {calls : List Invocation} {stop : Invocation}
    (named : canon target = target ∧ canon transport = transport)
    (unmounted : ∀ m ∈ w.mounts, m.target ≠ target ∧ m.target ≠ transport ∧ m.bySession = false)
    (history : Sequence awk canon target transport w (calls ++ [stop]) t)
    (orderly : ∀ i ∈ calls ++ [stop], Orderly canon i) (stops : stop.action = .stop)
    (success : stop.status = 0) : ∀ m ∈ t.mounts, m.bySession = false := by
  have free : Foreign target transport w.places := by
    intro p member
    obtain ⟨m, known, rfl⟩ := List.mem_map.mp member
    exact unmounted m known
  obtain ⟨past, last⟩ := List.forall_mem_append.mp orderly
  have foreign : Foreign target transport t.places := by
    generalize whole : calls ++ [stop] = all at history
    cases history with
    | nil => exact absurd whole (by simp)
    | call before settings exec =>
      obtain ⟨rfl, same⟩ := List.append_inj' whole rfl
      obtain rfl := List.singleton_inj.mp same
      have balanced := sequence_balanced named before (Or.inl free) past
      exact (call_balanced named balanced settings exec
        (last _ (List.mem_singleton_self _))).2 stops success
  intro m member
  exact (foreign _ (List.mem_map_of_mem member)).2.2

section sample

/-- A call of the script on the system with this card. -/
def onCard (files : List Text) (s : World) (action : Action) (outcome : Except Ending Unit) :
    Invocation where
  action := action
  config := defaults
  events := (action.script .plain defaults).calls id (cardAnswer oneCard files) s
  outcome := outcome

theorem Sequence.onCard {files : List Text} {s t : World} {calls : List Invocation}
    {action : Action} {outcome : Except Ending Unit}
    (before : Sequence .plain id defaults.target defaults.transport w calls s)
    (ran : (action.script .plain defaults).run (cardAnswer oneCard files) s = some (outcome, t)) :
    Sequence .plain id defaults.target defaults.transport w
      (calls ++ [Session.onCard files s action outcome]) t :=
  .call before ⟨rfl, rfl⟩ (exec_run cardAnswer_box ran)

def rootMount : Mount := ⟨"/dev/root".toList, "/".toList, "rw".toList, false⟩

def cardPayload : Text := "/mnt/vita-storage/vita-toolkit.squashfs".toList

def cardFields : List (String × Text) :=
  sessionFields defaults ⟨cardPayload, defaults.transport, true, "discovered"⟩ sampleDigest "ro"
    "NONE".toList

def cardSession : World where
  mounts := [rootMount, cardMount,
    ⟨cardPayload, "/opt/vita-toolkit".toList, "loop,ro,nosuid,nodev".toList, true⟩]
  session := some (keyFile cardFields)

def cardStart : Invocation := onCard [cardPayload] ⟨[rootMount], none⟩ .start (.ok ())

def cardStop : Invocation := onCard [cardPayload] cardSession .stop (.error ⟨0, "stopped"⟩)

theorem cardStart_orderly : Orderly id cardStart := by
  have done : log id cardStart.events = [.transport, .image, .wrote cardFields] := by
    decide +kernel
  change ∀ fields, .wrote fields ∈ log id cardStart.events → Legible fields
  rw [done]
  intro fields written
  obtain rfl : fields = cardFields := by simpa using written
  have whole : ∀ field ∈ cardFields, '\n' ∉ field.2 := by decide +kernel
  exact legible_of_lines whole

theorem cardStop_orderly : Orderly id cardStop := by
  have done : log id cardStop.events = [.unmounted, .unmounted] := by decide +kernel
  change ¬ (.unmounted ∈ log id cardStop.events ∧ .refused ∈ log id cardStop.events)
  rw [done]
  decide

theorem card_sequence : Sequence .plain id defaults.target defaults.transport ⟨[rootMount], none⟩
    ([cardStart] ++ [cardStop]) ⟨[rootMount], none⟩ := by
  have started : (Action.start.script .plain defaults).run (cardAnswer oneCard [cardPayload])
      ⟨[rootMount], none⟩ = some (.ok (), cardSession) := by decide +kernel
  have stopped : (Action.stop.script .plain defaults).run (cardAnswer oneCard [cardPayload])
      cardSession = some (.error ⟨0, "stopped"⟩, ⟨[rootMount], none⟩) := by decide +kernel
  exact (Sequence.nil.onCard started).onCard stopped

/-- A session on a card with a payload, from its start to its stop. -/
theorem mounts_balance_card : ∃ t,
    Sequence .plain id defaults.target defaults.transport ⟨[rootMount], none⟩
        ([cardStart] ++ [cardStop]) t ∧
      cardStart.status = 0 ∧ cardStop.status = 0 ∧ ∀ m ∈ t.mounts, m.bySession = false := by
  have named : id defaults.target = defaults.target ∧
      id defaults.transport = defaults.transport := ⟨rfl, rfl⟩
  have free : ∀ m ∈ (⟨[rootMount], none⟩ : World).mounts,
      m.target ≠ defaults.target ∧ m.target ≠ defaults.transport ∧ m.bySession = false := by
    decide +kernel
  have orderly : ∀ i ∈ [cardStart] ++ [cardStop], Orderly id i :=
    List.forall_mem_append.mpr ⟨List.forall_mem_singleton.mpr cardStart_orderly,
      List.forall_mem_singleton.mpr cardStop_orderly⟩
  exact ⟨_, card_sequence, rfl, rfl, mounts_balance named free card_sequence orderly rfl rfl⟩

/-- A start that fails on a card without a payload, and a stop that exits 0: the card is
still mounted. -/
theorem stop_leaves_transport : ∃ calls stop t,
    Sequence .plain id defaults.target defaults.transport ⟨[], none⟩ (calls ++ [stop]) t ∧
      stop.action = .stop ∧ stop.status = 0 ∧ ∃ m ∈ t.mounts, m.bySession = true := by
  have started : (Action.start.script .plain defaults).run (cardAnswer oneCard []) ⟨[], none⟩ =
      some (.error ⟨1, "payload_missing"⟩, ⟨[cardMount], none⟩) := start_cardWithoutPayload
  have stopped : (Action.stop.script .plain defaults).run (cardAnswer oneCard [])
      ⟨[cardMount], none⟩ = some (.error ⟨0, "not_running"⟩, ⟨[cardMount], none⟩) := by
    decide +kernel
  have history := (Sequence.nil.onCard started).onCard stopped
  exact ⟨_, _, _, history, rfl, rfl, cardMount, List.mem_singleton_self _, rfl⟩

end sample

end VitaLinux.Toolkit.Session
