import VitaLinux.Cart.Input.Snapshots

/-!
# What the engine believes of a device

Between a SYN_DROPPED and the next SYN_REPORT nothing of a device's events is accepted;
that report brings a snapshot. Keys and axes are what was accepted last since the last
snapshot, and otherwise what the snapshot says.
-/

namespace VitaLinux.Cart

/-! ## What is accepted -/

/-- Whether a SYN_DROPPED is open, the last snapshot and what was accepted since. -/
structure DeviceAccount where
  dropped : Bool
  snapshot : Option Snapshot
  accepted : List InputEvent

namespace DeviceAccount

def connected : DeviceAccount := { dropped := false, snapshot := none, accepted := [] }

/-- The account after an event and the snapshot that the device would give at it. -/
def after (account : DeviceAccount) (item : InputEvent × Snapshot) : DeviceAccount :=
  if item.1.type = EV_SYN ∧ item.1.code = SYN_DROPPED then { account with dropped := true }
  else if account.dropped then
    if item.1.type = EV_SYN ∧ item.1.code = SYN_REPORT then
      { dropped := false, snapshot := some item.2, accepted := [] }
    else account
  else { account with accepted := account.accepted ++ [item.1] }

def lastOf (account : DeviceAccount) (about : InputEvent → Bool) : Option InputEvent :=
  (account.accepted.filter about).getLast?

def isKey (code : Nat) (event : InputEvent) : Bool :=
  decide (event.type = EV_KEY ∧ event.code.toNat = code)

def isAxis (slot : AxisSlot) (event : InputEvent) : Bool :=
  decide (event.type = EV_ABS ∧ axisSlot event.code.toNat = some slot)

/-- Whether a key is down. At connect every key counts as up. -/
def held (account : DeviceAccount) (code : Nat) : Bool :=
  match account.lastOf (isKey code) with
  | some event => decide (event.value ≠ 0)
  | none =>
    match account.snapshot with
    | some snapshot => snapshot.keys code
    | none => false

/-- The value of an axis, `probed` at connect. -/
def raw (account : DeviceAccount) (probed : AxisSlot → Int32) (slot : AxisSlot) : Int32 :=
  match account.lastOf (isAxis slot) with
  | some event => event.value
  | none =>
    match account.snapshot with
    | some snapshot => snapshot.axes slot
    | none => probed slot

end DeviceAccount

/-! ## One event -/

namespace DeviceAccount

variable (account : DeviceAccount) (event : InputEvent)

theorem lastOf_accept (about : InputEvent → Bool) :
    lastOf { account with accepted := account.accepted ++ [event] } about =
      if about event then some event else account.lastOf about := by
  simp only [lastOf, List.filter_append]
  cases accepted : about event with
  | false => simp [accepted]
  | true => simp [accepted]

theorem held_accept (code : Nat) :
    held { account with accepted := account.accepted ++ [event] } code =
      if isKey code event then decide (event.value ≠ 0) else account.held code := by
  simp only [held, lastOf_accept]
  cases isKey code event <;> rfl

theorem raw_accept (probed : AxisSlot → Int32) (slot : AxisSlot) :
    raw { account with accepted := account.accepted ++ [event] } probed slot =
      if isAxis slot event then event.value else account.raw probed slot := by
  simp only [raw, lastOf_accept]
  cases isAxis slot event <;> rfl

end DeviceAccount

/-- The source is as the account has it. -/
structure CartInputSource.Agrees (source start : CartInputSource) (probed : AxisSlot → Int32)
    (account : DeviceAccount) : Prop where
  state : source.state = syncState account.dropped
  fd : source.fd = start.fd
  axisValid : source.axisValid = start.axisValid
  keys : ∀ code, code < 64 → source.heldKeys.getLsbD code = account.held code
  axes : ∀ slot, source.axisValid slot = true → source.lastRaw slot = account.raw probed slot

/-! ## consume_event by the state of the source -/

section Consume

variable {ops : CartInputOps} {engine : InputEngine} {index : SourceIndex} {event : InputEvent}

/-- In the DESYNC window an event other than SYN_REPORT is noted and changes nothing. -/
theorem consumeEvent_desync (desync : (engine.source index).state = .desync)
    (other : ¬ (event.type = EV_SYN ∧ event.code = SYN_REPORT)) :
    consumeEvent ops engine index event =
      engine.record [.consumed (engine.source index).fd event] := by
  simp only [consumeEvent, desync]
  by_cases sync : event.type = EV_SYN
  · have report : event.code ≠ SYN_REPORT := fun code => other ⟨sync, code⟩
    simp [sync, report]
  · rw [if_neg sync]
    split
    · rfl
    · split
      · split
        · rfl
        · rfl
      · rfl

theorem consumeEvent_report (desync : (engine.source index).state = .desync)
    (sync : event.type = EV_SYN) (report : event.code = SYN_REPORT) :
    (consumeEvent ops engine index event).source index =
      { (resyncAfterDesync ops (engine.source index)
          (.consumed (engine.source index).fd event :: engine.trace)).1 with
        state := .connected } := by
  have apart : ¬ (event.code = SYN_DROPPED ∧ (engine.source index).state = .connected) := by
    simp [desync]
  simp only [consumeEvent, if_pos sync, if_neg apart, if_pos (And.intro report desync)]
  exact InputEngine.source_setSource_self ..

theorem consumeEvent_dropped (connected : (engine.source index).state = .connected)
    (sync : event.type = EV_SYN) (dropped : event.code = SYN_DROPPED) :
    (consumeEvent ops engine index event).source index =
      { engine.source index with state := .desync } := by
  simp only [consumeEvent, if_pos sync, if_pos (And.intro dropped connected)]
  exact InputEngine.source_setSource_self ..

theorem consumeEvent_key (connected : (engine.source index).state = .connected)
    (key : event.type = EV_KEY) :
    (consumeEvent ops engine index event).source index =
      (engine.source index).holdKey event.code event.value := by
  have sync : event.type ≠ EV_SYN := by
    rw [key]
    decide
  simp only [consumeEvent, if_neg sync, if_pos key, if_pos connected, processKeyEvent]
  split
  · exact InputEngine.source_setSource_self ..
  · exact InputEngine.source_setSource_self ..

theorem consumeEvent_axis (connected : (engine.source index).state = .connected)
    (abs : event.type = EV_ABS) {slot : AxisSlot} (which : axisSlot event.code.toNat = some slot) :
    (consumeEvent ops engine index event).source index =
      { engine.source index with
        lastRaw := Function.update (engine.source index).lastRaw slot event.value } := by
  have sync : event.type ≠ EV_SYN := by
    rw [abs]
    decide
  have key : event.type ≠ EV_KEY := by
    rw [abs]
    decide
  simp only [consumeEvent, if_neg sync, if_neg key, if_pos abs, which, if_pos connected]
  exact InputEngine.source_setSource_self ..

/-- A connected source ignores every other event. -/
theorem consumeEvent_ignored (connected : (engine.source index).state = .connected)
    (dropped : ¬ (event.type = EV_SYN ∧ event.code = SYN_DROPPED))
    (key : event.type ≠ EV_KEY)
    (axis : ∀ slot, ¬ (event.type = EV_ABS ∧ axisSlot event.code.toNat = some slot)) :
    (consumeEvent ops engine index event).source index = engine.source index := by
  simp only [consumeEvent, connected]
  by_cases sync : event.type = EV_SYN
  · have code : event.code ≠ SYN_DROPPED := fun code => dropped ⟨sync, code⟩
    simp [sync, code]
  · rw [if_neg sync, if_neg key]
    split
    case isTrue abs =>
      cases which : axisSlot event.code.toNat with
      | none => rfl
      | some slot => exact absurd ⟨abs, which⟩ (axis slot)
    case isFalse => rfl

end Consume

section Agrees

variable {ops : CartInputOps} {engine : InputEngine} {index : SourceIndex}
  {start : CartInputSource} {probed : AxisSlot → Int32} {account : DeviceAccount}

/-- An accepted event that is about no key below 64 and no axis. -/
theorem CartInputSource.Agrees.accept {source : CartInputSource}
    (h : source.Agrees start probed account) (event : InputEvent)
    (key : ∀ code, code < 64 → DeviceAccount.isKey code event = false)
    (axis : ∀ slot, DeviceAccount.isAxis slot event = false) :
    source.Agrees start probed { account with accepted := account.accepted ++ [event] } where
  state := h.state
  fd := h.fd
  axisValid := h.axisValid
  keys := by
    intro code within
    rw [DeviceAccount.held_accept, key code within]
    exact h.keys code within
  axes := by
    intro slot valid
    rw [DeviceAccount.raw_accept, axis slot]
    exact h.axes slot valid

theorem CartInputSource.Agrees.key {source : CartInputSource}
    (h : source.Agrees start probed account) {event : InputEvent} (key : event.type = EV_KEY) :
    (source.holdKey event.code event.value).Agrees start probed
      { account with accepted := account.accepted ++ [event] } := by
  have same := source.holdKey_same event.code event.value
  have axes : (source.holdKey event.code event.value).axisValid = source.axisValid ∧
      (source.holdKey event.code event.value).lastRaw = source.lastRaw := by
    simp only [CartInputSource.holdKey]
    split
    · split
      · exact ⟨rfl, rfl⟩
      · exact ⟨rfl, rfl⟩
    · exact ⟨rfl, rfl⟩
  constructor
  · exact same.state.trans h.state
  · exact same.fd.trans h.fd
  · exact axes.1.trans h.axisValid
  · intro code within
    rw [DeviceAccount.held_accept, holdKey_getLsbD source _ _ within, h.keys code within]
    simp [DeviceAccount.isKey, key]
  · intro slot valid
    have apart : DeviceAccount.isAxis slot event = false := by
      simp [DeviceAccount.isAxis, key, EV_KEY, EV_ABS]
    rw [DeviceAccount.raw_accept, apart, axes.2]
    exact h.axes slot (axes.1 ▸ valid)

theorem CartInputSource.Agrees.axis {source : CartInputSource}
    (h : source.Agrees start probed account) {event : InputEvent} (abs : event.type = EV_ABS)
    {slot : AxisSlot} (which : axisSlot event.code.toNat = some slot) :
    ({ source with lastRaw := Function.update source.lastRaw slot event.value } :
      CartInputSource).Agrees start probed
        { account with accepted := account.accepted ++ [event] } := by
  constructor
  · exact h.state
  · exact h.fd
  · exact h.axisValid
  · intro code within
    have apart : DeviceAccount.isKey code event = false := by
      simp [DeviceAccount.isKey, abs, EV_KEY, EV_ABS]
    rw [DeviceAccount.held_accept, apart]
    exact h.keys code within
  · intro other valid
    rw [DeviceAccount.raw_accept]
    by_cases same : slot = other
    · subst same
      simp [DeviceAccount.isAxis, abs, which]
    · have value := h.axes other valid
      simp [DeviceAccount.isAxis, abs, which, same, Ne.symm same, value]

/-- A snapshot replaces keys and valid axes. -/
theorem CartInputSource.Agrees.report {source : CartInputSource}
    (h : source.Agrees start probed account) (answers : ops.Answers source.fd)
    (trace : InputTrace) :
    ({ (resyncAfterDesync ops source trace).1 with state := .connected } :
      CartInputSource).Agrees start probed
        { dropped := false, snapshot := some (.taken ops source trace), accepted := [] } := by
  obtain ⟨fd, valid, ⟨state, answer, held⟩, axes⟩ := resyncAfterDesync_answered answers trace
  constructor
  · rfl
  · exact fd.trans h.fd
  · exact valid.trans h.axisValid
  · intro code within
    have snapshot : (Snapshot.taken ops source trace).keys code = bitTest state code := by
      simp only [Snapshot.taken, answer]
    simp only [held, mergeKeyState_getLsbD state within]
    exact snapshot.symm
  · intro slot wanted
    exact axes slot (valid ▸ wanted)

/-- One event takes the account along. -/
theorem CartInputSource.Agrees.event (h : (engine.source index).Agrees start probed account)
    (answers : ops.Answers start.fd) (event : InputEvent) :
    ((consumeEvent ops engine index event).source index).Agrees start probed
      (account.after (event, .taken ops (engine.source index)
        (.consumed (engine.source index).fd event :: engine.trace))) := by
  have answers' : ops.Answers (engine.source index).fd := h.fd ▸ answers
  have state := h.state
  cases dropped : account.dropped with
  | true =>
    have desync : (engine.source index).state = .desync := by
      rw [state, dropped]
      rfl
    by_cases report : event.type = EV_SYN ∧ event.code = SYN_REPORT
    · have apart : ¬ (event.type = EV_SYN ∧ event.code = SYN_DROPPED) := by
        rw [report.2]
        exact fun both => absurd both.2 (by decide)
      rw [consumeEvent_report desync report.1 report.2, DeviceAccount.after, if_neg apart,
        if_pos dropped, if_pos report]
      exact h.report answers' _
    · have same : account.after (event, .taken ops (engine.source index)
          (.consumed (engine.source index).fd event :: engine.trace)) = account := by
        simp only [DeviceAccount.after, dropped, if_neg report]
        split
        · rw [← dropped]
        · rfl
      rw [consumeEvent_desync desync report, same]
      exact h
  | false =>
    have connected : (engine.source index).state = .connected := by
      rw [state, dropped]
      rfl
    have open_ : ¬ account.dropped = true := by simp [dropped]
    by_cases drop : event.type = EV_SYN ∧ event.code = SYN_DROPPED
    · rw [consumeEvent_dropped connected drop.1 drop.2, DeviceAccount.after, if_pos drop]
      exact ⟨rfl, h.fd, h.axisValid, h.keys, h.axes⟩
    · rw [DeviceAccount.after, if_neg drop, if_neg open_]
      by_cases key : event.type = EV_KEY
      · rw [consumeEvent_key connected key]
        exact h.key key
      · by_cases axis : ∃ slot, event.type = EV_ABS ∧ axisSlot event.code.toNat = some slot
        · obtain ⟨slot, abs, which⟩ := axis
          rw [consumeEvent_axis connected abs which]
          exact h.axis abs which
        · have apart (slot : AxisSlot) :
              ¬ (event.type = EV_ABS ∧ axisSlot event.code.toNat = some slot) :=
            fun both => axis ⟨slot, both⟩
          rw [consumeEvent_ignored connected drop key apart]
          apply h.accept
          · intro code _
            simp [DeviceAccount.isKey, key]
          · intro slot
            exact decide_eq_false (apart slot)

end Agrees

end VitaLinux.Cart
