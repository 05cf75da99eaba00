import VitaLinux.Cart.Input.ActionQueue
import VitaLinux.Cart.Input.Descriptors
import VitaLinux.Cart.Input.DeviceAccount

/-!
# A source over any sequence of events

The events of one source come between steps that leave it alone: reads, other sources and
discoveries.
-/

namespace VitaLinux.Cart

/-- The events that `consume_event` is given for one source, with what happens in
between: anything that leaves the source as it is. -/
inductive Consumes (ops : CartInputOps) (index : SourceIndex) (engine : InputEngine) :
    List (InputEvent × Snapshot) → InputEngine → Prop
  | refl : Consumes ops index engine [] engine
  | event {history : List (InputEvent × Snapshot)} {engine' : InputEngine}
      (before : Consumes ops index engine history engine') (event : InputEvent) :
      Consumes ops index engine
        (history ++ [(event, .taken ops (engine'.source index)
          (.consumed (engine'.source index).fd event :: engine'.trace))])
        (consumeEvent ops engine' index event)
  | other {history : List (InputEvent × Snapshot)} {engine' engine'' : InputEngine}
      (before : Consumes ops index engine history engine')
      (same : engine''.source index = engine'.source index) :
      Consumes ops index engine history engine''

theorem Consumes.agrees {ops : CartInputOps} {index : SourceIndex} {engine engine' : InputEngine}
    {history : List (InputEvent × Snapshot)} {start : CartInputSource}
    {probed : AxisSlot → Int32} {account : DeviceAccount}
    (h : Consumes ops index engine history engine')
    (agrees : (engine.source index).Agrees start probed account)
    (answers : ops.Answers start.fd) :
    (engine'.source index).Agrees start probed (history.foldl DeviceAccount.after account) := by
  induction h with
  | refl => exact agrees
  | event _ event ih =>
    rw [List.foldl_append, List.foldl_cons, List.foldl_nil]
    exact ih.event answers event
  | other _ same ih => exact same ▸ ih

/-- The account has a SYN_DROPPED open when the events do. -/
theorem account_dropped (history : List (InputEvent × Snapshot)) :
    (history.foldl DeviceAccount.after .connected).dropped =
      openDrop (history.map Prod.fst) := by
  have from_ (history : List (InputEvent × Snapshot)) : ∀ account : DeviceAccount,
      (history.foldl DeviceAccount.after account).dropped =
        (history.map Prod.fst).foldl dropAfter account.dropped := by
    induction history with
    | nil => exact fun _ => rfl
    | cons item history ih =>
      intro account
      rw [List.foldl_cons, ih, List.map_cons, List.foldl_cons]
      congr 1
      simp only [DeviceAccount.after, dropAfter]
      by_cases sync : item.1.type = EV_SYN
      · by_cases dropped : item.1.code = SYN_DROPPED
        · simp [sync, dropped]
        · by_cases report : item.1.code = SYN_REPORT
          · have apart : SYN_REPORT ≠ SYN_DROPPED := by decide
            cases account.dropped <;> simp [sync, report, apart]
          · cases open_ : account.dropped <;> simp [sync, dropped, report, open_]
      · cases open_ : account.dropped <;> simp [sync, open_]
  exact from_ history .connected

/-- Whatever a connected source was given, its keys and valid axes are what was accepted
last since the last snapshot, or the snapshot. While a SYN_DROPPED is open an event only
leaves a note, up to the SYN_REPORT that brings a snapshot. -/
theorem device_model {ops : CartInputOps} {entry : DirEntry} {trace probed : InputTrace}
    {candidate : CartInputCandidate} {index : SourceIndex} {engine engine' : InputEngine}
    {history : List (InputEvent × Snapshot)}
    (found : discoverEntry ops entry trace = (some candidate, probed))
    (answers : ops.Answers candidate.fd) (claimed : engine.source index = candidate.claimed)
    (consumed : Consumes ops index engine history engine') :
    let account := history.foldl DeviceAccount.after .connected
    let source := engine'.source index
    (∀ code, code < 64 → source.heldKeys.getLsbD code = account.held code) ∧
    (∀ slot, source.axisValid slot = true →
      source.lastRaw slot = account.raw (probedAxes ops entry trace) slot) ∧
    (openDrop (history.map Prod.fst) = true → ∀ event : InputEvent,
      ¬ (event.type = EV_SYN ∧ event.code = SYN_REPORT) →
        consumeEvent ops engine' index event = engine'.record [.consumed source.fd event]) ∧
    (openDrop (history.map Prod.fst) = true → ∀ event : InputEvent,
      event.type = EV_SYN → event.code = SYN_REPORT →
        let snapshot := Snapshot.taken ops source (.consumed source.fd event :: engine'.trace)
        let source' := (consumeEvent ops engine' index event).source index
        (∀ code, code < 64 → source'.heldKeys.getLsbD code = snapshot.keys code) ∧
          ∀ slot, source'.axisValid slot = true → source'.lastRaw slot = snapshot.axes slot) := by
  intro account source
  obtain ⟨held, axes⟩ := claimed_answered found answers
  have start : (engine.source index).Agrees candidate.claimed (probedAxes ops entry trace)
      .connected := by
    rw [claimed]
    refine ⟨rfl, rfl, rfl, ?_, axes⟩
    intro code _
    rw [held]
    simp [DeviceAccount.held, DeviceAccount.lastOf, DeviceAccount.connected]
  have agrees : source.Agrees candidate.claimed (probedAxes ops entry trace) account :=
    consumed.agrees start answers
  have dropped : account.dropped = openDrop (history.map Prod.fst) := account_dropped history
  have state := agrees.state
  rw [dropped] at state
  refine ⟨agrees.keys, agrees.axes, ?_, ?_⟩
  · intro drop event other
    rw [drop] at state
    exact consumeEvent_desync state other
  · intro drop event sync report
    rw [drop] at state
    have answers' : ops.Answers source.fd := agrees.fd ▸ answers
    have next := agrees.report answers' (.consumed source.fd event :: engine'.trace)
    rw [← consumeEvent_report state sync report] at next
    exact ⟨next.keys, next.axes⟩

/-- A key is pressed, and released while a SYN_DROPPED is open: it counts as down until
the report brings a snapshot without it. -/
theorem device_model_window :
    ∃ candidate probed, discoverEntry brokenPads ⟨"event0", none, some "pad", ""⟩ [] =
        (some candidate, probed) ∧
      let connected := (InputEngine.blank []).setSource 0 candidate.claimed
      let pressed := consumeEvent brokenPads connected 0 ⟨EV_KEY, 30, 1⟩
      let dropped := consumeEvent brokenPads pressed 0 ⟨EV_SYN, SYN_DROPPED, 0⟩
      let released := consumeEvent brokenPads dropped 0 ⟨EV_KEY, 30, 0⟩
      let reported := consumeEvent brokenPads released 0 ⟨EV_SYN, SYN_REPORT, 0⟩
      (released.source 0).heldKeys.getLsbD 30 = true ∧
        (reported.source 0).heldKeys.getLsbD 30 = false := by
  have some_ : (discoverEntry brokenPads ⟨"event0", none, some "pad", ""⟩ []).1.isSome = true := by
    decide +kernel
  obtain ⟨candidate, found⟩ := Option.isSome_iff_exists.mp some_
  refine ⟨candidate, _, Prod.ext found rfl, ?_⟩
  obtain ⟨keys, _, _, report⟩ := device_model (Prod.ext found rfl) (fun _ => ⟨rfl, fun _ => rfl⟩)
    (InputEngine.source_setSource_self (InputEngine.blank []) 0 candidate.claimed)
    (((Consumes.refl.event ⟨EV_KEY, 30, 1⟩).event ⟨EV_SYN, SYN_DROPPED, 0⟩).event
      ⟨EV_KEY, 30, 0⟩)
  exact ⟨(keys 30 (by decide)).trans rfl,
    ((report rfl ⟨EV_SYN, SYN_REPORT, 0⟩ rfl rfl).1 30 (by decide)).trans rfl⟩

end VitaLinux.Cart
