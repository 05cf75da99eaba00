import VitaLinux.Cart.Input.ActionQueue
import VitaLinux.Cart.Input.OneSource

/-!
# When an event queues an action

`cart_input_key_emits_action` takes a `uint16_t`, the value of an event has 32 bits.
A press is recognised by the low half of the value.
-/

namespace VitaLinux.Cart

/-- The code has a row in the action map. -/
def HasRow (code : BitVec 16) : Prop := ∃ row ∈ KEY_ACTION_TABLE, row.1 = code

/-- Consuming the event adds an action to the queue. -/
def QueuesAction (ops : CartInputOps) (moment : Consumption) : Prop :=
  ∃ action, (consumeEvent ops moment.engine moment.index moment.event).input.pending =
    moment.engine.input.pending ++ [action]

/-- A key event of a connected source whose code has a row. -/
def Consumption.MappedKey (moment : Consumption) : Prop :=
  (moment.engine.source moment.index).state = .connected ∧ moment.event.type = EV_KEY ∧
    HasRow moment.event.code

/-- What the header promises to emit: the press of a mapped key. -/
def Consumption.Press (moment : Consumption) : Prop :=
  moment.MappedKey ∧ moment.event.value = 1

/-- The low half of a value. -/
def lowHalf (value : Int32) : BitVec 16 := value.toBitVec.setWidth 16

theorem KEY_ACTION_TABLE_actions : ∀ row ∈ KEY_ACTION_TABLE, row.2 ≠ .none := by
  decide

theorem mapKey_ne_none_iff {code : BitVec 16} : mapKey code ≠ .none ↔ HasRow code := by
  simp only [mapKey, HasRow]
  cases found : KEY_ACTION_TABLE.find? fun row => row.1 == code with
  | none =>
    have missing := List.find?_eq_none.mp found
    constructor
    · intro h
      exact absurd rfl h
    · rintro ⟨row, member, same⟩
      exact absurd (beq_iff_eq.mpr same) (missing row member)
  | some row =>
    have member := List.mem_of_find?_eq_some found
    have same : row.1 = code := by simpa using List.find?_some found
    exact iff_of_true (KEY_ACTION_TABLE_actions row member) ⟨row, member, same⟩

theorem emittedAction_ne_none_iff {code : BitVec 16} {value : Int32} :
    emittedAction code value ≠ .none ↔ lowHalf value = 1 ∧ HasRow code := by
  rw [← mapKey_ne_none_iff, emittedAction, keyEmitsAction]
  split
  case isTrue press => exact (and_iff_right (beq_iff_eq.mp press)).symm
  case isFalse other =>
    constructor
    · intro h
      exact absurd rfl h
    · rintro ⟨press, _⟩
      exact absurd (beq_iff_eq.mpr press) other

/-- With room in the queue, what is queued is what the low half of the value makes a press. -/
theorem queuesAction_iff (ops : CartInputOps) {moment : Consumption}
    (room : moment.engine.input.pending.length < PENDING_CAP) :
    QueuesAction ops moment ↔ moment.MappedKey ∧ lowHalf moment.event.value = 1 := by
  have emits : moment.action ≠ .none ↔ moment.MappedKey ∧ lowHalf moment.event.value = 1 := by
    simp only [Consumption.action, Consumption.MappedKey]
    split
    case isTrue key =>
      rw [emittedAction_ne_none_iff]
      simp only [key, true_and]
      exact and_comm
    case isFalse other =>
      constructor
      · intro h
        exact absurd rfl h
      · rintro ⟨⟨connected, key, _⟩, _⟩
        exact absurd ⟨key, connected⟩ other
  rw [← emits, QueuesAction, consumeEvent_pending, enqueueAction, if_pos room]
  split
  case isTrue quiet =>
    simp only [quiet, ne_eq, not_true_eq_false, iff_false]
    rintro ⟨action, same⟩
    have lengths := congrArg List.length same
    simp at lengths
  case isFalse emitted =>
    exact iff_of_true ⟨moment.action, rfl⟩ emitted

theorem lowHalf_one : lowHalf 1 = 1 := by decide

/-- **An event queues an action exactly for the press of a mapped key, as long as
no other value of a mapped key has 1 in its low half.** -/
theorem emission_rule_iff (ops : CartInputOps) (moment : Consumption)
    (room : moment.engine.input.pending.length < PENDING_CAP) :
    (QueuesAction ops moment ↔ moment.Press) ↔
      (moment.MappedKey → lowHalf moment.event.value = 1 → moment.event.value = 1) := by
  rw [queuesAction_iff ops room, Consumption.Press]
  constructor
  · intro h mapped low
    exact (h.mp ⟨mapped, low⟩).2
  · intro h
    constructor
    · rintro ⟨mapped, low⟩
      exact ⟨mapped, h mapped low⟩
    · rintro ⟨mapped, press⟩
      exact ⟨mapped, press ▸ lowHalf_one⟩

/-- The memory after an initialisation, with one source connected. -/
def connectedEngine : InputEngine :=
  (InputEngine.blank []).setSource 0 { resetSource with fd := 3, state := .connected }

/-- Key code 1 of the first source, with this value. -/
def escapeEvent (value : Int32) : Consumption := ⟨connectedEngine, 0, ⟨EV_KEY, 1, value⟩⟩

theorem emission_rule_press :
    (escapeEvent 1).engine.input.pending.length < PENDING_CAP ∧
      (QueuesAction idlePad (escapeEvent 1) ↔ (escapeEvent 1).Press) :=
  ⟨by decide, (emission_rule_iff idlePad (escapeEvent 1) (by decide)).mpr fun _ _ => rfl⟩

/-- The value 65537 is no press, and queues an action. -/
theorem large_value_queues :
    ¬ ∀ (ops : CartInputOps) (moment : Consumption),
      moment.engine.input.pending.length < PENDING_CAP →
        (QueuesAction ops moment ↔ moment.Press) := by
  intro rule
  have queued : QueuesAction idlePad (escapeEvent 65537) := ⟨.quit, by decide⟩
  have press := ((rule idlePad (escapeEvent 65537) (by decide)).mp queued).2
  exact absurd press (by decide)

end VitaLinux.Cart
