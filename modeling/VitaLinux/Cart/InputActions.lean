import Mathlib.Data.List.Basic

/-!
# cart/src/input_actions.c
-/

namespace VitaLinux.Cart

inductive CartInputAction where
  | none
  | next
  | previous
  | select
  | back
  | menu
  | quit
  deriving DecidableEq, Repr

/-- `KEY_ACTION_TABLE`: key codes and the actions they stand for. -/
def KEY_ACTION_TABLE : List (BitVec 16 × CartInputAction) :=
  [(1, .quit), (16, .quit), (304, .select), (305, .back), (307, .next), (308, .previous),
   (310, .previous), (311, .next), (314, .menu), (315, .menu), (316, .quit),
   (546, .previous), (547, .next)]

/-- `cart_input_map_key` -/
def mapKey (code : BitVec 16) : CartInputAction :=
  match KEY_ACTION_TABLE.find? fun row => row.1 == code with
  | some row => row.2
  | Option.none => .none

/-- `cart_input_key_emits_action` -/
def keyEmitsAction (value : BitVec 16) : Bool := value == 1

end VitaLinux.Cart
