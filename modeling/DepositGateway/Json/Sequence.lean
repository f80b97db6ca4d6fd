import DepositGateway.Fault
import DepositGateway.Json.Value

/-!
# Values in a row

A list is run through by its items, a text by its characters and an object by its keys.

* `Json.elements`: what a value is run through by.
* `Json.item`: what stands at a place.
-/

namespace DepositGateway

namespace Json

/-- The values that a value is run through by; only lists, texts and objects have them. -/
def elements : Json → Except Fault (List Json)
  | .arr items => .ok items
  | .str units => .ok ((Utf16.characters units).map .str)
  | .obj members => .ok (members.map fun (key, _) => .str key)
  | _ => .error .badType

/-- What stands at a place of a list or a text; the keys of an object are no places. -/
def item (place : Nat) : Json → Except Fault Json
  | .arr items =>
    match items[place]? with
    | some value => .ok value
    | none => .error (.other ⟨.missingItem, none⟩)
  | .str units =>
    match (Utf16.characters units)[place]? with
    | some units => .ok (.str units)
    | none => .error (.other ⟨.missingItem, none⟩)
  | .obj _ => .error (.other ⟨.missingKey, none⟩)
  | _ => .error .badType

end Json

end DepositGateway
