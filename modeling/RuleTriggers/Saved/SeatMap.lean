import RuleTriggers.Saved.Value
import RuleTriggers.SeatMap

/-!
Saved tables: an object with one field, the list of what the seats have, or a list of that list
alone. The number of seats is not checked.
-/

namespace RuleTriggers

/-- A byte that says which seat. -/
def Seat.ofValue : Reader Seat := fun v => do
  let i ← v.readInt .byte 0 255
  .ok ⟨UInt8.ofNat i.toNat⟩

namespace SeatMap

variable {α : Type}

def seatsField : Text := ['s', 'e', 'a', 't', 's']

def ofParts (read : Reader α) (parts : List Value) : Except LoadError (SeatMap α) :=
  match parts with
  | [] => .error (.tooShort 0 .seatMap 1)
  | seats :: rest => do
    let seats ← seats.readList read
    if rest = [] then .ok ⟨seats⟩ else .error (.tooLong parts.length)

/-- A table, with what each seat has read by `read`. -/
def ofValue (read : Reader α) : Reader (SeatMap α)
  | .object fields => do
    let seats ← Value.readField? (Value.readList read) fields seatsField
    let seats ← Value.require seatsField seats
    .ok ⟨seats⟩
  | .list parts => ofParts read parts
  | v => .error (.wrongForm v .seatMap)

def toValue (write : α → Value) (m : SeatMap α) : Value :=
  .object [(seatsField, .list (m.seats.map write))]

end SeatMap

end RuleTriggers
