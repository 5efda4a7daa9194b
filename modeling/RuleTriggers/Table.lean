import RuleTriggers.Ledger.Step
import RuleTriggers.Run
import RuleTriggers.Saved.SeatMap

/-!
A game table: one ledger for each seat. Commands go to one seat or to the table as a whole, and a
command that fails changes nothing.
-/

namespace RuleTriggers

/-- The ledgers of all who play. -/
abbrev Table := SeatMap Ledger

namespace Table

/-- The table for `count` players who have no triggers yet. -/
def new (count : Nat) : Except SeatFault Table := SeatMap.new count fun _ => Ledger.empty

def ofValue : Reader Table := SeatMap.ofValue Ledger.ofValue

def toValue (t : Table) : Value := SeatMap.toValue Ledger.toValue t

/-- The same ledgers at the same seats. -/
def Same (t u : Table) : Prop :=
  t.size = u.size ∧ ∀ p ∈ t.seats.zip u.seats, p.1.Same p.2

instance (t u : Table) : Decidable (Same t u) := inferInstanceAs (Decidable (_ ∧ _))

/-- A change to one ledger, or to the table as a whole. -/
inductive Command
  | seat (seat : Seat) (command : Ledger.Command)
  | deactivate (operator : Operator)
  | copy (source target : Seat)
  | load (value : Value)
  | reload

/-- What a command tells besides changing the table. -/
inductive Outcome
  | seat (outcome : Ledger.Outcome)
  | counts (counts : List (Seat × Nat))
  | done
  | players (count : Nat)
  | same (same : Bool)
  deriving DecidableEq

/-- A result whose failure is the fault of a seat. -/
def seatFault {α : Type} (r : Except SeatFault α) : Except Fault α := r.mapError .seat

/-- A result whose failure is a fault of what was loaded. -/
def loadFault {α : Type} (r : Except LoadError α) : Except Fault α := r.mapError .load

/-- The table after a command, or why the command failed. The seat is looked up before anything
the command gives is compiled or loaded. -/
def Command.run : Command → Table → Except Fault (Table × Outcome)
  | .seat s command, t => do
    let l ← seatFault (t.get s)
    let (l, outcome) ← command.run l
    let t ← seatFault (t.set s l)
    .ok (t, .seat outcome)
  | .deactivate o, t =>
    .ok (t.mapSeats fun _ l => (l.deactivate o).1,
      .counts (t.toList.map fun (s, l) => (s, (l.deactivate o).2)))
  | .copy source target, t => do
    let l ← seatFault (t.get source)
    let t ← seatFault (t.set target l)
    .ok (t, .done)
  | .load value, _ => do
    let t ← loadFault (ofValue value)
    .ok (t, .players t.size)
  | .reload, t => do
    let u ← loadFault (ofValue t.toValue)
    .ok (u, .same (Same u t))

/-- The table after a command, and what came of it; after a failure the table is as before. -/
def step (t : Table) (c : Command) : Table × Except Fault Outcome := settle Command.run c t

end Table

end RuleTriggers
