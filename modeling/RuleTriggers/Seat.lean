import RuleTriggers.Text.Decimal

/-!
Seats at a game table. A seat is known by a byte, so there are 256 of them and a count of seats is
taken modulo 256.
-/

namespace RuleTriggers

/-- A player's place, counted from zero. -/
structure Seat where
  index : UInt8
  deriving DecidableEq

namespace Seat

/-- Players are shown counted from one, in a byte like the seats: after the last of all 256 the
count starts over. -/
def text (s : Seat) : Text := 'p' :: Text.decimal (s.index + 1).toNat

/-- The seats below a count, in order. -/
def upTo (count : Nat) : List Seat := (List.range (count % 256)).map fun i => ⟨UInt8.ofNat i⟩

end Seat

end RuleTriggers
