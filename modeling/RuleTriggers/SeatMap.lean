import RuleTriggers.Seat

/-!
What is kept for each seat of a table. A table is set up for one to four players, but may be
loaded with any number of seats; walking it visits the seats below that number as seats count.
-/

namespace RuleTriggers

/-- Why a table cannot be set up, or has nothing for a seat. -/
inductive SeatFault
  | noPlayers
  | tooManyPlayers
  | noSeat (count : Nat) (index : Nat)
  deriving DecidableEq

/-- The most players that a table is set up for. -/
def maxSeats : Nat := 4

def SeatFault.message : SeatFault → String
  | noPlayers => "Must have at least 1 player"
  | tooManyPlayers =>
    "At most " ++ String.ofList (Text.decimal maxSeats) ++ " players supported"
  | noSeat count index =>
    "index out of bounds: the len is " ++ String.ofList (Text.decimal count) ++
      " but the index is " ++ String.ofList (Text.decimal index)

/-- One thing for each seat. -/
structure SeatMap (α : Type) where
  seats : List α
  deriving DecidableEq

namespace SeatMap

variable {α β : Type}

/-- A table for `count` players, with what `make` gives to each seat. -/
def new (count : Nat) (make : Seat → α) : Except SeatFault (SeatMap α) :=
  if count = 0 then .error .noPlayers
  else if maxSeats < count then .error .tooManyPlayers
  else .ok ⟨(Seat.upTo count).map make⟩

/-- How many seats there are, whether walked or not. -/
def size (m : SeatMap α) : Nat := m.seats.length

/-- What a seat has. -/
def get (m : SeatMap α) (s : Seat) : Except SeatFault α :=
  match m.seats[s.index.toNat]? with
  | some a => .ok a
  | none => .error (.noSeat m.size s.index.toNat)

/-- Puts something in the place of what a seat has. -/
def set (m : SeatMap α) (s : Seat) (a : α) : Except SeatFault (SeatMap α) :=
  if s.index.toNat < m.size then .ok ⟨m.seats.set s.index.toNat a⟩
  else .error (.noSeat m.size s.index.toNat)

/-- The seats that are walked, each with what it has. -/
def toList (m : SeatMap α) : List (Seat × α) := (Seat.upTo m.size).zip m.seats

/-- Changes what each seat has that is walked, and leaves the others. -/
def mapSeats (m : SeatMap α) (f : Seat → α → α) : SeatMap α :=
  ⟨m.toList.map (fun (s, a) => f s a) ++ m.seats.drop m.toList.length⟩

end SeatMap

end RuleTriggers
