import RuleTriggers.Proofs.Run
import RuleTriggers.Proofs.SeatMap
import RuleTriggers.Table

/-!
What is done at one seat of a table does not reach another. A turn is either taken at one seat or
means the same to all of them, so a seat goes through its own part of a session as a ledger would
on its own, and how the parts are interleaved makes no difference.
-/

namespace RuleTriggers

/-- What is done at a table: by one player, or by all of them at once. -/
inductive Turn
  | seat (seat : Seat) (command : Ledger.Command)
  | everyone (operator : Operator)

namespace Turn

def toCommand : Turn → Table.Command
  | seat p c => .seat p c
  | everyone o => .deactivate o

/-- The table after a turn, with what the turn tells, or why it failed. -/
def run (turn : Turn) : Table → Except Fault (Table × Table.Outcome) := turn.toCommand.run

/-- What a turn comes to at one seat, if it is about that seat. -/
def at? (s : Seat) : Turn → Option Ledger.Command
  | seat p c => if p = s then some c else none
  | everyone o => some (.deactivate o)

/-- Of what came of a turn, what is about one seat. -/
def share? (s : Seat) :
    Turn → Except Fault Table.Outcome → Option (Except Fault Ledger.Outcome)
  | seat p _, .ok (.seat outcome) => if p = s then some (.ok outcome) else none
  | seat p _, .error fault => if p = s then some (.error fault) else none
  | everyone _, .ok (.counts counts) => (counts.find? (·.1 = s)).map fun p => .ok (.count p.2)
  | _, _ => none

/-- The part of a session that is about one seat. -/
def part (s : Seat) (turns : List Turn) : List Ledger.Command := turns.filterMap (at? s)

/-- Of what came of a session, what is about one seat. -/
def shares (s : Seat) (turns : List Turn) (told : List (Except Fault Table.Outcome)) :
    List (Except Fault Ledger.Outcome) :=
  RuleTriggers.shares (share? s) turns told

end Turn

namespace Table

/-- The ledger at a seat of a table that is not so large that walking it misses seats. -/
def Has (s : Seat) (t : Table) (l : Ledger) : Prop := t.size < 256 ∧ t.get s = .ok l

variable {t : Table} {s : Seat} {l : Ledger} {turn : Turn}

/-! ### One turn -/

/-- A turn at a seat does to its ledger what the command does, and tells what the command tells. -/
lemma settle_seat (hl : t.get s = .ok l) (c : Ledger.Command) :
    settle Turn.run (.seat s c) t =
      (⟨t.seats.set s.index.toNat (settle Ledger.Command.run c l).1⟩,
        (settle Ledger.Command.run c l).2.map .seat) := by
  have hlt : s.index.toNat < t.size := SeatMap.lt_size_of_get hl
  have hsame : t.seats.set s.index.toNat l = t.seats := by
    obtain ⟨h, rfl⟩ := List.getElem?_eq_some_iff.mp (SeatMap.get_eq_ok_iff.mp hl)
    exact List.set_getElem_self h
  have hrun : Turn.run (.seat s c) t = (c.run l).bind fun next =>
      (seatFault (t.set s next.1)).bind fun u => .ok (u, .seat next.2) := by
    have hget : Turn.run (.seat s c) t = (seatFault (t.get s)).bind fun l =>
        (c.run l).bind fun next =>
          (seatFault (t.set s next.1)).bind fun u => .ok (u, .seat next.2) := rfl
    rw [hget, hl]
    rfl
  cases hc : c.run l with
  | error fault =>
    rw [hc] at hrun
    rw [settle_of_error hc, hsame]
    exact settle_of_error hrun
  | ok next =>
    have hset : t.set s next.1 = .ok ⟨t.seats.set s.index.toNat next.1⟩ := if_pos hlt
    simp only [hc, Except.bind, hset] at hrun
    rw [settle_of_ok hc]
    exact settle_of_ok hrun

/-- At a seat that the table does not have, nothing is done. -/
lemma settle_seat_of_error {fault : SeatFault} (h : t.get s = .error fault) (c : Ledger.Command) :
    settle Turn.run (.seat s c) t = (t, .error (.seat fault)) := by
  refine settle_of_error ?_
  simp [Turn.run, Turn.toCommand, Command.run, seatFault, h, Except.mapError, bind, Except.bind]

lemma size_settle (turn : Turn) (t : Table) : (settle Turn.run turn t).1.size = t.size := by
  cases turn with
  | seat p c =>
    cases hp : t.get p with
    | ok l =>
      rw [settle_seat hp]
      exact List.length_set
    | error fault => rw [settle_seat_of_error hp]
  | everyone o => exact t.size_mapSeats_eq fun _ l => (l.deactivate o).1

/-- A turn at another seat changes nothing at this one, and tells it nothing. -/
lemma has_settle_of_none (h : t.Has s l) (hturn : turn.at? s = none) :
    (settle Turn.run turn t).1.Has s l ∧ turn.share? s (settle Turn.run turn t).2 = none := by
  have hsize : (settle Turn.run turn t).1.size < 256 := (size_settle turn t).symm ▸ h.1
  cases turn with
  | everyone o => cases hturn
  | seat p c =>
    have hps : p ≠ s := by simpa [Turn.at?] using hturn
    cases hp : t.get p with
    | error fault =>
      rw [settle_seat_of_error hp]
      exact ⟨h, if_neg hps⟩
    | ok k =>
      rw [settle_seat hp] at hsize ⊢
      refine ⟨⟨hsize, ?_⟩, ?_⟩
      · have hindex : p.index.toNat ≠ s.index.toNat := fun e => hps (Seat.eq_of_index_eq e)
        rw [SeatMap.get_eq_ok_iff, List.getElem?_set_ne hindex]
        exact SeatMap.get_eq_ok_iff.mp h.2
      · cases (settle Ledger.Command.run c k).2 <;> exact if_neg hps

/-- A turn that is about this seat does to its ledger what it comes to there. -/
lemma has_settle_of_some {c : Ledger.Command} (h : t.Has s l) (hturn : turn.at? s = some c) :
    (settle Turn.run turn t).1.Has s (settle Ledger.Command.run c l).1 ∧
      turn.share? s (settle Turn.run turn t).2 = some (settle Ledger.Command.run c l).2 := by
  have hsize : (settle Turn.run turn t).1.size < 256 := (size_settle turn t).symm ▸ h.1
  have hlt : s.index.toNat < t.size := SeatMap.lt_size_of_get h.2
  cases turn with
  | seat p d =>
    obtain ⟨rfl, rfl⟩ : p = s ∧ d = c := by simpa [Turn.at?] using hturn
    rw [settle_seat h.2] at hsize ⊢
    refine ⟨⟨hsize, ?_⟩, ?_⟩
    · rw [SeatMap.get_eq_ok_iff]
      exact List.getElem?_set_self hlt
    · cases (settle Ledger.Command.run d l).2 <;> exact if_pos rfl
  | everyone o =>
    obtain rfl := Option.some.inj hturn
    have hwalked : s.index.toNat < t.size % 256 := by rwa [Nat.mod_eq_of_lt h.1]
    refine ⟨⟨hsize, SeatMap.get_mapSeats_of_get hwalked h.2 fun _ l => (l.deactivate o).1⟩, ?_⟩
    have hfind : (t.toList.map fun q => (q.1, (q.2.deactivate o).2)).find? (·.1 = s) =
        some (s, (l.deactivate o).2) := by
      rw [List.find?_map]
      exact congrArg (Option.map _) (SeatMap.find?_toList_of_get hwalked h.2)
    exact congrArg (Option.map _) hfind

/-! ### Sessions -/

lemma size_play (turns : List Turn) (t : Table) : (play Turn.run turns t).1.size = t.size := by
  have hsettle : ∀ turn u, u.size = t.size → (settle Turn.run turn u).1.size = t.size :=
    fun turn u h => (size_settle turn u).trans h
  exact fst_play hsettle turns rfl

/-- A seat goes through its part of a session as its ledger would on its own. -/
lemma has_play (h : t.Has s l) (turns : List Turn) :
    (play Turn.run turns t).1.Has s (play Ledger.Command.run (Turn.part s turns) l).1 ∧
      Turn.shares s turns (play Turn.run turns t).2 =
        (play Ledger.Command.run (Turn.part s turns) l).2 :=
  play_filterMap has_settle_of_none has_settle_of_some turns h

/-- A table is set up for one to four, with nothing at any seat. -/
lemma exists_new {count : Nat} (hpos : 0 < count) (hmax : count ≤ maxSeats) :
    ∃ t, new count = .ok t ∧ t.size = count ∧
      ∀ s : Seat, s.index.toNat < count → t.get s = .ok Ledger.empty := by
  have hnew : new count = .ok ⟨(Seat.upTo count).map fun _ => Ledger.empty⟩ := by
    unfold new SeatMap.new
    rw [if_neg (Nat.ne_of_gt hpos), if_neg (Nat.not_lt.mpr hmax)]
  refine ⟨_, hnew, (SeatMap.size_of_new hnew).1, fun s hs => ?_⟩
  have hmod : count % 256 = count := Nat.mod_eq_of_lt (Nat.lt_of_le_of_lt hmax (by decide))
  have hseat : (Seat.upTo count)[s.index.toNat]? = some s :=
    Seat.getElem?_upTo_eq_some_iff.mpr ⟨by rwa [hmod], rfl⟩
  rw [SeatMap.get_eq_ok_iff, List.getElem?_map, hseat]
  rfl

/-- **Seats are isolated.** At a table for one to four, whatever happens in a session, the ledger
of each seat is in the end what its own part of the session makes of an empty ledger, and is told
the same; turns that fail, as all do at a seat that is not there, change nothing. So sessions with
the same parts, interleaved in any way, end in the same table. -/
theorem session_isolated {count : Nat} (hpos : 0 < count) (hmax : count ≤ maxSeats) :
    ∃ t, new count = .ok t ∧
      (∀ (turns : List Turn) (s : Seat), s.index.toNat < count →
        (play Turn.run turns t).1.get s =
            .ok (play Ledger.Command.run (Turn.part s turns) Ledger.empty).1 ∧
          Turn.shares s turns (play Turn.run turns t).2 =
            (play Ledger.Command.run (Turn.part s turns) Ledger.empty).2) ∧
      (∀ turns turn fault, (settle Turn.run turn (play Turn.run turns t).1).2 = .error fault →
        (settle Turn.run turn (play Turn.run turns t).1).1 = (play Turn.run turns t).1) ∧
      (∀ turns (s : Seat) c, count ≤ s.index.toNat →
        (settle Turn.run (.seat s c) (play Turn.run turns t).1).2 =
          .error (.seat (.noSeat count s.index.toNat))) ∧
      ∀ turns turns' : List Turn,
        (∀ s : Seat, s.index.toNat < count → Turn.part s turns = Turn.part s turns') →
          (play Turn.run turns t).1 = (play Turn.run turns' t).1 := by
  obtain ⟨t, hnew, hsize, hempty⟩ := exists_new hpos hmax
  have hlt : t.size < 256 := by
    unfold maxSeats at hmax
    omega
  have hsession (turns : List Turn) : (play Turn.run turns t).1.size = count :=
    (size_play turns t).trans hsize
  have hseat (turns : List Turn) (s : Seat) (hs : s.index.toNat < count) :=
    has_play ⟨hlt, hempty s hs⟩ turns
  refine ⟨t, hnew, fun turns s hs => ⟨(hseat turns s hs).1.2, (hseat turns s hs).2⟩,
    fun turns turn fault h => fst_settle_of_error h, fun turns s c hs => ?_,
    fun turns turns' h => ?_⟩
  · have hget := SeatMap.get_of_size_le ((hsession turns).symm ▸ hs)
    rw [settle_seat_of_error hget, hsession]
  · refine SeatMap.eq_of_get_eq ((hsession turns).trans (hsession turns').symm) ?_ fun s hs => ?_
    · rw [size_play]
      exact Nat.le_of_lt hlt
    · rw [hsession] at hs
      rw [(hseat turns s hs).1.2, (hseat turns' s hs).1.2, h s hs]

/-- Two players take turns. The third turn fails for want of a trigger in the bucket, the fourth
for want of a resource, and the fifth for want of a seat. -/
def takingTurns : List Turn :=
  [.seat ⟨0⟩ (.add ["+k".toList] (.tech .gaia)),
    .seat ⟨1⟩ (.add ["=> q!".toList] (.tech .gaia)),
    .seat ⟨1⟩ (.setActivated (.known .pass) 0 true),
    .seat ⟨0⟩ (.add ["+3".toList] (.tech .gaia)),
    .seat ⟨2⟩ .clear,
    .everyone (.known .activate)]

/-- The same turns, those of the second player first. -/
def secondFirst : List Turn :=
  [.seat ⟨1⟩ (.add ["=> q!".toList] (.tech .gaia)),
    .seat ⟨1⟩ (.setActivated (.known .pass) 0 true),
    .seat ⟨0⟩ (.add ["+k".toList] (.tech .gaia)),
    .seat ⟨0⟩ (.add ["+3".toList] (.tech .gaia)),
    .everyone (.known .activate)]

theorem session_takingTurns_secondFirst :
    ∃ t, new 2 = .ok t ∧ (play Turn.run takingTurns t).1 = (play Turn.run secondFirst t).1 ∧
      Turn.shares ⟨0⟩ takingTurns (play Turn.run takingTurns t).2 =
        [.ok .done, .error (.reward (.noResource ['3'])), .ok (.count 0)] ∧
      Turn.shares ⟨1⟩ takingTurns (play Turn.run takingTurns t).2 =
        [.ok .done, .error (.noTrigger 0), .ok (.count 1)] ∧
      (settle Turn.run (.seat ⟨2⟩ .clear) (play Turn.run takingTurns t).1).2 =
        .error (.seat (.noSeat 2 2)) := by
  have htwo : 0 < 2 ∧ 2 ≤ maxSeats := by decide
  obtain ⟨t, hnew, hseats, -, hnone, hsame⟩ := session_isolated htwo.1 htwo.2
  refine ⟨t, hnew, hsame takingTurns secondFirst fun s hs => ?_, ?_, ?_, ?_⟩
  · obtain rfl | rfl : s = ⟨0⟩ ∨ s = ⟨1⟩ := by
      rcases Nat.le_one_iff_eq_zero_or_eq_one.mp (Nat.le_of_lt_succ hs) with h | h
      · exact .inl (Seat.eq_of_index_eq h)
      · exact .inr (Seat.eq_of_index_eq h)
    · rfl
    · rfl
  · exact (hseats takingTurns ⟨0⟩ (by decide)).2
  · exact (hseats takingTurns ⟨1⟩ (by decide)).2
  · exact hnone takingTurns ⟨2⟩ .clear (by decide)

end Table

end RuleTriggers
