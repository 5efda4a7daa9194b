import RuleTriggers.Proofs.Ledger.Coherent
import RuleTriggers.Proofs.Run

/-!
The changes that play makes to a ledger, which are its steps but for loading. A run of them may be
made on anything that the changes make sense of, so that what a ledger does can be held against
what something simpler does.
-/

namespace RuleTriggers

/-- A change that play makes to what a player has. -/
inductive Change
  | add (triggers : List Trigger)
  | retract (candidate : Trigger)
  | retractList (candidates : List Trigger)
  | retractSource (source : Source)
  | setActivated (operator : Operator) (index : Nat) (activated : Bool)
  | deactivate (operator : Operator)

namespace Change

/-- Whatever is filed, and whatever is sought to be taken back, is as the compiler returns it. -/
def Compiled : Change → Prop
  | add ts => ∀ t ∈ ts, t.Compiled
  | retract candidate => candidate.Compiled
  | retractList candidates => ∀ t ∈ candidates, t.Compiled
  | _ => True

/-- The change as a step. -/
def toStep : Change → Ledger.Step
  | add ts => .add ts
  | retract candidate => .retract candidate
  | retractList candidates => .retractList candidates
  | retractSource source => .retractSource source
  | setActivated o index activated => .setActivated o index activated
  | deactivate o => .deactivate o

/-- What the change makes of a ledger, with what it tells. -/
def onLedger (c : Change) : Ledger → Except Fault (Ledger × Ledger.Outcome) := c.toStep.run

end Change

end RuleTriggers
