import RuleTriggers.Ledger.Saving
import RuleTriggers.SeatMap

/-!
Changes to a ledger, as data, so that runs of them can be made and compared. A command gives its
triggers as text; preparing it compiles them, without a look at the ledger, and leaves a step that
can be taken.
-/

namespace RuleTriggers

/-- Why a change was not made. -/
inductive Fault
  | reward (error : RewardError)
  | load (error : LoadError)
  | seat (fault : SeatFault)
  | noTrigger (count : Nat)

namespace Ledger

/-- A change by triggers that are compiled. -/
inductive Step
  | add (triggers : List Trigger)
  | retract (candidate : Trigger)
  | retractList (candidates : List Trigger)
  | retractSource (source : Source)
  | setActivated (operator : Operator) (index : Nat) (activated : Bool)
  | deactivate (operator : Operator)
  | replace (ledger : Ledger)
  | reload

/-- What a step tells besides changing the ledger. -/
inductive Outcome
  | done
  | found (found : Bool)
  | count (n : Nat)
  | same (same : Bool)
  deriving DecidableEq

/-- One trigger, counted from the front of its bucket. -/
def trigger (l : Ledger) (o : Operator) (index : Nat) : Except Fault Trigger :=
  match (l.bucket o)[index]? with
  | some t => .ok t
  | none => .error (.noTrigger (l.bucket o).length)

/-- The ledger after a step, with what the step tells. -/
def Step.run : Step → Ledger → Except Fault (Ledger × Outcome)
  | add ts, l => .ok (l.addList ts, .done)
  | retract candidate, l =>
    let (l, found) := l.retract candidate
    .ok (l, .found found)
  | retractList candidates, l =>
    let (l, n) := l.retractList candidates
    .ok (l, .count n)
  | retractSource source, l =>
    let (l, n) := l.retractSource source
    .ok (l, .count n)
  | setActivated o index activated, l => do
    let _ ← l.trigger o index
    .ok (l.setActivated o index activated, .done)
  | deactivate o, l =>
    let (l, n) := l.deactivate o
    .ok (l, .count n)
  | replace m, _ => .ok (m, .done)
  | reload, l =>
    match l.reload with
    | .ok m => .ok (m, .same (m.Same l))
    | .error e => .error (.load e)

/-- A change as it is asked for, with the triggers as text. -/
inductive Command
  | add (specs : List Text) (source : Source)
  | retract (spec : Text) (source : Source)
  | retractList (specs : List Text) (source : Source)
  | retractSource (source : Source)
  | setActivated (operator : Operator) (index : Nat) (activated : Bool)
  | deactivate (operator : Operator)
  | clear
  | restore (entries : List Entry)
  | load (value : Value)
  | reload

/-- Compiles and loads what the command gives as text. -/
def Command.prepare : Command → Except Fault Step
  | add specs source => ((Trigger.compileList specs source).map .add).mapError .reward
  | retract spec source => ((Trigger.compile spec source).map .retract).mapError .reward
  | retractList specs source =>
    ((Trigger.compileList specs source).map .retractList).mapError .reward
  | retractSource source => .ok (.retractSource source)
  | setActivated o index activated => .ok (.setActivated o index activated)
  | deactivate o => .ok (.deactivate o)
  | clear => .ok (.replace empty)
  | restore entries => ((ofEntries entries).map .replace).mapError .reward
  | load value => ((ofValue value).map .replace).mapError .load
  | reload => .ok .reload

/-- The ledger after a command, with what the command tells, or why it failed. -/
def Command.run (c : Command) (l : Ledger) : Except Fault (Ledger × Outcome) := do
  let step ← c.prepare
  step.run l

end Ledger

end RuleTriggers
