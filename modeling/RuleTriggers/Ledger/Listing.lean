import RuleTriggers.Ledger.Saving
import RuleTriggers.Text.Order

/-!
Listings of a ledger, in an order that does not depend on how the ledger came about: by operator
where triggers are shown, by source and text where they are saved. Within a bucket the order of
registration stays.
-/

namespace RuleTriggers

/-- Known operators come first, by rank; the others follow by token. -/
def Operator.le : Operator → Operator → Bool
  | .known v, .known w => Vocabulary.rank v ≤ Vocabulary.rank w
  | .known _, .unrecognized _ => true
  | .unrecognized _, .known _ => false
  | .unrecognized s, .unrecognized t => Text.le s t

/-- By source, then by text. -/
def Entry.le (a b : Entry) : Bool :=
  if a.source = b.source then Text.le a.spec b.spec else Text.le a.source.text b.source.text

/-- Triggers by operator, those with the same operator as they stand. -/
def Trigger.sortByOperator (ts : List Trigger) : List Trigger :=
  ts.mergeSort (fun a b => a.operator.le b.operator)

namespace Ledger

/-- The buckets by operator. -/
def sortedBuckets (l : Ledger) : List Bucket :=
  l.buckets.mergeSort (fun a b => a.operator.le b.operator)

/-- Every trigger, by operator. -/
def sortedTriggers (l : Ledger) : List Trigger := Trigger.sortByOperator l.toList

/-- The triggers from one source, by operator. -/
def sortedFromSource (l : Ledger) (source : Source) : List Trigger :=
  Trigger.sortByOperator (l.fromSource source)

/-- The entries to save, by source and text. -/
def sortedEntries (l : Ledger) : List Entry := l.entries.mergeSort Entry.le

end Ledger

end RuleTriggers
