import RuleTriggers.Ledger
import RuleTriggers.Saved.Entry

/-!
Saving and loading a ledger. When loading, all entries are read before the first is compiled, so a
fault in what is read comes before any fault in what is compiled; of each kind the first decides.
Nothing is registered unless everything compiles.
-/

namespace RuleTriggers.Ledger

/-- The entries to save, bucket by bucket. -/
def entries (l : Ledger) : List Entry := l.toList.map Trigger.entry

/-- The list of the entries. -/
def toValue (l : Ledger) : Value := .list (l.entries.map Entry.toValue)

/-- The ledger that has the entries registered in order. -/
def ofEntries (es : List Entry) : Except RewardError Ledger :=
  (es.mapM Entry.compile).map ofList

/-- A ledger from a list of entries. -/
def ofValue : Reader Ledger := fun v => do
  let es ← v.readList Entry.ofValue
  (ofEntries es).mapError .reward

/-- Saves a ledger and loads it again. -/
def reload (l : Ledger) : Except LoadError Ledger := ofValue l.toValue

end RuleTriggers.Ledger
