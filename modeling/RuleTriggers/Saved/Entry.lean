import RuleTriggers.Saved.Value
import RuleTriggers.Trigger

/-!
Saved triggers. An entry holds the text and the source of a trigger and is all that is saved of
it; loading an entry compiles the text again. As a value an entry is an object, whose fields are
read in alphabetical order, or a list of its two parts; both parts are read before anything is
compiled.
-/

namespace RuleTriggers

/-- What is saved of a trigger. -/
structure Entry where
  spec : Text
  source : Source
  deriving DecidableEq

/-- A source is saved as its text. -/
def Source.ofValue : Reader Source := fun v => do
  let t ← v.readText
  match Source.parse t with
  | .ok source => .ok source
  | .error e => .error (.vocabulary e)

/-- The entry to save for a trigger. -/
def Trigger.entry (t : Trigger) : Entry := ⟨t.text, t.source⟩

namespace Entry

def specField : Text := ['s', 'p', 'e', 'c']

def sourceField : Text := ['s', 'o', 'u', 'r', 'c', 'e']

/-- The trigger that an entry stands for. -/
def compile (e : Entry) : Except RewardError Trigger := Trigger.compile e.spec e.source

/-- An entry from the fields of an object. All present fields are read before any is missed. -/
def ofFields (fields : List (Text × Value)) : Except LoadError Entry := do
  let source ← Value.readField? Source.ofValue fields sourceField
  let spec ← Value.readField? Value.readText fields specField
  let spec ← Value.require specField spec
  let source ← Value.require sourceField source
  .ok ⟨spec, source⟩

/-- An entry from its parts in order. Parts are read as far as they go before they are counted. -/
def ofParts (parts : List Value) : Except LoadError Entry :=
  match parts with
  | [] => .error (.tooShort 0 .entry 2)
  | [spec] => do
    let _ ← spec.readText
    .error (.tooShort 1 .entry 2)
  | spec :: source :: rest => do
    let spec ← spec.readText
    let source ← Source.ofValue source
    if rest = [] then .ok ⟨spec, source⟩ else .error (.tooLong parts.length)

/-- An entry from an object or from a list. -/
def ofValue : Reader Entry
  | .object fields => ofFields fields
  | .list parts => ofParts parts
  | v => .error (.wrongForm v .entry)

/-- The object that holds an entry. -/
def toValue (e : Entry) : Value :=
  .object [(specField, .text e.spec), (sourceField, .text e.source.text)]

end Entry

/-- Reads an entry and compiles it. -/
def Trigger.ofValue : Reader Trigger := fun v => do
  let e ← Entry.ofValue v
  e.compile.mapError .reward

end RuleTriggers
