import RuleTriggers.Source
import RuleTriggers.Spec.Slots

/-!
Triggers. A trigger keeps the spec that it was compiled from beside the slots of the spec. Its
text is the spec, with a mark at the end while the trigger is activated. Text and source are what
outlives a game: to save a trigger is to write them down, to load it is to compile the text again.
-/

namespace RuleTriggers

/-- A spec with its meaning, where it comes from, and whether it is activated. -/
structure Trigger extends Slots where
  /-- The text that was compiled, without the mark. -/
  spec : Text
  source : Source
  activated : Bool
  deriving DecidableEq

namespace Trigger

/-- What stands at the end of the text of an activated trigger. -/
abbrev mark : Char := '!'

/-- The text without the mark at its end, and whether there was one. Only one mark is taken. -/
def splitMark (t : Text) : Text × Bool :=
  if t.getLast? = some mark then (t.dropLast, true) else (t, false)

/-- The trigger that a text stands for. Only the reward phrase can be at fault. -/
def compile (raw : Text) (source : Source) : Except RewardError Trigger :=
  let (spec, activated) := splitMark raw
  (Slots.read spec).map fun slots => { slots with spec, source, activated }

/-- Several texts from one source. The first that is at fault decides. -/
def compileList (raws : List Text) (source : Source) : Except RewardError (List Trigger) :=
  raws.mapM (compile · source)

/-- The spec, with the mark while the trigger is activated. -/
def text (t : Trigger) : Text := if t.activated then t.spec ++ [mark] else t.spec

def setActivated (t : Trigger) (activated : Bool) : Trigger := { t with activated }

def activate (t : Trigger) : Trigger := t.setActivated true

/-- A trigger that only has a side effect. -/
def IsSpecial (t : Trigger) : Prop := t.operator.IsKnown .special

instance (t : Trigger) : Decidable t.IsSpecial := inferInstanceAs (Decidable (_ = _))

/-- An action that has been taken. -/
def IsSpent (t : Trigger) : Prop := t.activated ∧ t.operator.IsKnown .activate

instance (t : Trigger) : Decidable t.IsSpent := inferInstanceAs (Decidable (_ ∧ _ = _))

/-- The trigger that the text of a trigger stands for. -/
def recompile (t : Trigger) : Except RewardError Trigger := compile t.text t.source

end Trigger

end RuleTriggers
