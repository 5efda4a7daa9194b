import RuleTriggers.Condition
import RuleTriggers.Operator
import RuleTriggers.Reward
import RuleTriggers.Spec.Lead

/-!
The slots of a spec: condition, operator with pick count, and rewards, in this order and each
optional. Nothing marks where a slot ends. A slot is taken if the lead of what is left is in its
vocabulary. Failing that, spaces decide: three parts begin with a condition and two parts with an
operator, whatever their tokens.
-/

namespace RuleTriggers

/-- What a spec says: when the trigger pays out, how, and what. -/
structure Slots where
  condition : Condition
  operator : Operator
  /-- How many of the rewards may be picked; zero means that all apply. -/
  picks : UInt32
  rewards : List Reward
  deriving DecidableEq

namespace Slots

/-- The condition at the front of a text, and the text left for the other slots. -/
def splitCondition (t : Text) : Condition × Text :=
  let (lead, rest) := Spec.splitLead t
  match Vocabulary.find? lead with
  | some word => (.known word, Text.trimStart rest)
  | none =>
    match t.splitOn ' ' with
    | [_, _, _] => (.unrecognized lead, Text.trimStart rest)
    | _ => (.none, t)

/-- The count that a digit run stands for; a run beyond 32 bits counts as none. -/
def count (ds : Text) : UInt32 :=
  if Text.value ds < UInt32.size then UInt32.ofNat (Text.value ds) else 0

/-- The operator at the front of a text, its pick count, and the text left for the rewards. -/
def splitOperator (t : Text) : Operator × UInt32 × Text :=
  let (lead, rest) := Spec.splitLead t
  match Operator.find? lead with
  | some operator => (operator, 0, Text.trimStart rest)
  | none =>
    match t.splitOn ' ' with
    | [head, tail] =>
      (Operator.ofToken (Text.afterDigits head), count (Text.digits head), tail)
    | _ => (default, 0, t)

/-- The slots as they are written. -/
def parse (spec : Text) : Except RewardError Slots :=
  let (condition, rest) := splitCondition spec
  let (operator, picks, phrase) := splitOperator rest
  (Reward.parsePhrase phrase).map fun rewards => { condition, operator, picks, rewards }

/-- An action pays for its condition: the condition becomes a cost in front of the rewards. -/
def payCondition (s : Slots) : Slots :=
  if s.operator = .known .activate ∧ s.condition ≠ .none then
    { s with
      condition := .none
      rewards := ⟨-1, Resource.ofToken s.condition.token⟩ :: s.rewards }
  else s

/-- The slots of a trigger that only has a side effect. -/
def special : Slots where
  condition := .none
  operator := .known .special
  picks := 0
  rewards := []

/-- The token of the special operator and nothing else, in capitals or not. -/
def IsSpecial (spec : Text) : Prop :=
  (Text.trim spec).map Char.toLower = Vocabulary.token OperatorWord.special

instance (spec : Text) : Decidable (IsSpecial spec) := inferInstanceAs (Decidable (_ = _))

/-- The slots that a spec means. Only the reward phrase can be at fault. -/
def read (spec : Text) : Except RewardError Slots :=
  if IsSpecial spec then .ok special else (parse spec).map payCondition

end Slots

end RuleTriggers
