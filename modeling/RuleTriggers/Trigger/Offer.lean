import RuleTriggers.Trigger

/-!
How a player sees a trigger as an action: what it costs and gives as one phrase, and whether it
can still be taken. The phrase comes from the spec as it is written, not from the slots.
-/

namespace RuleTriggers

structure Offer where
  phrase : Text
  available : Bool
  deriving DecidableEq

namespace Offer

/-- What stands between the cost of an action and its gain. -/
abbrev delimiter : Text := ['=', '>']

/-- The text before and after the first place where `sep` stands. -/
def cutAt? (sep : Text) : Text → Option (Text × Text)
  | [] => (sep.isPrefixOf? []).map ([], ·)
  | c :: t =>
    match sep.isPrefixOf? (c :: t) with
    | some back => some ([], back)
    | none => (cutAt? sep t).map fun (front, back) => (c :: front, back)

/-- The cost with a minus sign, then the gain. Without a cost, or without a delimiter, there is
nothing but the trimmed text. -/
def phraseOf (spec : Text) : Text :=
  match cutAt? delimiter spec with
  | some (cost, gain) =>
    if cost = [] then Text.trim gain
    else '-' :: Text.trim cost ++ Reward.separator :: Text.trim gain
  | none => Text.trim spec

end Offer

def Trigger.offer (t : Trigger) : Offer where
  phrase := Offer.phraseOf t.spec
  available := !t.activated

end RuleTriggers
