import RuleTriggers.Resource

/-!
Rewards and reward phrases. A phrase is a list of items between commas, each a resource with an
optional count before it; a count that is left out means one, and a negative one is a cost.
-/

namespace RuleTriggers

/-- So many of a resource: gained, or paid if the count is negative. -/
structure Reward where
  count : Int32
  resource : Resource
  deriving DecidableEq

/-- Why a phrase gives no rewards, with the text at fault. -/
inductive RewardError
  | blankItem (phrase : Text)
  | noResource (item : Text)
  | countTooLarge (item : Text)
  deriving DecidableEq

namespace RewardError

/-- The text at fault. -/
def item : RewardError → Text
  | blankItem t | noResource t | countTooLarge t => t

def message : RewardError → String
  | blankItem t => "empty reward item in " ++ String.ofList (Text.quoted t)
  | noResource t => "reward item " ++ String.ofList (Text.quoted t) ++ " has no resource"
  | countTooLarge t => "reward count overflow in " ++ String.ofList (Text.quoted t)

end RewardError

namespace Reward

/-- What stands between the items of a phrase. -/
abbrev separator : Char := ','

/-- The item that gives a reward, with the count always written. -/
def text (r : Reward) : Text := Text.signedDecimal r.count.toInt ++ r.resource.token

/-- The phrase that gives a list of rewards. -/
def phrase (rs : List Reward) : Text := [separator].intercalate (rs.map text)

/-- Whether a minus sign is in front, and the text after it. -/
def splitSign : Text → Bool × Text
  | '-' :: t => (true, t)
  | t => (false, t)

/-- The count that a digit run stands for, if it is within the positive counts. -/
def magnitude? (ds : Text) : Option Int32 :=
  if ds = [] then some 1
  else if Text.value ds ≤ 0x7fffffff then some (Int32.ofNat (Text.value ds))
  else none

/-- One item, after trimming: sign, digits, and a token that takes all the rest. -/
def parse (piece : Text) : Except RewardError Reward :=
  let item := Text.trim piece
  if item = [] then .error (.blankItem [])
  else
    let (negative, unsigned) := splitSign item
    let token := Text.afterDigits unsigned
    if token = [] then .error (.noResource item)
    else
      match magnitude? (Text.digits unsigned) with
      | none => .error (.countTooLarge item)
      | some m => .ok ⟨if negative then -m else m, Resource.ofToken token⟩

/-- One piece of a phrase; a blank piece is the fault of the phrase as a whole. -/
def parsePiece (whole piece : Text) : Except RewardError Reward :=
  if Text.AllBlank piece then .error (.blankItem whole) else parse piece

/-- A blank phrase gives nothing; otherwise each piece between commas gives one reward. -/
def parsePhrase (t : Text) : Except RewardError (List Reward) :=
  if Text.AllBlank t then .ok [] else (t.splitOn separator).mapM (parsePiece t)

end Reward

end RuleTriggers
