import RuleTriggers.Vocabulary

/-!
Conditions: what has to happen, or to be owned, for a trigger to pay out.
-/

namespace RuleTriggers

/-- The conditions with a meaning in the rules. -/
inductive ConditionWord
  | mine | tradingStation | researchLab | planetaryInstitute | academy1 | academy2 | bigBuilding
  | mineOnGaia | advanceResearch | gaia | terraformStep | planetType | sector | federation
  | satellite | spaceStation | gaiaFormer
  deriving DecidableEq

instance : Vocabulary ConditionWord where
  subject := "condition"
  all :=
    [.mine, .tradingStation, .researchLab, .planetaryInstitute, .academy1, .academy2,
     .bigBuilding, .mineOnGaia, .advanceResearch, .gaia, .terraformStep, .planetType, .sector,
     .federation, .satellite, .spaceStation, .gaiaFormer]
  token
    | .mine => ['m']
    | .tradingStation => ['t', 's']
    | .researchLab => ['l', 'a', 'b']
    | .planetaryInstitute => ['P', 'I']
    | .academy1 => ['a', 'c', '1']
    | .academy2 => ['a', 'c', '2']
    | .bigBuilding => ['P', 'A']
    | .mineOnGaia => ['m', 'g']
    | .advanceResearch => ['a']
    | .gaia => ['g']
    | .terraformStep => ['s', 't', 'e', 'p']
    | .planetType => ['p', 't']
    | .sector => ['s']
    | .federation => ['f', 'e', 'd']
    | .satellite => ['s', 'a', 't']
    | .spaceStation => ['s', 's']
    | .gaiaFormer => ['g', 'f']
  name
    | .mine => "Mine"
    | .tradingStation => "TradingStation"
    | .researchLab => "ResearchLab"
    | .planetaryInstitute => "PlanetaryInstitute"
    | .academy1 => "Academy1"
    | .academy2 => "Academy2"
    | .bigBuilding => "BigBuilding"
    | .mineOnGaia => "MineOnGaia"
    | .advanceResearch => "AdvanceResearch"
    | .gaia => "Gaia"
    | .terraformStep => "TerraformStep"
    | .planetType => "PlanetType"
    | .sector => "Sector"
    | .federation => "Federation"
    | .satellite => "Satellite"
    | .spaceStation => "SpaceStation"
    | .gaiaFormer => "GaiaFormer"
  mem_all := by intro w; cases w <;> decide
  tokens_nodup := by decide

/-- What stands before the operator of a trigger. A token outside the vocabulary is kept as it
is written. -/
inductive Condition
  | none
  | known (word : ConditionWord)
  | unrecognized (token : Text)
  deriving DecidableEq

namespace Condition

instance : Inhabited Condition := ⟨none⟩

def ofToken (t : Text) : Condition :=
  match Vocabulary.find? t with
  | some word => known word
  | .none => unrecognized t

/-- The token as written; the absent condition has none. -/
def token : Condition → Text
  | none => []
  | known word => Vocabulary.token word
  | unrecognized t => t

@[simp] theorem token_ofToken (t : Text) : (ofToken t).token = t := by
  unfold ofToken
  split
  · next h => exact Vocabulary.find?_eq_some_iff.1 h
  · rfl

def isNone (c : Condition) : Bool := c = none

def isKnown : Condition → Bool
  | known _ => true
  | _ => false

end Condition

end RuleTriggers
