import RuleTriggers.Vocabulary

/-!
Resources: what a reward grants or costs. Rewards may also name things that are no resource, such
as the building that an action uses up, so every token names something.
-/

namespace RuleTriggers

/-- The resources proper. -/
inductive ResourceWord
  | ore | credit | knowledge | qic | chargePower | powerToken | victoryPoint | terraformStep
  | range | tech | upgradeResearch
  deriving DecidableEq

instance : Vocabulary ResourceWord where
  subject := "resource"
  all :=
    [.ore, .credit, .knowledge, .qic, .chargePower, .powerToken, .victoryPoint, .terraformStep,
     .range, .tech, .upgradeResearch]
  token
    | .ore => ['o']
    | .credit => ['c']
    | .knowledge => ['k']
    | .qic => ['q']
    | .chargePower => ['p', 'w']
    | .powerToken => ['t']
    | .victoryPoint => ['v', 'p']
    | .terraformStep => ['s', 't', 'e', 'p']
    | .range => ['r']
    | .tech => ['t', 'e', 'c', 'h']
    | .upgradeResearch => ['u', 'p']
  name
    | .ore => "Ore"
    | .credit => "Credit"
    | .knowledge => "Knowledge"
    | .qic => "Qic"
    | .chargePower => "ChargePower"
    | .powerToken => "PowerToken"
    | .victoryPoint => "VictoryPoint"
    | .terraformStep => "TerraformStep"
    | .range => "Range"
    | .tech => "Tech"
    | .upgradeResearch => "UpgradeResearch"
  mem_all := by intro w; cases w <;> decide
  tokens_nodup := by decide

/-- What a token in a reward names. -/
inductive Resource
  | known (word : ResourceWord)
  | other (token : Text)
  deriving DecidableEq

namespace Resource

def ofToken (t : Text) : Resource :=
  match Vocabulary.find? t with
  | some word => known word
  | none => other t

def token : Resource → Text
  | known word => Vocabulary.token word
  | other t => t

@[simp] theorem token_ofToken (t : Text) : (ofToken t).token = t := by
  unfold ofToken
  split
  · next h => exact Vocabulary.find?_eq_some_iff.1 h
  · rfl

def name : Resource → String
  | known word => Vocabulary.name word
  | other _ => "Other"

end Resource

end RuleTriggers
