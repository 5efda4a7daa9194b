import RuleTriggers.Vocabulary

/-!
The words that name where a trigger comes from: tiles, tracks, actions, factions and moments of
play.
-/

namespace RuleTriggers

/-- The places of the standard tech tiles. -/
inductive TechTile
  | terra | nav | int | gaia | eco | sci | free1 | free2 | free3
  deriving DecidableEq

instance : Vocabulary TechTile where
  subject := "tech tile position"
  all :=
    [.terra, .nav, .int, .gaia, .eco, .sci, .free1, .free2, .free3]
  token
    | .terra => ['t', 'e', 'c', 'h', '-', 't', 'e', 'r', 'r', 'a']
    | .nav => ['t', 'e', 'c', 'h', '-', 'n', 'a', 'v']
    | .int => ['t', 'e', 'c', 'h', '-', 'i', 'n', 't']
    | .gaia => ['t', 'e', 'c', 'h', '-', 'g', 'a', 'i', 'a']
    | .eco => ['t', 'e', 'c', 'h', '-', 'e', 'c', 'o']
    | .sci => ['t', 'e', 'c', 'h', '-', 's', 'c', 'i']
    | .free1 => ['t', 'e', 'c', 'h', '-', 'f', 'r', 'e', 'e', '1']
    | .free2 => ['t', 'e', 'c', 'h', '-', 'f', 'r', 'e', 'e', '2']
    | .free3 => ['t', 'e', 'c', 'h', '-', 'f', 'r', 'e', 'e', '3']
  name
    | .terra => "Terra"
    | .nav => "Nav"
    | .int => "Int"
    | .gaia => "Gaia"
    | .eco => "Eco"
    | .sci => "Sci"
    | .free1 => "Free1"
    | .free2 => "Free2"
    | .free3 => "Free3"
  mem_all := by intro w; cases w <;> decide
  tokens_nodup := by decide

/-- The places of the advanced tech tiles, one above each research track. -/
inductive AdvancedTechTile
  | terra | nav | int | gaia | eco | sci
  deriving DecidableEq

instance : Vocabulary AdvancedTechTile where
  subject := "advanced tech tile position"
  all :=
    [.terra, .nav, .int, .gaia, .eco, .sci]
  token
    | .terra => ['a', 'd', 'v', '-', 't', 'e', 'r', 'r', 'a']
    | .nav => ['a', 'd', 'v', '-', 'n', 'a', 'v']
    | .int => ['a', 'd', 'v', '-', 'i', 'n', 't']
    | .gaia => ['a', 'd', 'v', '-', 'g', 'a', 'i', 'a']
    | .eco => ['a', 'd', 'v', '-', 'e', 'c', 'o']
    | .sci => ['a', 'd', 'v', '-', 's', 'c', 'i']
  name
    | .terra => "Terra"
    | .nav => "Nav"
    | .int => "Int"
    | .gaia => "Gaia"
    | .eco => "Eco"
    | .sci => "Sci"
  mem_all := by intro w; cases w <;> decide
  tokens_nodup := by decide

/-- The research tracks. -/
inductive ResearchField
  | terraforming | navigation | intelligence | gaiaProject | economy | science
  deriving DecidableEq

instance : Vocabulary ResearchField where
  subject := "research field"
  all :=
    [.terraforming, .navigation, .intelligence, .gaiaProject, .economy, .science]
  token
    | .terraforming => ['t', 'e', 'r', 'r', 'a']
    | .navigation => ['n', 'a', 'v']
    | .intelligence => ['i', 'n', 't']
    | .gaiaProject => ['g', 'a', 'i', 'a']
    | .economy => ['e', 'c', 'o']
    | .science => ['s', 'c', 'i']
  name
    | .terraforming => "Terraforming"
    | .navigation => "Navigation"
    | .intelligence => "Intelligence"
    | .gaiaProject => "GaiaProject"
    | .economy => "Economy"
    | .science => "Science"
  mem_all := by intro w; cases w <;> decide
  tokens_nodup := by decide

/-- The actions on the shared board, paid in power or in qic. -/
inductive BoardAction
  | power1 | power2 | power3 | power4 | power5 | power6 | power7 | qic1 | qic2 | qic3
  deriving DecidableEq

instance : Vocabulary BoardAction where
  subject := "board action"
  all :=
    [.power1, .power2, .power3, .power4, .power5, .power6, .power7, .qic1, .qic2, .qic3]
  token
    | .power1 => ['p', 'o', 'w', 'e', 'r', '1']
    | .power2 => ['p', 'o', 'w', 'e', 'r', '2']
    | .power3 => ['p', 'o', 'w', 'e', 'r', '3']
    | .power4 => ['p', 'o', 'w', 'e', 'r', '4']
    | .power5 => ['p', 'o', 'w', 'e', 'r', '5']
    | .power6 => ['p', 'o', 'w', 'e', 'r', '6']
    | .power7 => ['p', 'o', 'w', 'e', 'r', '7']
    | .qic1 => ['q', 'i', 'c', '1']
    | .qic2 => ['q', 'i', 'c', '2']
    | .qic3 => ['q', 'i', 'c', '3']
  name
    | .power1 => "Power1"
    | .power2 => "Power2"
    | .power3 => "Power3"
    | .power4 => "Power4"
    | .power5 => "Power5"
    | .power6 => "Power6"
    | .power7 => "Power7"
    | .qic1 => "Qic1"
    | .qic2 => "Qic2"
    | .qic3 => "Qic3"
  mem_all := by intro w; cases w <;> decide
  tokens_nodup := by decide

/-- The factions a player can have. -/
inductive Faction
  | terrans | lantids | xenos | gleens | taklons | ambas | hadschHallas | ivits | geodens
  | balTaks | firaks | bescods | nevlas | itars
  deriving DecidableEq

instance : Vocabulary Faction where
  subject := "faction"
  all :=
    [.terrans, .lantids, .xenos, .gleens, .taklons, .ambas, .hadschHallas, .ivits, .geodens,
     .balTaks, .firaks, .bescods, .nevlas, .itars]
  token
    | .terrans => ['t', 'e', 'r', 'r', 'a', 'n', 's']
    | .lantids => ['l', 'a', 'n', 't', 'i', 'd', 's']
    | .xenos => ['x', 'e', 'n', 'o', 's']
    | .gleens => ['g', 'l', 'e', 'e', 'n', 's']
    | .taklons => ['t', 'a', 'k', 'l', 'o', 'n', 's']
    | .ambas => ['a', 'm', 'b', 'a', 's']
    | .hadschHallas => ['h', 'a', 'd', 's', 'c', 'h', '-', 'h', 'a', 'l', 'l', 'a', 's']
    | .ivits => ['i', 'v', 'i', 't', 's']
    | .geodens => ['g', 'e', 'o', 'd', 'e', 'n', 's']
    | .balTaks => ['b', 'a', 'l', '-', 't', 'a', 'k']
    | .firaks => ['f', 'i', 'r', 'a', 'k', 's']
    | .bescods => ['b', 'e', 's', 'c', 'o', 'd', 's']
    | .nevlas => ['n', 'e', 'v', 'l', 'a', 's']
    | .itars => ['i', 't', 'a', 'r', 's']
  name
    | .terrans => "Terrans"
    | .lantids => "Lantids"
    | .xenos => "Xenos"
    | .gleens => "Gleens"
    | .taklons => "Taklons"
    | .ambas => "Ambas"
    | .hadschHallas => "HadschHallas"
    | .ivits => "Ivits"
    | .geodens => "Geodens"
    | .balTaks => "BalTaks"
    | .firaks => "Firaks"
    | .bescods => "Bescods"
    | .nevlas => "Nevlas"
    | .itars => "Itars"
  mem_all := by intro w; cases w <;> decide
  tokens_nodup := by decide

/-- The moments of play that triggers hang on without a piece of their own. -/
inductive Moment
  | chargePower | spend | chooseIncome | build | chooseFederationTile | formFederation
  | upgradeResearch | moveShip
  deriving DecidableEq

instance : Vocabulary Moment where
  subject := "event source"
  all :=
    [.chargePower, .spend, .chooseIncome, .build, .chooseFederationTile, .formFederation,
     .upgradeResearch, .moveShip]
  token
    | .chargePower => ['c', 'h', 'a', 'r', 'g', 'e']
    | .spend => ['s', 'p', 'e', 'n', 'd']
    | .chooseIncome => ['i', 'n', 'c', 'o', 'm', 'e']
    | .build => ['b', 'u', 'i', 'l', 'd']
    | .chooseFederationTile => ['f', 'e', 'd', 't', 'i', 'l', 'e']
    | .formFederation => ['f', 'e', 'd', 'e', 'r', 'a', 't', 'i', 'o', 'n']
    | .upgradeResearch => ['u', 'p']
    | .moveShip => ['m', 'o', 'v', 'e']
  name
    | .chargePower => "ChargePower"
    | .spend => "Spend"
    | .chooseIncome => "ChooseIncome"
    | .build => "Build"
    | .chooseFederationTile => "ChooseFederationTile"
    | .formFederation => "FormFederation"
    | .upgradeResearch => "UpgradeResearch"
    | .moveShip => "MoveShip"
  mem_all := by intro w; cases w <;> decide
  tokens_nodup := by decide

/-- The pieces that are told apart by a number, counted from one. -/
inductive Series
  | booster | finalScoring | roundScoring
  deriving DecidableEq

namespace Series

def all : List Series := [booster, finalScoring, roundScoring]

/-- What stands before the number. -/
def tag : Series → Text
  | booster => ['b', 'o', 'o', 's', 't', 'e', 'r']
  | finalScoring => ['f', 'i', 'n', 'a', 'l']
  | roundScoring => ['r', 'o', 'u', 'n', 'd']

/-- The highest number. -/
def size : Series → UInt8
  | booster => 13
  | finalScoring => 2
  | roundScoring => 6

/-- What messages call a piece that was named in text. -/
def subject : Series → String
  | booster => "booster"
  | finalScoring => "final scoring slot"
  | roundScoring => "round scoring slot"

def name : Series → String
  | booster => "Booster"
  | finalScoring => "Final"
  | roundScoring => "Round"

/-- The numbers that a series has. -/
def Has (series : Series) (index : UInt8) : Prop := 1 ≤ index ∧ index ≤ series.size

instance (series : Series) (index : UInt8) : Decidable (series.Has index) :=
  inferInstanceAs (Decidable (_ ∧ _))

end Series

end RuleTriggers
