import RuleTriggers.Proofs.Trigger.Offer

/-!
Actions with a word for a cost. The spaces around the operator make the compiler take the word for
the cost whatever it is. The offer writes a minus sign before the word, and then a digit at its
front is read as a count, so the two agree exactly on words that begin with something else.
-/

namespace RuleTriggers

/-- An action to be bought with something. Its gain is accepted on its own and does not end in the
mark. -/
structure Purchase where
  cost : Text
  gain : Text
  rewards : List Reward
  cost_ne_nil : cost ≠ []
  isWord_of_mem_cost : ∀ c ∈ cost, Spec.isWord c
  gain_not_blank : ¬ Text.AllBlank gain
  parsePhrase_gain : Reward.parsePhrase gain = .ok rewards
  space_not_mem_gain : ' ' ∉ gain
  gain_unmarked : gain.getLast? ≠ some Trigger.mark

namespace Purchase

variable (x : Purchase)

def text : Text := x.cost ++ ' ' :: (Vocabulary.token OperatorWord.activate ++ ' ' :: x.gain)

/-- The trigger that is meant, with the cost as one reward. -/
def trigger (source : Source) : Trigger where
  condition := .none
  operator := .known .activate
  picks := 0
  rewards := ⟨-1, .ofToken x.cost⟩ :: x.rewards
  spec := x.text
  source := source
  activated := false

/-! ### The compiler -/

lemma getLast?_text_ne : x.text.getLast? ≠ some Trigger.mark := by
  have hsplit : x.text =
      (x.cost ++ ' ' :: Vocabulary.token OperatorWord.activate) ++ ' ' :: x.gain := by simp [text]
  rw [hsplit]
  exact Text.getLast?_append_space_ne (by decide) x.gain_unmarked

lemma not_isSpecial_text : ¬ Slots.IsSpecial x.text := by
  have hactivate : OperatorWord.activate ≠ .special := by simp
  refine Slots.not_isSpecial_of_token_subset hactivate fun c hc => ?_
  simp [text, hc]

/-- Two spaces make a condition of any word. -/
lemma splitCondition_text : Slots.splitCondition x.text =
    (.ofToken x.cost, Vocabulary.token OperatorWord.activate ++ ' ' :: x.gain) := by
  refine Slots.splitCondition_word x.cost_ne_nil x.isWord_of_mem_cost (.inr ?_)
  simp [Vocabulary.token, List.count_eq_zero_of_not_mem x.space_not_mem_gain]

lemma compile_text (source : Source) : Trigger.compile x.text source = .ok (x.trigger source) := by
  have hgain : Reward.parsePhrase (Text.trimStart x.gain) = .ok x.rewards :=
    Reward.parsePhrase_trimStart_iff.mpr x.parsePhrase_gain
  have hread : Slots.read x.text =
      .ok ⟨.none, .known .activate, 0, ⟨-1, .ofToken x.cost⟩ :: x.rewards⟩ := by
    rw [Slots.read_of_splits x.not_isSpecial_text x.splitCondition_text
      (Slots.splitOperator_token (by simp) x.gain), hgain]
    simp [Except.map, Slots.payCondition, Slots.ofToken_ne_none]
  rw [Trigger.compile_of_unmarked x.getLast?_text_ne, hread]
  rfl

/-! ### The offer -/

/-- A word with a minus sign in front can be read in one way only if it does not begin with a
digit. -/
lemma nameable_iff : Offer.Nameable x.cost ↔ ∀ c, x.cost.head? = some c → c.isDigit = false := by
  refine ⟨fun h => h.head_not_digit, fun h => ?_⟩
  have hblank : ∀ c ∈ x.cost, Text.isBlank c = false := fun c hc =>
    Spec.isBlank_of_isWord (x.isWord_of_mem_cost c hc)
  constructor
  case head_not_digit => exact h
  case head_not_blank => exact fun c hc => hblank c (List.mem_of_mem_head? hc)
  case last_not_blank => exact fun c hc => hblank c (List.mem_of_getLast? hc)
  case separator_not_mem =>
    exact fun hmem => absurd (x.isWord_of_mem_cost _ hmem) (by decide)
  case no_delimiter =>
    intro hinfix
    have hmem : '=' ∈ x.cost := hinfix.subset (by simp [Offer.delimiter])
    exact absurd (x.isWord_of_mem_cost _ hmem) (by decide)

lemma parsePhrase_offer_trigger_iff (source : Source) :
    Reward.parsePhrase (x.trigger source).offer.phrase = .ok (x.trigger source).rewards ↔
      Offer.Nameable x.cost := by
  -- the cost has no delimiter in it, so the first one is the operator's even if the gain has more
  have hspec : x.text = x.cost ++ [' '] ++ Offer.delimiter ++ (' ' :: x.gain) := by
    simp [text, Vocabulary.token, Offer.delimiter]
  have hblank : Text.AllBlank [' '] := by simp [Text.AllBlank, Text.isBlank]
  have hsome : ¬ Text.AllBlank (' ' :: x.gain) := fun hall =>
    x.gain_not_blank fun c hc => hall c (List.mem_cons_of_mem _ hc)
  have hgain : Reward.parsePhrase (Text.trimStart (' ' :: x.gain)) = .ok x.rewards := by
    rw [Text.trimStart_space]
    exact Reward.parsePhrase_trimStart_iff.mpr x.parsePhrase_gain
  have hphrase : (x.trigger source).offer.phrase = Offer.phraseOf x.text := rfl
  rw [hphrase, hspec]
  exact Offer.parsePhrase_phraseOf_iff_nameable x.cost_ne_nil hblank hsome hgain

/-- **What an action costs, compiled and shown.** The compiler takes the word as it is. The offer
says the same exactly if the word does not begin with a digit. -/
theorem compile_purchase (source : Source) :
    Trigger.compile x.text source = .ok (x.trigger source) ∧
    (Reward.parsePhrase (x.trigger source).offer.phrase = .ok (x.trigger source).rewards ↔
      ∀ c, x.cost.head? = some c → c.isDigit = false) :=
  ⟨x.compile_text source, (x.parsePhrase_offer_trigger_iff source).trans x.nameable_iff⟩

/-- Bought with a building. The gain begins with a tab and has a delimiter of its own. -/
def buildingPurchase : Purchase where
  cost := ['P', 'I']
  gain := ['\t', '=', '>', 'k', ',', '2', 'c']
  rewards := [⟨1, .other ['=', '>', 'k']⟩, ⟨2, .known .credit⟩]
  cost_ne_nil := by simp
  isWord_of_mem_cost := by simp [Spec.isWord]
  gain_not_blank := by decide
  parsePhrase_gain := rfl
  space_not_mem_gain := by decide
  gain_unmarked := by simp [Trigger.mark]

/-- Bought with a thing called `2pw`. -/
def powerPurchase : Purchase where
  cost := ['2', 'p', 'w']
  gain := ['q']
  rewards := [⟨1, .known .qic⟩]
  cost_ne_nil := by simp
  isWord_of_mem_cost := by simp [Spec.isWord, Char.isAlphanum, Char.isDigit]
  gain_not_blank := by decide
  parsePhrase_gain := rfl
  space_not_mem_gain := by decide
  gain_unmarked := by simp [Trigger.mark]

theorem compile_buildingPurchase_powerPurchase :
    Trigger.compile "PI => \t=>k,2c".toList (.boardAction .power3) =
      .ok (buildingPurchase.trigger (.boardAction .power3)) ∧
    Reward.parsePhrase (buildingPurchase.trigger (.boardAction .power3)).offer.phrase =
      .ok [⟨-1, .other ['P', 'I']⟩, ⟨1, .other ['=', '>', 'k']⟩, ⟨2, .known .credit⟩] ∧
    Trigger.compile "2pw => q".toList (.boardAction .power3) =
      .ok (powerPurchase.trigger (.boardAction .power3)) ∧
    Reward.parsePhrase (powerPurchase.trigger (.boardAction .power3)).offer.phrase ≠
      .ok [⟨-1, .other ['2', 'p', 'w']⟩, ⟨1, .known .qic⟩] := by
  obtain ⟨hbuilding, hbuilding'⟩ := buildingPurchase.compile_purchase (.boardAction .power3)
  obtain ⟨hpower, hpower'⟩ := powerPurchase.compile_purchase (.boardAction .power3)
  refine ⟨hbuilding, hbuilding'.mpr (by simp [buildingPurchase]), hpower, fun hphrase => ?_⟩
  have hdigit := hpower'.mp hphrase '2' rfl
  simp [Char.isDigit] at hdigit

end Purchase

end RuleTriggers
