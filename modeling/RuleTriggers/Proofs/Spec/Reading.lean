import RuleTriggers.Proofs.Reward.Phrase
import RuleTriggers.Proofs.Spec.Branches

/-!
Reading a spec as a whole, and what the slots then keep to: whatever the text, a token of a
vocabulary is never taken for an unknown one, only the special spec gets the special operator,
and an action has no condition.
-/

namespace RuleTriggers

open FirstFault

/-! ### Tokens that are kept as they are written -/

namespace Operator

lemma ofToken_ne_special (t : Text) : ofToken t ≠ .known .special := by
  unfold ofToken
  cases hfind : find? t with
  | none => simp
  | some o =>
    obtain ⟨word, hword, -, rfl⟩ := find?_eq_some_iff.mp hfind
    simpa using hword

lemma token_ne_of_ofToken_eq_unrecognized {t u : Text} (h : ofToken t = .unrecognized u) :
    t = u ∧ ∀ word : OperatorWord, word ≠ .special → Vocabulary.token word ≠ u := by
  have ht : t = u := by rw [← token_ofToken t, h, token]
  refine ⟨ht, fun word hword htoken => ?_⟩
  have hfind : find? t = some (.known word) :=
    find?_eq_some_iff.mpr ⟨word, hword, htoken.trans ht.symm, rfl⟩
  simp [ofToken, hfind] at h

end Operator

namespace Slots

/-! ### The slots as they are written -/

/-- The text of the rewards, after condition and operator. -/
def phrase (spec : Text) : Text := (splitOperator (splitCondition spec).2).2.2

/-- The slots of a spec before an action pays for its condition. -/
def written (spec : Text) (rewards : List Reward) : Slots where
  condition := (splitCondition spec).1
  operator := (splitOperator (splitCondition spec).2).1
  picks := (splitOperator (splitCondition spec).2).2.1
  rewards := rewards

/-- A spec is read slot by slot, each reader going on where the one before it stopped. -/
lemma read_of_splits {spec rest p : Text} {c : Condition} {o : Operator} {n : UInt32}
    (hspecial : ¬ IsSpecial spec) (hcondition : splitCondition spec = (c, rest))
    (hoperator : splitOperator rest = (o, n, p)) :
    read spec = (Reward.parsePhrase p).map fun rewards =>
      (Slots.mk c o n rewards).payCondition := by
  simp only [read, if_neg hspecial, parse, hcondition, hoperator]
  cases Reward.parsePhrase p <;> rfl

/-- A spec is read as the special one, or slot by slot. -/
lemma read_eq_ok_iff {spec : Text} {s : Slots} :
    read spec = .ok s ↔
      (IsSpecial spec ∧ s = special) ∨
      (¬ IsSpecial spec ∧ ∃ rewards, Reward.parsePhrase (phrase spec) = .ok rewards ∧
        (written spec rewards).payCondition = s) := by
  unfold read
  split
  · next hspecial => simp [hspecial, eq_comm]
  · next hspecial =>
    have hparse : parse spec = (Reward.parsePhrase (phrase spec)).map (written spec) := rfl
    rw [hparse, map_eq_ok_iff]
    simp [map_eq_ok_iff, hspecial]

section

variable {t u : Text}

/-- A condition is found in the vocabulary, taken by position, or left out. -/
lemma splitCondition_cases (t : Text) :
    (∃ word, splitCondition t = (.known word, Text.trimStart (Spec.splitLead t).2)) ∨
    ((∀ word : ConditionWord, Vocabulary.token word ≠ (Spec.splitLead t).1) ∧ t.count ' ' = 2 ∧
      splitCondition t =
        (.unrecognized (Spec.splitLead t).1, Text.trimStart (Spec.splitLead t).2)) ∨
    splitCondition t = (.none, t) := by
  cases hfind : (Vocabulary.find? (Spec.splitLead t).1 : Option ConditionWord) with
  | some word => exact .inl ⟨word, splitCondition_known hfind⟩
  | none =>
    by_cases hspaces : t.count ' ' = 2
    · have hnone := Vocabulary.find?_eq_none_iff.mp hfind
      exact .inr (.inl ⟨hnone, hspaces, splitCondition_three hfind hspaces⟩)
    · exact .inr (.inr (splitCondition_absent hfind hspaces))

lemma condition_eq_unrecognized (h : (splitCondition t).1 = .unrecognized u) :
    u ≠ [] ∧ (∀ word : ConditionWord, Vocabulary.token word ≠ u) ∧ t.count ' ' = 2 := by
  rcases splitCondition_cases t with ⟨word, ht⟩ | ⟨hword, hspaces, ht⟩ | ht
  · simp [ht] at h
  · obtain rfl : (Spec.splitLead t).1 = u := by simpa [ht] using h
    refine ⟨Spec.lead_ne_nil ?_, hword, hspaces⟩
    rintro rfl
    simp at hspaces
  · simp [ht] at h

lemma token_condition_ne_nil (h : (splitCondition t).1 ≠ .none) :
    (splitCondition t).1.token ≠ [] := by
  cases hcondition : (splitCondition t).1 with
  | none => exact absurd hcondition h
  | known word => cases word <;> simp [Condition.token, Vocabulary.token]
  | unrecognized u => exact (condition_eq_unrecognized hcondition).1

lemma splitCondition_of_none (h : (splitCondition t).1 = .none) : (splitCondition t).2 = t := by
  rcases splitCondition_cases t with ⟨word, ht⟩ | ⟨-, -, ht⟩ | ht
  · simp [ht] at h
  · simp [ht] at h
  · rw [ht]

/-- An operator is found in the vocabulary, taken by position, or left out. -/
lemma splitOperator_cases (t : Text) :
    (∃ word, word ≠ .special ∧ Vocabulary.token word = (Spec.splitLead t).1 ∧
      splitOperator t = (.known word, 0, Text.trimStart (Spec.splitLead t).2)) ∨
    (Operator.find? (Spec.splitLead t).1 = none ∧ ∃ head tail, t.splitOn ' ' = [head, tail] ∧
      splitOperator t =
        (Operator.ofToken (Text.afterDigits head), count (Text.digits head), tail)) ∨
    splitOperator t = (.known .once, 0, t) := by
  cases hfind : Operator.find? (Spec.splitLead t).1 with
  | some o =>
    obtain ⟨word, hword, htoken, rfl⟩ := Operator.find?_eq_some_iff.mp hfind
    exact .inl ⟨word, hword, htoken, splitOperator_known hfind⟩
  | none =>
    by_cases hspaces : t.count ' ' = 1
    · obtain ⟨head, tail, hparts⟩ := Text.splitOn_eq_pair hspaces
      exact .inr (.inl ⟨rfl, head, tail, hparts, splitOperator_pair hfind hparts⟩)
    · exact .inr (.inr (splitOperator_absent hfind hspaces))

/-- An action without a pick count begins with the token of actions. -/
lemma exists_action_append (hoperator : (splitOperator t).1 = .known .activate)
    (hcount : Text.digits t = []) :
    ∃ gain, t = Vocabulary.token OperatorWord.activate ++ gain ∧
      (splitOperator t).2.2 = Text.trimStart gain := by
  rcases splitOperator_cases t with ⟨word, -, htoken, ht⟩ | ⟨hfind, head, tail, hparts, ht⟩ | ht
  · obtain rfl : word = .activate := by simpa [ht] using hoperator
    refine ⟨(Spec.splitLead t).2, ?_, by rw [ht]⟩
    rw [htoken, Spec.splitLead_append]
  · -- by position the token would follow digits, but without them it is a lead
    have hletters : Text.afterDigits head = Vocabulary.token OperatorWord.activate := by
      have hof : Operator.ofToken (Text.afterDigits head) = .known .activate := by
        rwa [ht] at hoperator
      rw [← Operator.token_ofToken (Text.afterDigits head), hof, Operator.token]
    have hhead : Text.afterDigits head = head := by
      cases head with
      | nil => rfl
      | cons c head =>
        rw [Text.eq_of_splitOn_eq_pair hparts] at hcount
        have hc : c.isDigit = false := by
          by_contra hc
          simp [Text.digits, List.takeWhile_cons, hc] at hcount
        simp [Text.afterDigits, hc]
    rw [Text.eq_of_splitOn_eq_pair hparts, ← hhead, hletters,
      Spec.splitLead_operator (by simp)] at hfind
    cases hfind
  · simp [ht] at hoperator

lemma operator_ne_special (t : Text) : (splitOperator t).1 ≠ .known .special := by
  rcases splitOperator_cases t with ⟨word, hword, -, h⟩ | ⟨-, head, tail, -, h⟩ | h
  · simpa [h] using hword
  · rw [h]
    exact Operator.ofToken_ne_special _
  · simp [h]

lemma operator_eq_unrecognized (h : (splitOperator t).1 = .unrecognized u) :
    (∀ word : OperatorWord, word ≠ .special → Vocabulary.token word ≠ u) ∧ ' ' ∉ u ∧
      ∀ c, u.head? = some c → c.isDigit = false := by
  rcases splitOperator_cases t with ⟨word, -, -, ht⟩ | ⟨-, head, tail, hparts, ht⟩ | ht
  · simp [ht] at h
  · rw [ht] at h
    obtain ⟨rfl, hword⟩ := Operator.token_ne_of_ofToken_eq_unrecognized h
    have hspace : ' ' ∉ head := Text.not_mem_of_mem_splitOn (t := t) (by simp [hparts])
    refine ⟨hword, fun hmem => hspace ((List.dropWhile_sublist _).subset hmem), fun c hc => ?_⟩
    obtain ⟨r, hr⟩ := List.head?_eq_some_iff.mp hc
    exact Text.not_isDigit_of_afterDigits hr
  · simp [ht] at h

end

/-! ### Paying for the condition -/

/-- An action with a condition pays for it; all other slots stay as they are. -/
lemma payCondition_cases (s : Slots) :
    (s.operator = .known .activate ∧ s.condition ≠ .none ∧
      s.payCondition =
        { s with
          condition := .none
          rewards := ⟨-1, .ofToken s.condition.token⟩ :: s.rewards }) ∨
    ((s.operator = .known .activate → s.condition = .none) ∧ s.payCondition = s) := by
  unfold payCondition
  by_cases h : s.operator = .known .activate ∧ s.condition ≠ .none
  · exact .inl ⟨h.1, h.2, if_pos h⟩
  · exact .inr ⟨by simpa using h, if_neg h⟩

lemma payCondition_of_none {s : Slots} (h : s.condition = .none) : s.payCondition = s :=
  if_neg fun hpaid => hpaid.2 h

@[simp] lemma operator_payCondition (s : Slots) : s.payCondition.operator = s.operator := by
  unfold payCondition
  split <;> rfl

/-- Only an action, or the special spec, is without the condition that is written. -/
lemma condition_of_read {spec : Text} {s : Slots} (h : read spec = .ok s)
    (hspecial : s.operator ≠ .known .special) (haction : s.operator ≠ .known .activate) :
    s.condition = (splitCondition spec).1 := by
  rcases read_eq_ok_iff.mp h with ⟨-, rfl⟩ | ⟨-, rewards, -, hpaid⟩
  · exact absurd rfl hspecial
  · rcases payCondition_cases (written spec rewards) with ⟨hactivate, -, -⟩ | ⟨-, heq⟩
    · rw [← hpaid, operator_payCondition] at haction
      exact absurd hactivate haction
    · rw [← hpaid, heq]
      rfl

/-! ### All slots -/

/-- What the slots of a spec keep to. -/
structure WellFormed (spec : Text) (s : Slots) : Prop where
  special_iff : s.operator = .known .special ↔ IsSpecial spec
  special_empty : s.operator = .known .special →
    s.condition = .none ∧ s.rewards = [] ∧ s.picks = 0
  action_condition : s.operator = .known .activate → s.condition = .none
  condition_unrecognized : ∀ u, s.condition = .unrecognized u →
    u ≠ [] ∧ (∀ word : ConditionWord, Vocabulary.token word ≠ u) ∧ spec.count ' ' = 2
  operator_unrecognized : ∀ u, s.operator = .unrecognized u →
    (∀ word : OperatorWord, word ≠ .special → Vocabulary.token word ≠ u) ∧ ' ' ∉ u ∧
      ∀ c, u.head? = some c → c.isDigit = false
  rewards_canonical : ∀ r ∈ s.rewards, r.Canonical

/-- What an action pays with is a reward in canonical form. -/
lemma canonical_cost {c : Condition} (h : c.token ≠ []) :
    Reward.Canonical ⟨-1, .ofToken c.token⟩ where
  count_ne := show (-1 : Int32) ≠ Int32.minValue by decide
  resource_eq := by simp
  token_ne_nil := by simpa using h

lemma wellFormed_special {spec : Text} (h : IsSpecial spec) : WellFormed spec special where
  special_iff := iff_of_true rfl h
  special_empty _ := ⟨rfl, rfl, rfl⟩
  action_condition _ := rfl
  condition_unrecognized _ h := nomatch h
  operator_unrecognized _ h := nomatch h
  rewards_canonical := by simp [special]

lemma wellFormed_payCondition {spec : Text} {rewards : List Reward} (hspecial : ¬ IsSpecial spec)
    (hrewards : ∀ r ∈ rewards, r.Canonical) :
    WellFormed spec (written spec rewards).payCondition := by
  have hoperator : (written spec rewards).payCondition.operator =
      (splitOperator (splitCondition spec).2).1 := operator_payCondition _
  have hne : (written spec rewards).payCondition.operator ≠ .known .special :=
    hoperator ▸ operator_ne_special _
  have hpaid := payCondition_cases (written spec rewards)
  constructor
  case special_iff => exact iff_of_false hne hspecial
  case special_empty => exact fun h => absurd h hne
  case operator_unrecognized => exact fun u hu => operator_eq_unrecognized (hoperator ▸ hu)
  case action_condition =>
    intro haction
    rcases hpaid with ⟨-, -, heq⟩ | ⟨hnone, heq⟩
    · rw [heq]
    · rw [heq] at haction ⊢
      exact hnone haction
  case condition_unrecognized =>
    intro u hu
    rcases hpaid with ⟨-, -, heq⟩ | ⟨-, heq⟩
    · rw [heq] at hu
      cases hu
    · rw [heq] at hu
      exact condition_eq_unrecognized hu
  case rewards_canonical =>
    rcases hpaid with ⟨-, hsome, heq⟩ | ⟨-, heq⟩
    · rw [heq]
      exact List.forall_mem_cons.mpr ⟨canonical_cost (token_condition_ne_nil hsome), hrewards⟩
    · rw [heq]
      exact hrewards

/-- **Whatever is read is well formed.** -/
theorem wellFormed_of_read {spec : Text} {s : Slots} (h : read spec = .ok s) :
    WellFormed spec s := by
  rcases read_eq_ok_iff.mp h with ⟨hspecial, rfl⟩ | ⟨hspecial, rewards, hrewards, rfl⟩
  · exact wellFormed_special hspecial
  · exact wellFormed_payCondition hspecial (Reward.canonical_of_parsePhrase hrewards)

end Slots

end RuleTriggers
