import RuleTriggers.Proofs.Spec.Reading
import RuleTriggers.Proofs.Trigger.Derived

/-!
Triggers written without spaces, each slot right behind the one before. Only a change between word
characters and others ends a lead, so the operator is taken for what it is exactly if the phrase
begins with a word character. Otherwise the lead runs on into the phrase and is another operator
or none at all, and what is read differs from what is meant.
-/

namespace RuleTriggers

/-- A trigger to be written without spaces. Its phrase is accepted on its own and does not end in
the mark. -/
structure Compact where
  condition : Option ConditionWord
  operator : OperatorWord
  phrase : Text
  rewards : List Reward
  operator_ne : operator ≠ .special
  phrase_not_blank : ¬ Text.AllBlank phrase
  parsePhrase_phrase : Reward.parsePhrase phrase = .ok rewards
  space_not_mem_phrase : ' ' ∉ phrase
  phrase_unmarked : phrase.getLast? ≠ some Trigger.mark

namespace Compact

variable (x : Compact)

/-- What is written after the condition. -/
def body : Text := Vocabulary.token x.operator ++ x.phrase

def text : Text :=
  match x.condition with
  | none => x.body
  | some word => Vocabulary.token word ++ x.body

/-- The condition as it is written. -/
def conditionText : Option Text := x.condition.map Vocabulary.token

/-- The slots that are meant. -/
def slots : Slots := Slots.meant x.conditionText (.known x.operator) 0 x.rewards

/-- The phrase begins with a letter, a digit or an underscore of ASCII. -/
def WordFirst : Prop := ∃ c, x.phrase.head? = some c ∧ Spec.isWord c

/-! ### The text -/

lemma phrase_ne_nil : x.phrase ≠ [] := fun hnil =>
  x.phrase_not_blank (by simp [hnil, Text.AllBlank])

lemma space_not_mem_body : ' ' ∉ x.body := by
  simp [body, Spec.space_not_mem_operator, x.space_not_mem_phrase]

lemma body_subset_text : x.body ⊆ x.text := by
  unfold text
  split
  · exact List.Subset.refl _
  · exact List.subset_append_right _ _

lemma exists_body_eq_cons :
    ∃ c t, x.body = c :: t ∧ Spec.isWord c = false ∧ Text.isBlank c = false := by
  obtain ⟨c, s, htoken, hc, hblank, -⟩ := Spec.exists_operator_eq_cons x.operator_ne
  exact ⟨c, s ++ x.phrase, by simp [body, htoken], hc, hblank⟩

lemma not_isSpecial_text : ¬ Slots.IsSpecial x.text :=
  Slots.not_isSpecial_of_token_subset x.operator_ne
    (List.Subset.trans (List.subset_append_left _ _) x.body_subset_text)

lemma getLast?_text_ne : x.text.getLast? ≠ some Trigger.mark := by
  have hbody : x.text.getLast? = x.phrase.getLast? := by
    unfold text body
    split
    · exact List.getLast?_append_of_ne_nil _ x.phrase_ne_nil
    · rw [← List.append_assoc]
      exact List.getLast?_append_of_ne_nil _ x.phrase_ne_nil
  exact hbody ▸ x.phrase_unmarked

/-! ### The condition -/

/-- The operator ends the condition, or shows that there is none. -/
lemma splitCondition_text :
    Slots.splitCondition x.text = (Slots.conditionSlot x.conditionText, x.body) := by
  obtain ⟨c, t, hbody, hc, hblank⟩ := x.exists_body_eq_cons
  unfold text conditionText
  cases x.condition with
  | none =>
    have hspaces : x.body.count ' ' = 0 := List.count_eq_zero_of_not_mem x.space_not_mem_body
    refine Slots.splitCondition_absent ?_ (by rw [hspaces]; decide)
    rw [hbody]
    exact Spec.condition_lead_of_not_isWord hc t
  | some word =>
    simp only [hbody]
    have hlead := Spec.splitLead_condition_append word (t := c :: t) (by simpa using hc)
    have hfind : Vocabulary.find? (Spec.splitLead (Vocabulary.token word ++ c :: t)).1 =
        some word := by rw [hlead, Vocabulary.find?_token]
    rw [Slots.splitCondition_known hfind, hlead,
      Text.trimStart_eq_self (t := c :: t) (by simpa using hblank)]
    simp [Slots.conditionSlot, Condition.ofToken, Vocabulary.find?_token]

/-! ### The operator -/

/-- Before a word the operator is read and what is left is the phrase. -/
lemma splitOperator_body (h : x.WordFirst) :
    Slots.splitOperator x.body = (.known x.operator, 0, x.phrase) := by
  obtain ⟨c, hc, hword⟩ := h
  have hhead : ∀ d, x.phrase.head? = some d → Spec.isWord d := fun d hd => by
    obtain rfl : c = d := by simpa [hc] using hd
    exact hword
  have hlead := Spec.splitLead_operator_append x.operator_ne hhead
  have hfind : Operator.find? (Spec.splitLead x.body).1 = some (.known x.operator) :=
    Operator.find?_eq_some_iff.mpr ⟨x.operator, x.operator_ne, by rw [body, hlead], rfl⟩
  rw [Slots.splitOperator_known hfind, body, hlead,
    Text.trimStart_eq_self fun d hd => Spec.isBlank_of_isWord (hhead d hd)]

/-- Before anything else another operator is read, or none. -/
lemma splitOperator_body_of_not (h : ¬ x.WordFirst) :
    (∃ word, word ≠ x.operator ∧ (Slots.splitOperator x.body).1 = .known word) ∨
    Slots.splitOperator x.body = (.known .once, 0, x.body) := by
  obtain ⟨c, t, hphrase⟩ := List.exists_cons_of_ne_nil x.phrase_ne_nil
  have hc : Spec.isWord c = false := by
    by_contra hc
    exact h ⟨c, by simp [hphrase], by simpa using hc⟩
  have hspace : c ≠ ' ' := by
    rintro rfl
    exact x.space_not_mem_phrase (by simp [hphrase])
  obtain ⟨u, hlead⟩ := Spec.exists_lead_operator x.operator_ne hc hspace t
  rcases Slots.splitOperator_cases x.body with
    ⟨word, -, htoken, hsplit⟩ | ⟨-, head, tail, hparts, -⟩ | hsplit
  · refine .inl ⟨word, ?_, by rw [hsplit]⟩
    rintro rfl
    rw [body, hphrase, hlead] at htoken
    simp at htoken
  · have hlen := congrArg List.length hparts
    rw [Text.length_splitOn, List.count_eq_zero_of_not_mem x.space_not_mem_body] at hlen
    simp at hlen
  · exact .inr hsplit

/-! ### All slots -/

lemma operator_slots : x.slots.operator = .known x.operator := by
  rw [slots, ← Slots.payCondition_conditionSlot, Slots.operator_payCondition]

/-- Without an operator a trigger pays out once, which may be what is meant; but then the token of
the operator is taken for part of the first reward. -/
lemma parsePhrase_body_ne (h : x.operator = .once) : Reward.parsePhrase x.body ≠ .ok x.rewards := by
  have hbody : x.body = '>' :: x.phrase := by simp [body, h, Vocabulary.token]
  rw [hbody]
  exact Reward.parsePhrase_cons_ne (by decide) (by decide) (by decide) (by decide)
    x.phrase_not_blank x.parsePhrase_phrase

/-- What is read where the operator is not: another operator, or other rewards. -/
lemma read_text_ne (h : ¬ x.WordFirst) : Slots.read x.text ≠ .ok x.slots := by
  rw [ne_eq, Slots.read_eq_ok_iff]
  rintro (⟨hspecial, -⟩ | ⟨-, rewards, hrewards, hpay⟩)
  · exact x.not_isSpecial_text hspecial
  · have hoperator := congrArg Slots.operator hpay
    rw [Slots.operator_payCondition, operator_slots] at hoperator
    simp only [Slots.written, Slots.phrase, splitCondition_text] at hoperator hrewards hpay
    rcases x.splitOperator_body_of_not h with ⟨word, hword, hsplit⟩ | hsplit
    · rw [hsplit] at hoperator
      exact hword (Operator.known.inj hoperator)
    · rw [hsplit] at hoperator hrewards hpay
      have honce : x.operator = .once := (Operator.known.inj hoperator).symm
      have hrewards' : rewards = x.rewards := by
        simpa [Slots.payCondition, slots, Slots.meant, honce] using congrArg Slots.rewards hpay
      exact x.parsePhrase_body_ne honce (hrewards' ▸ hrewards)

lemma read_text (h : x.WordFirst) : Slots.read x.text = .ok x.slots := by
  rw [Slots.read_of_splits x.not_isSpecial_text x.splitCondition_text (x.splitOperator_body h),
    x.parsePhrase_phrase, slots, ← Slots.payCondition_conditionSlot]
  rfl

/-- **An operator right before its rewards.** It is read, and with it everything that is meant,
exactly if the phrase begins with a word character. -/
theorem compile_iff_wordFirst (source : Source) :
    (Trigger.compile x.text source).map Trigger.toSlots = .ok x.slots ↔ x.WordFirst := by
  rw [Trigger.map_toSlots_compile x.getLast?_text_ne]
  refine ⟨fun h => ?_, x.read_text⟩
  by_contra hword
  exact x.read_text_ne hword h

/-- Knowledge for every type of planet: `pt>>k`. -/
def planetKnowledge : Compact where
  condition := some .planetType
  operator := .trigger
  phrase := ['k']
  rewards := [⟨1, .known .knowledge⟩]
  operator_ne := by decide
  phrase_not_blank := by decide
  parsePhrase_phrase := rfl
  space_not_mem_phrase := by decide
  phrase_unmarked := by decide

/-- Knowledge to be paid once: `>-k`. The lead is `>-`. -/
def knowledgeCost : Compact where
  condition := none
  operator := .once
  phrase := ['-', 'k']
  rewards := [⟨-1, .known .knowledge⟩]
  operator_ne := by decide
  phrase_not_blank := by decide
  parsePhrase_phrase := rfl
  space_not_mem_phrase := by decide
  phrase_unmarked := by decide

theorem compile_planetKnowledge_knowledgeCost :
    (Trigger.compile "pt>>k".toList (.numbered .booster 3)).map Trigger.toSlots =
      .ok ⟨.known .planetType, .known .trigger, 0, [⟨1, .known .knowledge⟩]⟩ ∧
    (Trigger.compile ">-k".toList (.numbered .booster 3)).map Trigger.toSlots ≠
      .ok ⟨.none, .known .once, 0, [⟨-1, .known .knowledge⟩]⟩ := by
  refine ⟨(planetKnowledge.compile_iff_wordFirst _).mpr ⟨'k', rfl, by decide⟩, fun h => ?_⟩
  obtain ⟨c, hc, hword⟩ := (knowledgeCost.compile_iff_wordFirst _).mp h
  obtain rfl : '-' = c := Option.some.inj hc
  simp [Spec.isWord] at hword

end Compact

end RuleTriggers
