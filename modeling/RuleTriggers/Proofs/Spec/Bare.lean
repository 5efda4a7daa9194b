import RuleTriggers.Proofs.Reward.Grammar
import RuleTriggers.Proofs.Spec.Reading
import RuleTriggers.Proofs.Trigger.Derived

/-!
Rewards with nothing before them. The vocabularies of conditions and of resources have one token
in common, `step`, and a condition is looked for first. So a phrase of resources is read as
rewards alone unless that token is its first item, without a sign or a count to show what it is.
-/

namespace RuleTriggers

/-- An item that names a resource proper. With no digits it is one of it. -/
structure ResourceItem where
  negative : Bool
  digits : Text
  word : ResourceWord
  digits_isDigit : ∀ d ∈ digits, d.isDigit
  value_le : Text.value digits ≤ Reward.maxSize

namespace ResourceItem

def item (x : ResourceItem) : Reward.Item where
  negative := x.negative
  digits := x.digits
  token := Vocabulary.token x.word
  minus_taken _ hhead := by
    rcases List.mem_append.mp (List.mem_of_mem_head? hhead) with hdigit | htoken
    · exact absurd (x.digits_isDigit _ hdigit) (by decide)
    · revert htoken
      cases x.word <;> decide
  digits_isDigit := x.digits_isDigit
  digits_taken := by cases x.word <;> simp [Vocabulary.token]

def text (x : ResourceItem) : Text := x.item.text

def reward (x : ResourceItem) : Reward := x.item.reward

/-- The token and nothing else. -/
def Bare (x : ResourceItem) : Prop := x.negative = false ∧ x.digits = []

/-- The items between commas. -/
def phrase (xs : List ResourceItem) : Text := [Reward.separator].intercalate (xs.map text)

/-! ### What items are written with -/

section Item

variable (x : ResourceItem)

lemma isWord_of_mem_token (word : ResourceWord) :
    ∀ c ∈ Vocabulary.token word, Spec.isWord c := by
  cases word <;> simp [Vocabulary.token, Spec.isWord]

lemma mem_text {c : Char} (h : c ∈ x.text) : c = '-' ∨ Spec.isWord c := by
  unfold text Reward.Item.text at h
  rcases List.mem_append.mp h with hfront | htoken
  · rcases List.mem_append.mp hfront with hsign | hdigit
    · left
      split at hsign
      · exact List.mem_singleton.mp hsign
      · simp at hsign
    · exact .inr (Spec.isWord_of_isDigit (x.digits_isDigit c hdigit))
  · exact .inr (isWord_of_mem_token x.word c htoken)

lemma trim_text : Text.trim x.text = x.text := by
  refine Text.trim_of_forall fun c hc => ?_
  rcases x.mem_text hc with rfl | hword
  · rfl
  · exact Spec.isBlank_of_isWord hword

lemma good_item : x.item.Good where
  token_ne_nil := by cases h : x.word <;> simp [item, h, Vocabulary.token]
  value_le := x.value_le

lemma parse_text : Reward.parse x.text = .ok x.reward :=
  Reward.parse_eq_reward x.trim_text.symm x.good_item

end Item

/-! ### Phrases -/

lemma mem_phrase {xs : List ResourceItem} {c : Char} (h : c ∈ phrase xs) :
    c = Reward.separator ∨ c = '-' ∨ Spec.isWord c := by
  rcases Text.mem_intercalate h with hc | ⟨t, ht, hc⟩
  · exact .inl hc
  · obtain ⟨x, -, rfl⟩ := List.mem_map.mp ht
    exact .inr (x.mem_text hc)

lemma not_mem_phrase {xs : List ResourceItem} {c : Char} (hcomma : c ≠ Reward.separator)
    (hminus : c ≠ '-') (hword : Spec.isWord c = false) : c ∉ phrase xs := fun h => by
  rcases mem_phrase h with hc | hc | hc
  · exact hcomma hc
  · exact hminus hc
  · simp [hword] at hc

section Phrase

variable (first : ResourceItem) (rest : List ResourceItem)

/-- The first item is a bare token and ends where that does, or it begins with a sign or a digit. -/
lemma phrase_cases :
    (first.Bare ∧ ∃ t, phrase (first :: rest) = Vocabulary.token first.word ++ t ∧
      ∀ d, t.head? = some d → Spec.isWord d = false) ∨
    (¬ first.Bare ∧ ∃ c t, phrase (first :: rest) = c :: t ∧ (c.isDigit ∨ c = '-')) := by
  obtain ⟨t, hphrase, ht⟩ :=
    Text.exists_intercalate_cons Reward.separator first.text (rest.map text)
  have hfirst : phrase (first :: rest) = (if first.negative then ['-'] else []) ++ first.digits ++
      Vocabulary.token first.word ++ t := hphrase
  rw [hfirst]
  cases hnegative : first.negative with
  | true => exact .inr ⟨by simp [Bare, hnegative], '-', _, rfl, .inr rfl⟩
  | false =>
    cases hdigits : first.digits with
    | nil =>
      -- what follows the token is a comma, if anything
      refine .inl ⟨⟨hnegative, hdigits⟩, t, rfl, fun d hd => ?_⟩
      rw [ht d hd]
      decide
    | cons d ds =>
      have hd : d.isDigit := first.digits_isDigit d (by simp [hdigits])
      exact .inr ⟨by simp [Bare, hdigits], d, _, rfl, .inl hd⟩

lemma parsePhrase_phrase :
    Reward.parsePhrase (phrase (first :: rest)) = .ok ((first :: rest).map reward) := by
  refine Reward.parsePhrase_intercalate (by simp) (fun t ht hmem => ?_) ?_
  · obtain ⟨x, -, rfl⟩ := List.mem_map.mp ht
    rcases x.mem_text hmem with hminus | hword
    · exact absurd hminus (by decide)
    · exact absurd hword (by decide)
  · rw [List.forall₂_map_left_iff, List.forall₂_map_right_iff, List.forall₂_same]
    exact fun x _ => x.parse_text

/-! ### The slots -/

variable {first}

/-- Every resource but one is named by a token that is no condition. -/
lemma find?_condition_token {word : ResourceWord} (h : word ≠ .terraformStep) :
    (Vocabulary.find? (Vocabulary.token word) : Option ConditionWord) = none := by
  cases word with
  | terraformStep => exact absurd rfl h
  | _ => rfl

lemma find?_operator_token (word : ResourceWord) :
    Operator.find? (Vocabulary.token word) = none := by
  cases word <;> rfl

/-- The lead of a phrase is no operator, and a condition only if the phrase begins with that one
token. -/
lemma lead_phrase (h : ¬ (first.Bare ∧ first.word = .terraformStep)) :
    (Vocabulary.find? (Spec.splitLead (phrase (first :: rest))).1 : Option ConditionWord) = none ∧
      Operator.find? (Spec.splitLead (phrase (first :: rest))).1 = none := by
  rcases phrase_cases first rest with ⟨hbare, t, hphrase, ht⟩ | ⟨-, c, t, hphrase, hc⟩
  · have hword : first.word ≠ .terraformStep := fun hstep => h ⟨hbare, hstep⟩
    have hne : Vocabulary.token first.word ≠ [] := first.good_item.token_ne_nil
    rw [hphrase, Spec.splitLead_word_append hne (isWord_of_mem_token first.word) ht]
    exact ⟨find?_condition_token hword, find?_operator_token first.word⟩
  · have hnumeric : Text.Numeric (phrase (first :: rest)) := by
      intro d hd
      obtain rfl : c = d := by simpa [hphrase] using hd
      exact hc
    exact ⟨Spec.condition_lead_of_numeric hnumeric, Spec.operator_lead_of_numeric hnumeric⟩

/-- With that token in front there is a condition. -/
lemma splitCondition_step (hbare : first.Bare) (hstep : first.word = .terraformStep) :
    (Slots.splitCondition (phrase (first :: rest))).1 = .known .terraformStep := by
  rcases phrase_cases first rest with ⟨-, t, hphrase, ht⟩ | ⟨hnot, -⟩
  · have hne : Vocabulary.token first.word ≠ [] := first.good_item.token_ne_nil
    have hlead := Spec.splitLead_word_append hne (isWord_of_mem_token first.word) ht
    rw [hphrase, Slots.splitCondition_known (by rw [hlead, hstep]; rfl)]
  · exact absurd hbare hnot

/-- Nothing that begins as these phrases do is taken for the special operator. -/
lemma not_isSpecial_phrase (h : ¬ (first.Bare ∧ first.word = .terraformStep)) :
    ¬ Slots.IsSpecial (phrase (first :: rest)) := by
  rcases phrase_cases first rest with ⟨hbare, t, hphrase, -⟩ | ⟨-, c, t, hphrase, hc⟩
  · obtain ⟨c, s, htoken, hblank, hletter⟩ : ∃ c s, Vocabulary.token first.word = c :: s ∧
        Text.isBlank c = false ∧ c.toLower ≠ 's' := by
      cases hword : first.word with
      | terraformStep => exact absurd ⟨hbare, hword⟩ h
      | _ => exact ⟨_, _, rfl, by decide, by decide⟩
    rw [hphrase, htoken]
    exact Slots.not_isSpecial_cons hblank hletter
  · rw [hphrase]
    rcases hc with hdigit | rfl
    · exact Slots.not_isSpecial_cons (Text.isBlank_of_isDigit hdigit)
        (Text.forall_isDigit (fun d => d.toLower ≠ 's') (by decide) hdigit)
    · exact Slots.not_isSpecial_cons rfl (by decide)

lemma read_phrase (h : ¬ (first.Bare ∧ first.word = .terraformStep)) :
    Slots.read (phrase (first :: rest)) =
      .ok ⟨.none, .known .once, 0, (first :: rest).map reward⟩ := by
  obtain ⟨hcondition, hoperator⟩ := lead_phrase rest h
  have hspaces : (phrase (first :: rest)).count ' ' = 0 :=
    List.count_eq_zero_of_not_mem (not_mem_phrase (by decide) (by decide) (by decide))
  rw [Slots.read_of_splits (not_isSpecial_phrase rest h)
    (Slots.splitCondition_absent hcondition (by rw [hspaces]; decide))
    (Slots.splitOperator_absent hoperator (by rw [hspaces]; decide)), parsePhrase_phrase]
  rfl

/-- **Rewards with nothing before them.** A phrase of resources is accepted on its own. The
compiler takes all of it for rewards unless its first item is the token that is a condition. -/
theorem compile_rewards_iff (first : ResourceItem) (rest : List ResourceItem) (source : Source) :
    Reward.parsePhrase (phrase (first :: rest)) = .ok ((first :: rest).map reward) ∧
    ((Trigger.compile (phrase (first :: rest)) source).map Trigger.toSlots =
        .ok ⟨.none, .known .once, 0, (first :: rest).map reward⟩ ↔
      ¬ (first.Bare ∧ first.word = .terraformStep)) := by
  refine ⟨parsePhrase_phrase first rest, ?_⟩
  have hmark : (phrase (first :: rest)).getLast? ≠ some Trigger.mark := fun hlast =>
    not_mem_phrase (by decide) (by decide) (by decide) (List.mem_of_getLast? hlast)
  rw [Trigger.map_toSlots_compile hmark]
  refine ⟨?_, read_phrase rest⟩
  rintro hread ⟨hbare, hstep⟩
  have hcondition := Slots.condition_of_read hread (by simp) (by simp)
  rw [splitCondition_step rest hbare hstep] at hcondition
  cases hcondition

/-- A terraforming step, written as the token alone. -/
def bareStep : ResourceItem where
  negative := false
  digits := []
  word := .terraformStep
  digits_isDigit := by simp
  value_le := by decide

/-- The same with its count. -/
def oneStep : ResourceItem where
  negative := false
  digits := ['1']
  word := .terraformStep
  digits_isDigit := by simp [Char.isDigit]
  value_le := by decide

/-- Two of knowledge to be paid. -/
def knowledgePair : ResourceItem where
  negative := true
  digits := ['0', '2']
  word := .knowledge
  digits_isDigit := by simp [Char.isDigit]
  value_le := by decide

/-- The count makes the difference. -/
theorem compile_step_knowledgePair :
    (Trigger.compile "1step,-02k".toList (.numbered .booster 3)).map Trigger.toSlots =
      .ok ⟨.none, .known .once, 0, [⟨1, .known .terraformStep⟩, ⟨-2, .known .knowledge⟩]⟩ ∧
    (Trigger.compile "step,-02k".toList (.numbered .booster 3)).map Trigger.toSlots ≠
      .ok ⟨.none, .known .once, 0, [⟨1, .known .terraformStep⟩, ⟨-2, .known .knowledge⟩]⟩ := by
  refine ⟨(compile_rewards_iff oneStep [knowledgePair] _).2.mpr ?_, fun hcompile => ?_⟩
  · simp [Bare, oneStep]
  · exact (compile_rewards_iff bareStep [knowledgePair] _).2.mp hcompile ⟨⟨rfl, rfl⟩, rfl⟩

end Phrase

end ResourceItem

end RuleTriggers
