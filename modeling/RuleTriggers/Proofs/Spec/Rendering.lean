import RuleTriggers.Proofs.Reward.RoundTrip
import RuleTriggers.Proofs.Spec.Branches
import RuleTriggers.Proofs.Trigger.Derived

/-!
Triggers written out slot by slot, with a space after the condition and after the operator and
none anywhere else. Where the tokens do not tell which slots there are the number of spaces does,
so the compiler reads back what was written.
-/

namespace RuleTriggers

/-- An operator to be written, with the count of picks in front if there is to be one. -/
structure OperatorSlot where
  picks : Option UInt32
  word : OperatorWord
  word_ne : word ≠ .special

/-- A trigger to be written. Any word may be the condition of an operator; without an operator
it has to be in the vocabulary. -/
structure Rendering where
  condition : Option Text
  operator : Option OperatorSlot
  rewards : List Reward
  activated : Bool
  condition_ne_nil : ∀ c ∈ condition, c ≠ []
  isWord_of_mem_condition : ∀ c ∈ condition, ∀ d ∈ c, Spec.isWord d
  condition_known : operator = none → ∀ c ∈ condition,
    ∃ word : ConditionWord, Vocabulary.token word = c
  legible : ∀ r ∈ rewards, r.Legible
  phrase_unmarked : activated = false →
    (Reward.phrase rewards).getLast? ≠ some Trigger.mark

/-- The text of a slot with a space after it, or nothing. -/
def Text.spaced : Option Text → Text
  | none => []
  | some t => t ++ [' ']

namespace OperatorSlot

def text (o : OperatorSlot) : Text :=
  match o.picks with
  | none => Vocabulary.token o.word
  | some n => Text.decimal n.toNat ++ Vocabulary.token o.word

/-- The operator that is written; a trigger without one pays out once. -/
def operator : Option OperatorSlot → Operator
  | none => .known .once
  | some o => .known o.word

/-- The count that is written, or zero. -/
def count : Option OperatorSlot → UInt32
  | none => 0
  | some o => o.picks.getD 0

end OperatorSlot

namespace Rendering

/-- What is written after the condition. -/
def body (r : Rendering) : Text :=
  Text.spaced (r.operator.map OperatorSlot.text) ++ Reward.phrase r.rewards

def spec (r : Rendering) : Text := Text.spaced r.condition ++ r.body

def text (r : Rendering) : Text := if r.activated then r.spec ++ [Trigger.mark] else r.spec

/-- The slots that are meant. -/
def slots (r : Rendering) : Slots :=
  Slots.meant r.condition (OperatorSlot.operator r.operator) (OperatorSlot.count r.operator)
    r.rewards

end Rendering

/-! ### The operator -/

namespace OperatorSlot

variable {p : Text}

lemma space_not_mem_decimal (n : Nat) : ' ' ∉ Text.decimal n := fun hmem =>
  absurd (Text.isDigit_of_mem_decimal hmem) (by decide)

lemma space_not_mem_text (o : OperatorSlot) : ' ' ∉ o.text := by
  unfold text
  split <;> simp [Spec.space_not_mem_operator, space_not_mem_decimal]

/-- The operator slot is read back. -/
lemma splitOperator_spaced (o : Option OperatorSlot) (hp : Text.Numeric p) (hspace : ' ' ∉ p) :
    Slots.splitOperator (Text.spaced (o.map text) ++ p) = (operator o, count o, p) := by
  cases o with
  | none =>
    refine Slots.splitOperator_absent (Spec.operator_lead_of_numeric hp) ?_
    simp [Text.spaced, List.count_eq_zero_of_not_mem hspace]
  | some o =>
    obtain ⟨picks, word, hword⟩ := o
    cases picks with
    | none =>
      have hsplit := Slots.splitOperator_token hword p
      rw [hp.trimStart_eq] at hsplit
      simpa [Text.spaced, text, operator, count] using hsplit
    | some n =>
      have hletters : ∀ c, (Vocabulary.token word).head? = some c → c.isDigit = false := by
        cases word <;> simp [Vocabulary.token]
      have hoperator : Operator.ofToken (Vocabulary.token word) = .known word := by
        have hfind : Operator.find? (Vocabulary.token word) = some (.known word) :=
          Operator.find?_eq_some_iff.mpr ⟨word, hword, rfl, rfl⟩
        simp [Operator.ofToken, hfind]
      have hcount : Slots.count (Text.decimal n.toNat) = n := by
        simp [Slots.count, n.toNat_lt_size]
      have hsplit := Slots.splitOperator_counted (Text.decimal_ne_nil n.toNat)
        (fun _ hd => Text.isDigit_of_mem_decimal hd) hletters
        (Spec.space_not_mem_operator word) hspace
      rw [hoperator, hcount] at hsplit
      simpa [Text.spaced, text, operator, count] using hsplit

end OperatorSlot

/-! ### The condition -/

namespace Rendering

variable (r : Rendering)

lemma space_not_mem_phrase : ' ' ∉ Reward.phrase r.rewards :=
  Reward.space_not_mem_phrase r.legible

lemma count_body : r.body.count ' ' = if r.operator.isSome then 1 else 0 := by
  have hphrase := List.count_eq_zero_of_not_mem r.space_not_mem_phrase
  unfold body
  cases r.operator with
  | none => simp [Text.spaced, hphrase]
  | some o =>
    have htext := List.count_eq_zero_of_not_mem o.space_not_mem_text
    simp [Text.spaced, hphrase, htext]

/-- After the condition comes a token of an operator, or something with a count in front. -/
lemma body_cases : Text.Numeric r.body ∨
    ∃ (word : OperatorWord) (t : Text), word ≠ .special ∧
      r.body = Vocabulary.token word ++ ' ' :: t := by
  unfold body
  cases r.operator with
  | none => exact .inl (Reward.numeric_phrase r.rewards)
  | some o =>
    obtain ⟨picks, word, hword⟩ := o
    cases picks with
    | none =>
      refine .inr ⟨word, Reward.phrase r.rewards, hword, ?_⟩
      simp [Text.spaced, OperatorSlot.text]
    | some n =>
      left
      simp only [Option.map_some, Text.spaced, OperatorSlot.text, List.append_assoc]
      exact Text.numeric_decimal_append _ _

lemma trimStart_body : Text.trimStart r.body = r.body := by
  rcases r.body_cases with hnumeric | ⟨word, t, hword, hbody⟩
  · exact hnumeric.trimStart_eq
  · rw [hbody]
    cases word <;> rfl

/-- No condition is seen where none is written. -/
lemma condition_lead_body :
    (Vocabulary.find? (Spec.splitLead r.body).1 : Option ConditionWord) = none := by
  rcases r.body_cases with hnumeric | ⟨word, t, hword, hbody⟩
  · exact Spec.condition_lead_of_numeric hnumeric
  · rw [hbody, Spec.splitLead_operator hword]
    cases word <;> rfl

/-- The condition slot is read back. -/
lemma splitCondition_spec :
    Slots.splitCondition r.spec = (Slots.conditionSlot r.condition, r.body) := by
  have hcount := r.count_body
  unfold spec Slots.conditionSlot
  cases hcondition : r.condition with
  | none =>
    refine Slots.splitCondition_absent r.condition_lead_body ?_
    simp only [Text.spaced, List.nil_append, hcount]
    split <;> omega
  | some c =>
    simp only [Text.spaced, List.append_assoc, List.singleton_append]
    rw [Slots.splitCondition_word (r.condition_ne_nil c hcondition)
      (r.isWord_of_mem_condition c hcondition) ?_, r.trimStart_body]
    cases hoperator : r.operator with
    | none => exact .inl (r.condition_known hoperator c hcondition)
    | some o => exact .inr (by rw [hcount, hoperator]; rfl)

/-! ### The spec as a whole -/

/-- Nothing that is written out is taken for the special operator. -/
lemma not_isSpecial_spec : ¬ Slots.IsSpecial r.spec := by
  cases hoperator : r.operator with
  | some o =>
    refine Slots.not_isSpecial_of_token_subset o.word_ne fun c hc => ?_
    have htext : c ∈ o.text := by
      unfold OperatorSlot.text
      split <;> simp [hc]
    simp [spec, body, hoperator, Text.spaced, htext]
  | none =>
    by_cases hrewards : r.rewards = []
    · cases hcondition : r.condition with
      | none =>
        have hspec : r.spec = [] := by
          simp [spec, body, hoperator, hcondition, hrewards, Text.spaced, Reward.phrase]
        rw [hspec]
        decide
      | some c =>
        obtain ⟨word, rfl⟩ := r.condition_known hoperator c hcondition
        have hspec : r.spec = Vocabulary.token word ++ [' '] := by
          simp [spec, body, hoperator, hcondition, hrewards, Text.spaced, Reward.phrase]
        rw [hspec]
        cases word <;> decide
    · obtain ⟨d, hmem, hd⟩ := Reward.exists_isDigit_mem_phrase hrewards
      refine Slots.not_isSpecial_of_isDigit ?_ hd
      simp [spec, body, hmem]

lemma getLast?_spaced_ne (slot : Option Text) :
    (Text.spaced slot).getLast? ≠ some Trigger.mark := by
  cases slot with
  | none => simp [Text.spaced]
  | some t => simp [Text.spaced, Trigger.mark]

lemma splitMark_text : Trigger.splitMark r.text = (r.spec, r.activated) := by
  unfold text
  by_cases hactivated : r.activated
  · simp [hactivated]
  · have hphrase := r.phrase_unmarked (by simpa using hactivated)
    have hbody := Text.getLast?_append_ne (getLast?_spaced_ne (r.operator.map OperatorSlot.text))
      hphrase
    have hspec : r.spec.getLast? ≠ some Trigger.mark :=
      Text.getLast?_append_ne (getLast?_spaced_ne r.condition) hbody
    simp [hactivated, Trigger.splitMark_eq_self hspec]

lemma parse_spec : Slots.parse r.spec = .ok
    ⟨Slots.conditionSlot r.condition, OperatorSlot.operator r.operator,
      OperatorSlot.count r.operator, r.rewards⟩ := by
  have hoperator := OperatorSlot.splitOperator_spaced r.operator (Reward.numeric_phrase r.rewards)
    r.space_not_mem_phrase
  have hbody : Slots.splitOperator r.body = _ := hoperator
  simp only [Slots.parse, r.splitCondition_spec, hbody, Reward.parsePhrase_phrase r.legible]
  rfl

/-- **The compiler reads back every trigger that is written out.** -/
theorem compile_rendered (source : Source) : Trigger.compile r.text source =
    .ok { r.slots with spec := r.spec, source, activated := r.activated } := by
  simp only [Trigger.compile, r.splitMark_text, Slots.read, if_neg r.not_isSpecial_spec,
    r.parse_spec, Except.map, Slots.payCondition_conditionSlot]
  rfl

/-- Two of three goods, at the price of something that is no condition. -/
def barter : Rendering where
  condition := some ['x', 'y', 'z']
  operator := some ⟨some 2, .activate, by simp⟩
  rewards := [⟨3, .known .knowledge⟩, ⟨1, .known .qic⟩, ⟨-1, .known .ore⟩]
  activated := true
  condition_ne_nil := by simp
  isWord_of_mem_condition := by simp [Spec.isWord]
  condition_known := by simp
  legible := by
    simp only [List.forall_mem_cons]
    exact ⟨Reward.legible_known (by decide) _, Reward.legible_known (by decide) _,
      Reward.legible_known (by decide) _, by simp⟩
  phrase_unmarked := by simp

theorem compile_barter : barter.text = "xyz 2=> 3k,1q,-1o!".toList ∧
    Trigger.compile barter.text (.numbered .booster 3) =
      .ok ⟨⟨.none, .known .activate, 2, ⟨-1, .other ['x', 'y', 'z']⟩ :: barter.rewards⟩,
        barter.spec, .numbered .booster 3, true⟩ :=
  ⟨by decide +kernel, compile_rendered barter (.numbered .booster 3)⟩

end Rendering

end RuleTriggers
