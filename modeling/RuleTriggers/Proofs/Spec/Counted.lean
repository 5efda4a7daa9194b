import RuleTriggers.Proofs.Spec.Reading
import RuleTriggers.Proofs.Trigger.Derived

/-!
Triggers in two parts, the first of which begins with a count of picks. Wherever the lead ends it
begins with a digit, as no condition and no operator does, so it is the one space that decides. The
operator is what follows the digits, known or not, and there is no condition to be paid for.
-/

namespace RuleTriggers

/-- A trigger in two parts: digits and what follows them, then the rewards. -/
structure Counted where
  digits : Text
  letters : Text
  phrase : Text
  digits_ne_nil : digits ≠ []
  digits_isDigit : ∀ d ∈ digits, d.isDigit
  letters_not_digit : ∀ c, letters.head? = some c → c.isDigit = false
  space_not_mem_letters : ' ' ∉ letters
  space_not_mem_phrase : ' ' ∉ phrase
  phrase_unmarked : phrase.getLast? ≠ some Trigger.mark

namespace Counted

variable (x : Counted)

def text : Text := x.digits ++ x.letters ++ ' ' :: x.phrase

lemma count_text : x.text.count ' ' = 1 := by
  have hdigits : ' ' ∉ x.digits := fun hmem => absurd (x.digits_isDigit ' ' hmem) (by decide)
  simp [text, List.count_eq_zero_of_not_mem hdigits,
    List.count_eq_zero_of_not_mem x.space_not_mem_letters,
    List.count_eq_zero_of_not_mem x.space_not_mem_phrase]

lemma getLast?_text_ne : x.text.getLast? ≠ some Trigger.mark :=
  Text.getLast?_append_space_ne (by decide) x.phrase_unmarked

lemma not_isSpecial_text : ¬ Slots.IsSpecial x.text := by
  obtain ⟨d, ds, hds⟩ := List.exists_cons_of_ne_nil x.digits_ne_nil
  refine Slots.not_isSpecial_of_isDigit (d := d) ?_ (x.digits_isDigit d (by simp [hds]))
  simp [text, hds]

lemma splitCondition_text : Slots.splitCondition x.text = (.none, x.text) := by
  refine Slots.splitCondition_absent ?_ (by rw [count_text]; decide)
  rw [text, List.append_assoc]
  exact Spec.condition_lead_of_numeric (Text.numeric_append x.digits_ne_nil x.digits_isDigit _)

/-- The operator by position, and no condition that might become a cost. -/
lemma read_text : Slots.read x.text = (Reward.parsePhrase x.phrase).map
    (Slots.mk .none (.ofToken x.letters) (Slots.count x.digits)) := by
  rw [Slots.read_of_splits x.not_isSpecial_text x.splitCondition_text
    (Slots.splitOperator_counted x.digits_ne_nil x.digits_isDigit x.letters_not_digit
      x.space_not_mem_letters x.space_not_mem_phrase)]
  congr 1
  funext rewards
  exact Slots.payCondition_of_none rfl

/-- **A count of picks forces the operator.** The rewards are all that can be at fault. A count of
more than 32 bits is none, so that all rewards apply. -/
theorem compile_counted (source : Source) : ∃ picks : UInt32,
    picks.toNat = (if Text.value x.digits < UInt32.size then Text.value x.digits else 0) ∧
    Operator.ofToken x.letters ≠ .known .special ∧
    Trigger.compile x.text source = (Reward.parsePhrase x.phrase).map fun rewards =>
      { condition := .none
        operator := .ofToken x.letters
        picks
        rewards
        spec := x.text
        source
        activated := false } := by
  refine ⟨Slots.count x.digits, Slots.toNat_count x.digits, Operator.ofToken_ne_special _, ?_⟩
  rw [Trigger.compile_of_unmarked x.getLast?_text_ne, x.read_text]
  cases Reward.parsePhrase x.phrase <;> rfl

/-- The greatest count, with leading zeros, before a token that is no operator in a slot. -/
def greatestCount : Counted where
  digits := ['0', '0', '4', '2', '9', '4', '9', '6', '7', '2', '9', '5']
  letters := Vocabulary.token OperatorWord.special
  phrase := ['k', ',', '-', 'o']
  digits_ne_nil := by simp
  digits_isDigit := by simp [Char.isDigit]
  letters_not_digit := by simp [Vocabulary.token]
  space_not_mem_letters := by decide
  space_not_mem_phrase := by decide
  phrase_unmarked := by simp [Trigger.mark]

/-- One more than that, before the operator of actions. -/
def excessCount : Counted where
  digits := ['4', '2', '9', '4', '9', '6', '7', '2', '9', '6']
  letters := Vocabulary.token OperatorWord.activate
  phrase := ['2', 'c']
  digits_ne_nil := by simp
  digits_isDigit := by simp [Char.isDigit]
  letters_not_digit := by simp [Vocabulary.token]
  space_not_mem_letters := by decide
  space_not_mem_phrase := by decide
  phrase_unmarked := by simp [Trigger.mark]

theorem compile_greatestCount_excessCount :
    Trigger.compile "004294967295special k,-o".toList (.numbered .booster 3) =
      .ok ⟨⟨.none, .unrecognized (Vocabulary.token OperatorWord.special), 4294967295,
        [⟨1, .known .knowledge⟩, ⟨-1, .known .ore⟩]⟩, greatestCount.text, .numbered .booster 3,
        false⟩ ∧
    Trigger.compile "4294967296=> 2c".toList (.numbered .booster 3) =
      .ok ⟨⟨.none, .known .activate, 0, [⟨2, .known .credit⟩]⟩, excessCount.text,
        .numbered .booster 3, false⟩ := by
  obtain ⟨greatest, hgreatest, -, hcompile⟩ := greatestCount.compile_counted (.numbered .booster 3)
  obtain ⟨excess, hexcess, -, hcompile'⟩ := excessCount.compile_counted (.numbered .booster 3)
  obtain rfl : greatest = 4294967295 := UInt32.toNat_inj.mp hgreatest
  obtain rfl : excess = 0 := UInt32.toNat_inj.mp hexcess
  exact ⟨hcompile, hcompile'⟩

end Counted

end RuleTriggers
