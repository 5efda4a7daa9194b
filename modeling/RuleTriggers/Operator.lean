import RuleTriggers.Vocabulary

/-!
Operators: when a trigger pays out. One of them, special, has no place among the slots of a spec;
it belongs to the spec that consists of its token alone.
-/

namespace RuleTriggers

/-- The operators with a meaning in the rules. -/
inductive OperatorWord
  | once | income | trigger | activate | pass | special
  deriving DecidableEq

instance : Vocabulary OperatorWord where
  subject := "operator"
  all :=
    [.once, .income, .trigger, .activate, .pass, .special]
  token
    | .once => ['>']
    | .income => ['+']
    | .trigger => ['>', '>']
    | .activate => ['=', '>']
    | .pass => ['|']
    | .special => ['s', 'p', 'e', 'c', 'i', 'a', 'l']
  name
    | .once => "Once"
    | .income => "Income"
    | .trigger => "Trigger"
    | .activate => "Activate"
    | .pass => "Pass"
    | .special => "Special"
  mem_all := by intro w; cases w <;> decide
  tokens_nodup := by decide

/-- What stands between condition and rewards. Letters outside the vocabulary are kept as they
are written. -/
inductive Operator
  | known (word : OperatorWord)
  | unrecognized (token : Text)
  deriving DecidableEq

namespace Operator

/-- A trigger without an operator pays out once. -/
instance : Inhabited Operator := ⟨known .once⟩

/-- The operator that a token stands for inside a spec, where special is none. -/
def find? (t : Text) : Option Operator :=
  match (Vocabulary.find? t : Option OperatorWord) with
  | some .special => none
  | some word => some (known word)
  | none => none

def ofToken (t : Text) : Operator := (find? t).getD (unrecognized t)

def token : Operator → Text
  | known word => Vocabulary.token word
  | unrecognized t => t

theorem find?_eq_some_iff {t : Text} {o : Operator} :
    find? t = some o ↔ ∃ word : OperatorWord, word ≠ .special ∧ Vocabulary.token word = t ∧
      o = known word := by
  unfold find?
  split
  · next h =>
    have ht := Vocabulary.find?_eq_some_iff.1 h
    constructor
    · simp
    · rintro ⟨word, hw, hword, -⟩
      exact absurd (Vocabulary.token_injective (hword.trans ht.symm)) hw
  · next word hs h =>
    have ht := Vocabulary.find?_eq_some_iff.1 h
    constructor
    · rintro ⟨⟩
      exact ⟨word, hs, ht, rfl⟩
    · rintro ⟨w, -, hw, rfl⟩
      rw [Vocabulary.token_injective (hw.trans ht.symm)]
  · next h =>
    constructor
    · simp
    · rintro ⟨w, -, hw, -⟩
      exact absurd hw (Vocabulary.find?_eq_none_iff.1 h w)

@[simp] theorem token_ofToken (t : Text) : (ofToken t).token = t := by
  unfold ofToken
  cases h : find? t with
  | none => rfl
  | some o =>
    obtain ⟨word, -, hword, rfl⟩ := find?_eq_some_iff.1 h
    exact hword

def IsKnown (o : Operator) (word : OperatorWord) : Prop := o = known word

instance (o : Operator) (word : OperatorWord) : Decidable (o.IsKnown word) :=
  inferInstanceAs (Decidable (o = known word))

end Operator

end RuleTriggers
