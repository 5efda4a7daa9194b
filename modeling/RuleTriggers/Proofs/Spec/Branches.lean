import RuleTriggers.Proofs.Spec.Lead
import RuleTriggers.Spec.Slots

/-!
The ways to take a condition or an operator off the front of a text, one equation for each. What
decides between them is the lead and, where it has no meaning, how many spaces there are. What is
meant by the slots once they are taken off is put together at the end.
-/

namespace RuleTriggers.Slots

variable {t : Text}

/-! ### The condition -/

lemma ofToken_ne_none (t : Text) : Condition.ofToken t ≠ .none := by
  unfold Condition.ofToken
  split <;> simp

lemma splitCondition_known {word : ConditionWord}
    (h : Vocabulary.find? (Spec.splitLead t).1 = some word) :
    splitCondition t = (.known word, Text.trimStart (Spec.splitLead t).2) := by
  simp [splitCondition, h]

lemma splitCondition_three
    (h : (Vocabulary.find? (Spec.splitLead t).1 : Option ConditionWord) = none)
    (hspaces : t.count ' ' = 2) :
    splitCondition t =
      (.unrecognized (Spec.splitLead t).1, Text.trimStart (Spec.splitLead t).2) := by
  have hlen : (t.splitOn ' ').length = 3 := by rw [Text.length_splitOn, hspaces]
  obtain ⟨a, b, c, habc⟩ := List.length_eq_three.mp hlen
  simp [splitCondition, h, habc]

lemma splitCondition_absent
    (h : (Vocabulary.find? (Spec.splitLead t).1 : Option ConditionWord) = none)
    (hspaces : t.count ' ' ≠ 2) : splitCondition t = (.none, t) := by
  have hlen : (t.splitOn ' ').length ≠ 3 := by
    rw [Text.length_splitOn]
    omega
  simp only [splitCondition, h]
  split
  · next habc => exact absurd (congrArg List.length habc) hlen
  · rfl

/-- A word before a space is the condition if it is in the vocabulary, or if one more space
demands it. -/
lemma splitCondition_word {w rest : Text} (hw : w ≠ []) (hword : ∀ d ∈ w, Spec.isWord d)
    (h : (∃ word : ConditionWord, Vocabulary.token word = w) ∨ rest.count ' ' = 1) :
    splitCondition (w ++ ' ' :: rest) = (.ofToken w, Text.trimStart rest) := by
  have hlead := Spec.splitLead_word hw hword rest
  cases hfind : (Vocabulary.find? w : Option ConditionWord) with
  | some word =>
    rw [splitCondition_known (by rw [hlead, hfind]), hlead, Text.trimStart_space,
      Condition.ofToken, hfind]
  | none =>
    have hspace : ' ' ∉ w := fun hmem => absurd (hword ' ' hmem) (by decide)
    have hrest : rest.count ' ' = 1 := h.resolve_left fun ⟨word, htoken⟩ =>
      Vocabulary.find?_eq_none_iff.mp hfind word htoken
    have htwo : (w ++ ' ' :: rest).count ' ' = 2 := by
      simp [List.count_eq_zero_of_not_mem hspace, hrest]
    rw [splitCondition_three (by rw [hlead, hfind]) htwo, hlead, Text.trimStart_space,
      Condition.ofToken, hfind]

/-! ### The operator -/

lemma splitOperator_known {o : Operator} (h : Operator.find? (Spec.splitLead t).1 = some o) :
    splitOperator t = (o, 0, Text.trimStart (Spec.splitLead t).2) := by
  simp [splitOperator, h]

lemma splitOperator_pair {head tail : Text} (h : Operator.find? (Spec.splitLead t).1 = none)
    (hparts : t.splitOn ' ' = [head, tail]) :
    splitOperator t =
      (Operator.ofToken (Text.afterDigits head), count (Text.digits head), tail) := by
  simp [splitOperator, h, hparts]

lemma splitOperator_absent (h : Operator.find? (Spec.splitLead t).1 = none)
    (hspaces : t.count ' ' ≠ 1) : splitOperator t = (.known .once, 0, t) := by
  have hlen : (t.splitOn ' ').length ≠ 2 := by
    rw [Text.length_splitOn]
    omega
  simp only [splitOperator, h]
  split
  · next hab => exact absurd (congrArg List.length hab) hlen
  · rfl

/-- A token on its own is read as a token. -/
lemma splitOperator_token {word : OperatorWord} (hword : word ≠ .special) (p : Text) :
    splitOperator (Vocabulary.token word ++ ' ' :: p) =
      (.known word, 0, Text.trimStart p) := by
  have hlead := Spec.splitLead_operator hword p
  have hfind : Operator.find? (Spec.splitLead (Vocabulary.token word ++ ' ' :: p)).1 =
      some (.known word) := by
    rw [hlead]
    exact Operator.find?_eq_some_iff.mpr ⟨word, hword, rfl, rfl⟩
  rw [splitOperator_known hfind, hlead, Text.trimStart_space]

/-- With digits in front there is no lead to go by, and the operator is read by position. -/
lemma splitOperator_counted {ds letters p : Text} (hne : ds ≠ []) (hds : ∀ d ∈ ds, d.isDigit)
    (hletters : ∀ c, letters.head? = some c → c.isDigit = false) (hspace : ' ' ∉ letters)
    (hp : ' ' ∉ p) :
    splitOperator (ds ++ letters ++ ' ' :: p) = (Operator.ofToken letters, count ds, p) := by
  have hnumeric : Text.Numeric (ds ++ letters ++ ' ' :: p) := by
    rw [List.append_assoc]
    exact Text.numeric_append hne hds _
  have hhead : ' ' ∉ ds ++ letters := by
    have hdigits : ' ' ∉ ds := fun hmem => absurd (hds ' ' hmem) (by decide)
    simp [hdigits, hspace]
  have hparts : (ds ++ letters ++ ' ' :: p).splitOn ' ' = [ds ++ letters, p] := by
    rw [List.splitOn_append_cons_self_of_not_mem hhead, List.splitOn_eq_singleton hp]
  rw [splitOperator_pair (Spec.operator_lead_of_numeric hnumeric) hparts,
    Text.digits_append hds hletters, Text.afterDigits_append hds hletters]

lemma toNat_count (ds : Text) :
    (count ds).toNat = if Text.value ds < UInt32.size then Text.value ds else 0 := by
  unfold count
  split
  · next hlt => exact UInt32.toNat_ofNat_of_lt' hlt
  · rfl

/-! ### The special operator -/

/-- One character that is neither blank nor a letter of the special operator is enough. -/
lemma not_isSpecial_of_mem {s : Text} {c : Char} (hmem : c ∈ s) (hblank : Text.isBlank c = false)
    (hletter : c.toLower ∉ Vocabulary.token OperatorWord.special) : ¬ IsSpecial s := by
  intro hspecial
  have hlower := List.mem_map_of_mem (f := Char.toLower) (Text.mem_trim hmem hblank)
  rw [hspecial] at hlower
  exact hletter hlower

/-- So is a beginning that is neither blank nor the first letter of the special operator. -/
lemma not_isSpecial_cons {c : Char} {s : Text} (hblank : Text.isBlank c = false)
    (hletter : c.toLower ≠ 's') : ¬ IsSpecial (c :: s) := by
  obtain ⟨w, -, htrim⟩ := Text.exists_trim_append_blank (c :: s)
  rw [Text.trimStart_cons, hblank, if_neg Bool.false_ne_true] at htrim
  intro hspecial
  unfold IsSpecial at hspecial
  cases hrest : Text.trim (c :: s) with
  | nil =>
    rw [hrest] at hspecial
    simp [Vocabulary.token] at hspecial
  | cons d t =>
    rw [hrest] at htrim hspecial
    obtain rfl : d = c := (List.cons.inj htrim).1
    exact hletter (List.cons.inj hspecial).1

lemma not_isSpecial_of_isDigit {s : Text} {d : Char} (hmem : d ∈ s) (hd : d.isDigit) :
    ¬ IsSpecial s := by
  refine not_isSpecial_of_mem hmem (Text.isBlank_of_isDigit hd) ?_
  exact Text.forall_isDigit (fun c => c.toLower ∉ Vocabulary.token OperatorWord.special)
    (by decide) hd

/-- Operators in a slot are written with characters that the special one does not have. -/
lemma not_isSpecial_of_token_subset {word : OperatorWord} (hword : word ≠ .special) {s : Text}
    (h : Vocabulary.token word ⊆ s) : ¬ IsSpecial s := by
  cases word with
  | special => exact absurd rfl hword
  | _ => exact not_isSpecial_of_mem (h List.mem_cons_self) (by decide) (by decide)

/-! ### What is meant -/

/-- The condition as it is written, if there is one. -/
def conditionSlot : Option Text → Condition
  | none => .none
  | some c => .ofToken c

/-- What the condition costs if it has to be paid for. -/
def cost : Option Text → List Reward
  | none => []
  | some c => [⟨-1, .ofToken c⟩]

/-- The slots that are meant by what is written in each. An action has its condition among its
rewards. -/
def meant (condition : Option Text) (operator : Operator) (picks : UInt32)
    (rewards : List Reward) : Slots :=
  if operator = .known .activate then ⟨.none, operator, picks, cost condition ++ rewards⟩
  else ⟨conditionSlot condition, operator, picks, rewards⟩

/-- What is read slot by slot, once an action has paid for its condition, is what is meant. -/
lemma payCondition_conditionSlot (condition : Option Text) (operator : Operator)
    (picks : UInt32) (rewards : List Reward) :
    payCondition ⟨conditionSlot condition, operator, picks, rewards⟩ =
      meant condition operator picks rewards := by
  unfold payCondition meant
  by_cases hactivate : operator = .known .activate
  · cases condition with
    | none => simp [hactivate, conditionSlot, cost]
    | some c => simp [hactivate, conditionSlot, cost, ofToken_ne_none]
  · simp [hactivate]

end RuleTriggers.Slots
