import RuleTriggers.Proofs.Spec.Branches
import RuleTriggers.Proofs.Trigger.Derived

/-!
Where the slots of a spec are. Condition and operator are taken off the front in several ways,
each with its own idea of the text that is left. Whichever applies, the spec is cut up with
nothing but blanks between the parts, and every slot is what its own part says.
-/

namespace RuleTriggers.Slots

/-- A spec cut up into its slots, the operator slot into count and letters. Blanks may stand
after the condition and after the operator. -/
structure Partition (spec : Text) where
  condition : Text
  afterCondition : Text
  digits : Text
  letters : Text
  afterOperator : Text
  phrase : Text
  append_eq :
    condition ++ afterCondition ++ digits ++ letters ++ afterOperator ++ phrase = spec
  afterCondition_blank : Text.AllBlank afterCondition
  digits_isDigit : ∀ d ∈ digits, d.isDigit
  afterOperator_blank : Text.AllBlank afterOperator

/-- The condition that a part stands for. -/
def conditionOf (part : Text) : Condition := if part = [] then .none else .ofToken part

/-- The operator that the letters stand for. There may be an operator part without letters, and
only if there is no such part at all the trigger pays out once. -/
def operatorOf (digits letters blanks : Text) : Operator :=
  if digits = [] ∧ letters = [] ∧ blanks = [] then .known .once else .ofToken letters

/-- The slots that the parts stand for, with the condition where it is written. -/
def Partition.written {spec : Text} (x : Partition spec) (picks : UInt32)
    (rewards : List Reward) : Slots where
  condition := conditionOf x.condition
  operator := operatorOf x.digits x.letters x.afterOperator
  picks := picks
  rewards := rewards

/-! ### One slot at a time -/

/-- The condition slot. It is not empty if the lead is a condition or spaces demand one. -/
lemma exists_splitCondition (t : Text) : ∃ part blanks,
    part ++ blanks ++ (splitCondition t).2 = t ∧ Text.AllBlank blanks ∧
      (splitCondition t).1 = conditionOf part ∧ (t.count ' ' = 2 → part ≠ []) ∧
      ∀ word : ConditionWord, Vocabulary.token word = (Spec.splitLead t).1 → part ≠ [] := by
  obtain ⟨blanks, hblanks, happend⟩ := Spec.exists_lead_append t
  cases hfind : (Vocabulary.find? (Spec.splitLead t).1 : Option ConditionWord) with
  | some word =>
    have hne : (Spec.splitLead t).1 ≠ [] := by
      rw [← Vocabulary.find?_eq_some_iff.mp hfind]
      cases word <;> simp [Vocabulary.token]
    rw [splitCondition_known hfind]
    refine ⟨_, blanks, happend, hblanks, ?_, fun _ => hne, fun _ _ => hne⟩
    simp [conditionOf, hne, Condition.ofToken, hfind]
  | none =>
    have hno := Vocabulary.find?_eq_none_iff.mp hfind
    by_cases hspaces : t.count ' ' = 2
    · have hne : (Spec.splitLead t).1 ≠ [] := by
        refine Spec.lead_ne_nil fun hnil => ?_
        simp [hnil] at hspaces
      rw [splitCondition_three hfind hspaces]
      refine ⟨_, blanks, happend, hblanks, ?_, fun _ => hne, fun _ _ => hne⟩
      simp [conditionOf, hne, Condition.ofToken, hfind]
    · rw [splitCondition_absent hfind hspaces]
      refine ⟨[], [], rfl, by simp [Text.AllBlank], rfl, fun h => absurd h hspaces, ?_⟩
      exact fun word hword => absurd hword (hno word)

/-- The operator slot with its count. -/
lemma exists_splitOperator (t : Text) : ∃ digits letters blanks,
    digits ++ letters ++ blanks ++ (splitOperator t).2.2 = t ∧
      (∀ d ∈ digits, d.isDigit) ∧ Text.AllBlank blanks ∧
      (splitOperator t).1 = operatorOf digits letters blanks ∧
      (splitOperator t).2.1 = count digits := by
  cases hfind : Operator.find? (Spec.splitLead t).1 with
  | some o =>
    obtain ⟨blanks, hblanks, happend⟩ := Spec.exists_lead_append t
    obtain ⟨word, -, hword, -⟩ := Operator.find?_eq_some_iff.mp hfind
    have hne : (Spec.splitLead t).1 ≠ [] := by
      rw [← hword]
      cases word <;> simp [Vocabulary.token]
    rw [splitOperator_known hfind]
    refine ⟨[], _, blanks, happend, by simp, hblanks, ?_, rfl⟩
    simp [operatorOf, hne, Operator.ofToken, hfind]
  | none =>
    by_cases hspaces : t.count ' ' = 1
    · obtain ⟨head, tail, hparts⟩ := Text.splitOn_eq_pair hspaces
      rw [splitOperator_pair hfind hparts, Text.eq_of_splitOn_eq_pair hparts]
      refine ⟨Text.digits head, Text.afterDigits head, [' '], by simp,
        fun d hd => Text.isDigit_of_mem_digits hd, by simp [Text.AllBlank, Text.isBlank], ?_, rfl⟩
      simp [operatorOf]
    · rw [splitOperator_absent hfind hspaces]
      exact ⟨[], [], [], rfl, by simp, by simp [Text.AllBlank], rfl, rfl⟩

lemma conditionOf_eq_none_iff {part : Text} : conditionOf part = .none ↔ part = [] := by
  unfold conditionOf
  by_cases hpart : part = []
  · simp [hpart]
  · simp [hpart, ofToken_ne_none]

lemma token_conditionOf (part : Text) : (conditionOf part).token = part := by
  unfold conditionOf
  split
  · next hpart => simp [hpart, Condition.token]
  · exact Condition.token_ofToken part

/-! ### All slots -/

/-- An action pays with the text of its condition. -/
lemma payCondition_written {spec : Text} (x : Partition spec) (picks : UInt32)
    (rewards : List Reward) :
    (x.written picks rewards).payCondition =
      if (x.written picks rewards).operator = .known .activate ∧ x.condition ≠ [] then
        { x.written picks rewards with
          condition := .none
          rewards := ⟨-1, .ofToken x.condition⟩ :: rewards }
      else x.written picks rewards := by
  have hcost : (x.written picks rewards).condition.token = x.condition :=
    token_conditionOf x.condition
  have hpaid : (x.written picks rewards).condition ≠ .none ↔ x.condition ≠ [] :=
    not_congr conditionOf_eq_none_iff
  simp only [payCondition, hcost, hpaid]
  rfl

/-- **No text is lost or read twice.** Every spec is cut up into parts so that each slot is what
its part says, and compiling fails only where the last part has no rewards to read. -/
theorem exists_partition {s : Text} (hmark : s.getLast? ≠ some Trigger.mark)
    (hspecial : ¬ IsSpecial s) : ∃ x : Partition s,
      (s.count ' ' = 2 → x.condition ≠ []) ∧
      (∀ word : ConditionWord, Vocabulary.token word = (Spec.splitLead s).1 →
        x.condition ≠ []) ∧
      ∃ picks : UInt32,
        picks.toNat = (if Text.value x.digits < UInt32.size then Text.value x.digits else 0) ∧
        parse s = (Reward.parsePhrase x.phrase).map (x.written picks) ∧
        ∀ source, Trigger.compile s source =
          (Reward.parsePhrase x.phrase).map fun rewards =>
            let slots := x.written picks rewards
            let folded : Slots :=
              if slots.operator = .known .activate ∧ x.condition ≠ [] then
                { slots with
                  condition := .none
                  rewards := ⟨-1, .ofToken x.condition⟩ :: rewards }
              else slots
            { folded with spec := s, source, activated := false } := by
  obtain ⟨condition, afterCondition, happend, hblank, hcondition, hthree, hknown⟩ :=
    exists_splitCondition s
  obtain ⟨digits, letters, afterOperator, happend', hdigits, hblank', hoperator, hcount⟩ :=
    exists_splitOperator (splitCondition s).2
  let x : Partition s :=
    { condition, afterCondition, digits, letters, afterOperator
      phrase := (splitOperator (splitCondition s).2).2.2
      append_eq := by
        calc condition ++ afterCondition ++ digits ++ letters ++ afterOperator ++
              (splitOperator (splitCondition s).2).2.2
            = condition ++ afterCondition ++ (digits ++ letters ++ afterOperator ++
                (splitOperator (splitCondition s).2).2.2) := by simp only [List.append_assoc]
          _ = condition ++ afterCondition ++ (splitCondition s).2 := by rw [happend']
          _ = s := happend
      afterCondition_blank := hblank
      digits_isDigit := hdigits
      afterOperator_blank := hblank' }
  have hparse : parse s = (Reward.parsePhrase x.phrase).map (x.written (count digits)) := by
    simp only [parse, hcondition, hoperator, hcount]
    rfl
  refine ⟨x, hthree, hknown, count digits, toNat_count digits, hparse, fun source => ?_⟩
  have hcompile : Trigger.compile s source =
      (((Reward.parsePhrase x.phrase).map (x.written (count digits))).map payCondition).map
        fun slots => { slots with spec := s, source, activated := false } := by
    simp only [Trigger.compile, Trigger.splitMark_eq_self hmark, Slots.read, if_neg hspecial,
      hparse]
  rw [hcompile]
  cases Reward.parsePhrase x.phrase with
  | error e => rfl
  | ok rewards =>
    simp only [Except.map, payCondition_written]

/-- An action with a cost that is no condition, written `xyz => k`. -/
def costlyAction : Text := ['x', 'y', 'z', ' ', '=', '>', ' ', 'k']

theorem exists_partition_costlyAction :
    costlyAction.count ' ' = 2 ∧ ∃ x : Partition costlyAction, x.condition ≠ [] ∧
      ∃ picks, parse costlyAction = (Reward.parsePhrase x.phrase).map (x.written picks) := by
  have hmark : costlyAction.getLast? ≠ some Trigger.mark := by simp [costlyAction, Trigger.mark]
  have hspecial : ¬ IsSpecial costlyAction := by decide +kernel
  obtain ⟨x, hthree, -, picks, -, hparse, -⟩ := exists_partition hmark hspecial
  exact ⟨rfl, x, hthree rfl, picks, hparse⟩

end RuleTriggers.Slots
