import RuleTriggers.Proofs.Spec.Partition
import RuleTriggers.Proofs.Spec.Reading
import RuleTriggers.Proofs.Trigger.Derived
import RuleTriggers.Trigger.Offer

/-!
Actions as they are shown against actions as they are compiled. The phrase of an offer is cut out
of the spec at the first delimiter, while the compiler takes slots off the front one by one. Both
see the same cost if the cost, with a minus sign in front, is a piece of a phrase that can be read
in one way only.
-/

namespace RuleTriggers

open FirstFault

/-! ### Cutting a spec -/

namespace Offer

/-- The second character of a delimiter is not its first, so none begins within a text and goes on
into the delimiter behind it. -/
lemma not_delimiter_prefix {c : Char} {front : Text} (h : ¬ delimiter <:+: c :: front)
    (back : Text) : ¬ delimiter <+: c :: (front ++ delimiter ++ back) := by
  rintro ⟨rest, hrest⟩
  cases front with
  | nil => simp [delimiter] at hrest
  | cons d front =>
    obtain ⟨rfl, rfl, -⟩ : '=' = c ∧ '>' = d ∧ rest = front ++ delimiter ++ back := by
      simpa [delimiter] using hrest
    exact h ⟨[], front, rfl⟩

/-- A text without delimiters is the front that is cut off. -/
lemma cutAt?_delimiter {front : Text} (h : ¬ delimiter <:+: front) (back : Text) :
    cutAt? delimiter (front ++ delimiter ++ back) = some (front, back) := by
  induction front with
  | nil => rfl
  | cons c front ih =>
    have hrest : ¬ delimiter <:+: front := fun hmem =>
      h (hmem.trans (List.suffix_cons c front).isInfix)
    have hhere : delimiter.isPrefixOf? (c :: (front ++ delimiter ++ back)) = none := by
      refine Option.eq_none_iff_forall_ne_some.mpr fun rest hsome => ?_
      exact not_delimiter_prefix h back ⟨rest, List.isPrefixOf?_eq_some_iff_append_eq.mp hsome⟩
    rw [List.cons_append, List.cons_append, cutAt?, hhere, ih hrest]
    rfl

/-- A text with a delimiter in it is cut at the first one. -/
lemma exists_first_delimiter {t : Text} (h : delimiter <:+: t) :
    ∃ front back, t = front ++ delimiter ++ back ∧ ¬ delimiter <:+: front := by
  induction t with
  | nil => simp at h
  | cons c t ih =>
    by_cases hhere : delimiter <+: c :: t
    · obtain ⟨back, hback⟩ := hhere
      exact ⟨[], back, by simp [hback], by simp⟩
    · have hrest : delimiter <:+: t := by
        rcases List.infix_cons_iff.mp h with hc | ht
        · exact absurd hc hhere
        · exact ht
      obtain ⟨front, back, rfl, hfirst⟩ := ih hrest
      refine ⟨c :: front, back, rfl, fun hmem => ?_⟩
      rcases List.infix_cons_iff.mp hmem with hc | ht
      · exact hhere (hc.trans ⟨delimiter ++ back, by simp⟩)
      · exact hfirst ht

/-- Blanks behind a text do not make a delimiter of it. -/
lemma delimiter_infix_of_append_blank {t w : Text} (hw : Text.AllBlank w)
    (h : delimiter <:+: t ++ w) : delimiter <:+: t := by
  obtain ⟨front, back, happend⟩ := h
  rcases List.append_eq_append_iff.mp happend with ⟨rest, ht, -⟩ | ⟨rest, hfront, hrest⟩
  · exact ⟨front, rest, ht.symm⟩
  · rcases List.eq_nil_or_concat rest with rfl | ⟨rest, c, rfl⟩
    · exact ⟨front, [], by simpa using hfront⟩
    · have hc : c ∈ w := by simp [hrest]
      have hlast : c = '>' := by
        have := congrArg List.getLast? hfront
        simpa [delimiter, eq_comm] using this
      exact absurd (hw c hc) (by simp [hlast, Text.isBlank])

/-! ### The phrase of an offer -/

lemma phraseOf_free (gain : Text) : phraseOf (delimiter ++ gain) = Text.trim gain := rfl

lemma phraseOf_cost {front : Text} (hne : front ≠ []) (h : ¬ delimiter <:+: front) (gain : Text) :
    phraseOf (front ++ delimiter ++ gain) =
      ('-' :: Text.trim front) ++ Reward.separator :: Text.trim gain := by
  unfold phraseOf
  rw [cutAt?_delimiter h]
  simp only [if_neg hne]

lemma separator_not_mem_minus_trim {t : Text} (h : Reward.separator ∉ t) :
    Reward.separator ∉ '-' :: Text.trim t := by
  refine List.not_mem_cons_of_ne_of_not_mem (by decide) fun hmem => ?_
  exact h ((Text.trim_sublist t).subset hmem)

/-- A cost that can be read in one way only, with a minus sign in front. -/
structure Nameable (cost : Text) : Prop where
  head_not_digit : ∀ c, cost.head? = some c → c.isDigit = false
  head_not_blank : ∀ c, cost.head? = some c → Text.isBlank c = false
  last_not_blank : ∀ c, cost.getLast? = some c → Text.isBlank c = false
  separator_not_mem : Reward.separator ∉ cost
  no_delimiter : ¬ delimiter <:+: cost

section Cost

variable {cost blanks gain : Text} {rs : List Reward}

/-- A cost between separator and delimiter is read as it is written if nothing is taken off it. -/
lemma parsePhrase_phraseOf_iff (hcost : cost ≠ []) (hblanks : Text.AllBlank blanks)
    (hgain : ¬ Text.AllBlank gain) (hrs : Reward.parsePhrase (Text.trimStart gain) = .ok rs)
    (hseparator : Reward.separator ∉ cost) (hdelimiter : ¬ delimiter <:+: cost) :
    Reward.parsePhrase (phraseOf (cost ++ blanks ++ delimiter ++ gain)) =
        .ok (⟨-1, .ofToken cost⟩ :: rs) ↔
      Text.trim cost = cost ∧ Text.afterDigits cost = cost := by
  have hfront : ¬ delimiter <:+: cost ++ blanks := fun h =>
    hdelimiter (delimiter_infix_of_append_blank hblanks h)
  rw [phraseOf_cost (by simp [hcost]) hfront, Text.trim_append_blank hblanks,
    Reward.parsePhrase_append_cons_iff (separator_not_mem_minus_trim hseparator)
      (mt Text.allBlank_trim_iff.mp hgain),
    Reward.parse_minus_trim_iff hcost, and_iff_left (Reward.parsePhrase_trim_iff.mpr hrs)]

/-- A cost that begins with a delimiter is not shown, so there is one piece too few. -/
lemma parsePhrase_phraseOf_delimiter_ne {back : Text} {r : Reward} (hblanks : Text.AllBlank blanks)
    (hgain : ¬ Text.AllBlank gain) (hrs : Reward.parsePhrase (Text.trimStart gain) = .ok rs)
    (hseparator : Reward.separator ∉ back) :
    Reward.parsePhrase (phraseOf (delimiter ++ (back ++ blanks ++ delimiter ++ gain))) ≠
      .ok (r :: rs) := by
  intro h
  rw [phraseOf_free] at h
  have hpieces := Reward.length_of_parsePhrase (Reward.not_allBlank_of_parsePhrase h) h
  have hrewards := Reward.length_of_parsePhrase (mt Text.allBlank_trimStart_iff.mp hgain) hrs
  have hback : back.count Reward.separator = 0 := List.count_eq_zero_of_not_mem hseparator
  have hnone : blanks.count Reward.separator = 0 :=
    List.count_eq_zero_of_not_mem fun hmem => absurd (hblanks _ hmem) (by decide)
  rw [Text.count_trim (by decide)] at hpieces
  rw [← Text.count_trim (by decide), Text.trim_trimStart, Text.count_trim (by decide)] at hrewards
  simp [hback, hnone, delimiter, Reward.separator] at hpieces hrewards
  omega

/-- A cost with a delimiter further on is shown up to there, so the first piece is too short. -/
lemma parsePhrase_phraseOf_front_ne {front back rest : Text} (hfront : front ≠ [])
    (hfirst : ¬ delimiter <:+: front) (hseparator : Reward.separator ∉ front)
    (hrest : ¬ Text.AllBlank rest) :
    Reward.parsePhrase (phraseOf (front ++ delimiter ++ rest)) ≠
      .ok (⟨-1, .ofToken (front ++ delimiter ++ back)⟩ :: rs) := by
  intro h
  rw [phraseOf_cost hfront hfirst, Reward.parsePhrase_append_cons_iff
    (separator_not_mem_minus_trim hseparator) (mt Text.allBlank_trim_iff.mp hrest)] at h
  have htoken := (Reward.token_sublist_of_parse h.1).length_le
  have htrim := (Text.trim_sublist front).length_le
  simp [delimiter] at htoken
  omega

/-- A delimiter within the cost cuts the spec before the cost ends. -/
lemma no_delimiter_of_parsePhrase (hblanks : Text.AllBlank blanks)
    (hgain : ¬ Text.AllBlank gain) (hrs : Reward.parsePhrase (Text.trimStart gain) = .ok rs)
    (hseparator : Reward.separator ∉ cost)
    (h : Reward.parsePhrase (phraseOf (cost ++ blanks ++ delimiter ++ gain)) =
      .ok (⟨-1, .ofToken cost⟩ :: rs)) : ¬ delimiter <:+: cost := by
  intro hdelimiter
  obtain ⟨front, back, rfl, hfirst⟩ := exists_first_delimiter hdelimiter
  have hspec : front ++ delimiter ++ back ++ blanks ++ delimiter ++ gain =
      front ++ delimiter ++ (back ++ blanks ++ delimiter ++ gain) := by
    simp only [List.append_assoc]
  rw [hspec] at h
  by_cases hfront : front = []
  · subst hfront
    exact parsePhrase_phraseOf_delimiter_ne hblanks hgain hrs
      (fun hmem => hseparator (by simp [hmem])) h
  · have hrest : ¬ Text.AllBlank (back ++ blanks ++ delimiter ++ gain) := fun hblank =>
      absurd (hblank '>' (by simp [delimiter])) (by decide)
    exact parsePhrase_phraseOf_front_ne hfront hfirst
      (fun hmem => hseparator (by simp [hmem])) hrest h

/-- **What a cost has to be like** for the phrase of an offer to give it back. -/
lemma parsePhrase_phraseOf_iff_nameable (hcost : cost ≠ []) (hblanks : Text.AllBlank blanks)
    (hgain : ¬ Text.AllBlank gain) (hrs : Reward.parsePhrase (Text.trimStart gain) = .ok rs) :
    Reward.parsePhrase (phraseOf (cost ++ blanks ++ delimiter ++ gain)) =
        .ok (⟨-1, .ofToken cost⟩ :: rs) ↔ Nameable cost := by
  refine ⟨fun h => ?_, fun h => ?_⟩
  · have hseparator : Reward.separator ∉ cost := by
      simpa using Reward.separator_not_mem_token h List.mem_cons_self
    have hdelimiter := no_delimiter_of_parsePhrase hblanks hgain hrs hseparator h
    obtain ⟨htrim, hafter⟩ :=
      (parsePhrase_phraseOf_iff hcost hblanks hgain hrs hseparator hdelimiter).mp h
    refine ⟨fun c hc => ?_, fun c hc => ?_, fun c hc => ?_, hseparator, hdelimiter⟩
    · obtain ⟨r, hr⟩ := List.head?_eq_some_iff.mp hc
      exact Text.not_isDigit_of_afterDigits (hafter.trans hr)
    · exact Text.isBlank_eq_false_of_head?_trim (htrim.symm ▸ hc)
    · exact Text.isBlank_eq_false_of_getLast?_trim (htrim.symm ▸ hc)
  · refine (parsePhrase_phraseOf_iff hcost hblanks hgain hrs h.separator_not_mem
      h.no_delimiter).mpr ⟨Text.trim_eq_self h.head_not_blank h.last_not_blank, ?_⟩
    have hnil : ∀ d ∈ ([] : Text), d.isDigit := by simp
    exact Text.afterDigits_append hnil h.head_not_digit

end Cost

end Offer

/-! ### Actions -/

namespace Trigger

open Offer (delimiter)

/-- What an action costs, as it is written. -/
def cost (t : Trigger) : Text := (Slots.splitCondition t.spec).1.token

/-- The digits of the pick count that is written in front of the operator. -/
def countDigits (t : Trigger) : Text := Text.digits (Slots.splitCondition t.spec).2

/-- What an action gives, as it is written. -/
def gain (t : Trigger) : Text := Slots.phrase t.spec

/-- The spec of an action without a pick count, and the rewards in it. -/
lemma exists_action {t : Trigger} (h : t.Derived) (haction : t.operator = .known .activate)
    (hcount : t.countDigits = []) :
    ∃ blanks gain rs, Text.AllBlank blanks ∧ t.spec = t.cost ++ blanks ++ delimiter ++ gain ∧
      t.gain = Text.trimStart gain ∧ Reward.parsePhrase t.gain = .ok rs ∧
      ((t.cost = [] ∧ blanks = [] ∧ t.rewards = rs) ∨
        (t.cost ≠ [] ∧ t.rewards = ⟨-1, .ofToken t.cost⟩ :: rs)) := by
  obtain ⟨-, hspecial⟩ | ⟨-, rs, hrs, hpaid⟩ := Slots.read_eq_ok_iff.mp h
  · rw [hspecial] at haction
    cases haction
  have hoperator : (Slots.splitOperator (Slots.splitCondition t.spec).2).1 = .known .activate := by
    have := Slots.operator_payCondition (Slots.written t.spec rs)
    rw [hpaid] at this
    exact this.symm.trans haction
  obtain ⟨gain, hrest, hgain⟩ := Slots.exists_action_append hoperator hcount
  obtain ⟨part, blanks, happend, hblanks, hpart, -⟩ := Slots.exists_splitCondition t.spec
  have hcost : part = t.cost := by rw [cost, hpart, Slots.token_conditionOf]
  have hspec : t.spec = t.cost ++ blanks ++ delimiter ++ gain := by
    rw [← hcost, List.append_assoc, ← happend, hrest]
    rfl
  refine ⟨blanks, gain, rs, hblanks, hspec, hgain, hrs, ?_⟩
  rcases Slots.payCondition_cases (Slots.written t.spec rs) with ⟨-, hsome, heq⟩ | ⟨hnone, heq⟩
  · right
    rw [hpaid] at heq
    exact ⟨Slots.token_condition_ne_nil hsome, by rw [heq]; rfl⟩
  · left
    have hfree : (Slots.splitCondition t.spec).1 = .none := hnone hoperator
    have hnil : t.cost = [] := by rw [cost, hfree, Condition.token]
    have hblank : blanks = [] := by
      rw [Slots.splitCondition_of_none hfree, hcost, hnil] at happend
      simpa using happend
    exact ⟨hnil, hblank, by rw [← hpaid, heq]; rfl⟩

/-- **The offer of an action and the compiler agree on the rewards** exactly if the action is free
or has a cost that can be read in one way only. This is about actions without a pick count that
give something for their cost. -/
theorem parsePhrase_offer_iff {raw : Text} {source : Source} {t : Trigger}
    (h : compile raw source = .ok t) (haction : t.operator = .known .activate)
    (hcount : t.countDigits = []) (hgain : t.cost ≠ [] → ¬ Text.AllBlank t.gain) :
    Reward.parsePhrase t.offer.phrase = .ok t.rewards ↔
      t.cost = [] ∨ Offer.Nameable t.cost := by
  obtain ⟨-, -, hderived⟩ := compile_eq_ok_iff.mp h
  obtain ⟨blanks, gain, rs, hblanks, hspec, hstart, hrs, hcases⟩ :=
    exists_action hderived haction hcount
  have hphrase : t.offer.phrase = Offer.phraseOf (t.cost ++ blanks ++ delimiter ++ gain) :=
    congrArg Offer.phraseOf hspec
  rw [hphrase]
  rw [hstart] at hrs
  rcases hcases with ⟨hfree, rfl, hrewards⟩ | ⟨hcost, hrewards⟩
  · rw [hrewards, hfree]
    exact iff_of_true (Reward.parsePhrase_trim_iff.mpr hrs) (.inl rfl)
  · have hsome : ¬ Text.AllBlank gain := fun hblank =>
      hgain hcost (hstart ▸ Text.allBlank_trimStart_iff.mpr hblank)
    rw [hrewards, or_iff_right hcost]
    exact Offer.parsePhrase_phraseOf_iff_nameable hcost hblanks hsome hrs

/-- An action that is paid with a building, written `PI => 4c,q`. -/
def buildingAction : Trigger where
  condition := .none
  operator := .known .activate
  picks := 0
  rewards := [⟨-1, .other ['P', 'I']⟩, ⟨4, .known .credit⟩, ⟨1, .known .qic⟩]
  spec := "PI => 4c,q".toList
  source := .boardAction .power3
  activated := true

theorem parsePhrase_offer_buildingAction :
    compile "PI => 4c,q!".toList (.boardAction .power3) = .ok buildingAction ∧
      buildingAction.offer.phrase = "-PI,4c,q".toList ∧
      Reward.parsePhrase buildingAction.offer.phrase = .ok buildingAction.rewards := by
  have hcompile : compile "PI => 4c,q!".toList (.boardAction .power3) = .ok buildingAction := by
    decide +kernel
  have hcost : buildingAction.cost = ['P', 'I'] := by decide +kernel
  have hnameable : Offer.Nameable buildingAction.cost := by
    rw [hcost]
    exact ⟨by simp, by simp [Text.isBlank], by simp [Text.isBlank], by decide, by decide⟩
  refine ⟨hcompile, by decide +kernel, ?_⟩
  exact (parsePhrase_offer_iff hcompile rfl (by decide +kernel)
    (fun _ => by decide +kernel)).mpr (.inr hnameable)

/-- The cost `2pw` is one thing to the compiler, and two of another in the phrase of the offer. -/
theorem parsePhrase_offer_digits_ne :
    ∃ t, compile "2pw => q".toList (.boardAction .power3) = .ok t ∧
      t.operator = .known .activate ∧
      t.rewards = [⟨-1, .other ['2', 'p', 'w']⟩, ⟨1, .known .qic⟩] ∧
      Reward.parsePhrase t.offer.phrase = .ok [⟨-2, .known .chargePower⟩, ⟨1, .known .qic⟩] ∧
      Reward.parsePhrase t.offer.phrase ≠ .ok t.rewards := by
  refine ⟨⟨⟨.none, .known .activate, 0, [⟨-1, .other ['2', 'p', 'w']⟩, ⟨1, .known .qic⟩]⟩,
    "2pw => q".toList, .boardAction .power3, false⟩, ?_⟩
  decide +kernel

end Trigger

end RuleTriggers
