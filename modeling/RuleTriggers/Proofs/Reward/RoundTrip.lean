import RuleTriggers.Proofs.Reward.Grammar

/-!
Rewards and their texts. A count is always written, so where a token begins there is no doubt as
long as it begins with no digit; where it ends, as long as it has no blank at the end and, in a
phrase, no comma. Whatever is read meets these conditions, so texts that are written are a normal
form of those that are read.
-/

namespace RuleTriggers.Reward

/-- A reward that can be made out from its text: in canonical form, and with a token that neither
lengthens the count nor loses anything to trimming. -/
structure Restorable (r : Reward) : Prop extends r.Canonical where
  head_not_digit : ∀ c, r.resource.token.head? = some c → c.isDigit = false
  last_not_blank : ∀ c, r.resource.token.getLast? = some c → Text.isBlank c = false

/-- A reward with a text that can be nothing else, in a phrase or a spec. -/
structure Legible (r : Reward) : Prop extends r.Restorable where
  comma_not_mem : ',' ∉ r.resource.token
  space_not_mem : ' ' ∉ r.resource.token

/-- The resources proper are legible in any amount but one. -/
lemma legible_known {n : Int32} (hn : n ≠ Int32.minValue) (word : ResourceWord) :
    Legible ⟨n, .known word⟩ where
  count_ne := hn
  resource_eq := by simp [Resource.ofToken, Resource.token]
  token_ne_nil := by cases word <;> simp [Resource.token, Vocabulary.token]
  head_not_digit := by cases word <;> simp [Resource.token, Vocabulary.token]
  last_not_blank := by cases word <;> simp [Resource.token, Vocabulary.token, Text.isBlank]
  comma_not_mem := by cases word <;> simp [Resource.token, Vocabulary.token]
  space_not_mem := by cases word <;> simp [Resource.token, Vocabulary.token]

/-! ### One reward -/

/-- A reward is written as a digit, or a minus sign, and more. -/
lemma exists_text_eq_cons (r : Reward) : ∃ c t, r.text = c :: t ∧ (c.isDigit ∨ c = '-') := by
  obtain ⟨d, ds, hds, hd⟩ := Text.exists_isDigit_decimal r.count.toInt.natAbs
  unfold text Text.signedDecimal
  split
  · exact ⟨'-', _, rfl, .inr rfl⟩
  · exact ⟨d, _, by rw [hds, List.cons_append], .inl hd⟩

lemma exists_isDigit_mem_text (r : Reward) : ∃ d ∈ r.text, d.isDigit := by
  obtain ⟨d, ds, hds, hd⟩ := Text.exists_isDigit_decimal r.count.toInt.natAbs
  refine ⟨d, ?_, hd⟩
  unfold text Text.signedDecimal
  split <;> simp [hds]

lemma trim_text {r : Reward} (h : r.Restorable) : Text.trim r.text = r.text := by
  refine Text.trim_eq_self (fun c hc => ?_) (fun c hc => ?_)
  · obtain ⟨d, t, hd, hstart⟩ := r.exists_text_eq_cons
    obtain rfl : d = c := by simpa [hd] using hc
    rcases hstart with hdigit | rfl
    · exact Text.isBlank_of_isDigit hdigit
    · rfl
  · refine h.last_not_blank c ?_
    rwa [text, List.getLast?_append_of_ne_nil _ h.token_ne_nil] at hc

lemma natAbs_le {n : Int32} (hn : n ≠ Int32.minValue) : n.toInt.natAbs ≤ maxSize := by
  have hlo : -2 ^ 31 ≤ n.toInt := n.le_toInt
  have hhi : n.toInt < 2 ^ 31 := n.toInt_lt
  have hne : n.toInt ≠ -2 ^ 31 := fun h => hn (Int32.toInt_inj.mp (h.trans rfl))
  unfold maxSize
  omega

namespace Restorable

variable {r : Reward} (h : r.Restorable)

/-- The item that a reward is written as. -/
def item : Item where
  negative := r.count.toInt < 0
  digits := Text.decimal r.count.toInt.natAbs
  token := r.resource.token
  minus_taken _ hhead := by
    rw [List.head?_append_of_ne_nil _ (Text.decimal_ne_nil _)] at hhead
    exact absurd (Text.isDigit_of_mem_decimal (List.mem_of_mem_head? hhead)) (by decide)
  digits_isDigit _ hd := Text.isDigit_of_mem_decimal hd
  digits_taken := h.head_not_digit

lemma text_item : h.item.text = r.text := by
  unfold Item.text Reward.text Text.signedDecimal item
  by_cases hneg : r.count.toInt < 0 <;> simp [hneg]

lemma good_item : h.item.Good where
  token_ne_nil := h.token_ne_nil
  value_le := by
    have hvalue : Text.value h.item.digits = r.count.toInt.natAbs := Text.value_decimal _
    rw [hvalue]
    exact natAbs_le h.count_ne

lemma count_item : h.item.count = r.count.toInt := by
  have hsign : h.item.negative = decide (r.count.toInt < 0) := rfl
  have hsize : h.item.size = r.count.toInt.natAbs := by
    simp [Item.size, item, Text.decimal_ne_nil]
  rw [Item.count, hsign, hsize]
  by_cases hneg : r.count.toInt < 0
  · rw [decide_eq_true hneg, if_pos rfl]
    omega
  · rw [decide_eq_false hneg, if_neg Bool.false_ne_true]
    omega

lemma reward_item : h.item.reward = r := by
  rw [Item.reward, h.count_item, Int32.ofInt_toInt]
  exact congrArg (Reward.mk r.count) h.resource_eq.symm

end Restorable

/-- **A reward is read back from its text.** -/
theorem parse_text {r : Reward} (h : r.Restorable) : parse r.text = .ok r := by
  have hitem : h.item.text = Text.trim r.text := h.text_item.trans (trim_text h).symm
  rw [parse_eq_reward hitem h.good_item, h.reward_item]

/-- Whatever is read can be read back. -/
lemma restorable_of_parse {piece : Text} {r : Reward} (h : parse piece = .ok r) : r.Restorable where
  toCanonical := canonical_of_parse h
  head_not_digit c hc := by
    obtain ⟨t, ht⟩ := List.head?_eq_some_iff.mp hc
    obtain ⟨-, m, -, rfl⟩ := parse_eq_ok_iff.mp h
    rw [Resource.token_ofToken] at ht
    exact Text.not_isDigit_of_afterDigits ht
  last_not_blank c hc := by
    -- the token ends where the trimmed piece does
    obtain ⟨front, hfront⟩ := token_suffix_of_parse h
    refine Text.isBlank_eq_false_of_getLast?_trim (t := piece) ?_
    rwa [← hfront, List.getLast?_append_of_ne_nil _ (canonical_of_parse h).token_ne_nil]

lemma not_mem_text {r : Reward} {c : Char} (hdigit : c.isDigit = false) (hminus : c ≠ '-')
    (htoken : c ∉ r.resource.token) : c ∉ r.text := by
  have hdecimal : c ∉ Text.decimal r.count.toInt.natAbs := by
    intro hmem
    have := Text.isDigit_of_mem_decimal hmem
    simp [hdigit] at this
  unfold text Text.signedDecimal
  split <;> simp [hdecimal, hminus, htoken]

/-! ### Phrases -/

lemma exists_phrase_cons (r : Reward) (rs : List Reward) :
    ∃ t, phrase (r :: rs) = r.text ++ t := by
  obtain ⟨t, ht, -⟩ := Text.exists_intercalate_cons separator r.text (rs.map text)
  exact ⟨t, ht⟩

lemma numeric_phrase (rs : List Reward) : Text.Numeric (phrase rs) := by
  intro c hc
  cases rs with
  | nil => cases hc
  | cons r rs =>
    obtain ⟨d, t, hd, hstart⟩ := r.exists_text_eq_cons
    obtain ⟨u, hu⟩ := exists_phrase_cons r rs
    obtain rfl : d = c := by simpa [hu, hd] using hc
    exact hstart

/-- A phrase that is not empty has a digit. -/
lemma exists_isDigit_mem_phrase {rs : List Reward} (h : rs ≠ []) :
    ∃ d ∈ phrase rs, d.isDigit := by
  obtain ⟨r, rest, rfl⟩ := List.exists_cons_of_ne_nil h
  obtain ⟨d, hmem, hd⟩ := r.exists_isDigit_mem_text
  obtain ⟨t, ht⟩ := exists_phrase_cons r rest
  exact ⟨d, by rw [ht]; exact List.mem_append_left t hmem, hd⟩

lemma space_not_mem_phrase {rs : List Reward} (h : ∀ r ∈ rs, r.Legible) : ' ' ∉ phrase rs := by
  intro hmem
  rcases Text.mem_intercalate hmem with hcomma | ⟨t, ht, hspace⟩
  · exact absurd hcomma (by decide)
  · obtain ⟨r, hr, rfl⟩ := List.mem_map.mp ht
    exact not_mem_text (by decide) (by decide) (h r hr).space_not_mem hspace

/-- Rewards are read back from the phrase that lists them, if no token has a comma in it. -/
lemma parsePhrase_phrase_of_restorable {rs : List Reward} (h : ∀ r ∈ rs, r.Restorable)
    (hcomma : ∀ r ∈ rs, separator ∉ r.resource.token) : parsePhrase (phrase rs) = .ok rs := by
  by_cases hrs : rs = []
  · subst hrs
    rfl
  · refine parsePhrase_intercalate (by simpa using hrs) (fun t ht => ?_) ?_
    · obtain ⟨r, hr, rfl⟩ := List.mem_map.mp ht
      exact not_mem_text (by decide) (by decide) (hcomma r hr)
    · rw [List.forall₂_map_left_iff, List.forall₂_same]
      exact fun r hr => parse_text (h r hr)

/-- **Legible rewards are read back from the phrase that lists them.** -/
theorem parsePhrase_phrase {rs : List Reward} (h : ∀ r ∈ rs, r.Legible) :
    parsePhrase (phrase rs) = .ok rs :=
  parsePhrase_phrase_of_restorable (fun r hr => (h r hr).toRestorable)
    (fun r hr => (h r hr).comma_not_mem)

/-- **Texts of rewards.** A reward is read back from its text exactly if it is restorable, and the
rewards of a phrase, whatever it looks like, from the phrase that lists them. -/
theorem parse_text_iff_restorable :
    (∀ r : Reward, parse r.text = .ok r ↔ r.Restorable) ∧
      ∀ t rs, parsePhrase t = .ok rs → parsePhrase (phrase rs) = .ok rs := by
  refine ⟨fun r => ⟨restorable_of_parse, parse_text⟩, fun t rs h => ?_⟩
  refine parsePhrase_phrase_of_restorable (fun r hr => ?_) (fun r hr => ?_)
  · obtain ⟨piece, -, hpiece⟩ := exists_piece_of_mem h hr
    exact restorable_of_parse hpiece
  · exact separator_not_mem_token h hr

/-- One thing whose name has a comma, a blank and a sign in it. -/
def oddlyNamed : Reward := ⟨1, .other ['-', ',', ' ', '7']⟩

/-- A phrase with leading zeros, blanks and a count left out, and its normal form. -/
theorem parsePhrase_phrase_padded :
    parse oddlyNamed.text = .ok oddlyNamed ∧
      parsePhrase " 007k , -q,--3o".toList =
        .ok [⟨7, .known .knowledge⟩, ⟨-1, .known .qic⟩, ⟨-1, .other "-3o".toList⟩] ∧
      parsePhrase "7k,-1q,-1-3o".toList =
        .ok [⟨7, .known .knowledge⟩, ⟨-1, .known .qic⟩, ⟨-1, .other "-3o".toList⟩] := by
  have hodd : oddlyNamed.Restorable := by
    refine ⟨⟨by decide, rfl, by simp [oddlyNamed, Resource.token]⟩, ?_, ?_⟩ <;>
      simp [oddlyNamed, Resource.token, Text.isBlank]
  have hpadded : parsePhrase " 007k , -q,--3o".toList =
      .ok [⟨7, .known .knowledge⟩, ⟨-1, .known .qic⟩, ⟨-1, .other "-3o".toList⟩] := rfl
  obtain ⟨hiff, hnormal⟩ := parse_text_iff_restorable
  exact ⟨(hiff _).mpr hodd, hpadded, hnormal _ _ hpadded⟩

end RuleTriggers.Reward
