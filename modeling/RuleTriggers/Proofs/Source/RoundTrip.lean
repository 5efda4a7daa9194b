import RuleTriggers.Proofs.Text
import RuleTriggers.Source

/-!
Sources and their texts. Each source that the game has is read back from its own text.
-/

namespace RuleTriggers.Source

/-! ### Numbered sources -/

/-- What may be written after a tag for a number: its digits, with any zeros in front. -/
structure Numeral (tail : Text) (index : UInt8) : Prop where
  ne_nil : tail ≠ []
  isDigit : ∀ d ∈ tail, d.isDigit
  value_eq : Text.value tail = index.toNat

/-- No moment of play has a token that begins with the tag of a series. -/
lemma find?_tag_append (series : Series) (t : Text) :
    (Vocabulary.find? (series.tag ++ t) : Option Moment) = none := by
  refine Vocabulary.find?_eq_none_iff.mpr fun w => ?_
  cases series <;> cases w <;> simp [Vocabulary.token, Series.tag]

lemma splitTag?_tag_append (series : Series) (t : Text) :
    splitTag? (series.tag ++ t) = some (series, t) := by
  cases series <;> rfl

/-- A text that begins with the tag of a series is read as one of its pieces, or not at all. -/
lemma parse_tag_append (series : Series) (tail : Text) :
    parse (series.tag ++ tail) = ofTail series tail := by
  simp [parse, find?_tag_append, splitTag?_tag_append]

lemma readIndex?_eq_some_iff {tail : Text} {index : UInt8} :
    readIndex? tail = some index ↔ Numeral tail index := by
  unfold readIndex?
  split
  · next h =>
    obtain ⟨hne, hdigits, hlt⟩ := h
    rw [List.all_eq_true] at hdigits
    have hvalue : (UInt8.ofNat (Text.value tail)).toNat = Text.value tail :=
      UInt8.toNat_ofNat_of_lt' hlt
    rw [Option.some_inj, ← UInt8.toNat_inj, hvalue]
    exact ⟨fun h => ⟨hne, hdigits, h⟩, Numeral.value_eq⟩
  · next h =>
    refine iff_of_false (by simp) fun hnumeral => h ⟨hnumeral.ne_nil, ?_, ?_⟩
    · exact List.all_eq_true.mpr hnumeral.isDigit
    · rw [hnumeral.value_eq]
      exact index.toNat_lt

lemma numeral_zeros_decimal (zeros : Nat) (index : UInt8) :
    Numeral (List.replicate zeros '0' ++ Text.decimal index.toNat) index where
  ne_nil := by simp [Text.decimal_ne_nil]
  isDigit := Text.isDigit_of_mem_zeros_append fun _ hd => Text.isDigit_of_mem_decimal hd
  value_eq := by rw [Text.value_zeros_append, Text.value_decimal]

lemma parse_of_numeral {series : Series} {tail : Text} {index : UInt8} (h : Numeral tail index) :
    parse (series.tag ++ tail) = checked series.subject series index := by
  rw [parse_tag_append, ofTail, readIndex?_eq_some_iff.mpr h]

/-- A number that the series has is read with any zeros in front. -/
lemma parse_zeros (zeros : Nat) {series : Series} {index : UInt8} (h : series.Has index) :
    parse (series.tag ++ (List.replicate zeros '0' ++ Text.decimal index.toNat)) =
      .ok (numbered series index) := by
  rw [parse_of_numeral (numeral_zeros_decimal zeros index)]
  exact if_pos h

/-! ### All sources -/

/-- **A source that the game has is read back from its text.** -/
theorem parse_text {source : Source} (h : source.Valid) : parse source.text = .ok source := by
  cases source with
  | moment word => simp [parse, text]
  | numbered series index => exact parse_zeros 0 h
  | tech tile => cases tile <;> rfl
  | advancedTech tile => cases tile <;> rfl
  | research field => cases field <;> rfl
  | boardAction action => cases action <;> rfl
  | faction f => cases f <;> rfl

/-- A number that the series does not have is told in the message. -/
lemma parse_text_of_not_valid {source : Source} (h : ¬ source.Valid) :
    ∃ series index, source = numbered series index ∧
      parse source.text = .error (.outOfRange series.subject index) := by
  cases source with
  | numbered series index =>
    have hparse : parse (series.tag ++ (List.replicate 0 '0' ++ Text.decimal index.toNat)) =
        checked series.subject series index := parse_of_numeral (numeral_zeros_decimal 0 index)
    exact ⟨series, index, rfl, hparse.trans (if_neg h)⟩
  | _ => exact absurd trivial h

lemma Series.subject_injective {a b : Series} (h : a.subject = b.subject) : a = b := by
  revert h
  cases a <;> cases b <;> decide

/-- Sources are told apart by their texts, those that the game does not have included. -/
lemma text_injective {a b : Source} (h : a.text = b.text) : a = b := by
  by_cases ha : a.Valid
  · by_cases hb : b.Valid
    · have hparse := parse_text ha
      rw [h, parse_text hb] at hparse
      exact (Except.ok.inj hparse).symm
    · obtain ⟨series, index, -, hparse⟩ := parse_text_of_not_valid hb
      rw [← h, parse_text ha] at hparse
      cases hparse
  · obtain ⟨series, index, rfl, hparse⟩ := parse_text_of_not_valid ha
    by_cases hb : b.Valid
    · rw [h, parse_text hb] at hparse
      cases hparse
    · obtain ⟨other, number, rfl, hparse'⟩ := parse_text_of_not_valid hb
      rw [h, hparse'] at hparse
      obtain ⟨hsubject, rfl⟩ : other.subject = series.subject ∧ number = index := by
        simpa using hparse
      rw [Series.subject_injective hsubject]

end RuleTriggers.Source
