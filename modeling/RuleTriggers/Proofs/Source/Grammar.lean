import RuleTriggers.Proofs.Source.RoundTrip

/-!
Which texts are sources, and what is wrong with the others. A source has one text, and if it is
numbered also those with zeros before the number. Six vocabularies and three tags are gone through
one after another, but no word begins with a tag and no two words are the same, so what is read
does not depend on the order.
-/

namespace RuleTriggers.Source

/-- The texts of a source: its own, and if it is numbered those with zeros before the number. -/
inductive Spelling : Source → Text → Prop
  | own (source : Source) : Spelling source source.text
  | padded (series : Series) (index : UInt8) (zeros : Nat) :
      Spelling (numbered series index)
        (series.tag ++ (List.replicate (zeros + 1) '0' ++ Text.decimal index.toNat))

/-- What becomes of a text: the source that it spells, or what is wrong with it. After a tag the
number is what is wrong, or that there is none; without a tag the text as a whole is. -/
inductive Reads : Text → Except VocabularyError Source → Prop
  | source {source : Source} {t : Text} (hvalid : source.Valid) (hspelling : source.Spelling t) :
      Reads t (.ok source)
  | outOfRange {series : Series} {tail : Text} {index : UInt8} (hnumeral : Numeral tail index)
      (hrange : ¬ series.Has index) :
      Reads (series.tag ++ tail) (.error (.outOfRange series.subject index))
  | unknownIndex {series : Series} {tail : Text}
      (htail : tail = [] ∨ (∃ c ∈ tail, c.isDigit = false) ∨ 255 < Text.value tail) :
      Reads (series.tag ++ tail) (.error (.unknown series.subject tail))
  | unknownSource {t : Text} (htag : ∀ series : Series, ¬ series.tag <+: t)
      (hsource : ∀ source : Source, source.Valid → source.text ≠ t) :
      Reads t (.error (.unknown "event source" t))

/-! ### Numbers -/

lemma readIndex?_eq_none_iff {tail : Text} :
    readIndex? tail = none ↔
      tail = [] ∨ (∃ c ∈ tail, c.isDigit = false) ∨ 255 < Text.value tail := by
  unfold readIndex?
  split
  · next h =>
    obtain ⟨hne, hdigits, hlt⟩ := h
    rw [List.all_eq_true] at hdigits
    refine iff_of_false (by simp) ?_
    rintro (hnil | ⟨c, hc, hdigit⟩ | hlarge)
    · exact hne hnil
    · simp [hdigits c hc] at hdigit
    · omega
  · next h =>
    refine iff_of_true rfl ?_
    by_contra! hall
    obtain ⟨hne, hdigits, hle⟩ := hall
    refine h ⟨hne, List.all_eq_true.mpr fun c hc => ?_, by omega⟩
    simpa using hdigits c hc

/-- A number is written as its decimal form with zeros in front, but for zero. -/
lemma Numeral.exists_zeros {tail : Text} {index : UInt8} (h : Numeral tail index)
    (hpos : 1 ≤ index) :
    ∃ zeros, tail = List.replicate zeros '0' ++ Text.decimal index.toNat := by
  obtain ⟨zeros, hzeros⟩ := Text.exists_zeros_append h.isDigit
  have hne : index.toNat ≠ 0 := Nat.ne_of_gt (UInt8.le_iff_toNat_le.mp hpos)
  rw [h.value_eq, if_neg hne] at hzeros
  exact ⟨zeros, hzeros⟩

/-- Zeros may stand before the number or not. -/
lemma spelling_zeros (series : Series) (index : UInt8) (zeros : Nat) :
    Spelling (numbered series index)
      (series.tag ++ (List.replicate zeros '0' ++ Text.decimal index.toNat)) := by
  cases zeros with
  | zero => exact .own (numbered series index)
  | succ zeros => exact .padded series index zeros

/-! ### After a tag -/

lemma reads_ofTail (series : Series) (tail : Text) :
    Reads (series.tag ++ tail) (ofTail series tail) := by
  unfold ofTail
  split
  · next index hindex =>
    have hnumeral := readIndex?_eq_some_iff.mp hindex
    unfold checked
    split
    · next hhas =>
      obtain ⟨zeros, rfl⟩ := hnumeral.exists_zeros hhas.1
      exact .source hhas (spelling_zeros series index zeros)
    · next hrange => exact .outOfRange hnumeral hrange
  · next hnone => exact .unknownIndex (readIndex?_eq_none_iff.mp hnone)

lemma splitTag?_eq_some {t tail : Text} {series : Series} (h : splitTag? t = some (series, tail)) :
    t = series.tag ++ tail := by
  obtain ⟨found, -, hfound⟩ := List.exists_of_findSome?_eq_some h
  obtain ⟨rest, hrest, hpair⟩ := Option.map_eq_some_iff.mp hfound
  obtain ⟨rfl, rfl⟩ := Prod.mk.inj hpair
  exact (List.isPrefixOf?_eq_some_iff_append_eq.mp hrest).symm

lemma not_prefix_of_splitTag?_eq_none {t : Text} (h : splitTag? t = none) (series : Series) :
    ¬ series.tag <+: t := by
  rintro ⟨tail, rfl⟩
  simp [splitTag?_tag_append] at h

/-! ### All texts -/

lemma valid_and_text_of_ofWord? {t : Text} {source : Source} (h : ofWord? t = some source) :
    source.Valid ∧ source.text = t := by
  simp only [ofWord?, Option.orElse_eq_orElse, Option.orElse_eq_or, Option.or_eq_some_iff,
    Option.map_eq_some_iff, Vocabulary.find?_eq_some_iff] at h
  rcases h with ⟨w, hw, rfl⟩ | ⟨-, ⟨w, hw, rfl⟩ | ⟨-, ⟨w, hw, rfl⟩ | ⟨-, ⟨w, hw, rfl⟩ |
    ⟨-, w, hw, rfl⟩⟩⟩⟩ <;> exact ⟨trivial, hw⟩

/-- Something becomes of every text. -/
lemma reads_parse (t : Text) : Reads t (parse t) := by
  cases hmoment : (Vocabulary.find? t : Option Moment) with
  | some word =>
    obtain rfl := Vocabulary.find?_eq_some_iff.mp hmoment
    have hparse : parse (moment word).text = .ok (moment word) := parse_text trivial
    rw [text] at hparse
    rw [hparse]
    exact .source trivial (.own (moment word))
  | none =>
    cases hsplit : splitTag? t with
    | some found =>
      obtain rfl := splitTag?_eq_some hsplit
      rw [parse_tag_append]
      exact reads_ofTail found.1 found.2
    | none =>
      cases hword : ofWord? t with
      | some source =>
        obtain ⟨hvalid, rfl⟩ := valid_and_text_of_ofWord? hword
        rw [parse_text hvalid]
        exact .source hvalid (.own source)
      | none =>
        have hparse : parse t = .error (.unknown "event source" t) := by
          simp [parse, hmoment, hsplit, hword]
        rw [hparse]
        refine .unknownSource (not_prefix_of_splitTag?_eq_none hsplit)
          fun source hvalid htext => ?_
        rw [← htext, parse_text hvalid] at hparse
        cases hparse

/-- Only one thing becomes of a text. -/
lemma Reads.eq_parse {t : Text} {x : Except VocabularyError Source} (h : Reads t x) :
    parse t = x := by
  cases h with
  | source hvalid hspelling =>
    cases hspelling with
    | own source => exact parse_text hvalid
    | padded series index zeros => exact parse_zeros (zeros + 1) hvalid
  | outOfRange hnumeral hrange =>
    rw [parse_of_numeral hnumeral]
    exact if_neg hrange
  | unknownIndex htail => rw [parse_tag_append, ofTail, readIndex?_eq_none_iff.mpr htail]
  | unknownSource htag hsource =>
    -- nothing else that may become of the text leaves it without a tag and without a source
    have hreads := reads_parse t
    generalize parse t = x at hreads
    cases hreads with
    | source hvalid hspelling =>
      cases hspelling with
      | own => exact absurd rfl (hsource _ hvalid)
      | padded series => exact absurd (List.prefix_append _ _) (htag series)
    | @outOfRange series => exact absurd (List.prefix_append _ _) (htag series)
    | @unknownIndex series => exact absurd (List.prefix_append _ _) (htag series)
    | unknownSource => rfl

lemma parse_eq_ok_iff {t : Text} {source : Source} :
    parse t = .ok source ↔ source.Valid ∧ source.Spelling t := by
  refine ⟨fun h => ?_, fun ⟨hvalid, hspelling⟩ => (Reads.source hvalid hspelling).eq_parse⟩
  have hreads := reads_parse t
  rw [h] at hreads
  cases hreads with
  | source hvalid hspelling => exact ⟨hvalid, hspelling⟩

/-- Only sources that the game has are read. -/
lemma valid_of_parse {t : Text} {source : Source} (h : parse t = .ok source) : source.Valid :=
  (parse_eq_ok_iff.mp h).1

/-- **Which texts are sources.** A text comes to what `Reads` says and to nothing else. What is
read is read again from its own text, which is the text read but for zeros before a number. No two
sources that the game has share a text. -/
theorem parse_eq_iff_reads :
    (∀ t x, parse t = x ↔ Reads t x) ∧
    (∀ t source, parse t = .ok source →
      parse source.text = .ok source ∧
        (source.text = t ∨ ∃ series index zeros, source = numbered series index ∧
          t = series.tag ++
            (List.replicate (zeros + 1) '0' ++ Text.decimal index.toNat))) ∧
    ∀ t (source other : Source), source.Valid → other.Valid → source.Spelling t →
      other.Spelling t → source = other := by
  refine ⟨fun t x => ⟨fun h => h ▸ reads_parse t, Reads.eq_parse⟩, fun t source h => ?_, ?_⟩
  · obtain ⟨hvalid, hspelling⟩ := parse_eq_ok_iff.mp h
    refine ⟨parse_text hvalid, ?_⟩
    cases hspelling with
    | own => exact .inl rfl
    | padded series index zeros => exact .inr ⟨series, index, zeros, rfl, rfl⟩
  · intro t source other hsource hother hspelling hspelling'
    have hparse := parse_eq_ok_iff.mpr ⟨hsource, hspelling⟩
    rw [parse_eq_ok_iff.mpr ⟨hother, hspelling'⟩] at hparse
    exact (Except.ok.inj hparse).symm

/-- The last booster with zeros before its number is read, the tag of a round with a number that
no round has is not, and a number that no byte holds is no number at all. -/
theorem parse_booster_zeros_round_final :
    parse "booster0013".toList = .ok (numbered .booster 13) ∧
      parse "booster13".toList = .ok (numbered .booster 13) ∧
      parse "round007".toList = .error (.outOfRange "round scoring slot" 7) ∧
      parse "final0256".toList = .error (.unknown "final scoring slot" "0256".toList) ∧
      parse "Booster1".toList = .error (.unknown "event source" "Booster1".toList) := by
  obtain ⟨hreads, hagain, -⟩ := parse_eq_iff_reads
  have hpadded : parse "booster0013".toList = .ok (numbered .booster 13) :=
    (hreads _ _).mpr (.source (by decide) (.padded .booster 13 1))
  have hrange : Reads (Series.roundScoring.tag ++ "007".toList)
      (.error (.outOfRange "round scoring slot" 7)) :=
    .outOfRange (numeral_zeros_decimal 2 7) (by decide)
  have hlarge : Reads (Series.finalScoring.tag ++ "0256".toList)
      (.error (.unknown "final scoring slot" "0256".toList)) :=
    .unknownIndex (.inr (.inr (by decide)))
  exact ⟨hpadded, (hagain _ _ hpadded).1, (hreads _ _).mpr hrange, (hreads _ _).mpr hlarge, rfl⟩

end RuleTriggers.Source
