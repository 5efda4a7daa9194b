import RuleTriggers.Proofs.Text
import RuleTriggers.Operator
import RuleTriggers.Condition
import RuleTriggers.Spec.Lead.Characters

/-!
Leads of texts that are put together from words, spaces and counts, and what they mean.
-/

namespace RuleTriggers.Spec

/-! ### All leads -/

lemma lead_ne_nil {t : Text} (h : t ≠ []) : (splitLead t).1 ≠ [] := by
  cases t with
  | nil => exact absurd rfl h
  | cons c t => simp [splitLead_cons]

/-- A lead, blanks, and the text behind them. -/
lemma exists_lead_append (t : Text) : ∃ blanks, Text.AllBlank blanks ∧
    (splitLead t).1 ++ blanks ++ Text.trimStart (splitLead t).2 = t := by
  obtain ⟨blanks, hblanks, hrest⟩ := Text.exists_blank_append_trimStart (splitLead t).2
  refine ⟨blanks, hblanks, ?_⟩
  rw [List.append_assoc, ← hrest, splitLead_append]

/-- Characters that join are a lead if nothing behind them joins them. -/
lemma splitLead_append_of_joins {c : Char} {s t : Text} (hs : ∀ d ∈ s, joins c d)
    (ht : ∀ d, t.head? = some d → joins c d = false) :
    splitLead (c :: s ++ t) = (c :: s, t) := by
  rw [List.cons_append, splitLead_cons, List.takeWhile_append_of_pos hs,
    List.dropWhile_append_of_pos hs]
  cases t with
  | nil => simp
  | cons d t => simp [ht d rfl]

/-- A lead runs on into what joins it. -/
lemma exists_lead_of_joins {c d : Char} {s : Text} (hs : ∀ e ∈ s, joins c e) (hd : joins c d)
    (t : Text) : ∃ u, (splitLead (c :: s ++ d :: t)).1 = c :: s ++ d :: u := by
  rw [List.cons_append, splitLead_cons, List.takeWhile_append_of_pos hs,
    List.takeWhile_cons_of_pos hd]
  exact ⟨_, rfl⟩

lemma isBlank_of_isWord {c : Char} (hc : isWord c) : Text.isBlank c = false := by
  have hlt : c.toNat < 128 := by
    by_contra hge
    simp [isWord_of_ge (Nat.le_of_not_lt hge)] at hc
  have hall : ∀ n < 128, isWord (Char.ofNat n) → Text.isBlank (Char.ofNat n) = false := by decide
  have := hall c.toNat hlt
  rw [Char.ofNat_toNat] at this
  exact this hc

lemma isWord_of_isDigit {c : Char} (hc : c.isDigit) : isWord c := by
  simp [isWord, Char.isAlphanum, hc]

/-! ### Words and tokens before a space -/

/-- Characters of one class up to a space are a lead. -/
lemma splitLead_append_space {c : Char} {s : Text} (hs : ∀ d ∈ s, joins c d) (t : Text) :
    splitLead (c :: s ++ ' ' :: t) = (c :: s, ' ' :: t) := by
  refine splitLead_append_of_joins hs fun d hd => ?_
  obtain rfl : ' ' = d := by simpa using hd
  simp [joins]

/-- A word ends before anything that is no word character. -/
lemma splitLead_word_append {w t : Text} (hw : w ≠ []) (hword : ∀ d ∈ w, isWord d)
    (ht : ∀ d, t.head? = some d → isWord d = false) : splitLead (w ++ t) = (w, t) := by
  obtain ⟨c, s, rfl⟩ := List.exists_cons_of_ne_nil hw
  have hc := hword c List.mem_cons_self
  refine splitLead_append_of_joins (fun d hd => ?_) fun d hd => by simp [joins, hc, ht d hd]
  have hd := hword d (List.mem_cons_of_mem c hd)
  have hspace : d ≠ ' ' := by
    rintro rfl
    exact absurd hd (by decide)
  simp [joins, hc, hd, hspace]

lemma splitLead_word {c : Text} (hc : c ≠ []) (hword : ∀ d ∈ c, isWord d) (t : Text) :
    splitLead (c ++ ' ' :: t) = (c, ' ' :: t) := by
  refine splitLead_word_append hc hword fun d hd => ?_
  obtain rfl : ' ' = d := by simpa using hd
  rfl

/-- What operators in a slot are written with: neither word characters nor blanks. -/
lemma exists_operator_eq_cons {word : OperatorWord} (hword : word ≠ .special) :
    ∃ c s, Vocabulary.token word = c :: s ∧ isWord c = false ∧ Text.isBlank c = false ∧
      ∀ d ∈ s, joins c d := by
  cases word with
  | special => exact absurd rfl hword
  | _ => exact ⟨_, _, rfl, by decide, by decide, by simp [joins, isWord]⟩

lemma space_not_mem_operator (word : OperatorWord) : ' ' ∉ Vocabulary.token word := by
  cases word <;> decide

lemma splitLead_operator {word : OperatorWord} (hword : word ≠ .special) (t : Text) :
    splitLead (Vocabulary.token word ++ ' ' :: t) = (Vocabulary.token word, ' ' :: t) := by
  obtain ⟨c, s, htoken, -, -, hs⟩ := exists_operator_eq_cons hword
  rw [htoken]
  exact splitLead_append_space hs t

/-! ### Operators before a phrase -/

/-- An operator ends where a word begins. -/
lemma splitLead_operator_append {word : OperatorWord} (hword : word ≠ .special) {t : Text}
    (ht : ∀ c, t.head? = some c → isWord c) :
    splitLead (Vocabulary.token word ++ t) = (Vocabulary.token word, t) := by
  obtain ⟨c, s, htoken, hc, -, hs⟩ := exists_operator_eq_cons hword
  rw [htoken]
  exact splitLead_append_of_joins hs fun d hd => by simp [joins, hc, ht d hd]

/-- Before anything but a word or a space the lead goes on. -/
lemma exists_lead_operator {word : OperatorWord} (hword : word ≠ .special) {c : Char}
    (hc : isWord c = false) (hspace : c ≠ ' ') (t : Text) :
    ∃ u, (splitLead (Vocabulary.token word ++ c :: t)).1 = Vocabulary.token word ++ c :: u := by
  obtain ⟨d, s, htoken, hd, -, hs⟩ := exists_operator_eq_cons hword
  rw [htoken]
  exact exists_lead_of_joins hs (by simp [joins, hd, hc, hspace]) t

/-! ### Conditions before an operator -/

lemma splitLead_condition_append (word : ConditionWord) {t : Text}
    (ht : ∀ c, t.head? = some c → isWord c = false) :
    splitLead (Vocabulary.token word ++ t) = (Vocabulary.token word, t) := by
  refine splitLead_word_append ?_ ?_ ht
  · cases word <;> simp [Vocabulary.token]
  · cases word <;> simp [Vocabulary.token, isWord]

/-- No condition begins as operators do. -/
lemma condition_lead_of_not_isWord {c : Char} (hc : isWord c = false) (t : Text) :
    (Vocabulary.find? (splitLead (c :: t)).1 : Option ConditionWord) = none := by
  refine Vocabulary.find?_eq_none_iff.mpr fun word hword => ?_
  obtain ⟨d, s, htoken, hd⟩ : ∃ d s, Vocabulary.token word = d :: s ∧ isWord d := by
    cases word <;> exact ⟨_, _, rfl, by decide⟩
  rw [htoken, splitLead_cons] at hword
  obtain ⟨rfl, -⟩ := List.cons.inj hword
  simp [hc] at hd

/-! ### Counts in front -/

/-- A lead that begins as a count does has no meaning where no token begins so. -/
lemma find?_lead_of_numeric {α : Type} [Vocabulary α] {t : Text}
    (ht : Text.Numeric t)
    (hα : ∀ w : α, ∃ c s, Vocabulary.token w = c :: s ∧ c.isDigit = false ∧ c ≠ '-') :
    (Vocabulary.find? (splitLead t).1 : Option α) = none := by
  refine Vocabulary.find?_eq_none_iff.mpr fun w hw => ?_
  obtain ⟨c, s, htoken, hdigit, hminus⟩ := hα w
  cases t with
  | nil => exact absurd (htoken.symm.trans hw) (List.cons_ne_nil c s)
  | cons d t =>
    obtain ⟨rfl, -⟩ : c = d ∧ _ := by simpa [htoken, splitLead_cons] using hw
    rcases ht c rfl with h | h
    · simp [hdigit] at h
    · exact hminus h

lemma condition_lead_of_numeric {t : Text} (ht : Text.Numeric t) :
    (Vocabulary.find? (splitLead t).1 : Option ConditionWord) = none := by
  refine find?_lead_of_numeric ht fun w => ?_
  cases w <;> exact ⟨_, _, rfl, by decide, by decide⟩

lemma operator_lead_of_numeric {t : Text} (ht : Text.Numeric t) :
    Operator.find? (splitLead t).1 = none := by
  have hfind : (Vocabulary.find? (splitLead t).1 : Option OperatorWord) = none := by
    refine find?_lead_of_numeric ht fun w => ?_
    cases w <;> exact ⟨_, _, rfl, by decide, by decide⟩
  simp [Operator.find?, hfind]

end RuleTriggers.Spec
