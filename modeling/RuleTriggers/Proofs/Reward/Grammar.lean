import RuleTriggers.Proofs.Reward.Phrase

/-!
The grammar of rewards, with its faults. An item is a sign, digits and a token in one way only, and
these three decide what becomes of it. A phrase is what its pieces are, as long as each of them is
good; if not, the first that is bad decides.
-/

namespace RuleTriggers

open FirstFault

namespace Reward

/-- The largest number that may be written before a token. -/
abbrev maxSize : Nat := 0x7fffffff

/-- An item in its three parts. There is no minus sign left where the digits or the token begin,
and no digit where the token begins. -/
structure Item where
  negative : Bool
  digits : Text
  token : Text
  minus_taken : negative = false → (digits ++ token).head? ≠ some '-'
  digits_isDigit : ∀ d ∈ digits, d.isDigit
  digits_taken : ∀ c, token.head? = some c → c.isDigit = false

namespace Item

variable (i : Item)

def text : Text := (if i.negative then ['-'] else []) ++ i.digits ++ i.token

/-- The number that is written, or one. -/
def size : Nat := if i.digits = [] then 1 else Text.value i.digits

/-- The size with the sign. -/
def count : Int := if i.negative then -i.size else i.size

def reward : Reward := ⟨.ofInt i.count, .ofToken i.token⟩

/-- There is a token, and the number before it is not too large. -/
structure Good : Prop where
  token_ne_nil : i.token ≠ []
  value_le : Text.value i.digits ≤ maxSize

end Item

/-- What becomes of one piece of a phrase: the reward of a good item, or what is wrong with a bad
one. A missing token counts for more than a number that is too large. -/
inductive Verdict (whole piece : Text) : Except RewardError Reward → Prop
  | reward {i : Item} {r : Reward} (hitem : i.text = Text.trim piece) (hgood : i.Good)
      (hcount : r.count.toInt = i.count) (hresource : r.resource = .ofToken i.token) :
      Verdict whole piece (.ok r)
  | blankItem (hblank : Text.trim piece = []) : Verdict whole piece (.error (.blankItem whole))
  | noResource {i : Item} (hitem : i.text = Text.trim piece) (hne : Text.trim piece ≠ [])
      (htoken : i.token = []) : Verdict whole piece (.error (.noResource (Text.trim piece)))
  | countTooLarge {i : Item} (hitem : i.text = Text.trim piece) (htoken : i.token ≠ [])
      (hvalue : maxSize < Text.value i.digits) :
      Verdict whole piece (.error (.countTooLarge (Text.trim piece)))

/-- What becomes of a phrase. -/
inductive Reads (t : Text) : Except RewardError (List Reward) → Prop
  | nothing (hblank : Text.AllBlank t) : Reads t (.ok [])
  | rewards {rs : List Reward} (hsome : ¬ Text.AllBlank t)
      (hpieces : List.Forall₂ (fun piece r => Verdict t piece (.ok r)) (t.splitOn separator) rs) :
      Reads t (.ok rs)
  | fault {before : List Text} {piece : Text} {after : List Text} {e : RewardError}
      (hsome : ¬ Text.AllBlank t) (hpieces : t.splitOn separator = before ++ piece :: after)
      (hbefore : ∀ p ∈ before, ∃ r, Verdict t p (.ok r)) (hpiece : Verdict t piece (.error e)) :
      Reads t (.error e)

/-! ### Items -/

namespace Item

variable {i : Item}

lemma splitSign_text (i : Item) : splitSign i.text = (i.negative, i.digits ++ i.token) := by
  unfold text
  cases hsign : i.negative with
  | true => rfl
  | false =>
    rw [if_neg Bool.false_ne_true, List.nil_append]
    have hhead := i.minus_taken hsign
    cases hrest : i.digits ++ i.token with
    | nil => rfl
    | cons c t =>
      rw [hrest] at hhead
      exact splitSign_of_ne fun hc => hhead (congrArg some hc)

/-- Every text is an item, good or not. -/
lemma exists_text_eq (t : Text) : ∃ i : Item, i.text = t := by
  obtain ⟨negative, hsign, hminus⟩ : ∃ negative,
      (if negative then ['-'] else []) ++ (splitSign t).2 = t ∧
        (negative = false → (splitSign t).2.head? ≠ some '-') := by
    cases t with
    | nil => exact ⟨false, rfl, by simp [splitSign]⟩
    | cons c t =>
      by_cases hc : c = '-'
      · -- a second minus sign is left for the token
        exact ⟨true, by simp [splitSign, hc], by simp⟩
      · exact ⟨false, by simp [splitSign_of_ne hc], by simp [splitSign_of_ne hc, hc]⟩
  refine ⟨⟨negative, Text.digits (splitSign t).2, Text.afterDigits (splitSign t).2, ?_, ?_, ?_⟩, ?_⟩
  · rwa [Text.digits_append_afterDigits]
  · exact fun d hd => Text.isDigit_of_mem_digits hd
  · intro c hc
    obtain ⟨r, hr⟩ := List.head?_eq_some_iff.mp hc
    exact Text.not_isDigit_of_afterDigits hr
  · calc (if negative then ['-'] else []) ++ Text.digits (splitSign t).2 ++
          Text.afterDigits (splitSign t).2
        = (if negative then ['-'] else []) ++ (splitSign t).2 := by
          rw [List.append_assoc, Text.digits_append_afterDigits]
      _ = t := hsign

/-! ### Counts -/

lemma size_le (h : i.Good) : i.size ≤ maxSize := by
  unfold size
  split
  · decide
  · exact h.value_le

/-- No count is out of range, and none is the one whose negative would be. -/
lemma toInt_reward_count (h : i.Good) : i.reward.count.toInt = i.count := by
  have hsize := i.size_le h
  unfold maxSize at hsize
  refine Int32.toInt_ofInt_of_le ?_ ?_
  all_goals
    unfold count
    split <;> omega

/-- Sign and size are put together to the count. -/
lemma magnitude?_digits (i : Item) (h : Text.value i.digits ≤ maxSize) :
    ∃ m, magnitude? i.digits = some m ∧ (if i.negative then -m else m) = i.reward.count := by
  refine ⟨.ofNat i.size, ?_, ?_⟩
  · unfold magnitude? size
    by_cases hnil : i.digits = []
    · rw [if_pos hnil, if_pos hnil]
      rfl
    · rw [if_neg hnil, if_neg hnil, if_pos h]
  · rw [← Int32.ofInt_eq_ofNat]
    unfold reward count
    split
    · exact (Int32.ofInt_neg _).symm
    · rfl

lemma magnitude?_eq_none (h : maxSize < Text.value i.digits) : magnitude? i.digits = none := by
  have hne : i.digits ≠ [] := by
    intro hnil
    simp [hnil, Text.value, maxSize] at h
  unfold magnitude?
  rw [if_neg hne, if_neg (Nat.not_le.mpr h)]

end Item

/-! ### Pieces -/

section Piece

variable {whole piece : Text} {i : Item}

/-- What becomes of a piece, by its parts. -/
lemma parse_eq (hitem : i.text = Text.trim piece) (hne : Text.trim piece ≠ []) :
    parse piece =
      if i.token = [] then .error (.noResource (Text.trim piece))
      else if Text.value i.digits ≤ maxSize then .ok i.reward
      else .error (.countTooLarge (Text.trim piece)) := by
  have hdigits := Text.digits_append i.digits_isDigit i.digits_taken
  have htoken := Text.afterDigits_append i.digits_isDigit i.digits_taken
  unfold parse
  simp only [← hitem, i.splitSign_text, hdigits, htoken] at hne ⊢
  rw [if_neg hne]
  by_cases hnil : i.token = []
  · rw [if_pos hnil, if_pos hnil]
  · rw [if_neg hnil, if_neg hnil]
    by_cases hvalue : Text.value i.digits ≤ maxSize
    · obtain ⟨m, hm, hcount⟩ := i.magnitude?_digits hvalue
      rw [if_pos hvalue, hm]
      simp only [hcount]
      rfl
    · rw [if_neg hvalue, Item.magnitude?_eq_none (Nat.not_le.mp hvalue)]

/-- A good item is read as its reward. -/
lemma parse_eq_reward (hitem : i.text = Text.trim piece) (h : i.Good) :
    parse piece = .ok i.reward := by
  have hne : Text.trim piece ≠ [] := by
    rw [← hitem, Item.text]
    simp [h.token_ne_nil]
  rw [parse_eq hitem hne, if_neg h.token_ne_nil, if_pos h.value_le]

lemma parsePiece_of_blank (hblank : Text.trim piece = []) :
    parsePiece whole piece = .error (.blankItem whole) :=
  if_pos (Text.trim_eq_nil_iff.mp hblank)

lemma parsePiece_of_ne (hne : Text.trim piece ≠ []) : parsePiece whole piece = parse piece :=
  if_neg (mt Text.trim_eq_nil_iff.mpr hne)

/-- Something becomes of every piece. -/
lemma verdict_parsePiece (whole piece : Text) : Verdict whole piece (parsePiece whole piece) := by
  by_cases hblank : Text.trim piece = []
  · rw [parsePiece_of_blank hblank]
    exact .blankItem hblank
  · obtain ⟨i, hitem⟩ := Item.exists_text_eq (Text.trim piece)
    rw [parsePiece_of_ne hblank, parse_eq hitem hblank]
    by_cases htoken : i.token = []
    · rw [if_pos htoken]
      exact .noResource hitem hblank htoken
    · rw [if_neg htoken]
      by_cases hvalue : Text.value i.digits ≤ maxSize
      · rw [if_pos hvalue]
        exact .reward hitem ⟨htoken, hvalue⟩ (Item.toInt_reward_count ⟨htoken, hvalue⟩) rfl
      · rw [if_neg hvalue]
        exact .countTooLarge hitem htoken (Nat.not_le.mp hvalue)

/-- Only one thing becomes of a piece. -/
lemma Verdict.eq_parsePiece {x : Except RewardError Reward} (h : Verdict whole piece x) :
    parsePiece whole piece = x := by
  cases h with
  | blankItem hblank => exact parsePiece_of_blank hblank
  | noResource hitem hne htoken => rw [parsePiece_of_ne hne, parse_eq hitem hne, if_pos htoken]
  | @reward i r hitem hgood hcount hresource =>
    -- the verdict gives the count as an integer, and no two 32-bit counts are the same integer
    have hcount' : i.reward.count = r.count :=
      Int32.toInt_inj.mp ((Item.toInt_reward_count hgood).trans hcount.symm)
    have hreward : i.reward = r := by
      cases r
      exact congrArg₂ Reward.mk hcount' hresource.symm
    exact parsePiece_eq_ok_iff.mpr (hreward ▸ parse_eq_reward hitem hgood)
  | @countTooLarge i hitem htoken hvalue =>
    have hne : Text.trim piece ≠ [] := by
      rw [← hitem, Item.text]
      simp [htoken]
    rw [parsePiece_of_ne hne, parse_eq hitem hne, if_neg htoken, if_neg (Nat.not_le.mpr hvalue)]

lemma parsePiece_eq_iff {x : Except RewardError Reward} :
    parsePiece whole piece = x ↔ Verdict whole piece x :=
  ⟨fun h => h ▸ verdict_parsePiece whole piece, Verdict.eq_parsePiece⟩

/-- A piece gives a reward exactly if it is good. -/
lemma exists_verdict_ok_iff :
    (∃ r, Verdict whole piece (.ok r)) ↔ ∃ i : Item, i.text = Text.trim piece ∧ i.Good := by
  refine ⟨?_, ?_⟩
  · rintro ⟨r, hr⟩
    cases hr with
    | reward hitem hgood => exact ⟨_, hitem, hgood⟩
  · rintro ⟨i, hitem, hgood⟩
    exact ⟨i.reward, .reward hitem hgood (Item.toInt_reward_count hgood) rfl⟩

end Piece

/-! ### Phrases -/

/-- Something becomes of every phrase. -/
lemma reads_parsePhrase (t : Text) : Reads t (parsePhrase t) := by
  unfold parsePhrase
  split
  · next hblank => exact .nothing hblank
  · next hsome =>
    cases hpieces : (t.splitOn separator).mapM (parsePiece t) with
    | ok rs =>
      have h := mapM_eq_ok_iff.mp hpieces
      simp only [parsePiece_eq_iff] at h
      exact .rewards hsome h
    | error e =>
      obtain ⟨before, piece, after, heq, hbefore, hpiece⟩ := mapM_eq_error_iff.mp hpieces
      simp only [parsePiece_eq_iff] at hbefore hpiece
      exact .fault hsome heq hbefore hpiece

/-- Only one thing becomes of a phrase. -/
lemma Reads.eq_parsePhrase {t : Text} {x : Except RewardError (List Reward)} (h : Reads t x) :
    parsePhrase t = x := by
  unfold parsePhrase
  cases h with
  | nothing hblank => rw [if_pos hblank]
  | rewards hsome hpieces =>
    simp only [← parsePiece_eq_iff] at hpieces
    rw [if_neg hsome, mapM_eq_ok_iff.mpr hpieces]
  | fault hsome heq hbefore hpiece =>
    simp only [← parsePiece_eq_iff] at hbefore hpiece
    rw [if_neg hsome, mapM_eq_error_iff.mpr ⟨_, _, _, heq, hbefore, hpiece⟩]

/-- **What the grammar accepts, and how it fails.** A phrase comes to what `Reads` says and to
nothing else. It is accepted if it is blank or all of its pieces are good, and then no count is the
least one, which could not be negated. -/
theorem parsePhrase_eq_iff_reads (t : Text) :
    (∀ x, parsePhrase t = x ↔ Reads t x) ∧
    ((∃ rs, parsePhrase t = .ok rs) ↔
      Text.AllBlank t ∨
        ∀ piece ∈ t.splitOn separator, ∃ i : Item, i.text = Text.trim piece ∧ i.Good) ∧
    ∀ rs, parsePhrase t = .ok rs → ∀ r ∈ rs, r.count ≠ Int32.minValue := by
  refine ⟨fun x => ⟨fun h => h ▸ reads_parsePhrase t, Reads.eq_parsePhrase⟩, ?_, ?_⟩
  · by_cases hblank : Text.AllBlank t
    · exact iff_of_true ⟨[], if_pos hblank⟩ (.inl hblank)
    · rw [parsePhrase, if_neg hblank, or_iff_right hblank, exists_mapM_eq_ok_iff]
      simp only [parsePiece_eq_iff, exists_verdict_ok_iff]
  · exact fun rs h r hr => (canonical_of_parsePhrase h r hr).count_ne

/-- Seven of knowledge, with leading zeros. -/
def paddedKnowledge : Item where
  negative := false
  digits := ['0', '0', '7']
  token := ['k']
  minus_taken := by simp
  digits_isDigit := by simp [Char.isDigit]
  digits_taken := by simp

/-- The greatest cost that can be written. -/
def greatestCost : Item where
  negative := true
  digits := ['2', '1', '4', '7', '4', '8', '3', '6', '4', '7']
  token := ['p', 'w']
  minus_taken := by simp
  digits_isDigit := by simp [Char.isDigit]
  digits_taken := by simp

/-- A number that is too large, with no token behind it. -/
def hugeNumber : Item where
  negative := false
  digits := ['9', '9', '9', '9', '9', '9', '9', '9', '9', '9', '9']
  token := []
  minus_taken := by simp
  digits_isDigit := by simp [Char.isDigit]
  digits_taken := by simp

/-- Two good pieces, one of them with blanks around it, and then, where a third is a number alone,
the missing token is what is wrong with the phrase. -/
theorem parsePhrase_paddedKnowledge_hugeNumber :
    parsePhrase "007k, -2147483647pw".toList =
      .ok [⟨7, .known .knowledge⟩, ⟨-2147483647, .known .chargePower⟩] ∧
    parsePhrase "007k,99999999999,,".toList = .error (.noResource "99999999999".toList) := by
  have hpadded : paddedKnowledge.Good := ⟨by simp [paddedKnowledge], by decide⟩
  have hgreatest : greatestCost.Good := ⟨by simp [greatestCost], by decide⟩
  have hfirst (whole : Text) : Verdict whole ['0', '0', '7', 'k'] (.ok ⟨7, .known .knowledge⟩) :=
    .reward (i := paddedKnowledge) rfl hpadded rfl rfl
  refine ⟨((parsePhrase_eq_iff_reads _).1 _).mpr ?_, ((parsePhrase_eq_iff_reads _).1 _).mpr ?_⟩
  · refine .rewards (by decide) (.cons (hfirst _) (.cons ?_ .nil))
    exact .reward (i := greatestCost) rfl hgreatest rfl rfl
  · have hpieces : "007k,99999999999,,".toList.splitOn separator =
        [['0', '0', '7', 'k']] ++ hugeNumber.text :: [[], []] := rfl
    refine .fault (by decide) hpieces (by simpa using ⟨_, hfirst _⟩) ?_
    exact .noResource (i := hugeNumber) rfl (by decide) rfl

end Reward

end RuleTriggers
