import RuleTriggers.Proofs.FirstFault
import RuleTriggers.Proofs.Text
import RuleTriggers.Reward

/-!
What the reward grammar accepts. Only the trimmed pieces of a phrase count, so a phrase is read
piece by piece whatever blanks stand around it, and what it gives is always in canonical form.
-/

namespace RuleTriggers

open FirstFault

/-- The resource that a token names determines the token. -/
lemma Resource.ofToken_injective {s t : Text} (h : Resource.ofToken s = .ofToken t) : s = t := by
  simpa using congrArg Resource.token h

namespace Reward

/-! ### One piece -/

/-- A piece that is accepted: a token, and a count that is not too large. -/
lemma parse_eq_ok_iff {piece : Text} {r : Reward} :
    parse piece = .ok r ↔
      Text.afterDigits (splitSign (Text.trim piece)).2 ≠ [] ∧
        ∃ m, magnitude? (Text.digits (splitSign (Text.trim piece)).2) = some m ∧
          r = ⟨if (splitSign (Text.trim piece)).1 then -m else m,
            .ofToken (Text.afterDigits (splitSign (Text.trim piece)).2)⟩ := by
  unfold parse
  by_cases hitem : Text.trim piece = []
  · simp [hitem, splitSign, Text.afterDigits]
  · rcases hsign : splitSign (Text.trim piece) with ⟨negative, unsigned⟩
    by_cases htoken : Text.afterDigits unsigned = []
    · simp [hitem, hsign, htoken]
    · cases hmagnitude : magnitude? (Text.digits unsigned) with
      | none => simp [hitem, hsign, htoken, hmagnitude]
      | some m => simp [hitem, hsign, htoken, hmagnitude, eq_comm]

/-- Only what is left after trimming counts. -/
lemma parse_congr {p q : Text} (h : Text.trim p = Text.trim q) : parse p = parse q := by
  unfold parse
  rw [h]

lemma not_allBlank_of_parse {piece : Text} {r : Reward} (h : parse piece = .ok r) :
    ¬ Text.AllBlank piece := by
  intro hblank
  obtain ⟨htoken, -⟩ := parse_eq_ok_iff.mp h
  simp [Text.trim_eq_nil_iff.mpr hblank, splitSign, Text.afterDigits] at htoken

/-- The phrase around a piece matters only to the fault. -/
lemma parsePiece_eq_ok_iff {whole piece : Text} {r : Reward} :
    parsePiece whole piece = .ok r ↔ parse piece = .ok r := by
  unfold parsePiece
  split
  · next hblank =>
    refine iff_of_false (by simp) fun h => ?_
    exact not_allBlank_of_parse h hblank
  · rfl

lemma splitSign_of_ne {c : Char} {t : Text} (hc : c ≠ '-') :
    splitSign (c :: t) = (false, c :: t) := by
  unfold splitSign
  split
  · next heq => exact absurd (List.cons.inj heq).1 hc
  · rfl

lemma snd_splitSign_suffix (t : Text) : (splitSign t).2 <:+ t := by
  unfold splitSign
  split
  · exact List.suffix_cons _ _
  · exact List.suffix_refl t

/-- The token of a reward is the end of the item that gives it. -/
lemma token_suffix_of_parse {piece : Text} {r : Reward} (h : parse piece = .ok r) :
    r.resource.token <:+ Text.trim piece := by
  obtain ⟨-, m, -, rfl⟩ := parse_eq_ok_iff.mp h
  rw [Resource.token_ofToken]
  exact (List.dropWhile_suffix _).trans (snd_splitSign_suffix _)

lemma token_sublist_of_parse {piece : Text} {r : Reward} (h : parse piece = .ok r) :
    r.resource.token.Sublist piece :=
  (token_suffix_of_parse h).sublist.trans (Text.trim_sublist piece)

/-- What begins with a character that is no sign and no digit is a token as a whole. -/
lemma token_of_parse_cons {c : Char} {piece : Text} {r : Reward} (hblank : Text.isBlank c = false)
    (hdigit : c.isDigit = false) (hminus : c ≠ '-') (h : parse (c :: piece) = .ok r) :
    r.resource.token = Text.trim (c :: piece) := by
  obtain ⟨w, hw, hend⟩ := Text.exists_trim_append_blank (c :: piece)
  rw [Text.trimStart_cons, hblank] at hend
  obtain ⟨t, ht⟩ : ∃ t, Text.trim (c :: piece) = c :: t := by
    cases htrim : Text.trim (c :: piece) with
    | nil =>
      have hc := Text.trim_eq_nil_iff.mp htrim c List.mem_cons_self
      simp [hblank] at hc
    | cons d t =>
      rw [htrim] at hend
      exact ⟨t, by rw [(List.cons.inj hend).1]⟩
  obtain ⟨-, m, -, rfl⟩ := parse_eq_ok_iff.mp h
  simp [ht, splitSign_of_ne hminus, Text.afterDigits, hdigit]

/-- Such a character is not lost on a piece. -/
lemma parse_cons_ne {c : Char} {piece : Text} {r : Reward} (hblank : Text.isBlank c = false)
    (hdigit : c.isDigit = false) (hminus : c ≠ '-') (h : parse piece = .ok r) :
    parse (c :: piece) ≠ .ok r := by
  intro hcons
  have htoken := (token_sublist_of_parse h).count_le c
  rw [token_of_parse_cons hblank hdigit hminus hcons, Text.count_trim hblank,
    List.count_cons_self] at htoken
  omega

/-- A token with a minus sign in front is one of the thing named by the token, to be paid, if it is
trimmed and begins with no digit. -/
lemma parse_minus_trim_iff {token : Text} (hne : token ≠ []) :
    parse ('-' :: Text.trim token) = .ok ⟨-1, .ofToken token⟩ ↔
      Text.trim token = token ∧ Text.afterDigits token = token := by
  have htrim : Text.trim ('-' :: Text.trim token) = '-' :: Text.trim token := by
    refine Text.trim_eq_self (fun c hc => ?_) (fun c hc => ?_)
    · obtain rfl : '-' = c := by simpa using hc
      rfl
    · cases hlast : (Text.trim token).getLast? with
      | none =>
        obtain rfl : '-' = c := by simpa [List.getLast?_cons, hlast] using hc
        rfl
      | some d =>
        obtain rfl : d = c := by simpa [List.getLast?_cons, hlast] using hc
        exact Text.isBlank_eq_false_of_getLast?_trim hlast
  rw [parse_eq_ok_iff, htrim]
  simp only [splitSign, if_true]
  refine ⟨?_, ?_⟩
  · rintro ⟨-, m, -, heq⟩
    have htoken : token = Text.afterDigits (Text.trim token) :=
      Resource.ofToken_injective (Reward.mk.inj heq).2
    -- both are taken off a text of the same length, so nothing is
    have hafter : (Text.afterDigits (Text.trim token)).Sublist (Text.trim token) :=
      List.dropWhile_sublist _
    have hlen := (Text.trim_sublist token).length_le
    have hsame : Text.afterDigits (Text.trim token) = Text.trim token :=
      hafter.eq_of_length_le (by rwa [← htoken])
    have heq' : Text.trim token = token := hsame.symm.trans htoken.symm
    exact ⟨heq', by rw [heq'] at hsame; exact hsame⟩
  · rintro ⟨heq, hafter⟩
    have hdigits : Text.digits token = [] := by
      have happend := Text.digits_append_afterDigits token
      rw [hafter] at happend
      exact List.append_left_eq_self.mp happend
    rw [heq, hafter, hdigits]
    exact ⟨hne, 1, rfl, rfl⟩

/-! ### Canonical form -/

/-- A reward as the grammar gives it: the resource is what its token names, and the count is one
that can be negated. -/
structure Canonical (r : Reward) : Prop where
  count_ne : r.count ≠ Int32.minValue
  resource_eq : r.resource = .ofToken r.resource.token
  token_ne_nil : r.resource.token ≠ []

/-- The size of a count can be negated, and so can its negative. -/
lemma ne_minValue_of_magnitude? {ds : Text} {m : Int32} (h : magnitude? ds = some m) :
    m ≠ Int32.minValue ∧ -m ≠ Int32.minValue := by
  have hm : m ≠ Int32.minValue := by
    unfold magnitude? at h
    split at h
    · obtain rfl := Option.some.inj h
      decide
    · split at h
      · next hle =>
        obtain rfl := Option.some.inj h
        intro hmin
        have hneg := congrArg Int32.toInt hmin
        rw [Int32.toInt_ofNat_of_lt (by omega)] at hneg
        simp at hneg
      · cases h
  refine ⟨hm, fun hneg => hm ?_⟩
  calc m = - -m := Int32.neg_neg.symm
    _ = Int32.minValue := by rw [hneg]; decide

lemma canonical_of_parse {piece : Text} {r : Reward} (h : parse piece = .ok r) : r.Canonical := by
  obtain ⟨htoken, m, hm, rfl⟩ := parse_eq_ok_iff.mp h
  obtain ⟨hpos, hneg⟩ := ne_minValue_of_magnitude? hm
  refine ⟨?_, by simp, by simpa using htoken⟩
  split
  · exact hneg
  · exact hpos

/-! ### Phrases -/

/-- The pieces give the rewards, in order. -/
lemma parsePhrase_eq_ok_iff {t : Text} (ht : ¬ Text.AllBlank t) {rs : List Reward} :
    parsePhrase t = .ok rs ↔
      List.Forall₂ (fun piece r => parse piece = .ok r) (t.splitOn separator) rs := by
  rw [parsePhrase, if_neg ht, mapM_eq_ok_iff]
  simp only [parsePiece_eq_ok_iff]

lemma not_allBlank_of_parsePhrase {t : Text} {r : Reward} {rs : List Reward}
    (h : parsePhrase t = .ok (r :: rs)) : ¬ Text.AllBlank t := by
  intro hblank
  simp [parsePhrase, hblank] at h

lemma length_of_parsePhrase {t : Text} (ht : ¬ Text.AllBlank t) {rs : List Reward}
    (h : parsePhrase t = .ok rs) : rs.length = t.count separator + 1 := by
  rw [← ((parsePhrase_eq_ok_iff ht).mp h).length_eq, Text.length_splitOn]

/-- Pieces that are accepted make a phrase that is, if no comma stands in one of them. -/
lemma parsePhrase_intercalate {ts : List Text} {rs : List Reward} (hne : ts ≠ [])
    (hcomma : ∀ t ∈ ts, separator ∉ t)
    (h : List.Forall₂ (fun piece r => parse piece = .ok r) ts rs) :
    parsePhrase ([separator].intercalate ts) = .ok rs := by
  have hsome : ¬ Text.AllBlank ([separator].intercalate ts) := by
    obtain _ | ⟨hfirst, -⟩ := h
    · exact absurd rfl hne
    · obtain ⟨u, hu, -⟩ := Text.exists_intercalate_cons separator _ _
      rw [hu]
      exact fun hblank => not_allBlank_of_parse hfirst fun c hc =>
        hblank c (List.mem_append_left u hc)
  rw [parsePhrase_eq_ok_iff hsome, List.splitOn_intercalate separator hcomma hne]
  exact h

/-- A phrase is its first piece and the phrase of the others. -/
lemma parsePhrase_append_cons_iff {p t : Text} (hp : separator ∉ p) (ht : ¬ Text.AllBlank t)
    {r : Reward} {rs : List Reward} :
    parsePhrase (p ++ separator :: t) = .ok (r :: rs) ↔
      parse p = .ok r ∧ parsePhrase t = .ok rs := by
  have hwhole : ¬ Text.AllBlank (p ++ separator :: t) := fun hblank =>
    absurd (hblank separator (by simp)) (by decide)
  rw [parsePhrase_eq_ok_iff hwhole, parsePhrase_eq_ok_iff ht,
    List.splitOn_append_cons_self_of_not_mem hp, List.forall₂_cons]

/-- A character that belongs to a token changes what a phrase gives if it is put in front. -/
lemma parsePhrase_cons_ne {c : Char} {t : Text} {rs : List Reward}
    (hblank : Text.isBlank c = false) (hdigit : c.isDigit = false) (hminus : c ≠ '-')
    (hcomma : c ≠ separator) (ht : ¬ Text.AllBlank t) (h : parsePhrase t = .ok rs) :
    parsePhrase (c :: t) ≠ .ok rs := by
  intro hcons
  have hwhole : ¬ Text.AllBlank (c :: t) := fun hall => by
    simpa [hblank] using hall c List.mem_cons_self
  have hpieces := (parsePhrase_eq_ok_iff ht).mp h
  have hpieces' := (parsePhrase_eq_ok_iff hwhole).mp hcons
  obtain ⟨p, ps, hsplit⟩ := List.exists_cons_of_ne_nil (List.splitOn_ne_nil separator t)
  rw [List.splitOn_cons_eq_if_modifyHead, hsplit] at hpieces'
  rw [hsplit] at hpieces
  obtain _ | ⟨hp, -⟩ := hpieces
  obtain ⟨hp', -⟩ := by simpa [hcomma] using hpieces'
  exact parse_cons_ne hblank hdigit hminus hp hp'

/-- Blanks at the end of a phrase belong to its last piece and count for nothing. -/
lemma parsePhrase_append_blank_iff {t w : Text} (hw : Text.AllBlank w) {rs : List Reward} :
    parsePhrase (t ++ w) = .ok rs ↔ parsePhrase t = .ok rs := by
  have hcomma : separator ∉ w := fun hmem => absurd (hw separator hmem) (by decide)
  have hblank : Text.AllBlank (t ++ w) ↔ Text.AllBlank t := by
    rw [← Text.trim_eq_nil_iff, Text.trim_append_blank hw, Text.trim_eq_nil_iff]
  by_cases ht : Text.AllBlank t
  · simp only [parsePhrase, if_pos ht, if_pos (hblank.mpr ht)]
  · rw [parsePhrase_eq_ok_iff ht, parsePhrase_eq_ok_iff (mt hblank.mp ht)]
    clear hblank ht
    induction t using Text.parts_induction separator generalizing rs with
    | part p hp =>
      have hpw : separator ∉ p ++ w := by simp [hp, hcomma]
      have hparse := parse_congr (Text.trim_append_blank hw p)
      rw [List.splitOn_eq_singleton hpw, List.splitOn_eq_singleton hp]
      simp only [List.forall₂_cons_left_iff, hparse]
    | more p t hp ih =>
      rw [List.append_assoc, List.cons_append, List.splitOn_append_cons_self_of_not_mem hp,
        List.splitOn_append_cons_self_of_not_mem hp]
      simp only [List.forall₂_cons_left_iff, ih]

/-- Blanks in front of a phrase belong to its first piece and count for nothing. -/
lemma parsePhrase_blank_append_iff {w t : Text} (hw : Text.AllBlank w) {rs : List Reward} :
    parsePhrase (w ++ t) = .ok rs ↔ parsePhrase t = .ok rs := by
  have hcomma : separator ∉ w := fun hmem => absurd (hw separator hmem) (by decide)
  have hblank : Text.AllBlank (w ++ t) ↔ Text.AllBlank t := by
    rw [← Text.trim_eq_nil_iff, Text.trim_blank_append hw, Text.trim_eq_nil_iff]
  by_cases ht : Text.AllBlank t
  · simp only [parsePhrase, if_pos ht, if_pos (hblank.mpr ht)]
  · rw [parsePhrase_eq_ok_iff ht, parsePhrase_eq_ok_iff (mt hblank.mp ht)]
    induction t using Text.parts_induction separator with
    | part p hp =>
      have hwp : separator ∉ w ++ p := by simp [hp, hcomma]
      rw [List.splitOn_eq_singleton hwp, List.splitOn_eq_singleton hp]
      simp only [List.forall₂_cons_left_iff, parse_congr (Text.trim_blank_append hw p)]
    | more p t hp _ =>
      have hwp : separator ∉ w ++ p := by simp [hp, hcomma]
      rw [← List.append_assoc, List.splitOn_append_cons_self_of_not_mem hwp,
        List.splitOn_append_cons_self_of_not_mem hp]
      simp only [List.forall₂_cons_left_iff, parse_congr (Text.trim_blank_append hw p)]

/-- A phrase may be trimmed at its front. -/
lemma parsePhrase_trimStart_iff {t : Text} {rs : List Reward} :
    parsePhrase (Text.trimStart t) = .ok rs ↔ parsePhrase t = .ok rs := by
  obtain ⟨w, hw, happend⟩ := Text.exists_blank_append_trimStart t
  conv => rhs; rw [happend]
  exact (parsePhrase_blank_append_iff hw).symm

/-- A phrase may be trimmed at its end. -/
lemma parsePhrase_trim_iff {t : Text} {rs : List Reward} :
    parsePhrase (Text.trim t) = .ok rs ↔ parsePhrase (Text.trimStart t) = .ok rs := by
  obtain ⟨w, hw, hend⟩ := Text.exists_trim_append_blank t
  rw [← hend, parsePhrase_append_blank_iff hw]

/-- Every reward of a phrase is given by one of its pieces. -/
lemma exists_piece_of_mem {t : Text} {rs : List Reward} (h : parsePhrase t = .ok rs) {r : Reward}
    (hr : r ∈ rs) : ∃ piece ∈ t.splitOn separator, parse piece = .ok r := by
  obtain ⟨s, us, rfl⟩ := List.exists_cons_of_ne_nil (List.ne_nil_of_mem hr)
  rw [parsePhrase, if_neg (not_allBlank_of_parsePhrase h)] at h
  obtain ⟨piece, hmem, hpiece⟩ := exists_of_mem_mapM h hr
  exact ⟨piece, hmem, parsePiece_eq_ok_iff.mp hpiece⟩

lemma canonical_of_parsePhrase {t : Text} {rs : List Reward} (h : parsePhrase t = .ok rs) :
    ∀ r ∈ rs, r.Canonical := by
  intro r hr
  obtain ⟨piece, -, hpiece⟩ := exists_piece_of_mem h hr
  exact canonical_of_parse hpiece

/-- No token of a phrase has a separator in it. -/
lemma separator_not_mem_token {t : Text} {rs : List Reward} (h : parsePhrase t = .ok rs)
    {r : Reward} (hr : r ∈ rs) : separator ∉ r.resource.token := by
  obtain ⟨piece, hmem, hpiece⟩ := exists_piece_of_mem h hr
  intro htoken
  exact Text.not_mem_of_mem_splitOn hmem ((token_sublist_of_parse hpiece).subset htoken)

end Reward

end RuleTriggers
