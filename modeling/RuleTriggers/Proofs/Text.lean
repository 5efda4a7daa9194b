import Mathlib.Data.List.Basic
import Mathlib.Data.List.Induction
import Mathlib.Tactic.Lemma
import RuleTriggers.Text.Decimal

/-!
Trimming, splitting at a separator, and taking off digits, where something is known of the text.
-/

namespace RuleTriggers.Text

/-! ### Trimming -/

lemma trimStart_eq_self {t : Text} (h : ∀ c, t.head? = some c → isBlank c = false) :
    trimStart t = t := by
  cases t with
  | nil => rfl
  | cons c t =>
    have hc : isBlank c = false := h c rfl
    simp [trimStart_cons, hc]

@[simp] lemma trimStart_space (t : Text) : trimStart (' ' :: t) = trimStart t := rfl

/-- Between two characters that are not blank there is nothing to trim. -/
lemma trim_eq_self {t : Text} (hhead : ∀ c, t.head? = some c → isBlank c = false)
    (hlast : ∀ c, t.getLast? = some c → isBlank c = false) : trim t = t := by
  have hreverse : trimStart t.reverse = t.reverse := by
    refine trimStart_eq_self fun c hc => hlast c ?_
    rwa [List.head?_reverse] at hc
  rw [trim, trimStart_eq_self hhead, trimEnd, hreverse, List.reverse_reverse]

/-- Where there are no blanks there is nothing to trim. -/
lemma trim_of_forall {t : Text} (h : ∀ c ∈ t, isBlank c = false) : trim t = t :=
  trim_eq_self (fun c hc => h c (List.mem_of_mem_head? hc))
    (fun c hc => h c (List.mem_of_getLast? hc))

lemma mem_trimStart {t : Text} {c : Char} (hc : c ∈ t) (hblank : isBlank c = false) :
    c ∈ trimStart t := by
  obtain ⟨w, hw, happend⟩ := exists_blank_append_trimStart t
  rw [happend] at hc
  rcases List.mem_append.mp hc with hmem | hmem
  · have := hw c hmem
    simp [hblank] at this
  · exact hmem

/-- Trimming takes off blanks only. -/
lemma mem_trim {t : Text} {c : Char} (hc : c ∈ t) (hblank : isBlank c = false) : c ∈ trim t := by
  have hstart := List.mem_reverse.mpr (mem_trimStart hc hblank)
  exact List.mem_reverse.mpr (mem_trimStart hstart hblank)

lemma isBlank_eq_false_of_head?_trimStart {t : Text} {c : Char}
    (h : (trimStart t).head? = some c) : isBlank c = false := by
  have hnot := List.head?_dropWhile_not isBlank t
  rw [← trimStart, h] at hnot
  simpa using hnot

lemma trimStart_append_blank {t w : Text} (hw : AllBlank w) :
    trimStart (t ++ w) = if AllBlank t then [] else trimStart t ++ w := by
  unfold trimStart
  rw [List.dropWhile_append]
  by_cases ht : AllBlank t
  · have hnil : t.dropWhile isBlank = [] := trimStart_eq_nil_iff.mpr ht
    have hwnil : w.dropWhile isBlank = [] := trimStart_eq_nil_iff.mpr hw
    simp [hnil, hwnil, ht]
  · have hne : t.dropWhile isBlank ≠ [] := fun h => ht (trimStart_eq_nil_iff.mp h)
    simp [hne, ht]

/-- Blanks in front are of no account. -/
lemma trim_blank_append {w : Text} (hw : AllBlank w) (t : Text) : trim (w ++ t) = trim t := by
  rw [trim, trimStart, List.dropWhile_append_of_pos hw]
  rfl

/-- Blanks behind are of no account. -/
lemma trim_append_blank {w : Text} (hw : AllBlank w) (t : Text) : trim (t ++ w) = trim t := by
  rw [trim, trimStart_append_blank hw]
  split
  · next ht => exact (trim_eq_nil_iff.mpr ht).symm
  · have hreverse : AllBlank w.reverse := allBlank_reverse.mpr hw
    rw [trimEnd, List.reverse_append, trimStart, List.dropWhile_append_of_pos hreverse]
    rfl

/-- What trimming takes off the end is blank. -/
lemma exists_trim_append_blank (t : Text) : ∃ w, AllBlank w ∧ trim t ++ w = trimStart t := by
  obtain ⟨w, hw, hend⟩ := exists_blank_append_trimStart (trimStart t).reverse
  refine ⟨w.reverse, allBlank_reverse.mpr hw, ?_⟩
  calc trim t ++ w.reverse = (w ++ trimStart (trimStart t).reverse).reverse := by
        rw [List.reverse_append]
        rfl
    _ = trimStart t := by rw [← hend, List.reverse_reverse]

/-- What trimming takes off at either end is blank. -/
lemma exists_blank_trim_blank (t : Text) :
    ∃ v w, AllBlank v ∧ AllBlank w ∧ v ++ trim t ++ w = t := by
  obtain ⟨v, hv, hstart⟩ := exists_blank_append_trimStart t
  obtain ⟨w, hw, hend⟩ := exists_trim_append_blank t
  exact ⟨v, w, hv, hw, by rw [List.append_assoc, hend, ← hstart]⟩

lemma trim_sublist (t : Text) : (trim t).Sublist t := by
  obtain ⟨v, w, -, -, h⟩ := exists_blank_trim_blank t
  conv => rhs; rw [← h]
  exact (List.sublist_append_right v _).trans (List.sublist_append_left _ w)

/-- Trimming takes off no character that is not blank. -/
lemma count_trim {c : Char} (hc : isBlank c = false) (t : Text) : (trim t).count c = t.count c := by
  obtain ⟨v, w, hv, hw, h⟩ := exists_blank_trim_blank t
  have hnot : ∀ u, AllBlank u → u.count c = 0 := fun u hu =>
    List.count_eq_zero_of_not_mem fun hmem => by simpa [hc] using hu c hmem
  conv => rhs; rw [← h]
  simp [hnot v hv, hnot w hw]

lemma trim_trimStart (t : Text) : trim (trimStart t) = trim t := by
  obtain ⟨w, hw, h⟩ := exists_blank_append_trimStart t
  conv => rhs; rw [h]
  exact (trim_blank_append hw _).symm

lemma isBlank_eq_false_of_head?_trim {t : Text} {c : Char} (h : (trim t).head? = some c) :
    isBlank c = false := by
  obtain ⟨w, -, hend⟩ := exists_trim_append_blank t
  refine isBlank_eq_false_of_head?_trimStart (t := t) ?_
  rw [← hend, List.head?_append, h]
  rfl

lemma isBlank_eq_false_of_getLast?_trim {t : Text} {c : Char} (h : (trim t).getLast? = some c) :
    isBlank c = false := by
  refine isBlank_eq_false_of_head?_trimStart (t := (trimStart t).reverse) ?_
  rwa [trim, trimEnd, List.getLast?_reverse] at h

lemma trim_trim (t : Text) : trim (trim t) = trim t :=
  trim_eq_self (fun _ hc => isBlank_eq_false_of_head?_trim hc)
    (fun _ hc => isBlank_eq_false_of_getLast?_trim hc)

/-- Trimming changes nothing about whether there is anything but blanks. -/
lemma allBlank_trim_iff {t : Text} : AllBlank (trim t) ↔ AllBlank t := by
  rw [← trim_eq_nil_iff, trim_trim, trim_eq_nil_iff]

lemma allBlank_trimStart_iff {t : Text} : AllBlank (trimStart t) ↔ AllBlank t := by
  rw [← trim_eq_nil_iff, trim_trimStart, trim_eq_nil_iff]

/-! ### Parts between separators -/

/-- A text has no separator, or it is a part without any, a separator and a text. -/
@[elab_as_elim]
lemma parts_induction (c : Char) {motive : Text → Prop} (part : ∀ p, c ∉ p → motive p)
    (more : ∀ p t, c ∉ p → motive t → motive (p ++ c :: t)) (t : Text) : motive t := by
  induction hn : t.length using Nat.strongRecOn generalizing t with
  | ind n ih =>
    by_cases hc : c ∈ t
    · obtain ⟨p, u, rfl, hp⟩ := List.eq_append_cons_of_mem hc
      refine more p u hp (ih u.length ?_ u rfl)
      rw [← hn, List.length_append, List.length_cons]
      omega
    · exact part t hc

/-- The separator stands in none of the parts. -/
lemma not_mem_of_mem_splitOn {t p : Text} {c : Char} (hp : p ∈ t.splitOn c) : c ∉ p := by
  induction t using parts_induction c with
  | part u hu =>
    rw [List.splitOn_eq_singleton hu] at hp
    exact List.mem_singleton.mp hp ▸ hu
  | more u t hu ih =>
    rw [List.splitOn_append_cons_self_of_not_mem hu] at hp
    rcases List.mem_cons.mp hp with rfl | hp
    · exact hu
    · exact ih hp

/-- There is one part more than there are separators. -/
lemma length_splitOn (t : Text) (c : Char) : (t.splitOn c).length = t.count c + 1 := by
  induction t with
  | nil => rfl
  | cons d t ih =>
    rw [List.splitOn_cons_eq_if_modifyHead]
    by_cases hd : d = c
    · simp [hd, ih]
    · simp [hd, ih]

lemma splitOn_eq_pair {t : Text} (h : t.count ' ' = 1) :
    ∃ head tail, t.splitOn ' ' = [head, tail] := by
  have hlen : (t.splitOn ' ').length = 2 := by rw [length_splitOn, h]
  exact List.length_eq_two.mp hlen

lemma eq_of_splitOn_eq_pair {t head tail : Text} (h : t.splitOn ' ' = [head, tail]) :
    t = head ++ ' ' :: tail := by
  calc t = [' '].intercalate (t.splitOn ' ') := (List.intercalate_splitOn ' ').symm
    _ = head ++ ' ' :: tail := by simp [h, List.intercalate]

/-- Parts that are put together again begin with the first of them, and go on, if at all, with a
separator. -/
lemma exists_intercalate_cons (c : Char) (p : Text) (ps : List Text) :
    ∃ t, [c].intercalate (p :: ps) = p ++ t ∧ ∀ d, t.head? = some d → d = c := by
  cases ps with
  | nil => exact ⟨[], by simp, by simp⟩
  | cons q ps =>
    refine ⟨c :: [c].intercalate (q :: ps), by simp, fun d hd => ?_⟩
    exact (Option.some.inj hd).symm

/-- Nothing but the separator is added to the parts. -/
lemma mem_intercalate {c d : Char} {ps : List Text} (h : d ∈ [c].intercalate ps) :
    d = c ∨ ∃ p ∈ ps, d ∈ p := by
  induction ps with
  | nil => simp at h
  | cons p ps ih =>
    cases ps with
    | nil => exact .inr ⟨p, List.mem_cons_self, by simpa using h⟩
    | cons q ps =>
      rw [List.intercalate_cons_cons] at h
      rcases List.mem_append.mp h with hfirst | hrest
      · rcases List.mem_append.mp hfirst with hp | hc
        · exact .inr ⟨p, List.mem_cons_self, hp⟩
        · exact .inl (List.mem_singleton.mp hc)
      · rcases ih hrest with hc | ⟨r, hr, hd⟩
        · exact .inl hc
        · exact .inr ⟨r, List.mem_cons_of_mem p hr, hd⟩

lemma getLast?_append_ne {s t : Text} {c : Char} (hs : s.getLast? ≠ some c)
    (ht : t.getLast? ≠ some c) : (s ++ t).getLast? ≠ some c := by
  rw [List.getLast?_append]
  cases hlast : t.getLast? with
  | none => simpa using hs
  | some d => simpa [hlast] using ht

/-- Whether a text ends in something else than a space is up to what follows its last space. -/
lemma getLast?_append_space_ne {s t : Text} {c : Char} (hc : c ≠ ' ')
    (ht : t.getLast? ≠ some c) : (s ++ ' ' :: t).getLast? ≠ some c := by
  rw [List.append_cons]
  refine getLast?_append_ne ?_ ht
  rw [List.getLast?_concat]
  exact fun h => hc (Option.some.inj h).symm

/-! ### Digits -/

lemma exists_isDigit_decimal (n : Nat) : ∃ d ds, decimal n = d :: ds ∧ d.isDigit := by
  obtain ⟨d, ds, h⟩ := List.exists_cons_of_ne_nil (decimal_ne_nil n)
  exact ⟨d, ds, h, isDigit_of_mem_decimal (h ▸ List.mem_cons_self)⟩

section Append

variable {ds t : Text}

lemma digits_append (hds : ∀ d ∈ ds, d.isDigit) (ht : ∀ c, t.head? = some c → c.isDigit = false) :
    digits (ds ++ t) = ds := by
  rw [digits, List.takeWhile_append_of_pos hds]
  cases t with
  | nil => simp
  | cons c t =>
    have hc : c.isDigit = false := ht c rfl
    simp [hc]

lemma afterDigits_append (hds : ∀ d ∈ ds, d.isDigit)
    (ht : ∀ c, t.head? = some c → c.isDigit = false) : afterDigits (ds ++ t) = t := by
  have hsplit := digits_append_afterDigits (ds ++ t)
  rw [digits_append hds ht] at hsplit
  exact List.append_cancel_left hsplit

end Append

/-- A property of all digits is checked on ten of them. -/
lemma forall_isDigit (p : Char → Prop) (h : ∀ n < 58, 48 ≤ n → p (Char.ofNat n)) {d : Char}
    (hd : d.isDigit) : p d := by
  obtain ⟨hlo, hhi⟩ : 48 ≤ d.toNat ∧ d.toNat ≤ 57 := by
    simpa [Char.isDigit, UInt32.le_iff_toNat_le] using hd
  simpa [Char.ofNat_toNat] using h d.toNat (by omega) hlo

lemma isBlank_of_isDigit {d : Char} (hd : d.isDigit) : isBlank d = false :=
  forall_isDigit (isBlank · = false) (by decide) hd

/-- A digit is the decimal form of a number below ten. -/
lemma exists_decimal_eq_digit {d : Char} (hd : d.isDigit) :
    ∃ n < 10, d.toNat - '0'.toNat = n ∧ decimal n = [d] :=
  forall_isDigit (fun d => ∃ n < 10, d.toNat - '0'.toNat = n ∧ decimal n = [d]) (by decide) hd

lemma value_concat (ds : Text) (d : Char) :
    value (ds ++ [d]) = 10 * value ds + (d.toNat - '0'.toNat) := by
  rw [value, Nat.ofDigitChars_append, Nat.ofDigitChars_cons, Nat.ofDigitChars_nil, value]

/-- Zeros in front are of no account. -/
lemma value_zeros_append (zeros : Nat) (ds : Text) :
    value (List.replicate zeros '0' ++ ds) = value ds := by
  rw [value, Nat.ofDigitChars_append, Nat.ofDigitChars_replicate_zero, Nat.mul_zero, value]

lemma isDigit_of_mem_zeros_append {zeros : Nat} {ds : Text} (hds : ∀ d ∈ ds, d.isDigit) :
    ∀ d ∈ List.replicate zeros '0' ++ ds, d.isDigit := by
  intro d hd
  rcases List.mem_append.mp hd with hzero | hmem
  · rw [List.eq_of_mem_replicate hzero]
    rfl
  · exact hds d hmem

/-- Digits are the shortest form of what they stand for, with zeros in front. Of zero alone the
shortest form has a digit too many for that. -/
lemma exists_zeros_append {ds : Text} (hds : ∀ d ∈ ds, d.isDigit) :
    ∃ zeros, ds = List.replicate zeros '0' ++ if value ds = 0 then [] else decimal (value ds) := by
  induction ds using List.reverseRecOn with
  | nil => exact ⟨0, rfl⟩
  | append_singleton ds d ih =>
    obtain ⟨zeros, hzeros⟩ := ih fun c hc => hds c (List.mem_append_left [d] hc)
    obtain ⟨n, hn, hd, hdecimal⟩ := exists_decimal_eq_digit (hds d (by simp))
    rw [value_concat, hd]
    by_cases hvalue : value ds = 0
    · rw [if_pos hvalue, List.append_nil] at hzeros
      rw [hvalue, Nat.mul_zero, Nat.zero_add, hdecimal]
      by_cases hzero : n = 0
      · obtain rfl : '0' = d := by simpa [hzero, decimal] using hdecimal
        exact ⟨zeros + 1, by rw [if_pos hzero, List.append_nil, List.replicate_succ', ← hzeros]⟩
      · exact ⟨zeros, by rw [if_neg hzero, ← hzeros]⟩
    · rw [if_neg hvalue] at hzeros
      refine ⟨zeros, ?_⟩
      rw [if_neg (by omega), decimal,
        ← Nat.toDigits_append_toDigits (by decide) (Nat.pos_of_ne_zero hvalue) hn,
        ← List.append_assoc]
      exact congrArg₂ (· ++ ·) hzeros hdecimal.symm

/-- The text begins as a count does, or is empty. -/
def Numeric (t : Text) : Prop := ∀ c, t.head? = some c → c.isDigit ∨ c = '-'

lemma numeric_append {ds : Text} (hne : ds ≠ []) (hds : ∀ d ∈ ds, d.isDigit) (t : Text) :
    Numeric (ds ++ t) := by
  obtain ⟨d, rest, rfl⟩ := List.exists_cons_of_ne_nil hne
  intro c hc
  obtain rfl : d = c := by simpa using hc
  exact .inl (hds d List.mem_cons_self)

lemma numeric_decimal_append (n : Nat) (t : Text) : Numeric (decimal n ++ t) :=
  numeric_append (decimal_ne_nil n) (fun _ hd => isDigit_of_mem_decimal hd) t

lemma Numeric.trimStart_eq {t : Text} (h : Numeric t) : trimStart t = t := by
  refine trimStart_eq_self fun c hc => ?_
  rcases h c hc with hdigit | rfl
  · exact isBlank_of_isDigit hdigit
  · rfl

end RuleTriggers.Text
