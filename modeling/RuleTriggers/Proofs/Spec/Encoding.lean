import RuleTriggers.Proofs.Spec.Lead

/-!
The lead of a text in UTF-8. The scan walks over bytes and knows nothing of characters, but all
bytes of a character are of its class and no space follows within it, so wherever the scan may
stop a character ends. What it takes can therefore be cut off without cutting through a character,
and can be said by characters alone.
-/

namespace RuleTriggers.Spec

/-! ### Leads by characters -/

/-- The longest run at the front of a text of characters like `c`: word characters if `c` is one,
others if it is none, and no space among them. -/
structure LongestRun (c : Char) (t run : Text) : Prop where
  front : run <+: t
  alike : ∀ d ∈ run, d ≠ ' ' ∧ isWord d = isWord c
  longest : ∀ more, more <+: t → (∀ d ∈ more, d ≠ ' ' ∧ isWord d = isWord c) →
    more.length ≤ run.length

/-- The lead of a text by characters: the first, and the longest run behind it of others like it. -/
inductive IsLead : Text → Text → Prop
  | nil : IsLead [] []
  | cons {c : Char} {t run : Text} (h : LongestRun c t run) : IsLead (c :: t) (c :: run)

lemma joins_iff {c d : Char} : joins c d ↔ d ≠ ' ' ∧ isWord d = isWord c := by
  simp [joins]

lemma longestRun_takeWhile (c : Char) (t : Text) : LongestRun c t (t.takeWhile (joins c)) where
  front := List.takeWhile_prefix _
  alike d hd := joins_iff.mp (List.all_eq_true.mp List.all_takeWhile d hd)
  longest more hmore halike := by
    obtain ⟨rest, rfl⟩ := hmore
    rw [List.takeWhile_append_of_pos fun d hd => joins_iff.mpr (halike d hd), List.length_append]
    exact Nat.le_add_right _ _

lemma LongestRun.unique {c : Char} {t run run' : Text} (h : LongestRun c t run)
    (h' : LongestRun c t run') : run = run' := by
  have hle : run.length ≤ run'.length := h'.longest run h.front h.alike
  have hge : run'.length ≤ run.length := h.longest run' h'.front h'.alike
  have hprefix : run <+: run' := List.prefix_of_prefix_length_le h.front h'.front hle
  exact hprefix.eq_of_length (Nat.le_antisymm hle hge)

lemma isLead_splitLead (t : Text) : IsLead t (splitLead t).1 := by
  cases t with
  | nil => exact .nil
  | cons c t =>
    rw [splitLead_cons]
    exact .cons (longestRun_takeWhile c t)

namespace IsLead

variable {t u u' : Text}

lemma unique (h : IsLead t u) (h' : IsLead t u') : u = u' := by
  cases h with
  | nil =>
    cases h'
    rfl
  | cons hrun =>
    obtain _ | hrun' := h'
    rw [hrun.unique hrun']

lemma eq_nil_iff (h : IsLead t u) : u = [] ↔ t = [] := by
  cases h <;> simp

lemma space_not_mem_tail (h : IsLead t u) : ' ' ∉ u.tail := by
  cases h with
  | nil => exact List.not_mem_nil
  | cons hrun => exact fun hmem => (hrun.alike ' ' hmem).1 rfl

end IsLead

/-! ### The scan over bytes -/

/-- Whether the scan stops behind byte `i`: a word begins or ends there, or a space follows. Behind
the last byte no word goes on. -/
def stopsAfter (bs : List UInt8) (i : Nat) : Bool :=
  bs[i]?.any isWordByte != bs[i + 1]?.any isWordByte || bs[i + 1]? == some 0x20

lemma stopsAfter_zero_iff (b c : UInt8) (bs : List UInt8) :
    stopsAfter (b :: c :: bs) 0 ↔ isWordByte b ≠ isWordByte c ∨ c = 0x20 := by
  simp [stopsAfter]

/-- Bytes in front move the places where the scan stops. -/
lemma stopsAfter_append (front bs : List UInt8) (i : Nat) :
    stopsAfter (front ++ bs) (front.length + i) = stopsAfter bs i := by
  unfold stopsAfter
  rw [Nat.add_assoc, List.getElem?_append_right (Nat.le_add_right _ _),
    List.getElem?_append_right (Nat.le_add_right _ _), Nat.add_sub_cancel_left,
    Nat.add_sub_cancel_left]

/-- The scan tries one place after another, and takes all bytes if it stops at none. -/
lemma leadSize_eq_find? (bs : List UInt8) :
    leadSize bs = ((List.range bs.length).find? (stopsAfter bs)).elim bs.length (· + 1) := by
  fun_induction leadSize bs with
  | case1 => rfl
  | case2 b => cases h : stopsAfter [b] 0 <;> simp [h]
  | case3 b c bs hstop =>
    have hzero : stopsAfter (b :: c :: bs) 0 := (stopsAfter_zero_iff b c bs).mpr hstop
    rw [List.length_cons, List.range_succ_eq_map, List.find?_cons_of_pos hzero]
    rfl
  | case4 b c bs hstop ih =>
    have hzero : ¬ stopsAfter (b :: c :: bs) 0 := mt (stopsAfter_zero_iff b c bs).mp hstop
    have hlater : stopsAfter (b :: c :: bs) ∘ Nat.succ = stopsAfter (c :: bs) := rfl
    rw [List.length_cons, List.range_succ_eq_map, List.find?_cons_of_neg hzero, List.find?_map,
      hlater, ih]
    cases (List.range (c :: bs).length).find? (stopsAfter (c :: bs)) <;> rfl

lemma leadSize_cases (bs : List UInt8) :
    leadSize bs = bs.length ∨ ∃ i, stopsAfter bs i ∧ leadSize bs = i + 1 := by
  rw [leadSize_eq_find?]
  cases h : (List.range bs.length).find? (stopsAfter bs) with
  | none => exact .inl rfl
  | some i => exact .inr ⟨i, List.find?_some h, rfl⟩

/-! ### Where characters end -/

lemma bytes_append (s t : Text) : bytes (s ++ t) = bytes s ++ bytes t := List.flatMap_append

/-- Within bytes of one class, with no space to follow, there is no place to stop. -/
lemma not_stopsAfter_of_class {k : Bool} {b : UInt8} {bs : List UInt8} (hb : isWordByte b = k)
    (hbs : ∀ x ∈ bs, isWordByte x = k ∧ x ≠ 0x20) (rest : List UInt8) {i : Nat}
    (hi : i < bs.length) : ¬ stopsAfter (b :: bs ++ rest) i := by
  have hclass : ∀ x ∈ b :: bs, isWordByte x = k := by
    simpa [hb] using fun x hx => (hbs x hx).1
  obtain ⟨hnext, hspace⟩ := hbs bs[i] (List.getElem_mem hi)
  have hi' : i < (b :: bs).length := Nat.lt_succ_of_lt hi
  have hlast : isWordByte (b :: bs)[i] = k := hclass _ (List.getElem_mem hi')
  unfold stopsAfter
  rw [List.getElem?_append_left hi', List.getElem?_append_left (Nat.succ_lt_succ hi),
    List.getElem?_eq_getElem hi', List.getElem?_cons_succ, List.getElem?_eq_getElem hi]
  simp [hlast, hnext, hspace]

/-- Wherever the scan stops, a character ends. -/
lemma exists_append_of_stopsAfter {t : Text} {i : Nat} (h : stopsAfter (bytes t) i) :
    ∃ u v, t = u ++ v ∧ (bytes u).length = i + 1 := by
  induction t generalizing i with
  | nil => simp [stopsAfter, bytes] at h
  | cons c t ih =>
    obtain ⟨b, bs, hc, hb, -, hbs⟩ := utf8EncodeChar_eq c
    have hone : bytes [c] = b :: bs := by simp [bytes, hc]
    rw [← List.singleton_append, bytes_append, hone] at h
    -- the place is within the first character, right behind it, or among the others
    rcases Nat.lt_trichotomy i bs.length with hlt | rfl | hgt
    · exact absurd h (not_stopsAfter_of_class hb hbs _ hlt)
    · exact ⟨[c], t, rfl, congrArg List.length hone⟩
    · obtain ⟨j, rfl⟩ := Nat.exists_eq_add_of_le hgt
      obtain ⟨u, v, rfl, hu⟩ := ih ((stopsAfter_append (b :: bs) _ j).symm.trans h)
      refine ⟨c :: u, v, rfl, ?_⟩
      rw [← List.singleton_append, bytes_append, hone, List.length_append, hu]
      rfl

lemma exists_append_leadSize (t : Text) :
    ∃ u v, t = u ++ v ∧ (bytes u).length = leadSize (bytes t) := by
  rcases leadSize_cases (bytes t) with h | ⟨i, hi, h⟩
  · exact ⟨t, [], (List.append_nil t).symm, h.symm⟩
  · rw [h]
    exact exists_append_of_stopsAfter hi

lemma utf8ByteSize_ofList (t : Text) : (String.ofList t).utf8ByteSize = (bytes t).length := by
  rw [← String.size_toByteArray, String.toByteArray_ofList]
  exact List.size_toByteArray

/-- What the scan takes is cut off the text at a position between two characters. -/
lemma exists_pos_splits_splitLead (t : Text) :
    ∃ p : (String.ofList t).Pos, p.offset.byteIdx = leadSize (bytes t) ∧
      p.Splits (String.ofList (splitLead t).1) (String.ofList (splitLead t).2) := by
  obtain ⟨u, v, rfl, hu⟩ := exists_append_leadSize t
  have hlead : splitLead (u ++ v) = (u, v) := by
    rw [splitLead, ← hu]
    exact splitBytes_bytes u v
  have happend : String.ofList (u ++ v) = String.ofList u ++ String.ofList v :=
    String.ofList_append
  have hsplits := String.Pos.splits_ofEqAppend happend
  rw [hlead]
  refine ⟨_, ?_, hsplits⟩
  rw [hsplits.offset_eq_rawEndPos, String.byteIdx_rawEndPos, utf8ByteSize_ofList, hu]

/-- **The scan over bytes reads characters.** It takes all up to the first place where it stops,
which is the first character of the text with the longest run behind it of others like it. So it
takes nothing only of the empty text, and a space only in front. The bytes that it takes end at a
position of the text, where the text is cut into the lead and the rest. -/
theorem lead_byCharacters (t : Text) :
    leadSize (bytes t) =
        ((List.range (bytes t).length).find? (stopsAfter (bytes t))).elim (bytes t).length (· + 1) ∧
      (∀ u, (splitLead t).1 = u ↔ IsLead t u) ∧
      ((splitLead t).1 = [] ↔ t = []) ∧
      ' ' ∉ (splitLead t).1.tail ∧
      ∃ p : (String.ofList t).Pos, p.offset.byteIdx = leadSize (bytes t) ∧
        p.Splits (String.ofList (splitLead t).1) (String.ofList (splitLead t).2) := by
  have hlead := isLead_splitLead t
  refine ⟨leadSize_eq_find? _, fun u => ⟨?_, hlead.unique⟩, hlead.eq_nil_iff,
    hlead.space_not_mem_tail, exists_pos_splits_splitLead t⟩
  rintro rfl
  exact hlead

example : splitLead ['ü', '–', 'k'] = (['ü', '–'], ['k']) := by decide

end RuleTriggers.Spec
