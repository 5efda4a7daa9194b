import RuleTriggers.Spec.Lead

/-!
The lead of a text by characters. The scan over bytes stops at the end of a character, and the
lead is the first character with all that follow it up to the first space or change between word
characters and others.
-/

namespace RuleTriggers.Spec

/-- A letter, digit or underscore of ASCII. -/
def isWord (c : Char) : Bool := c.isAlphanum || c == '_'

theorem isWordByte_of_ge {b : UInt8} (h : 128 ≤ b.toNat) : isWordByte b = false ∧ b ≠ 0x20 := by
  constructor
  · simp only [isWordByte, UInt8.le_iff_toNat_le, Bool.or_eq_false_iff, Bool.and_eq_false_iff,
      decide_eq_false_iff_not, beq_eq_false_iff_ne, ne_eq, ← UInt8.toNat_inj, UInt8.reduceToNat]
    omega
  · rintro rfl
    simp at h

theorem isWord_of_ge {c : Char} (h : 128 ≤ c.toNat) : isWord c = false ∧ c ≠ ' ' := by
  have h : 128 ≤ c.val.toNat := h
  have ne (d : Char) (hd : d.val.toNat < 128) : c ≠ d := by
    rintro rfl
    omega
  have below (hi : UInt32) (hhi : hi.toNat < 128) : ¬ c.val ≤ hi := by
    rw [UInt32.le_iff_toNat_le]
    omega
  have upper : c.isUpper = false := decide_eq_false fun h => below 90 (by decide) h.2
  have lower : c.isLower = false :=
    Bool.and_eq_false_iff.2 (.inr (decide_eq_false (below 122 (by decide))))
  have digit : c.isDigit = false :=
    Bool.and_eq_false_iff.2 (.inr (decide_eq_false (below 57 (by decide))))
  have low : (c == '_') = false := beq_eq_false_iff_ne.2 (ne '_' (by decide))
  constructor
  · change ((c.isUpper || c.isLower) || c.isDigit || c == '_') = false
    rw [upper, lower, digit, low]
    rfl
  · exact ne ' ' (by decide)

theorem isWordByte_ofNat {c : Char} (h : c.toNat < 128) :
    isWordByte (UInt8.ofNat c.toNat) = isWord c ∧ (UInt8.ofNat c.toNat = 0x20 ↔ c = ' ') := by
  have key : ∀ n < 128, isWordByte (UInt8.ofNat (Char.ofNat n).toNat) = isWord (Char.ofNat n) ∧
      (UInt8.ofNat (Char.ofNat n).toNat = 0x20 ↔ Char.ofNat n = ' ') := by decide
  have := key c.toNat h
  rwa [Char.ofNat_toNat] at this

/-- The bytes of a character are all of its class, and only the space has the byte of the space. -/
theorem utf8EncodeChar_eq (c : Char) :
    ∃ b bs, String.utf8EncodeChar c = b :: bs ∧ isWordByte b = isWord c ∧ (b = 0x20 ↔ c = ' ') ∧
      ∀ x ∈ bs, isWordByte x = isWord c ∧ x ≠ 0x20 := by
  by_cases h : c.toNat < 128
  · refine ⟨UInt8.ofNat c.toNat, [], ?_, (isWordByte_ofNat h).1, (isWordByte_ofNat h).2, by simp⟩
    have : c.val.toNat ≤ 127 := by change c.toNat ≤ 127; omega
    simp only [String.utf8EncodeChar, this, if_true]
    rfl
  · obtain ⟨hw, hs⟩ := isWord_of_ge (by omega : 128 ≤ c.toNat)
    have big : ∀ x ∈ String.utf8EncodeChar c, isWordByte x = isWord c ∧ x ≠ 0x20 := by
      intro x hx
      rw [hw]
      apply isWordByte_of_ge
      have : ¬ c.val.toNat ≤ 127 := by change ¬ c.toNat ≤ 127; omega
      simp only [String.utf8EncodeChar, this, if_false] at hx
      split at hx
      · simp only [List.mem_cons, List.not_mem_nil, or_false] at hx
        rcases hx with rfl | rfl <;> simp <;> omega
      · split at hx
        · simp only [List.mem_cons, List.not_mem_nil, or_false] at hx
          rcases hx with rfl | rfl | rfl <;> simp <;> omega
        · simp only [List.mem_cons, List.not_mem_nil, or_false] at hx
          rcases hx with rfl | rfl | rfl | rfl <;> simp <;> omega
    cases e : String.utf8EncodeChar c with
    | nil => exact absurd e String.utf8EncodeChar_ne_nil
    | cons b bs =>
      rw [e] at big
      refine ⟨b, bs, rfl, (big b (by simp)).1, ?_, fun x hx => big x (by simp [hx])⟩
      simp [hs, (big b (by simp)).2]

/-- Within bytes of one class the scan finds no place to stop. -/
theorem leadSize_append {k : Bool} {b : UInt8} {bs : List UInt8} (hb : isWordByte b = k)
    (hbs : ∀ x ∈ bs, isWordByte x = k ∧ x ≠ 0x20) (v : List UInt8) :
    leadSize (b :: (bs ++ v)) = bs.length + leadSize (b :: v) := by
  induction bs generalizing b with
  | nil => simp
  | cons x bs ih =>
    obtain ⟨hx, hxs⟩ := hbs x (by simp)
    have := ih hx (fun y hy => hbs y (by simp [hy]))
    rw [List.cons_append, leadSize, if_neg (by simp [hb, hx, hxs]), this, List.length_cons]
    cases v with
    | nil => simp [leadSize]
    | cons c v => simp [leadSize, hb, hx]; omega

/-- Whether the lead goes on from a character to the one after it. -/
def joins (c d : Char) : Bool := d ≠ ' ' && isWord d == isWord c

theorem leadSize_bytes (c : Char) (t : Text) :
    leadSize (bytes (c :: t)) = (bytes (c :: t.takeWhile (joins c))).length := by
  induction t generalizing c with
  | nil =>
    obtain ⟨b, bs, e, hb, -, hbs⟩ := utf8EncodeChar_eq c
    have one := leadSize_append hb hbs []
    rw [List.append_nil] at one
    simp [bytes, e, one, leadSize]
  | cons d t ih =>
    obtain ⟨b, bs, e, hb, -, hbs⟩ := utf8EncodeChar_eq c
    obtain ⟨x, xs, e', hx, hs, -⟩ := utf8EncodeChar_eq d
    have front : bytes (c :: d :: t) = b :: (bs ++ bytes (d :: t)) := by simp [bytes, e]
    have next : bytes (d :: t) = x :: (xs ++ bytes t) := by simp [bytes, e']
    rw [front, leadSize_append hb hbs, next, leadSize, ← next, List.takeWhile_cons]
    by_cases hj : joins c d
    · obtain ⟨hd, hw⟩ : d ≠ ' ' ∧ isWord d = isWord c := by simpa [joins] using hj
      have same : joins d = joins c := by
        funext y
        simp [joins, hw]
      rw [if_neg (by simp [hb, hx, hs, hd, hw]), ih d, same, if_pos hj]
      simp [bytes, e]
      omega
    · have stop : isWordByte b ≠ isWordByte x ∨ x = 0x20 := by
        rw [hb, hx, hs]
        by_cases hd : d = ' '
        · exact .inr hd
        · exact .inl fun h => hj (by simp [joins, hd, h])
      rw [if_pos stop, if_neg hj]
      simp [bytes, e]

theorem splitBytes_bytes (s t : Text) : splitBytes (bytes s).length (s ++ t) = (s, t) := by
  induction s with
  | nil =>
    cases t with
    | nil => rfl
    | cons c t =>
      have := c.utf8Size_pos
      simp [splitBytes, bytes]
      omega
  | cons c s ih =>
    have size : (bytes (c :: s)).length = c.utf8Size + (bytes s).length := by
      simp [bytes, String.length_utf8EncodeChar]
    rw [List.cons_append, splitBytes, size, if_pos (by omega), Nat.add_sub_cancel_left, ih]

/-- The lead is the first character with those after it that it joins. -/
theorem splitLead_cons (c : Char) (t : Text) :
    splitLead (c :: t) = (c :: t.takeWhile (joins c), t.dropWhile (joins c)) := by
  have cut : c :: t = (c :: t.takeWhile (joins c)) ++ t.dropWhile (joins c) := by simp
  unfold splitLead
  rw [leadSize_bytes]
  conv => lhs; arg 2; rw [cut]
  exact splitBytes_bytes _ _

end RuleTriggers.Spec
