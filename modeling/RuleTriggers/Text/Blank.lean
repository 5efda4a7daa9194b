/-!
Rule text and its white space. A character is blank when it has the property White_Space;
trimming takes blanks off one or both ends and touches nothing between.
-/

namespace RuleTriggers

/-- Rule text, one entry per character. -/
abbrev Text := List Char

namespace Text

/-- The characters with the property White_Space. -/
def isBlank (c : Char) : Bool :=
  let n := c.toNat
  (0x09 ≤ n && n ≤ 0x0d) || n == 0x20 || n == 0x85 || n == 0xa0 || n == 0x1680 ||
    (0x2000 ≤ n && n ≤ 0x200a) || n == 0x2028 || n == 0x2029 || n == 0x202f || n == 0x205f ||
    n == 0x3000

/-- The text from its first character that is not blank. -/
def trimStart (t : Text) : Text := t.dropWhile isBlank

/-- The text up to its last character that is not blank. -/
def trimEnd (t : Text) : Text := (trimStart t.reverse).reverse

def trim (t : Text) : Text := trimEnd (trimStart t)

/-- Nothing but blanks. -/
def AllBlank (t : Text) : Prop := ∀ c ∈ t, isBlank c

instance (t : Text) : Decidable (AllBlank t) := List.decidableBAll (isBlank ·) t

theorem trimStart_cons (c : Char) (t : Text) :
    trimStart (c :: t) = if isBlank c then trimStart t else c :: t := by
  simp [trimStart, List.dropWhile_cons]

/-- What trimming takes off the front is blank. -/
theorem exists_blank_append_trimStart (t : Text) : ∃ w, AllBlank w ∧ t = w ++ trimStart t :=
  ⟨t.takeWhile isBlank, fun _ hc => List.all_eq_true.1 List.all_takeWhile _ hc,
    List.takeWhile_append_dropWhile.symm⟩

theorem trimStart_eq_nil_iff {t : Text} : trimStart t = [] ↔ AllBlank t := by
  induction t with
  | nil => simp [trimStart, AllBlank]
  | cons c t ih => by_cases h : isBlank c <;> simp_all [trimStart_cons, AllBlank]

theorem allBlank_reverse {t : Text} : AllBlank t.reverse ↔ AllBlank t := by
  simp [AllBlank]

/-- A text trims to nothing exactly when it is blank throughout. -/
theorem trim_eq_nil_iff {t : Text} : trim t = [] ↔ AllBlank t := by
  rw [trim, trimEnd, List.reverse_eq_nil_iff, trimStart_eq_nil_iff, allBlank_reverse]
  constructor
  · intro h
    obtain ⟨w, hw, e⟩ := exists_blank_append_trimStart t
    rw [e]
    intro c hc
    rcases List.mem_append.1 hc with hc | hc
    · exact hw c hc
    · exact h c hc
  · intro h
    rw [trimStart_eq_nil_iff.2 h]
    simp [AllBlank]

end Text

end RuleTriggers
