import RuleTriggers.Text.Blank
import RuleTriggers.Text.Unprintable

/-!
Quoted text, as messages show it: between double quotes, on one line, with every character that
cannot be shown as itself written as an escape.
-/

namespace RuleTriggers.Text

/-- The escape that gives a character by its number, in lower case without leading zeros. -/
def numberEscape (c : Char) : Text :=
  ['\\', 'u', '\x7b'] ++ Nat.toDigits 16 c.toNat ++ ['\x7d']

def quotedChar (c : Char) : Text :=
  match c with
  | '"' => ['\\', '"']
  | '\\' => ['\\', '\\']
  | '\x00' => ['\\', '0']
  | '\t' => ['\\', 't']
  | '\r' => ['\\', 'r']
  | '\n' => ['\\', 'n']
  | c => if isPrintable c then [c] else numberEscape c

def quoted (t : Text) : Text := '"' :: t.flatMap quotedChar ++ ['"']

/-- No range of unprintable characters reaches into those of ASCII that are shown. -/
theorem isPrintable_of_ascii {c : Char} (h : 0x20 ≤ c.toNat ∧ c.toNat ≤ 0x7e) :
    isPrintable c := by
  have apart : unprintableRanges.all fun range => range.2 < 0x20 || 0x7e < range.1 := by
    decide +kernel
  simp only [isPrintable, Bool.not_eq_true', List.any_eq_false]
  intro range mem
  have := List.all_eq_true.1 apart range mem
  simp only [Bool.or_eq_true, Bool.and_eq_true, decide_eq_true_eq] at this ⊢
  omega

theorem isPrintable_of_mem_toDigits {n : Nat} {d : Char} (h : d ∈ Nat.toDigits 16 n) :
    isPrintable d := by
  have digit : ∀ k < 16, 0x20 ≤ (Nat.digitChar k).toNat ∧ (Nat.digitChar k).toNat ≤ 0x7e := by
    decide
  induction n using Nat.strongRecOn with
  | ind n ih =>
    rw [Nat.toDigits_eq_if (by decide)] at h
    split at h
    · next hn =>
      obtain rfl := List.mem_singleton.1 h
      exact isPrintable_of_ascii (digit n hn)
    · next hn =>
      rcases List.mem_append.1 h with h | h
      · exact ih (n / 16) (Nat.div_lt_self (by omega) (by decide)) h
      · obtain rfl := List.mem_singleton.1 h
        exact isPrintable_of_ascii (digit (n % 16) (Nat.mod_lt n (by decide)))

/-- What escapes are made of, digits of numbers apart. -/
def escapeMarks : Text := ['\\', '"', '0', 't', 'r', 'n', 'u', '\x7b', '\x7d']

theorem isPrintable_of_mem_quotedChar {c d : Char} (h : d ∈ quotedChar c) : isPrintable d := by
  have shown {es : Text} (hd : d ∈ es) (hes : es ⊆ escapeMarks) : isPrintable d := by
    have marks : escapeMarks.all fun e => 0x20 ≤ e.toNat ∧ e.toNat ≤ 0x7e := by decide
    exact isPrintable_of_ascii (of_decide_eq_true (List.all_eq_true.1 marks d (hes hd)))
  unfold quotedChar at h
  split at h
  -- first the characters that have an escape of their own
  iterate 6 exact shown h (by simp [escapeMarks])
  split at h
  · next printable =>
    obtain rfl := List.mem_singleton.1 h
    exact printable
  · unfold numberEscape at h
    rcases List.mem_append.1 h with h | h
    · rcases List.mem_append.1 h with h | h
      · exact shown h (by simp [escapeMarks])
      · exact isPrintable_of_mem_toDigits h
    · exact shown h (by simp [escapeMarks])

/-- Whatever a text has in it, all of its quoted form can be shown. -/
theorem isPrintable_of_mem_quoted {t : Text} {d : Char} (h : d ∈ quoted t) : isPrintable d := by
  have quote : isPrintable '"' := isPrintable_of_ascii (by decide)
  rcases List.mem_append.1 h with h | h
  · rcases List.mem_cons.1 h with rfl | h
    · exact quote
    · obtain ⟨c, -, h⟩ := List.mem_flatMap.1 h
      exact isPrintable_of_mem_quotedChar h
  · obtain rfl := List.mem_singleton.1 h
    exact quote

example : quoted ['é', '"', '\t', '\u00ad'] =
    ['"', 'é', '\\', '"', '\\', 't', '\\', 'u', '\x7b', 'a', 'd', '\x7d', '"'] := by
  decide +kernel

end RuleTriggers.Text
