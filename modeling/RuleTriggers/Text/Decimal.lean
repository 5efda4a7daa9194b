import RuleTriggers.Text.Blank

/-!
Decimal numbers in rule text. Reading splits off the longest run of ASCII digits, which may be
empty and may have leading zeros; writing gives the shortest form, with a minus sign if negative.
-/

namespace RuleTriggers.Text

/-- The longest run of digits at the front of the text. -/
def digits (t : Text) : Text := t.takeWhile Char.isDigit

/-- What follows the digits at the front. -/
def afterDigits (t : Text) : Text := t.dropWhile Char.isDigit

@[simp] theorem digits_append_afterDigits (t : Text) : digits t ++ afterDigits t = t :=
  List.takeWhile_append_dropWhile

theorem isDigit_of_mem_digits {t : Text} {c : Char} (h : c ∈ digits t) : c.isDigit :=
  List.all_eq_true.1 List.all_takeWhile c h

/-- The digit run is maximal. -/
theorem not_isDigit_of_afterDigits {t r : Text} {c : Char} (h : afterDigits t = c :: r) :
    c.isDigit = false := by
  have := List.head?_dropWhile_not Char.isDigit t
  rw [afterDigits] at h
  simpa [h] using this

/-- The number that a run of digits stands for; the empty run stands for zero. -/
def value (ds : Text) : Nat := Nat.ofDigitChars 10 ds 0

/-- The shortest decimal form of a number. -/
def decimal (n : Nat) : Text := Nat.toDigits 10 n

@[simp] theorem value_decimal (n : Nat) : value (decimal n) = n :=
  Nat.ofDigitChars_toDigits (by decide) (by decide)

theorem decimal_ne_nil (n : Nat) : decimal n ≠ [] := Nat.toDigits_ne_nil

theorem isDigit_of_mem_decimal {n : Nat} {c : Char} (h : c ∈ decimal n) : c.isDigit :=
  Nat.isDigit_of_mem_toDigits (by decide) (by decide) h

/-- The decimal form of an integer. -/
def signedDecimal (i : Int) : Text :=
  if i < 0 then '-' :: decimal i.natAbs else decimal i.natAbs

end RuleTriggers.Text
