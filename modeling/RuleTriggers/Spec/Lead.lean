import RuleTriggers.Text.Blank

/-!
The lead of a text: its shortest non-empty beginning that ends at a word boundary or before a
space. The scan runs over the UTF-8 bytes of the text, where a letter, digit or underscore of
ASCII is a word byte and all else, the bytes of other characters too, is not.
-/

namespace RuleTriggers.Spec

/-- The byte of a letter, digit or underscore of ASCII. -/
def isWordByte (b : UInt8) : Bool :=
  (0x30 ≤ b && b ≤ 0x39) || (0x41 ≤ b && b ≤ 0x5a) || b == 0x5f || (0x61 ≤ b && b ≤ 0x7a)

/-- How many bytes the lead takes. -/
def leadSize : List UInt8 → Nat
  | [] => 0
  | [_] => 1
  | b :: c :: bs => if isWordByte b ≠ isWordByte c ∨ c = 0x20 then 1 else leadSize (c :: bs) + 1

/-- The text in UTF-8. -/
def bytes (t : Text) : List UInt8 := t.flatMap String.utf8EncodeChar

/-- The whole characters that fit into the first `n` bytes, and the text after them. -/
def splitBytes : Nat → Text → Text × Text
  | _, [] => ([], [])
  | n, c :: t =>
    if c.utf8Size ≤ n then
      let (front, back) := splitBytes (n - c.utf8Size) t
      (c :: front, back)
    else ([], c :: t)

/-- The lead of a text, and the text after it. -/
def splitLead (t : Text) : Text × Text := splitBytes (leadSize (bytes t)) t

theorem splitBytes_append (n : Nat) (t : Text) :
    (splitBytes n t).1 ++ (splitBytes n t).2 = t := by
  induction t generalizing n with
  | nil => rfl
  | cons c t ih =>
    unfold splitBytes
    split
    · simp [ih]
    · rfl

/-- The lead and the rest make up the text. -/
theorem splitLead_append (t : Text) : (splitLead t).1 ++ (splitLead t).2 = t :=
  splitBytes_append _ t

end RuleTriggers.Spec
