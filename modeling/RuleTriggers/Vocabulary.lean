import RuleTriggers.Text.Decimal
import RuleTriggers.Text.Quoted

/-!
Closed vocabularies. Rule text names things by tokens, and each kind of thing has a fixed list of
words, ranked by their place in it. No two words of one vocabulary share a token, so looking up a
token undoes writing it.
-/

namespace RuleTriggers

/-- Why a token names no word, or a number no slot. The subject says what was looked for. -/
inductive VocabularyError
  | unknown (subject : String) (token : Text)
  | outOfRange (subject : String) (index : UInt8)
  deriving DecidableEq

def VocabularyError.message : VocabularyError → String
  | unknown subject token =>
    "unknown " ++ subject ++ " token: " ++ String.ofList (Text.quoted token)
  | outOfRange subject index =>
    subject ++ " index out of range: " ++ String.ofList (Text.decimal index.toNat)

/-- A closed list of words, each with the token that stands for it in rule text. -/
class Vocabulary (α : Type) where
  /-- What messages call a word of this vocabulary. -/
  subject : String
  /-- Every word, in rank order. -/
  all : List α
  token : α → Text
  /-- What listings call a word. -/
  name : α → String
  mem_all : ∀ w, w ∈ all
  tokens_nodup : (all.map token).Nodup

namespace Vocabulary

variable {α : Type} [Vocabulary α]

theorem token_injective {v w : α} (h : token v = token w) : v = w := by
  have key : ∀ l : List α, (l.map token).Nodup → v ∈ l → w ∈ l → v = w := by
    intro l
    induction l with
    | nil => simp
    | cons a l ih =>
      intro hn hv hw
      rw [List.map_cons, List.nodup_cons] at hn
      have away : ∀ u ∈ l, token u ≠ token a := fun u hu e =>
        hn.1 (e ▸ List.mem_map_of_mem hu)
      rcases List.mem_cons.1 hv with hva | hvl <;> rcases List.mem_cons.1 hw with hwa | hwl
      · rw [hva, hwa]
      · exact absurd (h.symm.trans (hva ▸ rfl)) (away w hwl)
      · exact absurd (h.trans (hwa ▸ rfl)) (away v hvl)
      · exact ih hn.2 hvl hwl
  exact key all tokens_nodup (mem_all v) (mem_all w)

/-- The word with the given token. -/
def find? (t : Text) : Option α := all.find? (token · == t)

theorem find?_eq_some_iff {t : Text} {w : α} : find? t = some w ↔ token w = t := by
  constructor
  · intro h
    simpa using List.find?_some h
  · rintro rfl
    cases h : find? (α := α) (token w) with
    | none =>
      have := List.find?_eq_none.1 h w (mem_all w)
      simp at this
    | some v =>
      have hv : token v = token w := by simpa using List.find?_some h
      rw [token_injective hv]

@[simp] theorem find?_token (w : α) : find? (token w) = some w := find?_eq_some_iff.2 rfl

theorem find?_eq_none_iff {t : Text} : find? (α := α) t = none ↔ ∀ w : α, token w ≠ t := by
  constructor
  · intro h w e
    rw [find?_eq_some_iff.2 e] at h
    cases h
  · intro h
    cases e : find? (α := α) t with
    | none => rfl
    | some w => exact absurd (find?_eq_some_iff.1 e) (h w)

/-- The word with the given token, or the reason that there is none. -/
def parse (t : Text) : Except VocabularyError α :=
  match find? t with
  | some w => .ok w
  | none => .error (.unknown (subject α) t)

/-- The place of a word in its vocabulary. -/
def rank (w : α) : Nat := (all : List α).findIdx (token · == token w)

end Vocabulary

end RuleTriggers
