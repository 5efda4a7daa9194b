import RuleTriggers.Text.Blank

/-!
The order of texts by code points, which is also the order of their UTF-8 bytes.
-/

namespace RuleTriggers.Text

/-- By the first characters that differ; a text comes before those that go on from it. -/
def le : Text → Text → Bool
  | [], _ => true
  | _ :: _, [] => false
  | c :: s, d :: t => c.toNat < d.toNat || c == d && le s t

theorem le_total (s t : Text) : le s t || le t s := by
  induction s generalizing t with
  | nil => simp [le]
  | cons c s ih =>
    cases t with
    | nil => simp [le]
    | cons d t =>
      rcases Nat.lt_trichotomy c.toNat d.toNat with h | h | h
      · simp [le, h]
      · have e : c = d := by rw [← Char.ofNat_toNat c, h, Char.ofNat_toNat]
        subst e
        simpa [le] using ih t
      · simp [le, h]

theorem le_trans {s t u : Text} (h : le s t) (k : le t u) : le s u := by
  induction s generalizing t u with
  | nil => rfl
  | cons c s ih =>
    cases t with
    | nil => simp [le] at h
    | cons d t =>
      cases u with
      | nil => simp [le] at k
      | cons e u =>
        simp only [le, Bool.or_eq_true, decide_eq_true_eq, Bool.and_eq_true, beq_iff_eq] at h k ⊢
        rcases h with h | ⟨rfl, h⟩
        · rcases k with k | ⟨rfl, -⟩
          · exact .inl (Nat.lt_trans h k)
          · exact .inl h
        · rcases k with k | ⟨rfl, k⟩
          · exact .inl k
          · exact .inr ⟨rfl, ih h k⟩

theorem le_antisymm {s t : Text} (h : le s t) (k : le t s) : s = t := by
  induction s generalizing t with
  | nil =>
    cases t with
    | nil => rfl
    | cons d t => simp [le] at k
  | cons c s ih =>
    cases t with
    | nil => simp [le] at h
    | cons d t =>
      simp only [le, Bool.or_eq_true, decide_eq_true_eq, Bool.and_eq_true, beq_iff_eq] at h k
      rcases h with h | ⟨rfl, h⟩
      · rcases k with k | ⟨rfl, -⟩
        · exact absurd h (Nat.lt_asymm k)
        · exact absurd h (Nat.lt_irrefl _)
      · rcases k with k | ⟨-, k⟩
        · exact absurd k (Nat.lt_irrefl _)
        · rw [ih h k]

end RuleTriggers.Text
