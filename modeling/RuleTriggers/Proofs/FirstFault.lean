import Mathlib.Data.List.Forall2
import Mathlib.Tactic.Lemma

/-!
Results that may fail, one after another. A list is worked through from the front and the first
fault decides, so a list of results is had exactly when each of its members is.
-/

namespace RuleTriggers.FirstFault

variable {α β ε ε' : Type}

lemma map_eq_ok_iff {x : Except ε α} {f : α → β} {b : β} :
    x.map f = .ok b ↔ ∃ a, x = .ok a ∧ f a = b := by
  cases x <;> simp [Except.map]

lemma mapError_eq_ok_iff {x : Except ε α} {f : ε → ε'} {a : α} :
    x.mapError f = .ok a ↔ x = .ok a := by
  cases x <;> simp [Except.mapError]

lemma bind_eq_ok_iff {x : Except ε α} {f : α → Except ε β} {b : β} :
    x >>= f = .ok b ↔ ∃ a, x = .ok a ∧ f a = .ok b := by
  cases x <;> simp [bind, Except.bind]

/-- All members succeed, each with its own result. -/
lemma mapM_eq_ok_iff {f : α → Except ε β} {as : List α} {bs : List β} :
    as.mapM f = .ok bs ↔ List.Forall₂ (fun a b => f a = .ok b) as bs := by
  induction as generalizing bs with
  | nil => cases bs <;> simp [pure, Except.pure]
  | cons a as ih =>
    rw [List.mapM_cons, bind_eq_ok_iff]
    refine ⟨?_, fun h => ?_⟩
    · rintro ⟨b, hb, h⟩
      obtain ⟨rest, hrest, h⟩ := bind_eq_ok_iff.mp h
      obtain rfl : b :: rest = bs := by simpa [pure, Except.pure] using h
      exact .cons hb (ih.mp hrest)
    · obtain _ | ⟨hb, hrest⟩ := h
      exact ⟨_, hb, bind_eq_ok_iff.mpr ⟨_, ih.mpr hrest, rfl⟩⟩

/-- There is something to be had exactly if every member succeeds. -/
lemma exists_mapM_eq_ok_iff {f : α → Except ε β} {as : List α} :
    (∃ bs, as.mapM f = .ok bs) ↔ ∀ a ∈ as, ∃ b, f a = .ok b := by
  simp only [mapM_eq_ok_iff]
  induction as with
  | nil => simp
  | cons a as ih =>
    rw [List.forall_mem_cons, ← ih]
    refine ⟨?_, ?_⟩
    · rintro ⟨bs, h⟩
      obtain _ | ⟨hb, hrest⟩ := h
      exact ⟨⟨_, hb⟩, _, hrest⟩
    · rintro ⟨⟨b, hb⟩, bs, hrest⟩
      exact ⟨b :: bs, .cons hb hrest⟩

/-- `e` is the fault of the first member that has one. -/
def Fails (f : α → Except ε β) (as : List α) (e : ε) : Prop :=
  ∃ before a after, as = before ++ a :: after ∧ (∀ b ∈ before, ∃ r, f b = .ok r) ∧ f a = .error e

lemma fails_cons_iff {f : α → Except ε β} {a : α} {as : List α} {e : ε} :
    Fails f (a :: as) e ↔ f a = .error e ∨ (∃ b, f a = .ok b) ∧ Fails f as e := by
  refine ⟨?_, ?_⟩
  · rintro ⟨before, c, after, heq, hbefore, hc⟩
    cases before with
    | nil =>
      obtain ⟨rfl, -⟩ := List.cons.inj heq
      exact .inl hc
    | cons b before =>
      obtain ⟨rfl, rfl⟩ := List.cons.inj heq
      obtain ⟨hb, hbefore⟩ := List.forall_mem_cons.mp hbefore
      exact .inr ⟨hb, before, c, after, rfl, hbefore, hc⟩
  · rintro (ha | ⟨hb, before, c, after, rfl, hbefore, hc⟩)
    · exact ⟨[], a, as, rfl, by simp, ha⟩
    · exact ⟨a :: before, c, after, rfl, List.forall_mem_cons.mpr ⟨hb, hbefore⟩, hc⟩

/-- The first fault is the fault of the whole. -/
lemma mapM_eq_error_iff {f : α → Except ε β} {as : List α} {e : ε} :
    as.mapM f = .error e ↔ Fails f as e := by
  induction as with
  | nil => simp [Fails, pure, Except.pure]
  | cons a as ih =>
    rw [List.mapM_cons, fails_cons_iff, ← ih]
    cases f a with
    | error x => simp [bind, Except.bind]
    | ok b => cases hrest : as.mapM f <;> simp [bind, Except.bind, pure, Except.pure]

/-- Calling all faults by another name. -/
lemma mapM_mapError (f : α → Except ε β) (g : ε → ε') (as : List α) :
    as.mapM (fun a => (f a).mapError g) = (as.mapM f).mapError g := by
  induction as with
  | nil => rfl
  | cons a as ih =>
    rw [List.mapM_cons, List.mapM_cons, ih]
    cases f a with
    | error x => rfl
    | ok b => cases as.mapM f <;> rfl

/-- Members with the same results, one by one. -/
lemma mapM_eq_of_forall₂ {γ : Type} {f : α → Except ε β} {g : γ → Except ε β} {as : List α}
    {cs : List γ} (h : List.Forall₂ (fun a c => f a = g c) as cs) : as.mapM f = cs.mapM g := by
  induction h with
  | nil => rfl
  | cons hac _ ih => rw [List.mapM_cons, List.mapM_cons, hac, ih]

/-- Every result is that of a member. -/
lemma exists_of_mem_mapM {f : α → Except ε β} {as : List α} {bs : List β}
    (h : as.mapM f = .ok bs) {b : β} (hb : b ∈ bs) : ∃ a ∈ as, f a = .ok b := by
  induction mapM_eq_ok_iff.mp h with
  | nil => simp at hb
  | @cons a c as cs hac hrest ih =>
    rcases List.mem_cons.mp hb with rfl | hb
    · exact ⟨a, List.mem_cons_self, hac⟩
    · obtain ⟨d, hd, hdb⟩ := ih (mapM_eq_ok_iff.mpr hrest) hb
      exact ⟨d, List.mem_cons_of_mem a hd, hdb⟩

end RuleTriggers.FirstFault
