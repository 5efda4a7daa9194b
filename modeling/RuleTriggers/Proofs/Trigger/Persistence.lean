import Mathlib.Data.List.Induction
import RuleTriggers.Proofs.Source.Grammar
import RuleTriggers.Proofs.Trigger.Derived
import RuleTriggers.Saved.Entry

/-!
Saving a trigger and loading it again, whatever has become of its mark in between. Mark and spec
share one text, so the trigger is had back unless its mark has been cleared and its spec ends in a
mark of its own, which is then taken for the one that was cleared.
-/

namespace RuleTriggers

open FirstFault

/-! ### One entry -/

namespace Entry

lemma ofValue_toValue {e : Entry} (h : e.source.Valid) : ofValue e.toValue = .ok e := by
  have hparse := Source.parse_text h
  simp [ofValue, toValue, ofFields, Value.readField?, Value.field?, specField, sourceField,
    Source.ofValue, Value.readText, Value.require, hparse, bind, Except.bind, Except.map]

/-- What is read of a saved entry has its spec, and a source that the game has. -/
lemma spec_eq_of_ofValue_toValue {e e' : Entry} (h : ofValue e.toValue = .ok e') :
    e'.spec = e.spec ∧ e'.source.Valid := by
  rcases hparse : Source.parse e.source.text with x | source
  · simp [ofValue, toValue, ofFields, Value.readField?, Value.field?, specField, sourceField,
      Source.ofValue, Value.readText, hparse, bind, Except.bind, Except.map] at h
  · simp [ofValue, toValue, ofFields, Value.readField?, Value.field?, specField, sourceField,
      Source.ofValue, Value.readText, Value.require, hparse, bind, Except.bind, Except.map] at h
    subst h
    exact ⟨rfl, Source.valid_of_parse hparse⟩

end Entry

namespace Trigger

/-! ### The mark as play goes on -/

/-- What happens to the mark of a trigger after it is compiled. -/
inductive Flip
  | activate
  | setActivated (activated : Bool)
  deriving DecidableEq

namespace Flip

def apply (t : Trigger) : Flip → Trigger
  | activate => t.activate
  | setActivated a => t.setActivated a

/-- What the mark says afterwards. -/
def activated : Flip → Bool
  | activate => true
  | setActivated a => a

lemma apply_eq (t : Trigger) (f : Flip) : f.apply t = t.setActivated f.activated := by
  cases f <;> rfl

end Flip

/-- The trigger after one flip after another. -/
def flipped (t : Trigger) (flips : List Flip) : Trigger := flips.foldl Flip.apply t

/-- Only the last flip is to be seen. -/
lemma flipped_eq (t : Trigger) (flips : List Flip) :
    t.flipped flips = t.setActivated ((flips.getLast?.map Flip.activated).getD t.activated) := by
  induction flips using List.reverseRecOn with
  | nil => rfl
  | append_singleton flips f ih =>
    have hsnoc : t.flipped (flips ++ [f]) = f.apply (t.flipped flips) := by simp [flipped]
    rw [hsnoc, Flip.apply_eq, ih]
    simp [setActivated]

/-- The text had two marks at its end, and the one that is no part of the spec is cleared last. -/
def MarkExposed (raw : Text) (flips : List Flip) : Prop :=
  [mark, mark] <:+ raw ∧ flips.getLast? = some (.setActivated false)

/-- A spec ends in a mark if its text ends in two. -/
lemma getLast?_spec_iff {raw : Text} {source : Source} {t : Trigger}
    (h : compile raw source = .ok t) : t.spec.getLast? = some mark ↔ [mark, mark] <:+ raw := by
  have hraw := append_mark_of_splitMark (compile_eq_ok_iff.mp h).1
  have hsplit := (compile_eq_ok_iff.mp h).1
  cases hactivated : t.activated with
  | true =>
    rw [hactivated, if_pos rfl] at hraw
    rw [← hraw, List.getLast?_eq_some_iff]
    refine ⟨?_, ?_⟩
    · rintro ⟨s, hs⟩
      exact ⟨s, by simp [hs]⟩
    · rintro ⟨s, hs⟩
      have hs' : (s ++ [mark]) ++ [mark] = t.spec ++ [mark] := by simpa using hs
      exact ⟨s, (List.append_cancel_right hs').symm⟩
  | false =>
    have hlast : raw.getLast? ≠ some mark := by
      intro hlast
      simp [splitMark, hlast, hactivated] at hsplit
    rw [hactivated, if_neg Bool.false_ne_true] at hraw
    rw [hraw]
    refine iff_of_false hlast ?_
    rintro ⟨s, hs⟩
    exact hlast (by simp [← hs])

/-- A trigger that is just compiled is read back from its text. -/
lemma unambiguous_of_compile {raw : Text} {source : Source} {t : Trigger}
    (h : compile raw source = .ok t) : t.Unambiguous := by
  have hagain : compile t.text source = .ok t := by rwa [text_of_compile h]
  exact unambiguous_of_length_spec_le hagain (Nat.le_refl _)

lemma unambiguous_flipped_iff {raw : Text} {source : Source} {t : Trigger}
    (h : compile raw source = .ok t) (flips : List Flip) :
    (t.flipped flips).Unambiguous ↔ ¬ MarkExposed raw flips := by
  have hspec := getLast?_spec_iff h
  rw [flipped_eq]
  unfold MarkExposed
  cases hlast : flips.getLast? with
  | none => exact iff_of_true (unambiguous_of_compile h) (by simp)
  | some f =>
    cases f with
    | activate => simp [Unambiguous, setActivated, Flip.activated]
    | setActivated a =>
      cases a with
      | true => simp [Unambiguous, setActivated, Flip.activated]
      | false => simp [Unambiguous, setActivated, Flip.activated, hspec]

/-! ### Loading -/

lemma compile_text_iff {t : Trigger} (h : t.Derived) :
    compile t.text t.source = .ok t ↔ t.Unambiguous :=
  ⟨fun hcompile => unambiguous_of_length_spec_le hcompile (Nat.le_refl _), compile_text h⟩

/-- Loading what was saved is compiling the text. -/
lemma ofValue_entry_iff {t u : Trigger} (h : t.source.Valid) :
    Trigger.ofValue t.entry.toValue = .ok u ↔ compile t.text t.source = .ok u := by
  have hread : Entry.ofValue t.entry.toValue = .ok t.entry := Entry.ofValue_toValue h
  unfold Trigger.ofValue
  rw [bind_eq_ok_iff]
  simp only [hread, mapError_eq_ok_iff, Except.ok.injEq, exists_eq_left']
  rfl

/-- **When a trigger outlives saving and loading.** Compile a text, and flip the mark as often as
you like. The entry compiles to the trigger, the trigger compiles again to itself, and what was
saved of it is loaded as the trigger, unless the mark of the spec itself has been exposed. -/
theorem load_flipped_iff {raw : Text} {source : Source} {t : Trigger}
    (h : compile raw source = .ok t) (hsource : source.Valid) (flips : List Flip) :
    ((t.flipped flips).entry.compile = .ok (t.flipped flips) ↔ ¬ MarkExposed raw flips) ∧
      ((t.flipped flips).recompile = .ok (t.flipped flips) ↔ ¬ MarkExposed raw flips) ∧
      (Trigger.ofValue (t.flipped flips).entry.toValue = .ok (t.flipped flips) ↔
        ¬ MarkExposed raw flips) := by
  obtain ⟨-, rfl, hderived⟩ := compile_eq_ok_iff.mp h
  have hflipped : (t.flipped flips).Derived := by
    rw [flipped_eq]
    exact hderived.setActivated _
  have hvalid : (t.flipped flips).source.Valid := by
    rw [flipped_eq]
    exact hsource
  have hcompile : compile (t.flipped flips).text (t.flipped flips).source =
      .ok (t.flipped flips) ↔ ¬ MarkExposed raw flips :=
    (compile_text_iff hflipped).trans (unambiguous_flipped_iff h flips)
  exact ⟨hcompile, hcompile, (ofValue_entry_iff hvalid).trans hcompile⟩

/-- A gain whose spec ends in a mark, compiled from `k!!`. -/
def markedGain : Trigger where
  condition := .none
  operator := .known .once
  picks := 0
  rewards := [⟨1, .other ['k', '!']⟩]
  spec := ['k', '!']
  source := .numbered .booster 3
  activated := true

theorem load_markedGain_activated :
    compile ['k', '!', '!'] (.numbered .booster 3) = .ok markedGain ∧
      ((markedGain.setActivated false).activate).entry.compile = .ok markedGain := by
  have hcompile : compile ['k', '!', '!'] (.numbered .booster 3) = .ok markedGain := by
    decide +kernel
  have hload := (load_flipped_iff hcompile (by decide) [.setActivated false, .activate]).1
  exact ⟨hcompile, hload.mpr (by simp [MarkExposed])⟩

/-- With its mark cleared the gain is loaded as something else, and activated. -/
theorem load_markedGain_cleared :
    compile ['k', '!', '!'] (.numbered .booster 3) = .ok markedGain ∧
      (Source.numbered .booster 3).Valid ∧
      (markedGain.setActivated false).entry.compile =
        .ok { markedGain with rewards := [⟨1, .known .knowledge⟩], spec := ['k'] } ∧
      (markedGain.setActivated false).entry.compile ≠ .ok (markedGain.setActivated false) ∧
      (markedGain.setActivated false).recompile ≠ .ok (markedGain.setActivated false) := by
  decide +kernel

end Trigger

end RuleTriggers
