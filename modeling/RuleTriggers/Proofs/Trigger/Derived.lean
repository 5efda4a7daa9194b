import RuleTriggers.Proofs.FirstFault
import RuleTriggers.Trigger

/-!
What the compiler makes of a text, told apart from what happens to a trigger afterwards. The
slots of a trigger always are what its spec says, whatever becomes of the mark; the text of a
trigger compiles to the trigger again exactly when the text shows whether it is activated.
-/

namespace RuleTriggers.Trigger

open FirstFault

/-- The slots are what the spec says. -/
def Derived (t : Trigger) : Prop := Slots.read t.spec = .ok t.toSlots

/-- Some text compiles to the trigger. -/
def Compiled (t : Trigger) : Prop := ∃ raw, compile raw t.source = .ok t

/-- The text shows whether the trigger is activated: a mark at its end is not part of the spec. -/
def Unambiguous (t : Trigger) : Prop := t.activated = false → t.spec.getLast? ≠ some mark

@[simp] lemma operator_setActivated (t : Trigger) (a : Bool) :
    (t.setActivated a).operator = t.operator := rfl

/-! ### The mark -/

@[simp] lemma splitMark_append_mark (s : Text) : splitMark (s ++ [mark]) = (s, true) := by
  simp [splitMark]

lemma splitMark_eq_self {s : Text} (h : s.getLast? ≠ some mark) : splitMark s = (s, false) := by
  simp [splitMark, h]

/-- Splitting off the mark loses nothing. -/
lemma append_mark_of_splitMark {raw s : Text} {a : Bool} (h : splitMark raw = (s, a)) :
    (if a then s ++ [mark] else s) = raw := by
  unfold splitMark at h
  split at h
  · next hlast =>
    obtain ⟨rfl, rfl⟩ := Prod.mk.inj h
    obtain ⟨u, rfl⟩ := List.getLast?_eq_some_iff.mp hlast
    simp
  · obtain ⟨rfl, rfl⟩ := Prod.mk.inj h
    simp

/-! ### Compiling -/

lemma compile_eq_ok_iff {raw : Text} {source : Source} {t : Trigger} :
    compile raw source = .ok t ↔
      splitMark raw = (t.spec, t.activated) ∧ t.source = source ∧ t.Derived := by
  obtain ⟨slots, spec, src, activated⟩ := t
  unfold compile Derived
  rw [map_eq_ok_iff]
  rcases hraw : splitMark raw with ⟨s, a⟩
  simp only [Trigger.mk.injEq, Prod.mk.injEq]
  refine ⟨?_, ?_⟩
  · rintro ⟨x, hx, rfl, rfl, rfl, rfl⟩
    exact ⟨⟨rfl, rfl⟩, rfl, hx⟩
  · rintro ⟨⟨rfl, rfl⟩, rfl, hread⟩
    exact ⟨slots, hread, rfl, rfl, rfl, rfl⟩

/-- A text without a mark is a spec as a whole. -/
lemma compile_of_unmarked {s : Text} (h : s.getLast? ≠ some mark) (source : Source) :
    compile s source = (Slots.read s).map fun slots =>
      { slots with spec := s, source, activated := false } := by
  simp only [compile, splitMark_eq_self h]

lemma map_toSlots_compile {s : Text} (h : s.getLast? ≠ some mark) (source : Source) :
    (compile s source).map toSlots = Slots.read s := by
  rw [compile_of_unmarked h]
  cases Slots.read s <;> rfl

/-- The spec with a mark behind it compiles to the activated trigger. -/
lemma compile_append_mark_iff {t : Trigger} :
    compile (t.spec ++ [mark]) t.source = .ok (t.setActivated true) ↔ t.Derived := by
  rw [compile_eq_ok_iff, splitMark_append_mark]
  exact ⟨fun h => h.2.2, fun h => ⟨rfl, rfl, h⟩⟩

/-- A compiled trigger shows the text it was compiled from. -/
lemma text_of_compile {raw : Text} {source : Source} {t : Trigger}
    (h : compile raw source = .ok t) : t.text = raw :=
  append_mark_of_splitMark (compile_eq_ok_iff.mp h).1

lemma Compiled.derived {t : Trigger} (h : t.Compiled) : t.Derived := by
  obtain ⟨raw, hraw⟩ := h
  exact (compile_eq_ok_iff.mp hraw).2.2

lemma compiled_of_compile {raw : Text} {source : Source} {t : Trigger}
    (h : compile raw source = .ok t) : t.Compiled :=
  ⟨raw, by rwa [(compile_eq_ok_iff.mp h).2.1]⟩

/-- Setting or clearing the mark leaves the slots alone. -/
lemma Derived.setActivated {t : Trigger} (h : t.Derived) (a : Bool) :
    (t.setActivated a).Derived := h

/-- The spec alone decides the slots. -/
lemma toSlots_eq_of_spec_eq {t u : Trigger} (ht : t.Derived) (hu : u.Derived)
    (h : t.spec = u.spec) : t.toSlots = u.toSlots := by
  unfold Derived at ht hu
  rw [h, hu] at ht
  exact (Except.ok.inj ht).symm

/-! ### Compiling the text again -/

lemma splitMark_text {t : Trigger} (h : t.Unambiguous) :
    splitMark t.text = (t.spec, t.activated) := by
  unfold text
  rcases ha : t.activated with _ | _
  · exact splitMark_eq_self (h ha)
  · simp

/-- A trigger at rest whose spec ends in the mark loses it, and is taken to be activated. -/
lemma splitMark_text_of_not {t : Trigger} (h : ¬ t.Unambiguous) :
    ∃ s, t.spec = s ++ [mark] ∧ splitMark t.text = (s, true) := by
  unfold Unambiguous at h
  obtain ⟨ha, hlast⟩ : t.activated = false ∧ t.spec.getLast? = some mark := by simpa using h
  obtain ⟨s, hs⟩ := List.getLast?_eq_some_iff.mp hlast
  exact ⟨s, hs, by simp [text, ha, hs]⟩

lemma compile_text {t : Trigger} (h : t.Derived) (hmark : t.Unambiguous) :
    compile t.text t.source = .ok t :=
  compile_eq_ok_iff.mpr ⟨splitMark_text hmark, rfl, h⟩

/-- Compiling the text again never makes a longer spec. -/
lemma length_spec_le {t u : Trigger} {source : Source} (h : compile t.text source = .ok u) :
    u.spec.length ≤ t.spec.length := by
  have hsplit := (compile_eq_ok_iff.mp h).1
  by_cases hmark : t.Unambiguous
  · rw [splitMark_text hmark] at hsplit
    exact Nat.le_of_eq (congrArg List.length (Prod.mk.inj hsplit).1.symm)
  · obtain ⟨s, hs, hs'⟩ := splitMark_text_of_not hmark
    rw [hs'] at hsplit
    rw [hs, ← (Prod.mk.inj hsplit).1]
    simp

/-- A spec that is not shortened had nothing to lose. -/
lemma unambiguous_of_length_spec_le {t u : Trigger} {source : Source}
    (h : compile t.text source = .ok u) (hlen : t.spec.length ≤ u.spec.length) :
    t.Unambiguous := by
  by_contra hmark
  obtain ⟨s, hs, hs'⟩ := splitMark_text_of_not hmark
  have hsplit := (compile_eq_ok_iff.mp h).1
  rw [hs'] at hsplit
  rw [hs, ← (Prod.mk.inj hsplit).1, List.length_append] at hlen
  simp only [List.length_singleton] at hlen
  omega

end RuleTriggers.Trigger
