import RuleTriggers.Proofs.Spec.Reading
import RuleTriggers.Proofs.Trigger.Derived

/-!
Every trigger that the compiler returns is well formed: it shows the text it was compiled from, and
its slots keep to what the slots of a spec keep to. Play relies on the second when it looks at an
operator or a condition and takes an unknown token for one that has no meaning.
-/

namespace RuleTriggers.Trigger

/-- What a trigger keeps to that was compiled from a text. -/
structure WellFormed (raw : Text) (source : Source) (t : Trigger) : Prop where
  text_eq : t.text = raw
  activated_iff : t.activated = true ↔ raw.getLast? = some mark
  source_eq : t.source = source
  slots : t.toSlots.WellFormed t.spec

lemma activated_iff_of_splitMark {raw s : Text} {a : Bool} (h : splitMark raw = (s, a)) :
    a = true ↔ raw.getLast? = some mark := by
  unfold splitMark at h
  split at h
  · next hlast =>
    obtain ⟨-, rfl⟩ := Prod.mk.inj h
    exact iff_of_true rfl hlast
  · next hlast =>
    obtain ⟨-, rfl⟩ := Prod.mk.inj h
    exact iff_of_false Bool.false_ne_true hlast

/-- **Whatever is compiled is well formed.** -/
theorem wellFormed_of_compile {raw : Text} {source : Source} {t : Trigger}
    (h : compile raw source = .ok t) : WellFormed raw source t := by
  obtain ⟨hsplit, hsource, hderived⟩ := compile_eq_ok_iff.mp h
  exact
    { text_eq := text_of_compile h
      activated_iff := activated_iff_of_splitMark hsplit
      source_eq := hsource
      slots := Slots.wellFormed_of_read hderived }

/-- A trigger with nothing known before its rewards, written `xyz 12abc -k,007o!`. -/
def foreign : Trigger where
  condition := .unrecognized ['x', 'y', 'z']
  operator := .unrecognized ['a', 'b', 'c']
  picks := 12
  rewards := [⟨-1, .known .knowledge⟩, ⟨7, .known .ore⟩]
  spec := "xyz 12abc -k,007o".toList
  source := .numbered .booster 3
  activated := true

theorem compile_foreign_wellFormed :
    compile "xyz 12abc -k,007o!".toList (.numbered .booster 3) = .ok foreign ∧
      WellFormed "xyz 12abc -k,007o!".toList (.numbered .booster 3) foreign := by
  have hcompile : compile "xyz 12abc -k,007o!".toList (.numbered .booster 3) = .ok foreign := by
    decide +kernel
  exact ⟨hcompile, wellFormed_of_compile hcompile⟩

end RuleTriggers.Trigger
