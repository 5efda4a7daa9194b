import RuleTriggers.Proofs.Ledger.Coherent

/-!
What the buckets of a ledger stand for, whatever has been done to it. No operation leaves a bucket
empty or a trigger under an operator that is not its own, so a ledger is no more than what it has
filed under each operator. And none touches more of a trigger than its mark, so the spec always
tells the rest.
-/

namespace RuleTriggers.Ledger

/-- What the buckets of a ledger keep to. -/
structure WellFiled (l : Ledger) : Prop where
  triggers_ne_nil : ∀ b ∈ l.buckets, b.triggers ≠ []
  operator_eq : ∀ b ∈ l.buckets, ∀ t ∈ b.triggers, t.operator = b.operator
  compile_eq : ∀ b ∈ l.buckets, ∀ t ∈ b.triggers,
    Trigger.compile (t.spec ++ [Trigger.mark]) t.source = .ok (t.setActivated true)

lemma Coherent.wellFiled {l : Ledger} (h : l.Coherent) : l.WellFiled where
  triggers_ne_nil := h.filled
  operator_eq b hb t ht := h.operator_eq b.operator t (by rwa [bucket_eq_of_mem hb])
  compile_eq b hb t ht :=
    Trigger.compile_append_mark_iff.mpr (h.derived b.operator t (by rwa [bucket_eq_of_mem hb]))

lemma isEmpty_iff_size_eq_zero {l : Ledger} (h : l.Filled) : l.isEmpty = true ↔ l.size = 0 := by
  rw [isEmpty_iff_toList_eq_nil h, size_eq_length_toList, List.length_eq_zero_iff]

/-- **What a ledger that comes about is like.** Its buckets are in order, it is empty if nothing is
counted in it, and no other such ledger has the same filed under every operator. -/
theorem wellFiled_and_same_iff {l : Ledger} (hl : Reachable l) :
    l.WellFiled ∧ (l.isEmpty = true ↔ l.size = 0) ∧
      ∀ m, Reachable m → (l.Same m ↔ ∀ o, l.bucket o = m.bucket o) := by
  refine ⟨hl.coherent.wellFiled, isEmpty_iff_size_eq_zero hl.coherent.filled, fun m hm => ?_⟩
  exact same_iff_bucket_eq hl.coherent.filled hm.coherent.filled

/-- The income of a technology, written `+k`. -/
def techIncome : Trigger where
  condition := .none
  operator := .known .income
  picks := 0
  rewards := [⟨1, .known .knowledge⟩]
  spec := ['+', 'k']
  source := .tech .gaia
  activated := false

/-- The action of a technology, written `=> q`. -/
def techAction : Trigger where
  condition := .none
  operator := .known .activate
  picks := 0
  rewards := [⟨1, .known .qic⟩]
  spec := ['=', '>', ' ', 'q']
  source := .tech .gaia
  activated := false

/-- A technology is taken and its action used. -/
def techUsed : Ledger :=
  (ofList [techIncome, techAction]).setActivated (.known .activate) 0 true

/-- The same player as loaded from a list that starts with the action. -/
def techLoaded : Ledger := ofList [techAction.setActivated true, techIncome]

theorem techUsed_same_techLoaded :
    Reachable techUsed ∧ Reachable techLoaded ∧ techUsed.buckets ≠ techLoaded.buckets ∧
      techUsed.WellFiled ∧ techUsed.Same techLoaded := by
  have hcompiled : ∀ t ∈ [techIncome, techAction], t.Compiled := by
    simp only [List.forall_mem_cons]
    exact ⟨⟨techIncome.spec, rfl⟩, ⟨techAction.spec, rfl⟩, by simp⟩
  have hused : Reachable techUsed :=
    .step (s := .setActivated (.known .activate) 0 true) (reachable_ofList hcompiled) trivial rfl
  have hloaded : Reachable techLoaded := by
    have hread : ofEntries [⟨"=> q!".toList, .tech .gaia⟩, ⟨"+k".toList, .tech .gaia⟩] =
        .ok techLoaded := rfl
    exact .step (s := .replace techLoaded) .empty ⟨_, hread⟩ rfl
  have hbucket : ∀ o, techUsed.bucket o = techLoaded.bucket o := by
    intro o
    rw [techUsed, techLoaded, bucket_setActivated, bucket_ofList, bucket_ofList, bucket_ofList]
    by_cases ho : o = .known .activate
    · subst ho
      rfl
    · have hother : techAction.operator ≠ o := Ne.symm ho
      simp [List.filter_cons, ho, hother]
  obtain ⟨hfiled, -, hsame⟩ := wellFiled_and_same_iff hused
  exact ⟨hused, hloaded, by decide +kernel, hfiled, (hsame _ hloaded).mpr hbucket⟩

end RuleTriggers.Ledger
