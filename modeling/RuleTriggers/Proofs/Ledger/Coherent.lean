import RuleTriggers.Ledger.Step
import RuleTriggers.Proofs.Ledger.Buckets
import RuleTriggers.Proofs.Trigger.Derived

/-!
What every ledger keeps to that comes about by play and loading: no bucket is empty, every
trigger is in the bucket of its operator, and its slots are what its spec says. Each operation
keeps to it, hence each step, hence every run of steps from the empty ledger.
-/

namespace RuleTriggers.Ledger

open FirstFault

/-- What a ledger keeps to. -/
structure Coherent (l : Ledger) : Prop where
  filled : l.Filled
  operator_eq : ∀ o, ∀ t ∈ l.bucket o, t.operator = o
  derived : ∀ o, ∀ t ∈ l.bucket o, t.Derived

/-! ### Each operation -/

lemma coherent_empty : empty.Coherent where
  filled := by simp [Filled, empty]
  operator_eq := by simp
  derived := by simp

/-- Changing one bucket, to triggers that may be in it. -/
lemma Coherent.alter {l : Ledger} (h : l.Coherent) {o : Operator}
    {f : List Trigger → List Trigger}
    (hf : ∀ t ∈ f (l.bucket o), t.operator = o ∧ t.Derived) : (l.alter o f).Coherent := by
  have key : ∀ p, ∀ t ∈ (l.alter o f).bucket p, t.operator = p ∧ t.Derived := by
    intro p t ht
    rw [bucket_alter] at ht
    split at ht
    · next hp => exact hp ▸ hf t ht
    · exact ⟨h.operator_eq p t ht, h.derived p t ht⟩
  exact ⟨h.filled.alter o f, fun p t ht => (key p t ht).1, fun p t ht => (key p t ht).2⟩

/-- Keeping some triggers of each bucket. -/
lemma Coherent.of_subset {l m : Ledger} (h : l.Coherent) (hm : m.Filled)
    (hsub : ∀ o, m.bucket o ⊆ l.bucket o) : m.Coherent where
  filled := hm
  operator_eq o t ht := h.operator_eq o t (hsub o ht)
  derived o t ht := h.derived o t (hsub o ht)

/-- The order of the buckets does not matter. -/
lemma Coherent.of_same {l m : Ledger} (h : l.Coherent) (hm : m.Same l) : m.Coherent :=
  h.of_subset (fun b hb => h.filled b (hm.mem_iff.mp hb)) fun o =>
    hm.bucket_eq o ▸ List.Subset.refl _

lemma Coherent.derived_of_mem {l : Ledger} (h : l.Coherent) {t : Trigger} (ht : t ∈ l.toList) :
    t.Derived := by
  obtain ⟨o, ho⟩ := mem_toList_iff.mp ht
  exact h.derived o t ho

lemma Coherent.add {l : Ledger} (h : l.Coherent) {t : Trigger} (ht : t.Derived) :
    (l.add t).Coherent := by
  refine h.alter fun u hu => ?_
  rcases List.mem_append.mp hu with hu | hu
  · exact ⟨h.operator_eq _ u hu, h.derived _ u hu⟩
  · obtain rfl := List.mem_singleton.mp hu
    exact ⟨rfl, ht⟩

lemma Coherent.addList {l : Ledger} (h : l.Coherent) {ts : List Trigger}
    (hts : ∀ t ∈ ts, t.Derived) : (l.addList ts).Coherent := by
  induction ts generalizing l with
  | nil => exact h
  | cons t ts ih =>
    have ht := h.add (hts t List.mem_cons_self)
    exact ih ht fun u hu => hts u (List.mem_cons_of_mem t hu)

lemma coherent_ofList {ts : List Trigger} (hts : ∀ t ∈ ts, t.Derived) : (ofList ts).Coherent :=
  coherent_empty.addList hts

lemma Coherent.retract {l : Ledger} (h : l.Coherent) (candidate : Trigger) :
    (l.retract candidate).1.Coherent := by
  unfold Ledger.retract
  split
  · refine h.alter fun t ht => ?_
    have ht := List.mem_of_mem_eraseP ht
    exact ⟨h.operator_eq _ t ht, h.derived _ t ht⟩
  · exact h

lemma Coherent.retractList {l : Ledger} (h : l.Coherent) (candidates : List Trigger) :
    (l.retractList candidates).1.Coherent := by
  induction candidates generalizing l with
  | nil => exact h
  | cons candidate rest ih => exact ih (h.retract candidate)

lemma Coherent.retractSource {l : Ledger} (h : l.Coherent) (source : Source) :
    (l.retractSource source).1.Coherent := by
  refine h.of_subset (filled_retractSource l source) fun o => ?_
  rw [bucket_retractSource]
  exact List.filter_subset_self _

lemma Coherent.setActivated {l : Ledger} (h : l.Coherent) (o : Operator) (index : Nat)
    (activated : Bool) : (l.setActivated o index activated).Coherent := by
  refine h.alter fun t ht => ?_
  obtain ⟨i, hi, rfl⟩ := List.mem_iff_getElem.mp ht
  rw [List.getElem_modify]
  have hmem := List.getElem_mem (l := l.bucket o) (n := i) (by simpa using hi)
  split
  · rw [Trigger.operator_setActivated]
    exact ⟨h.operator_eq o _ hmem, (h.derived o _ hmem).setActivated activated⟩
  · exact ⟨h.operator_eq o _ hmem, h.derived o _ hmem⟩

lemma Coherent.deactivate {l : Ledger} (h : l.Coherent) (o : Operator) :
    (l.deactivate o).1.Coherent := by
  refine h.alter fun t ht => ?_
  obtain ⟨u, hu, rfl⟩ := List.mem_map.mp ht
  exact ⟨h.operator_eq o u hu, (h.derived o u hu).setActivated false⟩

/-- Whatever is loaded has been compiled. -/
lemma coherent_ofEntries {es : List Entry} {l : Ledger} (h : ofEntries es = .ok l) :
    l.Coherent := by
  obtain ⟨ts, hts, rfl⟩ := map_eq_ok_iff.mp h
  refine coherent_ofList fun t ht => ?_
  obtain ⟨e, -, he⟩ := exists_of_mem_mapM hts ht
  exact (Trigger.compiled_of_compile he).derived

lemma exists_ofEntries_of_ofValue {v : Value} {l : Ledger} (h : ofValue v = .ok l) :
    ∃ es, ofEntries es = .ok l := by
  obtain ⟨es, -, hes⟩ := bind_eq_ok_iff.mp h
  exact ⟨es, mapError_eq_ok_iff.mp hes⟩

/-! ### Steps and runs -/

/-- Whatever the step files is as the compiler returns it, and whatever it puts in the place of
the ledger has been loaded. -/
def Step.FilesCompiled : Step → Prop
  | add ts => ∀ t ∈ ts, t.Compiled
  | replace m => ∃ es, ofEntries es = .ok m
  | _ => True

lemma Coherent.step {l m : Ledger} (h : l.Coherent) {s : Step} (hs : s.FilesCompiled)
    {outcome : Outcome} (hrun : s.run l = .ok (m, outcome)) : m.Coherent := by
  cases s with
  | add ts =>
    obtain ⟨rfl, -⟩ := Prod.mk.inj (Except.ok.inj hrun)
    exact h.addList fun t ht => (hs t ht).derived
  | retract candidate =>
    obtain ⟨rfl, -⟩ := Prod.mk.inj (Except.ok.inj hrun)
    exact h.retract candidate
  | retractList candidates =>
    obtain ⟨rfl, -⟩ := Prod.mk.inj (Except.ok.inj hrun)
    exact h.retractList candidates
  | retractSource source =>
    obtain ⟨rfl, -⟩ := Prod.mk.inj (Except.ok.inj hrun)
    exact h.retractSource source
  | setActivated o index activated =>
    obtain ⟨_, -, hrun⟩ := bind_eq_ok_iff.mp hrun
    obtain ⟨rfl, -⟩ := Prod.mk.inj (Except.ok.inj hrun)
    exact h.setActivated o index activated
  | deactivate o =>
    obtain ⟨rfl, -⟩ := Prod.mk.inj (Except.ok.inj hrun)
    exact h.deactivate o
  | replace m =>
    obtain ⟨rfl, -⟩ := Prod.mk.inj (Except.ok.inj hrun)
    obtain ⟨es, hes⟩ := hs
    exact coherent_ofEntries hes
  | reload =>
    simp only [Step.run] at hrun
    split at hrun
    · next m' hload =>
      obtain ⟨rfl, -⟩ := Prod.mk.inj (Except.ok.inj hrun)
      obtain ⟨es, hes⟩ := exists_ofEntries_of_ofValue hload
      exact coherent_ofEntries hes
    · cases hrun

/-- The ledgers that come about by play and loading. -/
inductive Reachable : Ledger → Prop
  | empty : Reachable Ledger.empty
  | step {l m : Ledger} {s : Step} {outcome : Outcome} (hl : Reachable l) (hs : s.FilesCompiled)
      (hrun : s.run l = .ok (m, outcome)) : Reachable m

lemma reachable_ofList {ts : List Trigger} (hts : ∀ t ∈ ts, t.Compiled) :
    Reachable (ofList ts) :=
  .step (s := .add ts) .empty hts rfl

/-- **Every ledger that comes about is coherent.** -/
theorem Reachable.coherent {l : Ledger} (h : Reachable l) : l.Coherent := by
  induction h with
  | empty => exact coherent_empty
  | step _ hs hrun ih => exact ih.step hs hrun

end RuleTriggers.Ledger
