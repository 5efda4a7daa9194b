import RuleTriggers.Proofs.Ledger.Representation
import RuleTriggers.Proofs.Trigger.Persistence

/-!
Saving a ledger and loading it again, with its buckets in any order. Loading gives the ledger back
exactly when the game has every source in it and every text in it shows whether its trigger is
activated. For the converse specs are counted by length: loading never makes a spec longer, and
it shortens each one that has a mark to lose, so one such trigger is enough for the totals to
differ, whatever the others turn into.
-/

namespace RuleTriggers

open FirstFault

namespace Ledger

/-! ### Loading gives the ledger back -/

lemma reload_of_faithful {m : Ledger} (hsource : ∀ t ∈ m.toList, t.source.Valid)
    (hcompile : ∀ t ∈ m.toList, Trigger.compile t.text t.source = .ok t) :
    m.reload = .ok (ofList m.toList) := by
  have hread : (m.entries.map Entry.toValue).mapM Entry.ofValue = .ok m.entries := by
    rw [mapM_eq_ok_iff, List.forall₂_map_left_iff, List.forall₂_same]
    intro e he
    obtain ⟨t, ht, rfl⟩ := List.mem_map.mp he
    exact Entry.ofValue_toValue (hsource t ht)
  have hall : m.entries.mapM Entry.compile = .ok m.toList := by
    rw [mapM_eq_ok_iff, entries, List.forall₂_map_left_iff, List.forall₂_same]
    exact hcompile
  refine bind_eq_ok_iff.mpr ⟨m.entries, hread, mapError_eq_ok_iff.mpr ?_⟩
  exact map_eq_ok_iff.mpr ⟨m.toList, hall, rfl⟩

/-- Filing the triggers of a ledger one by one, in any order of its buckets, gives the ledger. -/
lemma ofList_toList_same {l m : Ledger} (hl : l.Coherent) (hm : m.Same l) :
    (ofList m.toList).Same l := by
  have hm' : m.Coherent := hl.of_same hm
  have hfiled : (ofList m.toList).Coherent := coherent_ofList fun t ht => hm'.derived_of_mem ht
  refine (same_iff_bucket_eq hfiled.filled hl.filled).mpr fun o => ?_
  rw [bucket_ofList, filter_toList hm'.operator_eq, hm.bucket_eq o]

/-! ### Loading gives nothing else back -/

/-- The length of all specs together. -/
def specSize (ts : List Trigger) : Nat := (ts.flatMap (·.spec)).length

lemma specSize_perm {ts us : List Trigger} (h : ts.Perm us) : specSize ts = specSize us :=
  (h.flatMap_right _).length_eq

/-- Triggers that were compiled from the texts of others, with as much spec in all. -/
lemma unambiguous_of_specSize_le {ts us : List Trigger}
    (h : List.Forall₂ (fun t u => ∃ source, Trigger.compile t.text source = .ok u) ts us) :
    specSize us ≤ specSize ts ∧ (specSize ts ≤ specSize us → ∀ t ∈ ts, t.Unambiguous) := by
  induction h with
  | nil => simp
  | @cons t u ts us htu _ ih =>
    obtain ⟨source, hcompile⟩ := htu
    obtain ⟨hle, hall⟩ := ih
    have hlen := Trigger.length_spec_le hcompile
    have hts : specSize (t :: ts) = t.spec.length + specSize ts := by simp [specSize]
    have hus : specSize (u :: us) = u.spec.length + specSize us := by simp [specSize]
    refine ⟨by omega, fun hge => ?_⟩
    have ht := Trigger.unambiguous_of_length_spec_le hcompile (by omega)
    have hrest := hall (by omega)
    exact List.forall_mem_cons.mpr ⟨ht, hrest⟩

/-- Entries that were read from those of triggers, and triggers that were compiled from them. -/
lemma compiled_of_read {ts us : List Trigger} {es : List Entry}
    (hread : List.Forall₂ (fun t e => Entry.ofValue (Trigger.entry t).toValue = .ok e) ts es)
    (hcompile : List.Forall₂ (fun e u => Entry.compile e = .ok u) es us) :
    (∀ u ∈ us, u.source.Valid) ∧
      List.Forall₂ (fun t u => ∃ source, Trigger.compile t.text source = .ok u) ts us := by
  induction hread generalizing us with
  | nil =>
    obtain rfl := List.forall₂_nil_left_iff.mp hcompile
    exact ⟨by simp, .nil⟩
  | @cons t e ts es hte _ ih =>
    obtain ⟨u, us, heu, hrest, rfl⟩ := List.forall₂_cons_left_iff.mp hcompile
    obtain ⟨hvalid, hts⟩ := ih hrest
    obtain ⟨hspec, hsource⟩ := Entry.spec_eq_of_ofValue_toValue hte
    have hu : u.source = e.source := (Trigger.compile_eq_ok_iff.mp heu).2.1
    have htext : e.spec = t.text := hspec
    refine ⟨List.forall_mem_cons.mpr ⟨hu ▸ hsource, hvalid⟩, .cons ⟨e.source, ?_⟩ hts⟩
    rwa [← htext]

/-- What loading makes of a ledger: each trigger is compiled from the text of a saved one. -/
lemma exists_of_reload {m k : Ledger} (h : m.reload = .ok k) :
    ∃ us, k = ofList us ∧ (∀ u ∈ us, u.source.Valid) ∧
      List.Forall₂ (fun t u => ∃ source, Trigger.compile t.text source = .ok u) m.toList us := by
  obtain ⟨es, hread, hes⟩ := bind_eq_ok_iff.mp h
  obtain ⟨us, hcompile, rfl⟩ := map_eq_ok_iff.mp (mapError_eq_ok_iff.mp hes)
  have hread' := mapM_eq_ok_iff.mp hread
  rw [List.forall₂_map_left_iff, entries, List.forall₂_map_left_iff] at hread'
  exact ⟨us, rfl, compiled_of_read hread' (mapM_eq_ok_iff.mp hcompile)⟩

/-- **What survives saving and loading.** Let `m` be `l` with its buckets in any order. -/
theorem reload_same_iff {l m : Ledger} (hl : Reachable l) (hm : m.Same l) :
    (∃ k, m.reload = .ok k ∧ k.Same l) ↔
      (∀ t ∈ l.toList, t.source.Valid) ∧
        ∀ t ∈ l.toList, t.activated = false → t.spec.getLast? ≠ some Trigger.mark := by
  have hmem : ∀ t, t ∈ m.toList ↔ t ∈ l.toList := fun t => hm.toList_perm.mem_iff
  refine ⟨?_, ?_⟩
  · rintro ⟨k, hk, hsame⟩
    obtain ⟨us, rfl, hvalid, hus⟩ := exists_of_reload hk
    have hperm : us.Perm l.toList := (toList_ofList_perm us).symm.trans hsame.toList_perm
    -- no spec has been shortened, since all of them together have kept their length
    have hsize : specSize m.toList = specSize us := by
      rw [specSize_perm hm.toList_perm, specSize_perm hperm]
    have hall := (unambiguous_of_specSize_le hus).2 (Nat.le_of_eq hsize)
    refine ⟨fun t ht => hvalid t (hperm.mem_iff.mpr ht), fun t ht => ?_⟩
    exact hall t ((hmem t).mpr ht)
  · rintro ⟨hvalid, hmark⟩
    have hcompile : ∀ t ∈ m.toList, Trigger.compile t.text t.source = .ok t := by
      intro t ht
      rw [hmem] at ht
      exact Trigger.compile_text (hl.coherent.derived_of_mem ht) (hmark t ht)
    have hsource : ∀ t ∈ m.toList, t.source.Valid := fun t ht => hvalid t ((hmem t).mp ht)
    exact ⟨_, reload_of_faithful hsource hcompile, ofList_toList_same hl.coherent hm⟩

/-- An income, and a gain whose spec ends in a mark. -/
def incomeAndGain : Ledger := ofList [techIncome, Trigger.markedGain]

/-- The same with the bucket of the gain in front. -/
def gainAndIncome : Ledger := ofList [Trigger.markedGain, techIncome]

/-- Loading gives the two back as long as the gain is activated, but not with its mark cleared. -/
theorem reload_gainAndIncome_same :
    Reachable incomeAndGain ∧ gainAndIncome.Same incomeAndGain ∧
      gainAndIncome.buckets ≠ incomeAndGain.buckets ∧
      (∃ k, gainAndIncome.reload = .ok k ∧ k.Same incomeAndGain) ∧
      ¬ ∃ k, (gainAndIncome.deactivate (.known .once)).1.reload = .ok k ∧
        k.Same (incomeAndGain.deactivate (.known .once)).1 := by
  have hsame : gainAndIncome.Same incomeAndGain := by decide +kernel
  have hcleared : (gainAndIncome.deactivate (.known .once)).1.Same
      (incomeAndGain.deactivate (.known .once)).1 := by decide +kernel
  have hadd : Reachable incomeAndGain := by
    refine reachable_ofList ?_
    simp only [List.forall_mem_cons]
    exact ⟨⟨techIncome.spec, rfl⟩, ⟨['k', '!', '!'], by decide +kernel⟩, by simp⟩
  have hclear : Reachable (incomeAndGain.deactivate (.known .once)).1 :=
    .step (s := .deactivate (.known .once)) hadd trivial rfl
  refine ⟨hadd, hsame, by decide +kernel, ?_, fun h => ?_⟩
  · exact (reload_same_iff hadd hsame).mpr (by decide +kernel)
  · have hmark := ((reload_same_iff hclear hcleared).mp h).2
    exact absurd rfl (hmark (Trigger.markedGain.setActivated false) (by decide +kernel) rfl)

end Ledger

end RuleTriggers
