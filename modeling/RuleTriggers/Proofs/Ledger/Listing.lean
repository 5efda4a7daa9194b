import Mathlib.Data.List.Nodup
import RuleTriggers.Ledger.Listing
import RuleTriggers.Proofs.Ledger.Coherent
import RuleTriggers.Proofs.Source.RoundTrip

/-!
Listings of a ledger come out the same in whatever order its buckets are walked. Buckets and
entries are put in an order in which no two different ones tie, so there is only one way to list
them. Triggers do tie, if they have the same operator; but then they come from one bucket, and
sorting keeps them as they stand there.
-/

namespace RuleTriggers

/-! ### Orders -/

/-- A word is found at its rank. -/
lemma Vocabulary.getElem?_rank {α : Type} [Vocabulary α] (w : α) :
    (all : List α)[rank w]? = some w := by
  have hlt : rank w < (all : List α).length :=
    List.findIdx_lt_length_of_exists ⟨w, mem_all w, by simp⟩
  have htoken : token ((all : List α)[rank w]) == token w := List.findIdx_getElem (w := hlt)
  rw [List.getElem?_eq_getElem hlt, token_injective (eq_of_beq htoken)]

lemma Vocabulary.rank_injective {α : Type} [Vocabulary α] {v w : α} (h : rank v = rank w) :
    v = w := by
  have hv := getElem?_rank v
  rw [h, getElem?_rank] at hv
  exact (Option.some.inj hv).symm

namespace Operator

lemma le_total (o p : Operator) : o.le p || p.le o := by
  cases o <;> cases p
  · simpa [le] using Nat.le_total _ _
  · rfl
  · rfl
  · exact Text.le_total _ _

lemma le_trans (o p q : Operator) (h : o.le p) (k : p.le q) : o.le q := by
  cases o with
  | known v =>
    cases q with
    | unrecognized u => rfl
    | known x =>
      cases p with
      | known w => exact decide_eq_true (Nat.le_trans (of_decide_eq_true h) (of_decide_eq_true k))
      | unrecognized t => cases k
  | unrecognized s =>
    cases p with
    | known w => cases h
    | unrecognized t =>
      cases q with
      | known x => cases k
      | unrecognized u => exact Text.le_trans h k

lemma le_antisymm {o p : Operator} (h : o.le p) (k : p.le o) : o = p := by
  cases o <;> cases p <;> simp only [le, decide_eq_true_eq] at h k
  · rw [Vocabulary.rank_injective (Nat.le_antisymm h k)]
  · cases k
  · cases h
  · rw [Text.le_antisymm h k]

lemma le_refl (o : Operator) : o.le o := by simpa using le_total o o

end Operator

namespace Entry

variable {a b : Entry}

lemma le_of_source_eq (h : a.source = b.source) : a.le b = Text.le a.spec b.spec := if_pos h

lemma le_of_source_ne (h : a.source ≠ b.source) :
    a.le b = Text.le a.source.text b.source.text := if_neg h

lemma le_total (a b : Entry) : a.le b || b.le a := by
  by_cases hsource : a.source = b.source
  · rw [le_of_source_eq hsource, le_of_source_eq hsource.symm]
    exact Text.le_total _ _
  · rw [le_of_source_ne hsource, le_of_source_ne (Ne.symm hsource)]
    exact Text.le_total _ _

/-- Entries in order have their sources in order. -/
lemma source_le (h : a.le b) : Text.le a.source.text b.source.text := by
  by_cases hsource : a.source = b.source
  · rw [hsource]
    simpa using Text.le_total b.source.text b.source.text
  · rwa [le_of_source_ne hsource] at h

lemma le_antisymm (h : a.le b) (k : b.le a) : a = b := by
  have hsource : a.source = b.source :=
    Source.text_injective (Text.le_antisymm (source_le h) (source_le k))
  rw [le_of_source_eq hsource] at h
  rw [le_of_source_eq hsource.symm] at k
  have hspec : a.spec = b.spec := Text.le_antisymm h k
  cases a
  cases b
  cases hsource
  cases hspec
  rfl

lemma le_trans (a b c : Entry) (h : a.le b) (k : b.le c) : a.le c := by
  have htext := Text.le_trans (source_le h) (source_le k)
  by_cases hsource : a.source = c.source
  · -- then the entry between them has the same source
    have hmid : a.source = b.source := by
      refine Source.text_injective (Text.le_antisymm (source_le h) ?_)
      rw [hsource]
      exact source_le k
    rw [le_of_source_eq hmid] at h
    rw [le_of_source_eq (hmid ▸ hsource)] at k
    rw [le_of_source_eq hsource]
    exact Text.le_trans h k
  · rwa [le_of_source_ne hsource]

end Entry

/-! ### Sorting -/

/-- Where different members do not tie there is one way to sort them. -/
lemma mergeSort_eq_of_perm {α : Type} {le : α → α → Bool}
    (trans : ∀ a b c, le a b → le b c → le a c) (total : ∀ a b, le a b || le b a)
    {as bs : List α} (antisymm : ∀ a ∈ as, ∀ b ∈ bs, le a b → le b a → a = b)
    (h : as.Perm bs) : as.mergeSort le = bs.mergeSort le := by
  have has := List.pairwise_mergeSort trans total as
  have hbs := List.pairwise_mergeSort trans total bs
  have hperm : (as.mergeSort le).Perm (bs.mergeSort le) :=
    (List.mergeSort_perm as le).trans (h.trans (List.mergeSort_perm bs le).symm)
  refine List.Perm.eq_of_pairwise (fun a b ha hb => ?_) has hbs hperm
  exact antisymm a (List.mem_mergeSort.mp ha) b (List.mem_mergeSort.mp hb)

namespace Trigger

variable {ts us : List Trigger}

/-- Triggers in the order of their operators. -/
def ByOperator (ts : List Trigger) : Prop := ts.Pairwise fun a b => a.operator.le b.operator

lemma byOperator_sortByOperator (ts : List Trigger) : ByOperator (sortByOperator ts) :=
  List.pairwise_mergeSort (fun a b c => Operator.le_trans a.operator b.operator c.operator)
    (fun a b => Operator.le_total a.operator b.operator) ts

/-- Those with one operator stay as they stand. -/
lemma filter_sortByOperator (ts : List Trigger) (o : Operator) :
    (sortByOperator ts).filter (·.operator = o) = ts.filter (·.operator = o) := by
  have hone : ByOperator (ts.filter (·.operator = o)) := by
    refine List.pairwise_of_forall_mem_list fun a ha b hb => ?_
    have hop : a.operator = b.operator := by
      simp only [List.mem_filter, decide_eq_true_eq] at ha hb
      rw [ha.2, hb.2]
    exact hop ▸ Operator.le_refl _
  have hsub : (ts.filter (·.operator = o)).Sublist (sortByOperator ts) :=
    List.sublist_mergeSort
      (fun (a b c : Trigger) => Operator.le_trans a.operator b.operator c.operator)
      (fun a b => Operator.le_total a.operator b.operator) hone List.filter_sublist
  have hsub' := hsub.filter (·.operator = o)
  rw [List.filter_eq_self.mpr fun t ht => (List.mem_filter.mp ht).2] at hsub'
  exact (hsub'.eq_of_length ((List.mergeSort_perm ts _).filter _).length_eq.symm).symm

lemma ByOperator.le_of_mem {t u : Trigger} (h : ByOperator (t :: ts)) (hu : u ∈ t :: ts) :
    t.operator.le u.operator := by
  rcases List.mem_cons.mp hu with rfl | hu
  · exact Operator.le_refl _
  · exact (List.pairwise_cons.mp h).1 u hu

/-- Triggers in the order of their operators are listed in one way only, if it is settled for each
operator how its own are listed. -/
lemma ByOperator.eq_of_filter_eq (hts : ByOperator ts) (hus : ByOperator us)
    (h : ∀ o, ts.filter (·.operator = o) = us.filter (·.operator = o)) : ts = us := by
  induction ts generalizing us with
  | nil => exact (Ledger.perm_of_filter_operator_eq h).nil_eq
  | cons t ts ih =>
    have hperm := Ledger.perm_of_filter_operator_eq h
    cases us with
    | nil => cases hperm.eq_nil
    | cons u us =>
      have htu := hts.le_of_mem (hperm.mem_iff.mpr List.mem_cons_self)
      have hut := hus.le_of_mem (hperm.mem_iff.mp List.mem_cons_self)
      have hop : t.operator = u.operator := Operator.le_antisymm htu hut
      have hfirst := h t.operator
      obtain rfl : t = u := by simpa [hop] using congrArg List.head? hfirst
      have hrest : ∀ o, ts.filter (·.operator = o) = us.filter (·.operator = o) := fun o => by
        have ho := h o
        rw [List.filter_cons, List.filter_cons] at ho
        split at ho
        · exact (List.cons.inj ho).2
        · exact ho
      rw [ih (List.pairwise_cons.mp hts).2 (List.pairwise_cons.mp hus).2 hrest]

lemma sortByOperator_eq (h : ∀ o, ts.filter (·.operator = o) = us.filter (·.operator = o)) :
    sortByOperator ts = sortByOperator us := by
  refine (byOperator_sortByOperator ts).eq_of_filter_eq (byOperator_sortByOperator us) fun o => ?_
  rw [filter_sortByOperator, filter_sortByOperator, h]

end Trigger

/-! ### Listings -/

namespace Ledger

variable {l m : Ledger}

lemma Same.sortedBuckets_eq (h : m.Same l) : m.sortedBuckets = l.sortedBuckets := by
  refine mergeSort_eq_of_perm
    (fun (a b c : Bucket) => Operator.le_trans a.operator b.operator c.operator)
    (fun a b => Operator.le_total a.operator b.operator) (fun a ha b hb hab hba => ?_) h
  have hop : a.operator = b.operator := Operator.le_antisymm hab hba
  exact List.inj_on_of_nodup_map l.operators_nodup (h.mem_iff.mp ha) hb hop

lemma Same.sortedEntries_eq (h : m.Same l) : m.sortedEntries = l.sortedEntries :=
  mergeSort_eq_of_perm Entry.le_trans Entry.le_total
    (fun _ _ _ _ hab hba => Entry.le_antisymm hab hba) (h.toList_perm.map Trigger.entry)

/-- **Listings do not depend on the order of the buckets.** -/
theorem Reachable.sorted_eq (hl : Reachable l) (h : m.Same l) :
    m.sortedBuckets = l.sortedBuckets ∧ m.sortedTriggers = l.sortedTriggers ∧
      (∀ source, m.sortedFromSource source = l.sortedFromSource source) ∧
      m.sortedEntries = l.sortedEntries := by
  have hm : m.Coherent := hl.coherent.of_same h
  have hfilter (o : Operator) :
      m.toList.filter (·.operator = o) = l.toList.filter (·.operator = o) := by
    rw [filter_toList hm.operator_eq, filter_toList hl.coherent.operator_eq, h.bucket_eq]
  refine ⟨h.sortedBuckets_eq, Trigger.sortByOperator_eq hfilter, fun source => ?_,
    h.sortedEntries_eq⟩
  refine Trigger.sortByOperator_eq fun o => ?_
  unfold fromSource
  rw [List.filter_comm, hfilter, List.filter_comm]

end Ledger

end RuleTriggers
