import Mathlib.Data.List.Nodup
import Mathlib.Tactic.Lemma
import RuleTriggers.Ledger

/-!
A ledger through its buckets. What is filed under each operator says all there is to say about
a ledger without empty buckets: which triggers it has, and whether another ledger is the same.
-/

namespace RuleTriggers.Ledger

/-- No bucket is empty. -/
def Filled (l : Ledger) : Prop := ∀ b ∈ l.buckets, b.triggers ≠ []

/-! ### Looking up -/

lemma lookup_eq_of_mem {bs : List Bucket} (h : (bs.map Bucket.operator).Nodup) {b : Bucket}
    (hb : b ∈ bs) : lookup b.operator bs = b.triggers := by
  induction bs with
  | nil => simp at hb
  | cons a bs ih =>
    rw [List.map_cons, List.nodup_cons] at h
    rcases List.mem_cons.mp hb with rfl | hb
    · simp [lookup]
    · have hne : a.operator ≠ b.operator := fun e => h.1 (e ▸ List.mem_map_of_mem hb)
      rw [lookup, if_neg hne, ih h.2 hb]

lemma exists_of_mem_lookup {bs : List Bucket} {o : Operator} {t : Trigger}
    (ht : t ∈ lookup o bs) : ∃ b ∈ bs, b.operator = o ∧ t ∈ b.triggers := by
  induction bs with
  | nil => simp [lookup] at ht
  | cons b bs ih =>
    unfold lookup at ht
    split at ht
    · next e => exact ⟨b, List.mem_cons_self, e, ht⟩
    · obtain ⟨a, ha, hao, hta⟩ := ih ht
      exact ⟨a, List.mem_cons_of_mem b ha, hao, hta⟩

lemma bucket_eq_of_mem {l : Ledger} {b : Bucket} (hb : b ∈ l.buckets) :
    l.bucket b.operator = b.triggers :=
  lookup_eq_of_mem l.operators_nodup hb

/-- The triggers of a ledger are those in its buckets. -/
lemma mem_toList_iff {l : Ledger} {t : Trigger} : t ∈ l.toList ↔ ∃ o, t ∈ l.bucket o := by
  unfold toList
  rw [List.mem_flatMap]
  refine ⟨?_, ?_⟩
  · rintro ⟨b, hb, ht⟩
    exact ⟨b.operator, by rwa [bucket_eq_of_mem hb]⟩
  · rintro ⟨o, ht⟩
    obtain ⟨b, hb, -, htb⟩ := exists_of_mem_lookup ht
    exact ⟨b, hb, htb⟩

/-- A bucket is one of a ledger's if it is what the ledger has filed under its operator. -/
lemma mem_buckets_iff {l : Ledger} (hl : l.Filled) {b : Bucket} :
    b ∈ l.buckets ↔ b.triggers ≠ [] ∧ l.bucket b.operator = b.triggers := by
  refine ⟨fun hb => ⟨hl b hb, bucket_eq_of_mem hb⟩, ?_⟩
  rintro ⟨hne, heq⟩
  obtain ⟨t, ht⟩ := List.exists_mem_of_ne_nil _ hne
  rw [← heq] at ht
  obtain ⟨a, ha, hao, -⟩ := exists_of_mem_lookup ht
  have htriggers : a.triggers = b.triggers := by rw [← bucket_eq_of_mem ha, hao, heq]
  obtain ⟨ao, ats⟩ := a
  obtain ⟨bo, bts⟩ := b
  obtain rfl : ao = bo := hao
  obtain rfl : ats = bts := htriggers
  exact ha

lemma isEmpty_iff_toList_eq_nil {l : Ledger} (h : l.Filled) :
    l.isEmpty = true ↔ l.toList = [] := by
  unfold isEmpty toList
  rw [List.isEmpty_iff, List.flatMap_eq_nil_iff]
  refine ⟨fun hnil => by simp [hnil], fun hnil => ?_⟩
  exact List.eq_nil_iff_forall_not_mem.mpr fun b hb => h b hb (hnil b hb)

/-- Walking a ledger and keeping one operator is walking the bucket of that operator. -/
lemma filter_flatMap_triggers {bs : List Bucket} (hn : (bs.map Bucket.operator).Nodup)
    (hop : ∀ b ∈ bs, ∀ t ∈ b.triggers, t.operator = b.operator) (o : Operator) :
    (bs.flatMap Bucket.triggers).filter (·.operator = o) = lookup o bs := by
  induction bs with
  | nil => rfl
  | cons b bs ih =>
    rw [List.map_cons, List.nodup_cons] at hn
    have hb := hop b List.mem_cons_self
    have hrest := ih hn.2 fun c hc => hop c (List.mem_cons_of_mem b hc)
    rw [List.flatMap_cons, List.filter_append, hrest, lookup]
    by_cases ho : b.operator = o
    · have hall : b.triggers.filter (·.operator = o) = b.triggers :=
        List.filter_eq_self.mpr fun t ht => decide_eq_true ((hb t ht).trans ho)
      rw [if_pos ho, hall, lookup_eq_nil_of_not_mem (ho ▸ hn.1), List.append_nil]
    · have hnone : b.triggers.filter (·.operator = o) = [] :=
        List.filter_eq_nil_iff.mpr fun t ht => by
          simpa using fun e => ho ((hb t ht).symm.trans e)
      rw [if_neg ho, hnone, List.nil_append]

lemma filter_toList {l : Ledger} (h : ∀ o, ∀ t ∈ l.bucket o, t.operator = o) (o : Operator) :
    l.toList.filter (·.operator = o) = l.bucket o := by
  refine filter_flatMap_triggers l.operators_nodup (fun b hb t ht => ?_) o
  exact h b.operator t (by rwa [bucket_eq_of_mem hb])

lemma bucket_addList (l : Ledger) (ts : List Trigger) (o : Operator) :
    (l.addList ts).bucket o = l.bucket o ++ ts.filter (·.operator = o) := by
  induction ts generalizing l with
  | nil => simp [addList]
  | cons t ts ih =>
    have hcons : l.addList (t :: ts) = (l.add t).addList ts := rfl
    rw [hcons, ih, bucket_add, List.filter_cons]
    by_cases ho : t.operator = o
    · simp [ho]
    · simp [ho, Ne.symm ho]

lemma bucket_ofList (ts : List Trigger) (o : Operator) :
    (ofList ts).bucket o = ts.filter (·.operator = o) := by
  rw [ofList, bucket_addList, bucket_empty, List.nil_append]

/-- Lists that agree on every operator have the same triggers. -/
lemma perm_of_filter_operator_eq {ts us : List Trigger}
    (h : ∀ o, ts.filter (·.operator = o) = us.filter (·.operator = o)) : ts.Perm us := by
  refine List.perm_iff_count.mpr fun t => ?_
  have hts : (ts.filter (·.operator = t.operator)).count t = ts.count t :=
    List.count_filter (by simp)
  have hus : (us.filter (·.operator = t.operator)).count t = us.count t :=
    List.count_filter (by simp)
  rw [← hts, ← hus, h]

lemma toList_ofList_perm (ts : List Trigger) : (ofList ts).toList.Perm ts := by
  have hop : ∀ o, ∀ t ∈ (ofList ts).bucket o, t.operator = o := by
    intro o t ht
    rw [bucket_ofList] at ht
    exact of_decide_eq_true (List.mem_filter.mp ht).2
  refine perm_of_filter_operator_eq fun o => ?_
  rw [filter_toList hop, bucket_ofList]

/-! ### Being the same -/

lemma eq_of_buckets_eq {l m : Ledger} (h : l.buckets = m.buckets) : l = m := by
  cases l
  cases m
  congr

lemma nodup_buckets (l : Ledger) : l.buckets.Nodup := List.Nodup.of_map _ l.operators_nodup

lemma Same.toList_perm {l m : Ledger} (h : l.Same m) : l.toList.Perm m.toList :=
  h.flatMap_right _

/-- The same ledgers have the same filed under every operator. -/
lemma Same.bucket_eq {l m : Ledger} (h : l.Same m) (o : Operator) : l.bucket o = m.bucket o := by
  by_cases ho : o ∈ l.buckets.map Bucket.operator
  · obtain ⟨b, hb, rfl⟩ := List.mem_map.mp ho
    rw [bucket_eq_of_mem hb, bucket_eq_of_mem (h.mem_iff.mp hb)]
  · have hom : o ∉ m.buckets.map Bucket.operator := by
      rwa [← (h.map Bucket.operator).mem_iff]
    unfold bucket
    rw [lookup_eq_nil_of_not_mem ho, lookup_eq_nil_of_not_mem hom]

/-- **Ledgers without empty buckets are the same if they have the same filed everywhere.** -/
theorem same_iff_bucket_eq {l m : Ledger} (hl : l.Filled) (hm : m.Filled) :
    l.Same m ↔ ∀ o, l.bucket o = m.bucket o := by
  refine ⟨fun h o => h.bucket_eq o, fun h => ?_⟩
  refine (List.perm_ext_iff_of_nodup l.nodup_buckets m.nodup_buckets).mpr fun b => ?_
  rw [mem_buckets_iff hl, mem_buckets_iff hm, h b.operator]

/-! ### What the operations leave filled -/

lemma triggers_ne_nil_of_mem_fill {o : Operator} {ts : List Trigger} {b : Bucket}
    (h : b ∈ fill o ts) : b.triggers ≠ [] := by
  unfold fill at h
  split at h
  · simp at h
  · next hne =>
    obtain rfl := List.mem_singleton.mp h
    exact hne

lemma triggers_ne_nil_of_mem_alterBuckets {o : Operator} {f : List Trigger → List Trigger}
    {bs : List Bucket} (hbs : ∀ b ∈ bs, b.triggers ≠ []) :
    ∀ b ∈ alterBuckets o f bs, b.triggers ≠ [] := by
  induction bs with
  | nil => exact fun b hb => triggers_ne_nil_of_mem_fill hb
  | cons a bs ih =>
    intro b hb
    unfold alterBuckets at hb
    split at hb
    · rcases List.mem_append.mp hb with hb | hb
      · exact triggers_ne_nil_of_mem_fill hb
      · exact hbs b (List.mem_cons_of_mem a hb)
    · rcases List.mem_cons.mp hb with rfl | hb
      · exact hbs b List.mem_cons_self
      · exact ih (fun c hc => hbs c (List.mem_cons_of_mem a hc)) b hb

lemma Filled.alter {l : Ledger} (h : l.Filled) (o : Operator) (f : List Trigger → List Trigger) :
    (l.alter o f).Filled :=
  triggers_ne_nil_of_mem_alterBuckets h

lemma Filled.addList {l : Ledger} (h : l.Filled) (ts : List Trigger) : (l.addList ts).Filled := by
  induction ts generalizing l with
  | nil => exact h
  | cons t ts ih => exact ih (h.alter t.operator _)

lemma Filled.retract {l : Ledger} (h : l.Filled) (candidate : Trigger) :
    (l.retract candidate).1.Filled := by
  unfold Ledger.retract
  split
  · exact h.alter _ _
  · exact h

lemma Filled.retractList {l : Ledger} (h : l.Filled) (candidates : List Trigger) :
    (l.retractList candidates).1.Filled := by
  induction candidates generalizing l with
  | nil => exact h
  | cons candidate rest ih => exact ih (h.retract candidate)

lemma filled_retractSource (l : Ledger) (source : Source) : (l.retractSource source).1.Filled := by
  intro b hb
  obtain ⟨a, -, hb⟩ := List.mem_flatMap.mp hb
  exact triggers_ne_nil_of_mem_fill hb

lemma alterBuckets_self (o : Operator) {bs : List Bucket} (h : ∀ b ∈ bs, b.triggers ≠ []) :
    alterBuckets o (fun ts => ts) bs = bs := by
  induction bs with
  | nil => rfl
  | cons b bs ih =>
    have hb := h b List.mem_cons_self
    have hrest := ih fun c hc => h c (List.mem_cons_of_mem b hc)
    unfold alterBuckets
    split
    · next ho => simp [fill, hb, ← ho]
    · rw [hrest]

/-- Where there is no empty bucket, none goes away when nothing is changed. -/
lemma alter_self {l : Ledger} (h : l.Filled) (o : Operator) : l.alter o (fun ts => ts) = l :=
  eq_of_buckets_eq (alterBuckets_self o h)

end RuleTriggers.Ledger
