import RuleTriggers.Trigger

/-!
The triggers that a player has, in one bucket for each operator, so that a phase of play walks the
triggers that pay out in it and no others. A bucket lists its triggers in the order of
registration. Triggers are told apart by their spec alone: which piece granted one, and whether it
is activated, is not asked when it is taken back.
-/

namespace RuleTriggers

/-- The triggers filed under one operator. -/
structure Bucket where
  operator : Operator
  triggers : List Trigger
  deriving DecidableEq

/-- The triggers that one player has. -/
structure Ledger where
  buckets : List Bucket
  /-- An operator has one bucket at most. -/
  operators_nodup : (buckets.map Bucket.operator).Nodup

namespace Ledger

def empty : Ledger := ⟨[], by simp⟩

instance : Inhabited Ledger := ⟨empty⟩

/-- The triggers filed under an operator among the buckets given. -/
def lookup (o : Operator) : List Bucket → List Trigger
  | [] => []
  | b :: bs => if b.operator = o then b.triggers else lookup o bs

/-- The triggers filed under an operator. -/
def bucket (l : Ledger) (o : Operator) : List Trigger := lookup o l.buckets

/-- A bucket, unless it has nothing in it. -/
def fill (o : Operator) (ts : List Trigger) : List Bucket := if ts = [] then [] else [⟨o, ts⟩]

/-- Changes what is filed under one operator. A bucket is made when it is first needed and goes
away when nothing is left in it. -/
def alterBuckets (o : Operator) (f : List Trigger → List Trigger) : List Bucket → List Bucket
  | [] => fill o (f [])
  | b :: bs => if b.operator = o then fill o (f b.triggers) ++ bs else b :: alterBuckets o f bs

theorem operators_alterBuckets_subset (o : Operator) (f : List Trigger → List Trigger)
    (bs : List Bucket) {p : Operator}
    (h : p ∈ (alterBuckets o f bs).map Bucket.operator) :
    p = o ∨ p ∈ bs.map Bucket.operator := by
  induction bs with
  | nil => unfold alterBuckets fill at h; split at h <;> simp_all
  | cons b bs ih =>
    unfold alterBuckets at h
    split at h
    · unfold fill at h; split at h <;> simp_all
    · rw [List.map_cons, List.mem_cons] at h ⊢
      rcases h with h | h
      · exact .inr (.inl h)
      · rcases ih h with h | h
        · exact .inl h
        · exact .inr (.inr h)

theorem nodup_alterBuckets (o : Operator) (f : List Trigger → List Trigger)
    {bs : List Bucket} (h : (bs.map Bucket.operator).Nodup) :
    ((alterBuckets o f bs).map Bucket.operator).Nodup := by
  induction bs with
  | nil => unfold alterBuckets fill; split <;> simp
  | cons b bs ih =>
    rw [List.map_cons, List.nodup_cons] at h
    unfold alterBuckets
    split
    · next e =>
      subst e
      unfold fill
      split
      · exact h.2
      · simpa using h
    · next ne =>
      rw [List.map_cons, List.nodup_cons]
      refine ⟨fun hm => ?_, ih h.2⟩
      rcases operators_alterBuckets_subset o f bs hm with e | hm
      · exact ne e
      · exact h.1 hm

def alter (l : Ledger) (o : Operator) (f : List Trigger → List Trigger) : Ledger :=
  ⟨alterBuckets o f l.buckets, nodup_alterBuckets o f l.operators_nodup⟩

theorem lookup_eq_nil_of_not_mem {o : Operator} {bs : List Bucket}
    (h : o ∉ bs.map Bucket.operator) : lookup o bs = [] := by
  induction bs with
  | nil => rfl
  | cons b bs ih =>
    rw [List.map_cons, List.mem_cons, not_or] at h
    rw [lookup, if_neg (Ne.symm h.1), ih h.2]

theorem lookup_alterBuckets (o p : Operator) (f : List Trigger → List Trigger)
    {bs : List Bucket} (h : (bs.map Bucket.operator).Nodup) :
    lookup p (alterBuckets o f bs) = if p = o then f (lookup o bs) else lookup p bs := by
  induction bs with
  | nil =>
    unfold alterBuckets fill
    by_cases hf : f [] = [] <;> by_cases hp : p = o <;> simp [lookup, hf, hp, eq_comm]
    exact fun e => absurd e.symm hp
  | cons b bs ih =>
    rw [List.map_cons, List.nodup_cons] at h
    unfold alterBuckets
    by_cases hb : b.operator = o
    · subst hb
      have none := lookup_eq_nil_of_not_mem h.1
      unfold fill
      by_cases hf : f b.triggers = [] <;> by_cases hp : p = b.operator
      · simp [lookup, hf, hp, none]
      · simp [lookup, hf, hp, Ne.symm hp]
      · simp [lookup, hf, hp]
      · simp [lookup, hf, hp, Ne.symm hp]
    · rw [if_neg hb]
      by_cases hp : p = o
      · subst hp
        rw [if_pos rfl, lookup, if_neg hb, ih h.2, if_pos rfl, lookup, if_neg hb]
      · rw [if_neg hp, lookup, lookup, ih h.2, if_neg hp]

/-- Only the bucket of the operator changes. -/
theorem bucket_alter (l : Ledger) (o p : Operator) (f : List Trigger → List Trigger) :
    (l.alter o f).bucket p = if p = o then f (l.bucket o) else l.bucket p :=
  lookup_alterBuckets o p f l.operators_nodup

@[simp] theorem bucket_empty (o : Operator) : empty.bucket o = [] := rfl

/-- Every trigger, bucket by bucket. -/
def toList (l : Ledger) : List Trigger := l.buckets.flatMap Bucket.triggers

def size (l : Ledger) : Nat := l.buckets.foldr (fun b n => b.triggers.length + n) 0

theorem size_eq_length_toList (l : Ledger) : l.size = l.toList.length := by
  unfold size toList
  induction l.buckets with
  | nil => rfl
  | cons b bs ih => rw [List.foldr_cons, ih, List.flatMap_cons, List.length_append]

def isEmpty (l : Ledger) : Bool := l.buckets.isEmpty

/-- The triggers from one source. -/
def fromSource (l : Ledger) (source : Source) : List Trigger :=
  l.toList.filter (·.source = source)

/-! ### Registering and taking back -/

/-- Files a trigger at the end of the bucket of its operator. -/
def add (l : Ledger) (t : Trigger) : Ledger := l.alter t.operator (· ++ [t])

theorem bucket_add (l : Ledger) (t : Trigger) (o : Operator) :
    (l.add t).bucket o = if o = t.operator then l.bucket o ++ [t] else l.bucket o := by
  rw [add, bucket_alter]
  split
  · next h => rw [h]
  · rfl

/-- Files one trigger after another. -/
def addList (l : Ledger) (ts : List Trigger) : Ledger := ts.foldl add l

/-- The ledger of a player who got these triggers and no others. -/
def ofList (ts : List Trigger) : Ledger := empty.addList ts

/-- Takes back the first trigger with the spec of the candidate, and tells whether there was one. -/
def retract (l : Ledger) (candidate : Trigger) : Ledger × Bool :=
  if (l.bucket candidate.operator).any (·.spec = candidate.spec) then
    (l.alter candidate.operator (·.eraseP (·.spec = candidate.spec)), true)
  else (l, false)

theorem bucket_retract (l : Ledger) (candidate : Trigger) (o : Operator) :
    (l.retract candidate).1.bucket o =
      if o = candidate.operator then (l.bucket o).eraseP (·.spec = candidate.spec)
      else l.bucket o := by
  unfold retract
  split
  · rw [bucket_alter]
    split
    · next h => rw [h]
    · rfl
  · next h =>
    split
    · next e =>
      rw [List.eraseP_of_forall_not]
      intro t ht hs
      exact h (List.any_eq_true.2 ⟨t, e ▸ ht, hs⟩)
    · rfl

/-- Takes back one candidate after another, and counts those that were there. -/
def retractList (l : Ledger) : List Trigger → Ledger × Nat
  | [] => (l, 0)
  | candidate :: rest =>
    let (l, found) := l.retract candidate
    let (l, n) := l.retractList rest
    (l, n + found.toNat)

/-- What is left of the buckets without the triggers from one source. -/
def bucketsWithout (source : Source) (bs : List Bucket) : List Bucket :=
  bs.flatMap fun b => fill b.operator (b.triggers.filter (·.source ≠ source))

theorem operators_bucketsWithout_sublist (source : Source) (bs : List Bucket) :
    ((bucketsWithout source bs).map Bucket.operator).Sublist (bs.map Bucket.operator) := by
  induction bs with
  | nil => exact .slnil
  | cons b bs ih =>
    unfold bucketsWithout at ih ⊢
    rw [List.flatMap_cons, List.map_append, List.map_cons]
    unfold fill
    split
    · exact .cons _ ih
    · exact .cons_cons _ ih

/-- Takes back everything that one source granted, and counts it. -/
def retractSource (l : Ledger) (source : Source) : Ledger × Nat :=
  (⟨bucketsWithout source l.buckets,
      l.operators_nodup.sublist (operators_bucketsWithout_sublist source l.buckets)⟩,
    l.toList.countP (·.source = source))

theorem lookup_bucketsWithout (source : Source) (o : Operator) {bs : List Bucket}
    (h : (bs.map Bucket.operator).Nodup) :
    lookup o (bucketsWithout source bs) = (lookup o bs).filter (·.source ≠ source) := by
  induction bs with
  | nil => rfl
  | cons b bs ih =>
    rw [List.map_cons, List.nodup_cons] at h
    have rest := ih h.2
    unfold bucketsWithout at rest ⊢
    rw [List.flatMap_cons, lookup]
    by_cases hb : b.operator = o
    · have none : lookup o bs = [] := lookup_eq_nil_of_not_mem (hb ▸ h.1)
      rw [none] at rest
      by_cases hf : b.triggers.filter (·.source ≠ source) = []
      · rw [fill, if_pos hf, if_pos hb, List.nil_append, rest, hf]
        rfl
      · rw [fill, if_neg hf, if_pos hb, List.singleton_append, lookup, if_pos hb]
    · rw [if_neg hb]
      by_cases hf : b.triggers.filter (·.source ≠ source) = []
      · rw [fill, if_pos hf, List.nil_append, rest]
      · rw [fill, if_neg hf, List.singleton_append, lookup, if_neg hb, rest]

theorem bucket_retractSource (l : Ledger) (source : Source) (o : Operator) :
    (l.retractSource source).1.bucket o = (l.bucket o).filter (·.source ≠ source) :=
  lookup_bucketsWithout source o l.operators_nodup

/-! ### Activation -/

/-- Sets or clears the mark of one trigger, counted from the front of its bucket. -/
def setActivated (l : Ledger) (o : Operator) (index : Nat) (activated : Bool) : Ledger :=
  l.alter o (·.modify index (·.setActivated activated))

theorem bucket_setActivated (l : Ledger) (o p : Operator) (index : Nat) (activated : Bool) :
    (l.setActivated o index activated).bucket p =
      if p = o then (l.bucket o).modify index (·.setActivated activated) else l.bucket p :=
  bucket_alter ..

/-- Clears every mark in a bucket, and counts them. -/
def deactivate (l : Ledger) (o : Operator) : Ledger × Nat :=
  (l.alter o (·.map (·.setActivated false)), (l.bucket o).countP (·.activated))

theorem bucket_deactivate (l : Ledger) (o p : Operator) :
    (l.deactivate o).1.bucket p =
      if p = o then (l.bucket o).map (·.setActivated false) else l.bucket p :=
  bucket_alter ..

/-! ### Comparing -/

/-- Two ledgers are the same if they have the same buckets, whichever was made first. -/
def Same (l m : Ledger) : Prop := l.buckets.Perm m.buckets

instance (l m : Ledger) : Decidable (l.Same m) :=
  inferInstanceAs (Decidable (l.buckets.Perm m.buckets))

end Ledger

end RuleTriggers
