import RuleTriggers.Proofs.Ledger.Play
import RuleTriggers.Proofs.Ledger.Representation

/-!
Ledgers with their marks wiped off. Every change does to the wiped ledger what it does to the
ledger, as far as it is about more than marks, and tells the same. So how a ledger goes on, its
marks apart, depends on the changes that are about more than marks, and no others.
-/

namespace RuleTriggers

/-! ### Wiping -/

/-- The trigger without its mark: spec, slots and source are left. -/
def Trigger.unmarked (t : Trigger) : Trigger := t.setActivated false

def Bucket.unmarked (b : Bucket) : Bucket := ⟨b.operator, b.triggers.map Trigger.unmarked⟩

/-- The ledger with no mark on any of its triggers. -/
def Ledger.unmarked (l : Ledger) : Ledger where
  buckets := l.buckets.map Bucket.unmarked
  operators_nodup := by
    have hoperator : Bucket.operator ∘ Bucket.unmarked = Bucket.operator := rfl
    rw [List.map_map, hoperator]
    exact l.operators_nodup

/-- The change with no mark on any of its triggers, unless it is about marks alone. -/
def Change.unmarked? : Change → Option Change
  | add ts => some (add (ts.map Trigger.unmarked))
  | retract candidate => some (retract candidate.unmarked)
  | retractList candidates => some (retractList (candidates.map Trigger.unmarked))
  | retractSource source => some (retractSource source)
  | setActivated .. => none
  | deactivate _ => none

/-- The changes of a run that are about more than marks, with no mark on any of their triggers. -/
def bookkeeping (cs : List Change) : List Change := cs.filterMap Change.unmarked?

/-- Of what the changes of a run tell, what is told by those that are about more than marks. -/
def answers (cs : List Change) (told : List (Except Fault Ledger.Outcome)) :
    List (Except Fault Ledger.Outcome) :=
  ((cs.zip told).filter (·.1.unmarked?.isSome)).map (·.2)

/-- What a change tells, if it is about more than marks. -/
def Change.answer? (c : Change) (told : Except Fault Ledger.Outcome) :
    Option (Except Fault Ledger.Outcome) :=
  if c.unmarked?.isSome then some told else none

lemma answers_eq_shares (cs : List Change) (told : List (Except Fault Ledger.Outcome)) :
    answers cs told = shares Change.answer? cs told := by
  rw [answers, ← List.filterMap_eq_map, List.filterMap_filter]
  rfl

namespace Ledger

variable {l : Ledger}

lemma lookup_unmarked (o : Operator) (bs : List Bucket) :
    lookup o (bs.map Bucket.unmarked) = (lookup o bs).map Trigger.unmarked := by
  induction bs with
  | nil => rfl
  | cons b bs ih =>
    simp only [List.map_cons, lookup, Bucket.unmarked, apply_ite (List.map Trigger.unmarked), ← ih]

@[simp] lemma bucket_unmarked (l : Ledger) (o : Operator) :
    l.unmarked.bucket o = (l.bucket o).map Trigger.unmarked :=
  lookup_unmarked o l.buckets

@[simp] lemma toList_unmarked (l : Ledger) : l.unmarked.toList = l.toList.map Trigger.unmarked := by
  simp only [toList, unmarked, List.flatMap_map, List.map_flatMap, Bucket.unmarked]

lemma size_unmarked (l : Ledger) : l.unmarked.size = l.size := by
  rw [size_eq_length_toList, size_eq_length_toList, toList_unmarked, List.length_map]

lemma isEmpty_unmarked (l : Ledger) : l.unmarked.isEmpty = l.isEmpty := by
  simp only [isEmpty, unmarked, List.isEmpty_map]

lemma Filled.unmarked (hl : l.Filled) : l.unmarked.Filled := by
  intro b hb
  obtain ⟨a, ha, rfl⟩ := List.mem_map.mp hb
  simpa [Bucket.unmarked] using hl a ha

/-! ### Each operation -/

lemma fill_unmarked (o : Operator) (ts : List Trigger) :
    (fill o ts).map Bucket.unmarked = fill o (ts.map Trigger.unmarked) := by
  unfold fill
  by_cases hts : ts = []
  · simp [hts]
  · simp [hts, Bucket.unmarked]

lemma alterBuckets_unmarked {f g : List Trigger → List Trigger}
    (h : ∀ ts, (f ts).map Trigger.unmarked = g (ts.map Trigger.unmarked)) (o : Operator)
    (bs : List Bucket) :
    (alterBuckets o f bs).map Bucket.unmarked = alterBuckets o g (bs.map Bucket.unmarked) := by
  induction bs with
  | nil => rw [alterBuckets, fill_unmarked, h, List.map_nil, List.map_nil, alterBuckets]
  | cons b bs ih =>
    simp only [alterBuckets, List.map_cons]
    have hoperator : b.unmarked.operator = b.operator := rfl
    have htriggers : b.unmarked.triggers = b.triggers.map Trigger.unmarked := rfl
    rw [hoperator, htriggers]
    split
    · rw [List.map_append, fill_unmarked, h]
    · rw [List.map_cons, ih]

/-- Wiping after a change to one bucket is wiping before it, if that is so of the change. -/
lemma unmarked_alter {f g : List Trigger → List Trigger}
    (h : ∀ ts, (f ts).map Trigger.unmarked = g (ts.map Trigger.unmarked)) (o : Operator) :
    (l.alter o f).unmarked = l.unmarked.alter o g :=
  eq_of_buckets_eq (alterBuckets_unmarked h o l.buckets)

/-- A change to one bucket that is about marks alone is not to be seen on the wiped ledger. -/
lemma unmarked_alter_self {f : List Trigger → List Trigger}
    (h : ∀ ts, (f ts).map Trigger.unmarked = ts.map Trigger.unmarked) (hl : l.Filled)
    (o : Operator) : (l.alter o f).unmarked = l.unmarked := by
  rw [unmarked_alter (g := fun ts => ts) h, alter_self hl.unmarked]

lemma unmarked_add (l : Ledger) (t : Trigger) : (l.add t).unmarked = l.unmarked.add t.unmarked :=
  unmarked_alter (fun ts => by simp) t.operator

lemma unmarked_addList (l : Ledger) (ts : List Trigger) :
    (l.addList ts).unmarked = l.unmarked.addList (ts.map Trigger.unmarked) := by
  induction ts generalizing l with
  | nil => rfl
  | cons t ts ih =>
    have hcons : l.addList (t :: ts) = (l.add t).addList ts := rfl
    rw [hcons, ih, unmarked_add]
    rfl

/-- A candidate is found by its spec, marked or not, and the same trigger is taken out. -/
lemma retract_unmarked (l : Ledger) (candidate : Trigger) :
    l.unmarked.retract candidate.unmarked =
      ((l.retract candidate).1.unmarked, (l.retract candidate).2) := by
  have hfind : (l.unmarked.bucket candidate.operator).any (·.spec = candidate.spec) =
      (l.bucket candidate.operator).any (·.spec = candidate.spec) := by
    rw [bucket_unmarked, List.any_map]
    rfl
  have hout : (l.alter candidate.operator (·.eraseP (·.spec = candidate.spec))).unmarked =
      l.unmarked.alter candidate.operator (·.eraseP (·.spec = candidate.spec)) :=
    unmarked_alter (fun ts => by rw [List.eraseP_map]; rfl) candidate.operator
  have hretract : l.unmarked.retract candidate.unmarked =
      if (l.unmarked.bucket candidate.operator).any (·.spec = candidate.spec) then
        (l.unmarked.alter candidate.operator (·.eraseP (·.spec = candidate.spec)), true)
      else (l.unmarked, false) := rfl
  rw [hretract, hfind, ← hout]
  unfold retract
  split <;> rfl

lemma retractList_unmarked (l : Ledger) (candidates : List Trigger) :
    l.unmarked.retractList (candidates.map Trigger.unmarked) =
      ((l.retractList candidates).1.unmarked, (l.retractList candidates).2) := by
  induction candidates generalizing l with
  | nil => rfl
  | cons candidate rest ih => simp only [List.map_cons, retractList, retract_unmarked, ih]

lemma retractSource_unmarked (l : Ledger) (source : Source) :
    l.unmarked.retractSource source =
      ((l.retractSource source).1.unmarked, (l.retractSource source).2) := by
  have hrest : bucketsWithout source (l.buckets.map Bucket.unmarked) =
      (bucketsWithout source l.buckets).map Bucket.unmarked := by
    simp only [bucketsWithout, List.flatMap_map, List.map_flatMap, fill_unmarked]
    congr
    funext b
    simp only [Bucket.unmarked, List.filter_map]
    rfl
  have hcount : l.unmarked.toList.countP (·.source = source) =
      l.toList.countP (·.source = source) := by
    rw [toList_unmarked, List.countP_map]
    rfl
  exact Prod.ext (eq_of_buckets_eq hrest) hcount

lemma unmarked_setActivated (hl : l.Filled) (o : Operator) (index : Nat) (activated : Bool) :
    (l.setActivated o index activated).unmarked = l.unmarked := by
  refine unmarked_alter_self (fun ts => ?_) hl o
  refine List.ext_getElem (by simp) fun i hi hi' => ?_
  rw [List.getElem_map, List.getElem_map, List.getElem_modify]
  split <;> rfl

lemma unmarked_deactivate (hl : l.Filled) (o : Operator) :
    (l.deactivate o).1.unmarked = l.unmarked :=
  unmarked_alter_self (fun ts => by rw [List.map_map]; rfl) hl o

/-! ### Runs -/

/-- Setting or clearing a mark does so, or fails and does nothing. -/
lemma fst_settle_setActivated (l : Ledger) (o : Operator) (index : Nat) (activated : Bool) :
    (settle Change.onLedger (.setActivated o index activated) l).1 = l ∨
      (settle Change.onLedger (.setActivated o index activated) l).1 =
        l.setActivated o index activated := by
  have hrun : Change.onLedger (.setActivated o index activated) l =
      (l.trigger o index).bind fun _ => .ok (l.setActivated o index activated, .done) := rfl
  cases htrigger : l.trigger o index with
  | error fault =>
    rw [htrigger] at hrun
    exact .inl (congrArg Prod.fst (settle_of_error hrun))
  | ok t =>
    rw [htrigger] at hrun
    exact .inr (congrArg Prod.fst (settle_of_ok hrun))

lemma Filled.settle (hl : l.Filled) (c : Change) : (settle Change.onLedger c l).1.Filled := by
  cases c with
  | add ts => exact hl.addList ts
  | retract candidate => exact hl.retract candidate
  | retractList candidates => exact hl.retractList candidates
  | retractSource source => exact filled_retractSource l source
  | setActivated o index activated =>
    rcases fst_settle_setActivated l o index activated with h | h
    · rwa [h]
    · rw [h]
      exact hl.alter o _
  | deactivate o => exact hl.alter o _

/-- A ledger with no empty bucket, and the same with its marks wiped off. -/
def Wiped (l k : Ledger) : Prop := l.Filled ∧ l.unmarked = k

/-- A change that is about marks alone is not to be seen on the wiped ledger. -/
lemma Wiped.settle_of_none {c : Change} {k : Ledger} (h : l.Wiped k) (hc : c.unmarked? = none) :
    (settle Change.onLedger c l).1.Wiped k ∧
      c.answer? (settle Change.onLedger c l).2 = none := by
  obtain ⟨hl, rfl⟩ := h
  refine ⟨⟨hl.settle c, ?_⟩, by simp [Change.answer?, hc]⟩
  cases c with
  | setActivated o index activated =>
    rcases fst_settle_setActivated l o index activated with h | h
    · rw [h]
    · rw [h, unmarked_setActivated hl]
  | deactivate o => exact unmarked_deactivate hl o
  | _ => cases hc

/-- Any other change does to the wiped ledger what it does to the ledger, and tells the same. -/
lemma settle_unmarked {c d : Change} (hc : c.unmarked? = some d) :
    settle Change.onLedger d l.unmarked =
      ((settle Change.onLedger c l).1.unmarked, (settle Change.onLedger c l).2) := by
  cases c with
  | add ts =>
    obtain rfl := Option.some.inj hc
    exact Prod.ext (unmarked_addList l ts).symm rfl
  | retract candidate =>
    obtain rfl := Option.some.inj hc
    exact congrArg (fun r => (r.1, Except.ok (Outcome.found r.2))) (retract_unmarked l candidate)
  | retractList candidates =>
    obtain rfl := Option.some.inj hc
    exact congrArg (fun r => (r.1, Except.ok (Outcome.count r.2)))
      (retractList_unmarked l candidates)
  | retractSource source =>
    obtain rfl := Option.some.inj hc
    exact congrArg (fun r => (r.1, Except.ok (Outcome.count r.2))) (retractSource_unmarked l source)
  | setActivated o index activated => cases hc
  | deactivate o => cases hc

lemma Wiped.settle_of_some {c d : Change} {k : Ledger} (h : l.Wiped k)
    (hc : c.unmarked? = some d) :
    (settle Change.onLedger c l).1.Wiped (settle Change.onLedger d k).1 ∧
      c.answer? (settle Change.onLedger c l).2 = some (settle Change.onLedger d k).2 := by
  obtain ⟨hl, rfl⟩ := h
  rw [settle_unmarked hc]
  exact ⟨⟨hl.settle c, rfl⟩, by simp [Change.answer?, hc]⟩

/-- A run on a ledger is the run of its bookkeeping on the wiped ledger, marks apart. -/
lemma play_bookkeeping (hl : l.Filled) (cs : List Change) :
    play Change.onLedger (bookkeeping cs) l.unmarked =
      ((play Change.onLedger cs l).1.unmarked, answers cs (play Change.onLedger cs l).2) := by
  have hrun : (play Change.onLedger cs l).1.Wiped
        (play Change.onLedger (bookkeeping cs) l.unmarked).1 ∧
      shares Change.answer? cs (play Change.onLedger cs l).2 =
        (play Change.onLedger (bookkeeping cs) l.unmarked).2 :=
    play_filterMap Wiped.settle_of_none Wiped.settle_of_some cs ⟨hl, rfl⟩
  rw [answers_eq_shares, hrun.1.2, hrun.2]

lemma bookkeeping_take_eq {cs ds : List Change} (h : bookkeeping cs = bookkeeping ds) {m n : Nat}
    (hlen : (bookkeeping (cs.take m)).length = (bookkeeping (ds.take n)).length) :
    bookkeeping (cs.take m) = bookkeeping (ds.take n) := by
  have hcs : bookkeeping (cs.take m) <+: bookkeeping cs := (List.take_prefix m cs).filterMap _
  have hds : bookkeeping (ds.take n) <+: bookkeeping ds := (List.take_prefix n ds).filterMap _
  rw [← h] at hds
  exact (List.prefix_of_prefix_length_le hcs hds (Nat.le_of_eq hlen)).eq_of_length hlen

/-- **Marks do not interfere.** Two runs with the same bookkeeping, and whatever about marks comes
in between, give the same answers. Wherever as much of the bookkeeping is done in both, as many
triggers are there, and the same are in every bucket, but for marks. -/
theorem play_eq_of_bookkeeping_eq {cs ds : List Change} (h : bookkeeping cs = bookkeeping ds) :
    answers cs (play Change.onLedger cs empty).2 = answers ds (play Change.onLedger ds empty).2 ∧
      ∀ m n, (bookkeeping (cs.take m)).length = (bookkeeping (ds.take n)).length →
        let l := (play Change.onLedger (cs.take m) empty).1
        let k := (play Change.onLedger (ds.take n) empty).1
        l.size = k.size ∧ l.isEmpty = k.isEmpty ∧
          ∀ o, (l.bucket o).map Trigger.unmarked = (k.bucket o).map Trigger.unmarked := by
  have hruns : ∀ {cs ds : List Change}, bookkeeping cs = bookkeeping ds →
      (play Change.onLedger cs empty).1.unmarked = (play Change.onLedger ds empty).1.unmarked ∧
        answers cs (play Change.onLedger cs empty).2 =
          answers ds (play Change.onLedger ds empty).2 := by
    intro cs ds h
    have hcs := play_bookkeeping coherent_empty.filled cs
    rw [h, play_bookkeeping coherent_empty.filled ds] at hcs
    exact ⟨(Prod.mk.inj hcs).1.symm, (Prod.mk.inj hcs).2.symm⟩
  refine ⟨(hruns h).2, fun m n hlen => ?_⟩
  intro l k
  have hsame : l.unmarked = k.unmarked := (hruns (bookkeeping_take_eq h hlen)).1
  refine ⟨?_, ?_, fun o => ?_⟩
  · rw [← size_unmarked l, hsame, size_unmarked]
  · rw [← isEmpty_unmarked l, hsame, isEmpty_unmarked]
  · rw [← bucket_unmarked l, hsame, bucket_unmarked]

/-- A technology is taken, its action taken back and then the rest. -/
def plainRun : List Change :=
  [.add [techIncome, techAction], .retract techAction, .retractSource (.tech .gaia)]

/-- The same with the action as compiled from `=> q!`, and marks set and cleared in between. -/
def markedRun : List Change :=
  [.add [techIncome, techAction.setActivated true],
    .deactivate (.known .activate),
    .setActivated (.known .income) 0 true,
    .setActivated (.known .pass) 0 true,
    .retract (techAction.setActivated true),
    .deactivate (.known .income),
    .retractSource (.tech .gaia)]

theorem play_plainRun_markedRun :
    Trigger.compile "=> q".toList (.tech .gaia) = .ok techAction ∧
      Trigger.compile "=> q!".toList (.tech .gaia) = .ok (techAction.setActivated true) ∧
      bookkeeping plainRun = bookkeeping markedRun ∧
      answers markedRun (play Change.onLedger markedRun empty).2 =
        [.ok .done, .ok (.found true), .ok (.count 1)] ∧
      ((play Change.onLedger (markedRun.take 3) empty).1.bucket (.known .income)).map
        Trigger.unmarked = [techIncome] := by
  have hsame : bookkeeping plainRun = bookkeeping markedRun := rfl
  obtain ⟨hanswers, hpoints⟩ := play_eq_of_bookkeeping_eq hsame
  obtain ⟨-, -, hbucket⟩ := hpoints 1 3 rfl
  exact ⟨rfl, rfl, hsame, hanswers.symm.trans rfl, (hbucket (.known .income)).symm.trans rfl⟩

end Ledger

end RuleTriggers
