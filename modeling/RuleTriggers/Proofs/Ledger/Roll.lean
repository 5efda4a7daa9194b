import RuleTriggers.Proofs.Ledger.Play

/-!
A ledger against a plain list. The roll of a player lists all triggers in the order of
registration, and a candidate is looked for in all of it, by spec alone. A ledger looks in one
bucket only; it finds the same trigger because the spec decides the operator. So a ledger and a
roll on which the same changes are made tell the same at every change, and each bucket is the part
of the roll with its operator.
-/

namespace RuleTriggers

/-! ### Lists -/

namespace Roll

section Lists

variable {α : Type} {p q : α → Bool}

/-- Erasing from a list erases from the part that holds all there is to erase. -/
lemma filter_eraseP_of_imp {as : List α} (h : ∀ a ∈ as, p a → q a) :
    (as.eraseP p).filter q = (as.filter q).eraseP p := by
  induction as with
  | nil => rfl
  | cons a as ih =>
    have hrest := ih fun b hb => h b (List.mem_cons_of_mem a hb)
    by_cases hp : p a
    · have hq := h a List.mem_cons_self hp
      simp [hp, hq]
    · by_cases hq : q a <;> simp [hp, hq, hrest]

/-- Erasing from a list leaves a part alone that holds nothing to erase. -/
lemma filter_eraseP_of_not {as : List α} (h : ∀ a ∈ as, p a → q a = false) :
    (as.eraseP p).filter q = as.filter q := by
  induction as with
  | nil => rfl
  | cons a as ih =>
    have hrest := ih fun b hb => h b (List.mem_cons_of_mem a hb)
    by_cases hp : p a
    · have hq := h a List.mem_cons_self hp
      simp [hp, hq]
    · by_cases hq : q a <;> simp [hp, hq, hrest]

/-- Changes the member that is the `n`-th of those with the property, counted from zero. -/
def modifyNth (p : α → Bool) (f : α → α) : Nat → List α → List α
  | _, [] => []
  | n, a :: as =>
    if p a then
      match n with
      | 0 => f a :: as
      | n + 1 => a :: modifyNth p f n as
    else a :: modifyNth p f n as

lemma filter_modifyNth_self {f : α → α} (hf : ∀ a, p (f a) = p a) (n : Nat) (as : List α) :
    (modifyNth p f n as).filter p = (as.filter p).modify n f := by
  induction as generalizing n with
  | nil => simp [modifyNth]
  | cons a as ih =>
    unfold modifyNth
    by_cases hp : p a
    · cases n with
      | zero => simp [hp, hf]
      | succ n => simp [hp, ih]
    · simp [hp, ih]

lemma filter_modifyNth_of_disjoint {f : α → α} (hf : ∀ a, q (f a) = q a)
    (hpq : ∀ a, p a → q a = false) (n : Nat) (as : List α) :
    (modifyNth p f n as).filter q = as.filter q := by
  induction as generalizing n with
  | nil => simp [modifyNth]
  | cons a as ih =>
    unfold modifyNth
    by_cases hp : p a
    · have hq := hpq a hp
      cases n with
      | zero => simp [hp, hq, hf]
      | succ n => simp [hp, hq, ih]
    · by_cases hq : q a <;> simp [hp, hq, ih]

end Lists

/-! ### Changes to a roll -/

/-- Takes back the first trigger with the spec of the candidate, and tells whether there was one. -/
def retract (roll : List Trigger) (candidate : Trigger) : List Trigger × Bool :=
  (roll.eraseP (·.spec = candidate.spec), roll.any (·.spec = candidate.spec))

/-- Takes back one candidate after another, and counts those that were there. -/
def retractList (roll : List Trigger) : List Trigger → List Trigger × Nat
  | [] => (roll, 0)
  | candidate :: rest =>
    let (roll, found) := retract roll candidate
    let (roll, n) := retractList roll rest
    (roll, n + found.toNat)

end Roll

/-- What the change makes of a roll, with what it tells. -/
def Change.onRoll : Change → List Trigger → Except Fault (List Trigger × Ledger.Outcome)
  | add ts, roll => .ok (roll ++ ts, .done)
  | retract candidate, roll =>
    let (roll, found) := Roll.retract roll candidate
    .ok (roll, .found found)
  | retractList candidates, roll =>
    let (roll, n) := Roll.retractList roll candidates
    .ok (roll, .count n)
  | retractSource source, roll =>
    .ok (roll.filter (·.source ≠ source), .count (roll.countP (·.source = source)))
  | setActivated o index activated, roll =>
    if index < roll.countP (·.operator = o) then
      .ok (Roll.modifyNth (·.operator = o) (·.setActivated activated) index roll, .done)
    else .error (.noTrigger (roll.countP (·.operator = o)))
  | deactivate o, roll =>
    .ok (roll.map fun t => if t.operator = o then t.setActivated false else t,
      .count (roll.countP fun t => t.operator = o && t.activated))

/-! ### Ledger and roll in step -/

namespace Ledger

/-- Each bucket is the part of the roll with its operator. -/
structure Tracks (l : Ledger) (roll : List Trigger) : Prop where
  coherent : l.Coherent
  bucket_eq : ∀ o, l.bucket o = roll.filter (·.operator = o)

lemma tracks_empty : empty.Tracks [] := ⟨coherent_empty, fun o => by simp⟩

section Tracks

variable {l : Ledger} {roll : List Trigger}

lemma Tracks.derived (h : l.Tracks roll) {t : Trigger} (ht : t ∈ roll) : t.Derived := by
  refine h.coherent.derived t.operator t ?_
  rw [h.bucket_eq]
  exact List.mem_filter.mpr ⟨ht, by simp⟩

/-- All triggers with the spec of a candidate are in the bucket that is searched for it. -/
lemma Tracks.operator_eq_of_spec_eq (h : l.Tracks roll) {candidate t : Trigger}
    (hc : candidate.Derived) (ht : t ∈ roll) (hspec : t.spec = candidate.spec) :
    t.operator = candidate.operator := by
  rw [Trigger.toSlots_eq_of_spec_eq (h.derived ht) hc hspec]

lemma Tracks.addList (h : l.Tracks roll) {ts : List Trigger} (hts : ∀ t ∈ ts, t.Derived) :
    (l.addList ts).Tracks (roll ++ ts) where
  coherent := h.coherent.addList hts
  bucket_eq o := by rw [bucket_addList, h.bucket_eq, List.filter_append]

lemma found_retract (l : Ledger) (candidate : Trigger) :
    (l.retract candidate).2 = (l.bucket candidate.operator).any (·.spec = candidate.spec) := by
  unfold Ledger.retract
  split
  · next hany => exact hany.symm
  · next hany => exact (Bool.not_eq_true _ ▸ hany : _ = false).symm

lemma Tracks.retract (h : l.Tracks roll) {candidate : Trigger} (hc : candidate.Derived) :
    (l.retract candidate).2 = (Roll.retract roll candidate).2 ∧
      (l.retract candidate).1.Tracks (Roll.retract roll candidate).1 := by
  have hop : ∀ t ∈ roll, t.spec = candidate.spec → t.operator = candidate.operator :=
    fun t ht hspec => h.operator_eq_of_spec_eq hc ht hspec
  refine ⟨?_, h.coherent.retract candidate, fun o => ?_⟩
  · rw [found_retract, h.bucket_eq, Roll.retract, List.any_filter, Bool.eq_iff_iff,
      List.any_eq_true, List.any_eq_true]
    refine exists_congr fun t => and_congr_right fun ht => ?_
    simpa using hop t ht
  · rw [bucket_retract, h.bucket_eq]
    split
    · next ho =>
      refine (Roll.filter_eraseP_of_imp fun t ht hspec => ?_).symm
      simpa [ho] using hop t ht (of_decide_eq_true hspec)
    · next ho =>
      refine (Roll.filter_eraseP_of_not fun t ht hspec => ?_).symm
      have := hop t ht (of_decide_eq_true hspec)
      exact decide_eq_false fun e => ho (e.symm.trans this)

lemma Tracks.retractList (h : l.Tracks roll) {candidates : List Trigger}
    (hcs : ∀ c ∈ candidates, c.Derived) :
    (l.retractList candidates).2 = (Roll.retractList roll candidates).2 ∧
      (l.retractList candidates).1.Tracks (Roll.retractList roll candidates).1 := by
  induction candidates generalizing l roll with
  | nil => exact ⟨rfl, h⟩
  | cons candidate rest ih =>
    obtain ⟨hfound, hnext⟩ := h.retract (hcs candidate List.mem_cons_self)
    obtain ⟨hcount, hlast⟩ := ih hnext fun c hc => hcs c (List.mem_cons_of_mem candidate hc)
    refine ⟨?_, hlast⟩
    simp only [Ledger.retractList, Roll.retractList, hfound, hcount]

/-- The ledger has the triggers of the roll, in an order of its own. -/
lemma Tracks.toList_perm (h : l.Tracks roll) : l.toList.Perm roll :=
  perm_of_filter_operator_eq fun o => by
    rw [filter_toList h.coherent.operator_eq, h.bucket_eq]

lemma Tracks.retractSource (h : l.Tracks roll) (source : Source) :
    (l.retractSource source).2 = roll.countP (·.source = source) ∧
      (l.retractSource source).1.Tracks (roll.filter (·.source ≠ source)) := by
  refine ⟨h.toList_perm.countP_eq _, h.coherent.retractSource source, fun o => ?_⟩
  rw [bucket_retractSource, h.bucket_eq, List.filter_comm]

lemma Tracks.setActivated (h : l.Tracks roll) (o : Operator) (index : Nat) (activated : Bool) :
    (l.setActivated o index activated).Tracks
      (Roll.modifyNth (·.operator = o) (·.setActivated activated) index roll) := by
  refine ⟨h.coherent.setActivated o index activated, fun p => ?_⟩
  have hsame : ∀ t : Trigger,
      decide ((t.setActivated activated).operator = p) = decide (t.operator = p) := fun t => rfl
  rw [bucket_setActivated]
  split
  · next hp =>
    subst hp
    rw [h.bucket_eq, Roll.filter_modifyNth_self hsame]
  · next hp =>
    rw [h.bucket_eq, Roll.filter_modifyNth_of_disjoint hsame]
    exact fun t ht => decide_eq_false fun e => hp (e.symm.trans (of_decide_eq_true ht))

lemma Tracks.deactivate (h : l.Tracks roll) (o : Operator) :
    (l.deactivate o).2 = roll.countP (fun t => t.operator = o && t.activated) ∧
      (l.deactivate o).1.Tracks
        (roll.map fun t => if t.operator = o then t.setActivated false else t) := by
  refine ⟨?_, h.coherent.deactivate o, fun p => ?_⟩
  · have hcount : (l.deactivate o).2 = (l.bucket o).countP (·.activated) := rfl
    rw [hcount, h.bucket_eq, List.countP_filter]
    exact List.countP_congr fun t _ => by simp [and_comm]
  · have hsame : ∀ t : Trigger,
        (if t.operator = o then t.setActivated false else t).operator = t.operator := by
      intro t
      split <;> rfl
    rw [bucket_deactivate, List.filter_map]
    simp only [Function.comp_def, hsame, h.bucket_eq]
    split
    · next hp =>
      subst hp
      refine List.map_congr_left fun t ht => ?_
      rw [if_pos (of_decide_eq_true (List.mem_filter.mp ht).2)]
    · next hp =>
      have hid : ∀ t ∈ roll.filter (·.operator = p),
          (if t.operator = o then t.setActivated false else t) = id t := by
        intro t ht
        have ht : t.operator = p := of_decide_eq_true (List.mem_filter.mp ht).2
        rw [if_neg fun e => hp (ht.symm.trans e), id]
      rw [List.map_congr_left hid, List.map_id]

lemma settle_setActivated (h : l.Tracks roll) (o : Operator) (index : Nat) (activated : Bool) :
    let c : Change := .setActivated o index activated
    (settle Change.onLedger c l).2 = (settle Change.onRoll c roll).2 ∧
      (settle Change.onLedger c l).1.Tracks (settle Change.onRoll c roll).1 := by
  intro c
  have hlen : (l.bucket o).length = roll.countP (·.operator = o) := by
    rw [h.bucket_eq, List.countP_eq_length_filter]
  by_cases hi : index < roll.countP (·.operator = o)
  · have hledger : c.onLedger l = .ok (l.setActivated o index activated, .done) := by
      have hlt : index < (l.bucket o).length := hlen ▸ hi
      have hget : (l.bucket o)[index]? = some (l.bucket o)[index] := List.getElem?_eq_getElem hlt
      simp [c, Change.onLedger, Change.toStep, Step.run, trigger, hget, bind, Except.bind]
    have hroll : c.onRoll roll =
        .ok (Roll.modifyNth (·.operator = o) (·.setActivated activated) index roll, .done) := by
      simp only [c, Change.onRoll, if_pos hi]
    rw [settle_of_ok hledger, settle_of_ok hroll]
    exact ⟨rfl, h.setActivated o index activated⟩
  · have hledger : c.onLedger l = .error (.noTrigger (l.bucket o).length) := by
      have hget : (l.bucket o)[index]? = none := List.getElem?_eq_none (by omega)
      simp [c, Change.onLedger, Change.toStep, Step.run, trigger, hget, bind, Except.bind]
    have hroll : c.onRoll roll = .error (.noTrigger (roll.countP (·.operator = o))) := by
      simp only [c, Change.onRoll, if_neg hi]
    rw [settle_of_error hledger, settle_of_error hroll, hlen]
    exact ⟨rfl, h⟩

/-- One change on both. -/
lemma Tracks.settle (h : l.Tracks roll) {c : Change} (hc : c.Compiled) :
    (settle Change.onLedger c l).2 = (settle Change.onRoll c roll).2 ∧
      (settle Change.onLedger c l).1.Tracks (settle Change.onRoll c roll).1 := by
  cases c with
  | add ts => exact ⟨rfl, h.addList fun t ht => (hc t ht).derived⟩
  | retract candidate =>
    obtain ⟨hfound, hnext⟩ := h.retract (Trigger.Compiled.derived hc)
    exact ⟨congrArg (Except.ok <| Outcome.found ·) hfound, hnext⟩
  | retractList candidates =>
    obtain ⟨hcount, hnext⟩ := h.retractList fun t ht => (hc t ht).derived
    exact ⟨congrArg (Except.ok <| Outcome.count ·) hcount, hnext⟩
  | retractSource source =>
    obtain ⟨hcount, hnext⟩ := h.retractSource source
    exact ⟨congrArg (Except.ok <| Outcome.count ·) hcount, hnext⟩
  | setActivated o index activated => exact settle_setActivated h o index activated
  | deactivate o =>
    obtain ⟨hcount, hnext⟩ := h.deactivate o
    exact ⟨congrArg (Except.ok <| Outcome.count ·) hcount, hnext⟩

end Tracks

/-! ### What a ledger shows -/

/-- The triggers of `roll` in another order, those with one operator as they stand. -/
def Regroups (ts roll : List Trigger) : Prop :=
  ts.Perm roll ∧ ∀ o : Operator, ts.filter (·.operator = o) = roll.filter (·.operator = o)

/-- What a ledger shows is what the roll has. Its buckets may be walked in any order. -/
structure Shows (l : Ledger) (roll : List Trigger) : Prop where
  bucket_eq : ∀ o, l.bucket o = roll.filter (·.operator = o)
  size_eq : l.size = roll.length
  isEmpty_iff : l.isEmpty = true ↔ roll = []
  toList_regroups : ∀ m : Ledger, m.Same l → Regroups m.toList roll
  fromSource_regroups : ∀ m : Ledger, m.Same l → ∀ source,
    Regroups (m.fromSource source) (roll.filter (·.source = source))

lemma Tracks.shows {l : Ledger} {roll : List Trigger} (h : l.Tracks roll) : l.Shows roll := by
  have hwalk : ∀ m : Ledger, m.Same l → Regroups m.toList roll := by
    intro m hm
    refine ⟨hm.toList_perm.trans h.toList_perm, fun o => ?_⟩
    rw [filter_toList (h.coherent.of_same hm).operator_eq, hm.bucket_eq, h.bucket_eq]
  refine ⟨h.bucket_eq, ?_, ?_, hwalk, fun m hm source => ?_⟩
  · rw [size_eq_length_toList, h.toList_perm.length_eq]
  · rw [isEmpty_iff_toList_eq_nil h.coherent.filled]
    exact ⟨fun hnil => by simpa [hnil] using h.toList_perm,
      fun hnil => by simpa [hnil] using h.toList_perm⟩
  · obtain ⟨hperm, hfilter⟩ := hwalk m hm
    refine ⟨hperm.filter _, fun o => ?_⟩
    rw [fromSource, List.filter_comm, hfilter, List.filter_comm]

/-- **A ledger is a roll in buckets.** Whatever changes are made from the start, both tell the same
at every change, and after every change the ledger shows what the roll has. -/
theorem play_shows_roll {cs : List Change} (hcs : ∀ c ∈ cs, c.Compiled) :
    (play Change.onLedger cs empty).2 = (play Change.onRoll cs []).2 ∧
      ∀ n, (play Change.onLedger (cs.take n) empty).1.Shows
        (play Change.onRoll (cs.take n) []).1 := by
  have hplay : ∀ ds : List Change, (∀ c ∈ ds, c.Compiled) →
      (play Change.onLedger ds empty).2 = (play Change.onRoll ds []).2 ∧
        (play Change.onLedger ds empty).1.Tracks (play Change.onRoll ds []).1 :=
    fun ds hds => play_of_settle (fun c l roll hc h => Tracks.settle h hc) hds tracks_empty
  refine ⟨(hplay cs hcs).1, fun n => ?_⟩
  exact (hplay _ fun c hc => hcs c (List.mem_of_mem_take hc)).2.shows

/-- The action of a booster, written `=> 4c`. -/
def boosterAction : Trigger where
  condition := .none
  operator := .known .activate
  picks := 0
  rewards := [⟨4, .known .credit⟩]
  spec := ['=', '>', ' ', '4', 'c']
  source := .numbered .booster 3
  activated := false

/-- The income of a booster, written `+k`. -/
def boosterIncome : Trigger where
  condition := .none
  operator := .known .income
  picks := 0
  rewards := [⟨1, .known .knowledge⟩]
  spec := ['+', 'k']
  source := .numbered .booster 3
  activated := false

/-- A booster is taken and its action used. Another piece takes the action back all the same. -/
def boosterRun : List Change :=
  [.add [boosterAction, boosterIncome],
    .setActivated (.known .activate) 0 true,
    .setActivated (.known .pass) 0 true,
    .retract { boosterAction with source := .numbered .roundScoring 2 },
    .retractSource (.numbered .booster 3)]

theorem play_boosterRun_shows_roll :
    (play Change.onLedger boosterRun empty).2 =
        [.ok .done, .ok .done, .error (.noTrigger 0), .ok (.found true), .ok (.count 1)] ∧
      (play Change.onLedger (boosterRun.take 4) empty).1.Shows [boosterIncome] := by
  have hcs : ∀ c ∈ boosterRun, c.Compiled := by
    have haction : ∀ source, { boosterAction with source }.Compiled :=
      fun source => ⟨boosterAction.spec, rfl⟩
    have hincome : boosterIncome.Compiled := ⟨boosterIncome.spec, rfl⟩
    simp only [boosterRun, List.forall_mem_cons, Change.Compiled]
    exact ⟨⟨haction _, hincome, by simp⟩, trivial, trivial, haction _, trivial, by simp⟩
  obtain ⟨hout, hshows⟩ := play_shows_roll hcs
  exact ⟨hout.trans rfl, hshows 4⟩

end Ledger

end RuleTriggers
