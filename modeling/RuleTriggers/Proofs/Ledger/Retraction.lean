import Mathlib.Algebra.BigOperators.Group.Finset.Piecewise
import RuleTriggers.Proofs.Ledger.Representation
import RuleTriggers.Proofs.Ledger.Roll

/-!
Taking back many candidates at once. Each takes out the first trigger with its spec, so of every
spec the first so many go as there are candidates with it, or as there are triggers. Neither the
order of the candidates nor their sources and marks matter.
-/

namespace RuleTriggers

/-! ### Counting specs -/

/-- How many of the triggers have the spec. -/
def Trigger.tally (ts : List Trigger) (s : Text) : Nat := ts.countP (·.spec = s)

/-- What a trigger is, apart from where it comes from and whether it is activated. -/
def Trigger.content (t : Trigger) : Text × Slots := (t.spec, t.toSlots)

lemma Trigger.Derived.of_content {t u : Trigger} (h : t.Derived)
    (hcontent : t.content = u.content) : u.Derived := by
  obtain ⟨hspec, hslots⟩ := Prod.mk.inj hcontent
  unfold Derived at h ⊢
  rwa [← hspec, ← hslots]

namespace Roll

/-- The triggers without the first so many of each spec, where `quota` says how many. -/
def beyond (quota : Text → Nat) (ts : List Trigger) : List Trigger :=
  (ts.zipIdx.filter fun (t, i) => quota t.spec ≤ Trigger.tally (ts.take i) t.spec).map (·.1)

open Trigger (tally)

lemma tally_cons (t : Trigger) (ts : List Trigger) (s : Text) :
    tally (t :: ts) s = tally ts s + if t.spec = s then 1 else 0 := by
  simp [tally, List.countP_cons]

lemma tally_append (ts us : List Trigger) (s : Text) :
    tally (ts ++ us) s = tally ts s + tally us s := by
  simp [tally]

lemma tally_eq_of_perm {ts us : List Trigger}
    (h : (ts.map Trigger.spec).Perm (us.map Trigger.spec)) : tally ts = tally us := by
  funext s
  have hcount := h.countP_eq (· = s)
  rwa [List.countP_map, List.countP_map] at hcount

/-- The first trigger goes if its spec is to be taken out at all, and then one less of it is. -/
lemma beyond_cons (quota : Text → Nat) (t : Trigger) (ts : List Trigger) :
    beyond quota (t :: ts) =
      (if quota t.spec = 0 then [t] else []) ++
        beyond (fun s => quota s - if t.spec = s then 1 else 0) ts := by
  have hrest : ts.zipIdx 1 = ts.zipIdx.map (Prod.map id (· + 1)) := by
    rw [List.map_snd_add_zipIdx_eq_zipIdx]
  have hquota : ∀ (u : Trigger) (i : Nat),
      (quota u.spec ≤ tally ((t :: ts).take (i + 1)) u.spec) =
        (quota u.spec - (if t.spec = u.spec then 1 else 0) ≤ tally (ts.take i) u.spec) := by
    intro u i
    rw [List.take_succ_cons, tally_cons, Nat.sub_le_iff_le_add]
  unfold beyond
  rw [List.zipIdx_cons, hrest, List.filter_cons, List.filter_map]
  simp only [Function.comp_def, Prod.map, id, hquota]
  by_cases ht : quota t.spec = 0 <;> simp [ht, tally]

/-- Taking one out before, by its spec, is taking one more out. -/
lemma beyond_eraseP (quota : Text → Nat) (s : Text) (ts : List Trigger) :
    beyond quota (ts.eraseP (·.spec = s)) =
      beyond (fun r => quota r + if s = r then 1 else 0) ts := by
  induction ts generalizing quota with
  | nil => rfl
  | cons t ts ih =>
    rw [beyond_cons]
    by_cases ht : t.spec = s
    · subst ht
      simp
    · have hquota : ∀ r, (quota r - if t.spec = r then 1 else 0) + (if s = r then 1 else 0) =
          quota r + (if s = r then 1 else 0) - if t.spec = r then 1 else 0 := by
        intro r
        by_cases hr : t.spec = r
        · subst hr
          simp [Ne.symm ht]
        · simp [hr]
      simp [ht, Ne.symm ht, beyond_cons, ih, hquota]

lemma beyond_zero (ts : List Trigger) : beyond (fun _ => 0) ts = ts := by
  simp [beyond]

/-- More of a spec than there is cannot be taken out. -/
lemma beyond_min {quota bound : Text → Nat} {ts : List Trigger}
    (h : ∀ t ∈ ts, tally ts t.spec ≤ bound t.spec) :
    beyond (fun s => min (bound s) (quota s)) ts = beyond quota ts := by
  unfold beyond
  congr 1
  refine List.filter_congr fun ti hmem => ?_
  obtain ⟨hi, ht⟩ := List.mem_zipIdx' hmem
  have hbound := h ti.1 (ht ▸ List.getElem_mem hi)
  -- the trigger itself is not among those in front of it
  have hlt : tally (ts.take ti.2) ti.1.spec < tally ts ti.1.spec := by
    conv => rhs; rw [← List.take_append_drop ti.2 ts, List.drop_eq_getElem_cons hi]
    rw [tally_append, tally_cons, ht, if_pos rfl]
    omega
  simp only [decide_eq_decide]
  omega

/-! ### Candidates and a plain list -/

lemma tally_eraseP (r : Text) (ts : List Trigger) (s : Text) :
    tally (ts.eraseP (·.spec = r)) s = tally ts s - if r = s then 1 else 0 := by
  induction ts with
  | nil => simp [tally]
  | cons t ts ih =>
    by_cases ht : t.spec = r
    · subst ht
      simp [tally_cons]
    · simp only [List.eraseP_cons, ht, decide_false, cond_false, tally_cons, ih]
      by_cases hr : r = s
      · subst hr
        simp [ht]
      · simp [hr]

lemma any_iff_tally_pos (s : Text) (ts : List Trigger) :
    ts.any (·.spec = s) = true ↔ 0 < tally ts s := by
  rw [List.any_eq_true, tally, List.countP_pos_iff]

/-- Each candidate takes one trigger off those with its spec, as long as there are any. -/
lemma tally_retractList (roll cs : List Trigger) (s : Text) :
    tally (retractList roll cs).1 s = tally roll s - tally cs s := by
  induction cs generalizing roll with
  | nil => rfl
  | cons c rest ih =>
    have hcons : (retractList roll (c :: rest)).1 =
        (retractList (roll.eraseP (·.spec = c.spec)) rest).1 := rfl
    rw [hcons, ih, tally_eraseP, tally_cons]
    omega

/-- The candidates that are found are counted spec by spec. -/
lemma snd_retractList (roll : List Trigger) {cs : List Trigger} {specs : Finset Text}
    (h : ∀ c ∈ cs, c.spec ∈ specs) :
    (retractList roll cs).2 = ∑ s ∈ specs, min (tally roll s) (tally cs s) := by
  induction cs generalizing roll with
  | nil => simp [retractList, tally]
  | cons c rest ih =>
    have hrest := ih (roll.eraseP (·.spec = c.spec)) fun d hd => h d (List.mem_cons_of_mem c hd)
    have hfound := any_iff_tally_pos c.spec roll
    have hmin : ∀ s, min (tally roll s) (tally (c :: rest) s) =
        min (tally (roll.eraseP (·.spec = c.spec)) s) (tally rest s) +
          if c.spec = s then (roll.any (·.spec = c.spec)).toNat else 0 := by
      intro s
      rw [tally_eraseP, tally_cons]
      by_cases hs : c.spec = s
      · subst hs
        by_cases hany : roll.any (·.spec = c.spec) = true
        · have := hfound.mp hany
          simp only [hany, if_true, Bool.toNat_true]
          omega
        · have := mt hfound.mpr hany
          simp only [hany, if_true, Bool.toNat_false]
          omega
      · simp [hs]
    calc (retractList roll (c :: rest)).2
        = (retractList (roll.eraseP (·.spec = c.spec)) rest).2 +
            (roll.any (·.spec = c.spec)).toNat := rfl
      _ = ∑ s ∈ specs, min (tally roll s) (tally (c :: rest) s) := by
        simp only [hmin, Finset.sum_add_distrib, Finset.sum_ite_eq,
          if_pos (h c List.mem_cons_self), hrest]

end Roll

namespace Ledger

variable {l : Ledger} {cs : List Trigger}

/-- How many triggers with a spec are taken back: as many as there are, or as are asked for. -/
def takenBack (l : Ledger) (cs : List Trigger) (s : Text) : Nat :=
  min (Trigger.tally l.toList s) (Trigger.tally cs s)

lemma Coherent.tracks_toList (h : l.Coherent) : l.Tracks l.toList :=
  ⟨h, fun o => (filter_toList h.operator_eq o).symm⟩

/-- A candidate changes no bucket but its own, so it might as well be looked for in all. -/
lemma Coherent.bucket_retract_eq (h : l.Coherent) {candidate : Trigger}
    (hc : candidate.Derived) (o : Operator) :
    (l.retract candidate).1.bucket o = (l.bucket o).eraseP (·.spec = candidate.spec) := by
  rw [bucket_retract]
  split
  · rfl
  · next ho =>
    refine (List.eraseP_of_forall_not fun t ht hspec => ho ?_).symm
    have hslots := Trigger.toSlots_eq_of_spec_eq (h.derived o t ht) hc (of_decide_eq_true hspec)
    rw [← h.operator_eq o t ht, hslots]

lemma Coherent.bucket_retractList (h : l.Coherent) (hcs : ∀ c ∈ cs, c.Derived) (o : Operator) :
    (l.retractList cs).1.bucket o = Roll.beyond (Trigger.tally cs) (l.bucket o) := by
  induction cs generalizing l with
  | nil => exact (Roll.beyond_zero _).symm
  | cons c rest ih =>
    have hrest := ih (h.retract c) fun d hd => hcs d (List.mem_cons_of_mem c hd)
    have hquota : (fun s => Trigger.tally rest s + if c.spec = s then 1 else 0) =
        Trigger.tally (c :: rest) := funext fun s => (Roll.tally_cons c rest s).symm
    calc (l.retractList (c :: rest)).1.bucket o
        = ((l.retract c).1.retractList rest).1.bucket o := rfl
      _ = Roll.beyond (Trigger.tally (c :: rest)) (l.bucket o) := by
        rw [hrest, h.bucket_retract_eq (hcs c List.mem_cons_self), Roll.beyond_eraseP, hquota]

lemma Coherent.snd_retractList (h : l.Coherent) (hcs : ∀ c ∈ cs, c.Derived) :
    (l.retractList cs).2 = ∑ s ∈ (cs.map Trigger.spec).toFinset, l.takenBack cs s := by
  have hspecs : ∀ c ∈ cs, c.spec ∈ (cs.map Trigger.spec).toFinset :=
    fun c hc => List.mem_toFinset.mpr (List.mem_map_of_mem hc)
  rw [(h.tracks_toList.retractList hcs).1, Roll.snd_retractList l.toList hspecs]
  rfl

/-- What is taken back of a spec, and what is left of it, are all that there was. -/
lemma Coherent.tally_retractList (h : l.Coherent) (hcs : ∀ c ∈ cs, c.Derived) (s : Text) :
    Trigger.tally (l.retractList cs).1.toList s + l.takenBack cs s =
      Trigger.tally l.toList s := by
  have hleft : Trigger.tally (l.retractList cs).1.toList s =
      Trigger.tally l.toList s - Trigger.tally cs s := by
    rw [← Roll.tally_retractList]
    exact (h.tracks_toList.retractList hcs).2.toList_perm.countP_eq _
  unfold takenBack
  omega

/-- A bucket has no more of a spec than the ledger. -/
lemma tally_bucket_le (h : l.Coherent) (o : Operator) (s : Text) :
    Trigger.tally (l.bucket o) s ≤ Trigger.tally l.toList s := by
  rw [← filter_toList h.operator_eq]
  exact List.filter_sublist.countP_le

/-- **Taking back a list of candidates.** Of every spec the first so many triggers go as there are
candidates with it, or as there are triggers, and all others stay as they are. The order of the
candidates, where they come from and whether they are activated is of no account. -/
theorem retractList_takenBack (hl : Reachable l) (hcs : ∀ c ∈ cs, c.Compiled) :
    (l.retractList cs).2 = ∑ s ∈ (cs.map Trigger.spec).toFinset, l.takenBack cs s ∧
      (∀ o, (l.retractList cs).1.bucket o = Roll.beyond (l.takenBack cs) (l.bucket o)) ∧
      (∀ s, Trigger.tally (l.retractList cs).1.toList s + l.takenBack cs s =
        Trigger.tally l.toList s) ∧
      (l.retractList cs).1.Filled ∧
      ∀ ds : List Trigger, (ds.map Trigger.content).Perm (cs.map Trigger.content) →
        (l.retractList ds).2 = (l.retractList cs).2 ∧
          (l.retractList ds).1.Same (l.retractList cs).1 := by
  have h := hl.coherent
  have hderived : ∀ c ∈ cs, c.Derived := fun c hc => (hcs c hc).derived
  refine ⟨h.snd_retractList hderived, fun o => ?_, h.tally_retractList hderived,
    (h.retractList cs).filled, fun ds hds => ?_⟩
  · have hbound : ∀ t ∈ l.bucket o,
        Trigger.tally (l.bucket o) t.spec ≤ Trigger.tally l.toList t.spec :=
      fun t _ => tally_bucket_le h o t.spec
    rw [h.bucket_retractList hderived]
    exact (Roll.beyond_min hbound).symm
  · have hderived' : ∀ d ∈ ds, d.Derived := by
      intro d hd
      obtain ⟨c, hc, hcontent⟩ := List.mem_map.mp (hds.mem_iff.mp (List.mem_map_of_mem hd))
      exact (hderived c hc).of_content hcontent
    have hspecs : (ds.map Trigger.spec).Perm (cs.map Trigger.spec) := by
      simpa [Trigger.content, Function.comp_def] using hds.map Prod.fst
    have htally : Trigger.tally ds = Trigger.tally cs := Roll.tally_eq_of_perm hspecs
    refine ⟨?_, ?_⟩
    · rw [h.snd_retractList hderived, h.snd_retractList hderived',
        List.toFinset_eq_of_perm _ _ hspecs]
      unfold takenBack
      rw [htally]
    · refine (same_iff_bucket_eq (h.retractList ds).filled (h.retractList cs).filled).mpr ?_
      intro o
      rw [h.bucket_retractList hderived, h.bucket_retractList hderived', htally]

/-- Three incomes of one kind, the second of them from a booster, and an action between them. -/
def mixedTriggers : List Trigger :=
  [techIncome, techAction, { techIncome with source := .numbered .booster 3 },
    techIncome.setActivated true]

/-- The action is asked for twice, before and after the bucket it is in goes away. -/
def mixedCandidates : List Trigger :=
  [techAction, techIncome.setActivated true, techAction, techIncome]

theorem retractList_mixedCandidates :
    Reachable (ofList mixedTriggers) ∧ (∀ c ∈ mixedCandidates, c.Compiled) ∧
      ((ofList mixedTriggers).retractList mixedCandidates).2 = 3 ∧
      ((ofList mixedTriggers).retractList mixedCandidates).1.bucket (.known .income) =
        [techIncome.setActivated true] ∧
      ((ofList mixedTriggers).retractList mixedCandidates.reverse).1.Same
        ((ofList mixedTriggers).retractList mixedCandidates).1 := by
  have hincome : techIncome.Compiled := ⟨techIncome.spec, rfl⟩
  have hactivated : (techIncome.setActivated true).Compiled := ⟨"+k!".toList, rfl⟩
  have hbooster : { techIncome with source := .numbered .booster 3 }.Compiled :=
    ⟨techIncome.spec, rfl⟩
  have haction : techAction.Compiled := ⟨techAction.spec, rfl⟩
  have htriggers : ∀ t ∈ mixedTriggers, t.Compiled := by
    simp only [mixedTriggers, List.forall_mem_cons]
    exact ⟨hincome, haction, hbooster, hactivated, by simp⟩
  have hcandidates : ∀ c ∈ mixedCandidates, c.Compiled := by
    simp only [mixedCandidates, List.forall_mem_cons]
    exact ⟨haction, hactivated, haction, hincome, by simp⟩
  have hl : Reachable (ofList mixedTriggers) := reachable_ofList htriggers
  obtain ⟨hcount, hbucket, -, -, hsame⟩ := retractList_takenBack hl hcandidates
  have hreverse := (List.reverse_perm mixedCandidates).map Trigger.content
  exact ⟨hl, hcandidates, hcount.trans (by decide +kernel),
    (hbucket (.known .income)).trans (by decide +kernel), (hsame _ hreverse).2⟩

end Ledger

end RuleTriggers
