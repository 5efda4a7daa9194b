import Mathlib.Logic.Basic
import Mathlib.Tactic.Lemma
import RuleTriggers.Run

/-!
What is kept by a run of changes. Whatever single changes keep, whether they succeed or fail, a
run of them keeps; two runs may be made side by side, and one of them may leave out the changes
that do not concern it.
-/

namespace RuleTriggers

variable {γ δ σ τ ε ε' ρ ρ' : Type} {act : γ → σ → Except ε (σ × ρ)}
  {act' : δ → τ → Except ε' (τ × ρ')}

/-- Of what the changes of a run tell, what each leaves to a share. -/
def shares {α β : Type} (share? : γ → α → Option β) (cs : List γ) (told : List α) : List β :=
  (cs.zip told).filterMap fun p => share? p.1 p.2

lemma shares_cons_of_none {α β : Type} {share? : γ → α → Option β} {c : γ} {a : α}
    (h : share? c a = none) (cs : List γ) (told : List α) :
    shares share? (c :: cs) (a :: told) = shares share? cs told :=
  List.filterMap_cons_none h

lemma shares_cons_of_some {α β : Type} {share? : γ → α → Option β} {c : γ} {a : α} {b : β}
    (h : share? c a = some b) (cs : List γ) (told : List α) :
    shares share? (c :: cs) (a :: told) = b :: shares share? cs told :=
  List.filterMap_cons_some h

lemma settle_of_ok {c : γ} {s next : σ} {outcome : ρ} (h : act c s = .ok (next, outcome)) :
    settle act c s = (next, .ok outcome) := by
  simp [settle, h]

lemma settle_of_error {c : γ} {s : σ} {fault : ε} (h : act c s = .error fault) :
    settle act c s = (s, .error fault) := by
  simp [settle, h]

/-- A change that fails leaves all as it was. -/
lemma fst_settle_of_error {c : γ} {s : σ} {fault : ε} (h : (settle act c s).2 = .error fault) :
    (settle act c s).1 = s := by
  cases hact : act c s with
  | error e => rw [settle_of_error hact]
  | ok next =>
    rw [settle_of_ok hact] at h
    cases h

/-- What every change keeps, every run keeps. -/
lemma fst_play {I : σ → Prop} (hsettle : ∀ c s, I s → I (settle act c s).1) (cs : List γ) {s : σ}
    (h : I s) : I (play act cs s).1 := by
  induction cs generalizing s with
  | nil => exact h
  | cons c cs ih => exact ih (hsettle c s h)

/-- **Runs in step.** Two ways of making changes that stay related and tell the same at every
change do so in every run. -/
lemma play_of_settle {act' : γ → τ → Except ε (τ × ρ)} {R : σ → τ → Prop} {P : γ → Prop}
    (hsettle : ∀ c s t, P c → R s t →
      (settle act c s).2 = (settle act' c t).2 ∧ R (settle act c s).1 (settle act' c t).1)
    {cs : List γ} (hcs : ∀ c ∈ cs, P c) {s : σ} {t : τ} (h : R s t) :
    (play act cs s).2 = (play act' cs t).2 ∧ R (play act cs s).1 (play act' cs t).1 := by
  induction cs generalizing s t with
  | nil => exact ⟨rfl, h⟩
  | cons c cs ih =>
    obtain ⟨hout, hnext⟩ := hsettle c s t (hcs c List.mem_cons_self) h
    obtain ⟨houts, hlast⟩ := ih (fun d hd => hcs d (List.mem_cons_of_mem c hd)) hnext
    exact ⟨congrArg₂ List.cons hout houts, hlast⟩

/-- **A part of a run.** Changes that have no part elsewhere keep the relation and tell nothing
there; the others do there what their part does, and tell it. So a run, seen from there, is the
run of the parts. -/
lemma play_filterMap {R : σ → τ → Prop} {part? : γ → Option δ}
    {share? : γ → Except ε ρ → Option (Except ε' ρ')}
    (hnone : ∀ {c s t}, R s t → part? c = none →
      R (settle act c s).1 t ∧ share? c (settle act c s).2 = none)
    (hsome : ∀ {c d s t}, R s t → part? c = some d →
      R (settle act c s).1 (settle act' d t).1 ∧
        share? c (settle act c s).2 = some (settle act' d t).2)
    (cs : List γ) {s : σ} {t : τ} (h : R s t) :
    R (play act cs s).1 (play act' (cs.filterMap part?) t).1 ∧
      shares share? cs (play act cs s).2 = (play act' (cs.filterMap part?) t).2 := by
  induction cs generalizing s t with
  | nil => exact ⟨h, rfl⟩
  | cons c cs ih =>
    cases hpart : part? c with
    | none =>
      obtain ⟨hnext, hshare⟩ := hnone h hpart
      obtain ⟨hlast, hrest⟩ := ih hnext
      rw [List.filterMap_cons_none hpart]
      exact ⟨hlast, (shares_cons_of_none hshare cs _).trans hrest⟩
    | some d =>
      obtain ⟨hnext, hshare⟩ := hsome h hpart
      obtain ⟨hlast, hrest⟩ := ih hnext
      rw [List.filterMap_cons_some hpart]
      exact ⟨hlast, (shares_cons_of_some hshare cs _).trans (congrArg (List.cons _) hrest)⟩

end RuleTriggers
