/-!
Runs of changes that can fail. A change that fails leaves everything as it was, and the run goes
on with the next one.
-/

namespace RuleTriggers

variable {γ σ ε ρ : Type} (act : γ → σ → Except ε (σ × ρ))

/-- What is left after a change, and what came of it; after a fault all is as before. -/
def settle (c : γ) (s : σ) : σ × Except ε ρ :=
  match act c s with
  | .ok (next, outcome) => (next, .ok outcome)
  | .error fault => (s, .error fault)

/-- One change after another, with what came of each. -/
def play : List γ → σ → σ × List (Except ε ρ)
  | [], s => (s, [])
  | c :: cs, s =>
    let (next, outcome) := settle act c s
    let (last, outcomes) := play cs next
    (last, outcome :: outcomes)

end RuleTriggers
