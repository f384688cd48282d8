import UsbPd.Machine.Run

/-!
# Observed machines

An observer sees every step of a machine and keeps a memory, which the machine
never reads. A run of the observed machine is a run of the machine, so facts about
what happened earlier in a run can be stated with the memory.
-/

namespace Machine

variable {σ ε μ : Type*}

/-- The machine with an observer: the memory after a step is `note` of the step. -/
def observed (step : σ → ε → σ) (note : σ → ε → μ → μ) (s : σ × μ) (e : ε) : σ × μ :=
  (step s.1 e, note s.1 e s.2)

/-- The observer does not disturb the machine. -/
theorem run_observed_fst (step : σ → ε → σ) (note : σ → ε → μ → μ) (s : σ × μ) (es : List ε) :
    (run (observed step note) s es).1 = run step s.1 es := by
  induction es generalizing s with
  | nil => rfl
  | cons e es ih => exact ih (observed step note s e)

/-- A condition on the machine's own steps. -/
theorem along_observed (step : σ → ε → σ) (note : σ → ε → μ → μ) (C : σ → ε → Prop) (s : σ × μ)
    (es : List ε) :
    Along (observed step note) (fun t e => C t.1 e) s es ↔ Along step C s.1 es := by
  induction es generalizing s with
  | nil => exact Iff.rfl
  | cons e es ih =>
      rw [along_cons, along_cons, ih]
      rfl

/-- A property of state and memory that a step keeps exactly when it satisfies `C` holds
all along a run exactly when all its steps satisfy `C`. -/
theorem along_observed_iff {step : σ → ε → σ} {note : σ → ε → μ → μ} {Inv : σ → Prop}
    {Good : σ × μ → Prop} {C : σ → ε → Prop} (hInv : ∀ s e, Inv s → Inv (step s e))
    (hGood : ∀ s m e, Inv s → Good (s, m) → (Good (observed step note (s, m) e) ↔ C s e))
    {s : σ} {m : μ} (hs : Inv s) (hm : Good (s, m)) (es : List ε) :
    Along (observed step note) (fun t e => Good (observed step note t e)) (s, m) es ↔
      Along step C s es := by
  have hnext := along_next_iff_of_invariant
    (fun t e (ht : Inv t.1 ∧ Good t) => hGood t.1 t.2 e ht.1 ht.2)
    (fun t e ht hC => ⟨hInv t.1 e ht.1, (hGood t.1 t.2 e ht.1 ht.2).2 hC⟩) ⟨hs, hm⟩ es
  exact hnext.trans (along_observed step note C (s, m) es)

end Machine
