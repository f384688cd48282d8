import Mathlib.Tactic.Common

/-!
# Finite runs of a deterministic machine

A machine is a step function `step : σ → ε → σ` that consumes one event at a
time; a run folds it over a finite list of events. `Along C s es` says that
every step of the run of `es` from `s` is taken in a state and with an event
that satisfy `C`. Invariants are carried along runs by `run_invariant`, and
conditions are compared along runs by `along_congr_of_invariant`.
-/

namespace Machine

variable {σ ε : Type*}

/-- The state reached from `s` after the events `es`, first event first. -/
def run (step : σ → ε → σ) (s : σ) (es : List ε) : σ :=
  es.foldl step s

/-- Every step of the run of `es` from `s` satisfies `C`: the state is the one
before the step. -/
def Along (step : σ → ε → σ) (C : σ → ε → Prop) : σ → List ε → Prop
  | _, [] => True
  | s, e :: es => C s e ∧ Along step C (step s e) es

@[simp] theorem run_nil (step : σ → ε → σ) (s : σ) : run step s [] = s := rfl

@[simp] theorem run_cons (step : σ → ε → σ) (s : σ) (e : ε) (es : List ε) :
    run step s (e :: es) = run step (step s e) es := rfl

theorem run_append (step : σ → ε → σ) (s : σ) (es fs : List ε) :
    run step s (es ++ fs) = run step (run step s es) fs := by
  simp [run, List.foldl_append]

theorem run_append_singleton (step : σ → ε → σ) (s : σ) (es : List ε) (e : ε) :
    run step s (es ++ [e]) = step (run step s es) e := by
  simp [run_append]

@[simp] theorem along_nil (step : σ → ε → σ) (C : σ → ε → Prop) (s : σ) :
    Along step C s [] := trivial

theorem along_cons (step : σ → ε → σ) (C : σ → ε → Prop) (s : σ) (e : ε) (es : List ε) :
    Along step C s (e :: es) ↔ C s e ∧ Along step C (step s e) es :=
  Iff.rfl

theorem along_append_singleton (step : σ → ε → σ) (C : σ → ε → Prop) (s : σ) (es : List ε)
    (e : ε) : Along step C s (es ++ [e]) ↔ Along step C s es ∧ C (run step s es) e := by
  induction es generalizing s with
  | nil => simp [along_cons]
  | cons d es ih => rw [List.cons_append, along_cons, along_cons, ih, run_cons, and_assoc]

instance decidableAlong (step : σ → ε → σ) (C : σ → ε → Prop) [∀ s e, Decidable (C s e)] :
    ∀ (s : σ) (es : List ε), Decidable (Along step C s es)
  | _, [] => isTrue trivial
  | s, e :: es =>
      have := decidableAlong step C (step s e) es
      inferInstanceAs (Decidable (C s e ∧ Along step C (step s e) es))

theorem Along.mono {step : σ → ε → σ} {C D : σ → ε → Prop} (h : ∀ s e, C s e → D s e) :
    ∀ {s : σ} {es : List ε}, Along step C s es → Along step D s es
  | _, [], _ => trivial
  | _, _ :: _, ⟨hC, hAlong⟩ => ⟨h _ _ hC, Along.mono h hAlong⟩

theorem along_of_forall {step : σ → ε → σ} {C : σ → ε → Prop} (h : ∀ s e, C s e) :
    ∀ (s : σ) (es : List ε), Along step C s es
  | _, [] => trivial
  | s, e :: es => ⟨h s e, along_of_forall h (step s e) es⟩

/-- Conditions that agree on every step agree on every run. -/
theorem along_congr {step : σ → ε → σ} {C D : σ → ε → Prop} (h : ∀ s e, C s e ↔ D s e) (s : σ)
    (es : List ε) : Along step C s es ↔ Along step D s es :=
  ⟨Along.mono fun t e => (h t e).1, Along.mono fun t e => (h t e).2⟩

/-- A property kept by every step that satisfies `C` holds at the end of every
run whose steps all satisfy `C`. -/
theorem run_invariant {step : σ → ε → σ} {C : σ → ε → Prop} {Inv : σ → Prop}
    (hstep : ∀ s e, Inv s → C s e → Inv (step s e)) {s : σ} {es : List ε}
    (hInv : Inv s) (hAlong : Along step C s es) : Inv (run step s es) := by
  induction es generalizing s with
  | nil => exact hInv
  | cons e es ih =>
      obtain ⟨hC, hrest⟩ := hAlong
      exact ih (hstep s e hInv hC) hrest

/-- The unconditional case: a property kept by every step holds after every
run. -/
theorem run_preserves {step : σ → ε → σ} {Inv : σ → Prop}
    (hstep : ∀ s e, Inv s → Inv (step s e)) {s : σ} (hInv : Inv s) (es : List ε) :
    Inv (run step s es) := by
  have hAlong : Along step (fun _ _ => True) s es := along_of_forall (fun _ _ => trivial) s es
  exact run_invariant (fun s e h _ => hstep s e h) hInv hAlong

/-- Conditions that agree on the steps from an invariant agree on the runs from it. The
invariant has to survive only the steps with `D`. -/
theorem along_iff_of_invariant {step : σ → ε → σ} {C D : σ → ε → Prop} {Inv : σ → Prop}
    (h : ∀ s e, Inv s → (C s e ↔ D s e)) (hstep : ∀ s e, Inv s → D s e → Inv (step s e)) {s : σ}
    (hInv : Inv s) (es : List ε) : Along step C s es ↔ Along step D s es := by
  induction es generalizing s with
  | nil => exact Iff.rfl
  | cons e es ih =>
      rw [along_cons, along_cons, h s e hInv]
      exact and_congr_right fun hD => ih (hstep s e hInv hD)

theorem along_congr_of_invariant {step : σ → ε → σ} {C D : σ → ε → Prop} {Inv : σ → Prop}
    (hstep : ∀ s e, Inv s → Inv (step s e)) (h : ∀ s e, Inv s → (C s e ↔ D s e)) {s : σ}
    (hInv : Inv s) (es : List ε) : Along step C s es ↔ Along step D s es :=
  along_iff_of_invariant h (fun t e ht _ => hstep t e ht) hInv es

/-- A property holds after every step of a run exactly when all the steps satisfy `C`, if
from an invariant that the steps with `C` keep `C` decides about the property. -/
theorem along_next_iff_of_invariant {step : σ → ε → σ} {C : σ → ε → Prop} {Good Inv : σ → Prop}
    (hgood : ∀ s e, Inv s → (Good (step s e) ↔ C s e))
    (hstep : ∀ s e, Inv s → C s e → Inv (step s e)) {s : σ} (hs : Inv s) (es : List ε) :
    Along step (fun t e => Good (step t e)) s es ↔ Along step C s es :=
  along_iff_of_invariant hgood hstep hs es

/-- The invariant is the property itself. -/
theorem along_next_iff {step : σ → ε → σ} {C : σ → ε → Prop} {Good : σ → Prop}
    (h : ∀ s e, Good s → (Good (step s e) ↔ C s e)) {s : σ} (hs : Good s) (es : List ε) :
    Along step (fun t e => Good (step t e)) s es ↔ Along step C s es :=
  along_next_iff_of_invariant h (fun t e ht => (h t e ht).2) hs es

end Machine
