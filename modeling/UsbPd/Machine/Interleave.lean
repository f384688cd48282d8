import Mathlib.Logic.Function.Basic
import UsbPd.Machine.Observer

/-!
# Machines that share a memory

The members of a fleet have a memory each and one memory in common, and the runs of
the fleet interleave the steps of its members. What a member makes of its own memory
and of the common one is its *view*; the view is enough when the view before a step
decides the view after it. Then the steps of the other members can be left out of a
run, without any effect on what a member sees, exactly when the member finds the view
that its own last step left at each of its steps.
-/

namespace Machine

variable {ι π σ ε ω α : Type*}

/-- The memories of a fleet. -/
structure Fleet (ι π σ : Type*) where
  own : ι → π
  shared : σ

namespace Fleet

/-- The view of the member `j`. -/
def view (look : ι → π → σ → ω) (j : ι) (s : Fleet ι π σ) : ω := look j (s.own j) s.shared

/-- The view before a step decides the view after it. -/
def Enough (act : ι → π → σ → ε → π × σ) (look : ι → π → σ → ω) : Prop :=
  ∀ i a a' s s' e, look i a s = look i a' s' →
    look i (act i a s e).1 (act i a s e).2 = look i (act i a' s' e).1 (act i a' s' e).2

variable [DecidableEq ι]

/-- A step of the member `x.1`. -/
def step (act : ι → π → σ → ε → π × σ) (s : Fleet ι π σ) (x : ι × ε) : Fleet ι π σ where
  own := Function.update s.own x.1 (act x.1 (s.own x.1) s.shared x.2).1
  shared := (act x.1 (s.own x.1) s.shared x.2).2

/-- The views of the member `j` before and after each of its steps. -/
def trace (act : ι → π → σ → ε → π × σ) (look : ι → π → σ → ω) (j : ι) :
    Fleet ι π σ → List (ι × ε) → List (ω × ω)
  | _, [] => []
  | s, x :: es =>
    if x.1 = j then
      (view look j s, view look j (step act s x)) :: trace act look j (step act s x) es
    else trace act look j (step act s x) es

/-- The observer of the member `j` remembers the view that the last step of `j` left. -/
def note (act : ι → π → σ → ε → π × σ) (look : ι → π → σ → ω) (j : ι) (s : Fleet ι π σ) (x : ι × ε)
    (m : ω) : ω :=
  if x.1 = j then view look j (step act s x) else m

/-- A step of the member `j` finds the view that the observer remembers. -/
def Undisturbed (look : ι → π → σ → ω) (j : ι) (t : Fleet ι π σ × ω) (x : ι × ε) : Prop :=
  x.1 = j → view look j t.1 = t.2

instance decidableUndisturbed [DecidableEq ω] (look : ι → π → σ → ω) (j : ι)
    (t : Fleet ι π σ × ω) (x : ι × ε) : Decidable (Undisturbed look j t x) :=
  inferInstanceAs (Decidable (x.1 = j → view look j t.1 = t.2))

variable {act : ι → π → σ → ε → π × σ} {look : ι → π → σ → ω}

theorem trace_cons_of_eq {j : ι} {x : ι × ε} (hx : x.1 = j) (s : Fleet ι π σ)
    (es : List (ι × ε)) :
    trace act look j s (x :: es) =
      (view look j s, view look j (step act s x)) :: trace act look j (step act s x) es :=
  if_pos hx

theorem trace_cons_of_ne {j : ι} {x : ι × ε} (hx : x.1 ≠ j) (s : Fleet ι π σ)
    (es : List (ι × ε)) :
    trace act look j s (x :: es) = trace act look j (step act s x) es :=
  if_neg hx

/-- What is read off the views is read off the trace. -/
theorem trace_map (g : ω → α) (j : ι) (s : Fleet ι π σ) (es : List (ι × ε)) :
    trace act (fun i a c => g (look i a c)) j s es =
      (trace act look j s es).map (Prod.map g g) := by
  induction es generalizing s with
  | nil => rfl
  | cons x es ih =>
      by_cases hx : x.1 = j
      · rw [trace_cons_of_eq hx, trace_cons_of_eq hx, List.map_cons, ih]
        rfl
      · rw [trace_cons_of_ne hx, trace_cons_of_ne hx, ih]

/-- Equal views before a step of the member `j` give equal views after it. -/
theorem view_step_congr (hlook : Enough act look) {j : ι} {x : ι × ε} (hx : x.1 = j)
    {s t : Fleet ι π σ} (h : view look j t = view look j s) :
    view look j (step act t x) = view look j (step act s x) := by
  have hown : ∀ u : Fleet ι π σ, view look j (step act u x) =
      look j (act j (u.own j) u.shared x.2).1 (act j (u.own j) u.shared x.2).2 := by
    subst hx
    intro u
    simp only [view, step, Function.update_self]
  rw [hown, hown]
  exact hlook j _ _ _ _ x.2 h

/-- The runs from two states, one with all the steps and one with the steps of `j` alone:
the observer of the first remembers the view in the second. -/
theorem trace_filter_eq_iff (hlook : Enough act look) (j : ι) (s t : Fleet ι π σ)
    (es : List (ι × ε)) :
    trace act look j t (es.filter fun x => x.1 = j) = trace act look j s es ↔
      Along (observed (step act) (note act look j)) (Undisturbed look j) (s, view look j t) es := by
  induction es generalizing s t with
  | nil => exact iff_of_true rfl trivial
  | cons x es ih =>
      rw [along_cons]
      by_cases hx : x.1 = j
      · have hfound : Undisturbed look j (s, view look j t) x ↔ view look j t = view look j s :=
          ⟨fun h => (h hx).symm, fun h _ => h.symm⟩
        have hnote : observed (step act) (note act look j) (s, view look j t) x =
            (step act s x, view look j (step act s x)) := by
          simp only [observed, note, hx, if_true]
        rw [hfound, hnote, List.filter_cons_of_pos (by simpa using hx), trace_cons_of_eq hx,
          trace_cons_of_eq hx, List.cons.injEq, Prod.mk.injEq]
        constructor
        · rintro ⟨⟨hview, hafter⟩, hrest⟩
          refine ⟨hview, ?_⟩
          rw [← hafter]
          exact (ih _ _).1 hrest
        · rintro ⟨hview, hrest⟩
          have hafter := view_step_congr hlook hx hview
          refine ⟨⟨hview, hafter⟩, (ih _ _).2 ?_⟩
          rw [hafter]
          exact hrest
      · have hfound : Undisturbed look j (s, view look j t) x := fun h => absurd h hx
        have hnote : observed (step act) (note act look j) (s, view look j t) x =
            (step act s x, view look j t) := by
          simp only [observed, note, hx, if_false]
        rw [hnote, List.filter_cons_of_neg (by simpa using hx), ← ih, trace_cons_of_ne hx]
        exact (and_iff_right hfound).symm

end Fleet

end Machine
