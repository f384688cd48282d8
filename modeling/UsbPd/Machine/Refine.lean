import UsbPd.Machine.Run

/-!
# Refinement of a nondeterministic machine

An abstract machine answers an event with the list of states it may go to. A
deterministic machine refines it under an abstraction function when the
abstraction of every step is among the abstract outcomes; what the abstract
machine keeps invariant then holds of the abstraction of every run.
-/

namespace Machine

variable {σ α β γ ε : Type*}

/-- Every outcome satisfies `Q`. -/
def Ensures (outcomes : List α) (Q : α → Prop) : Prop := ∀ a ∈ outcomes, Q a

@[simp] theorem ensures_nil (Q : α → Prop) : Ensures [] Q := by
  simp [Ensures]

@[simp] theorem ensures_cons (a : α) (l : List α) (Q : α → Prop) :
    Ensures (a :: l) Q ↔ Q a ∧ Ensures l Q := by
  simp [Ensures]

@[simp] theorem ensures_append (l m : List α) (Q : α → Prop) :
    Ensures (l ++ m) Q ↔ Ensures l Q ∧ Ensures m Q := by
  simp only [Ensures, List.mem_append]
  constructor
  · intro h
    exact ⟨fun a ha => h a (.inl ha), fun a ha => h a (.inr ha)⟩
  · rintro ⟨hl, hm⟩ a (ha | ha)
    · exact hl a ha
    · exact hm a ha

@[simp] theorem ensures_ite (c : Prop) [Decidable c] (l m : List α) (Q : α → Prop) :
    Ensures (if c then l else m) Q ↔ (c → Ensures l Q) ∧ (¬ c → Ensures m Q) := by
  by_cases h : c <;> simp [h]

theorem ensures_flatMap (l : List α) (f : α → List β) (Q : β → Prop) :
    Ensures (l.flatMap f) Q ↔ Ensures l fun a => Ensures (f a) Q := by
  simp only [Ensures, List.mem_flatMap]
  constructor
  · intro h a ha b hb
    exact h b ⟨a, ha, hb⟩
  · rintro h b ⟨a, ha, hb⟩
    exact h a ha b hb

theorem Ensures.mono {l : List α} {P Q : α → Prop} (hP : Ensures l P) (h : ∀ a, P a → Q a) :
    Ensures l Q :=
  fun a ha => h a (hP a ha)

theorem Ensures.and {l : List α} {P Q : α → Prop} (hP : Ensures l P) (hQ : Ensures l Q) :
    Ensures l fun a => P a ∧ Q a :=
  fun a ha => ⟨hP a ha, hQ a ha⟩

/-- Sequencing: what holds of every outcome of `f` after every outcome of `l`. -/
theorem Ensures.flatMap {l : List α} {f : α → List β} {P : α → Prop} {Q : β → Prop}
    (hP : Ensures l P) (hf : ∀ a, P a → Ensures (f a) Q) : Ensures (l.flatMap f) Q :=
  (ensures_flatMap l f Q).2 (hP.mono hf)

/-- `abs` takes every step of `step` to an outcome of `astep`. -/
def Refines (abs : σ → α) (step : σ → ε → σ) (astep : α → ε → List α) : Prop :=
  ∀ s e, abs (step s e) ∈ astep (abs s) e

/-- An invariant of the abstract machine under the condition `D` is one of the
concrete machine under any condition that implies `D`. -/
theorem Refines.invariant {abs : σ → α} {step : σ → ε → σ} {astep : α → ε → List α}
    (href : Refines abs step astep) {C : σ → ε → Prop} {D : α → ε → Prop} {Inv : α → Prop}
    (hCD : ∀ s e, C s e → D (abs s) e)
    (hstep : ∀ a e, Inv a → D a e → Ensures (astep a e) Inv)
    {s : σ} {es : List ε} (hInv : Inv (abs s)) (hAlong : Along step C s es) :
    Inv (abs (run step s es)) := by
  have hconcrete : ∀ t e, Inv (abs t) → C t e → Inv (abs (step t e)) := by
    intro t e ht hC
    exact hstep (abs t) e ht (hCD t e hC) _ (href t e)
  exact @run_invariant σ ε step C (fun t => Inv (abs t)) hconcrete s es hInv hAlong

end Machine
