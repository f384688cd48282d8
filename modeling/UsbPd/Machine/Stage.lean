import UsbPd.Machine.Run

/-!
# Progress in stages

A stage is a property of the state that the machine keeps while it waits. The event that
the stage waits for takes the machine to the next one. Where some events carry an instant and
these instants follow each other closely, a property may speak of the latest instant, too; a
stage that cannot last beyond some instant then leads to its goal, which may speak of the
instant at which it is reached.
-/

namespace Machine

variable {σ ε : Type*} {step : σ → ε → σ} {P Q : σ → Prop} {W M : ε → Prop}

/-- The stage lasts as long as it waits. -/
theorem run_waits (hstay : ∀ s e, P s → W e → P (step s e)) {s : σ} (hs : P s)
    {waits : List ε} (hwaits : ∀ e ∈ waits, W e) : P (run step s waits) := by
  induction waits generalizing s with
  | nil => exact hs
  | cons e waits ih =>
      exact ih (hstay s e hs (hwaits e (List.mem_cons_self ..)))
        fun e' he' => hwaits e' (List.mem_cons_of_mem e he')

/-- The stage ends with the event that it waits for. -/
theorem run_moves (hstay : ∀ s e, P s → W e → P (step s e))
    (hmove : ∀ s e, P s → M e → Q (step s e)) {s : σ} (hs : P s) {waits : List ε} {e : ε}
    (hwaits : ∀ e ∈ waits, W e) (he : M e) : Q (run step s (waits ++ [e])) := by
  rw [run_append_singleton]
  exact hmove _ e (run_waits hstay hs hwaits) he

/-! Clocks. -/

section

variable {τ : Type*} {tick : τ → ε → τ} {allows : τ → ε → Prop} {R G : τ → σ → Prop}

/-- A part of the run ends in `G`, by the clock and the state that it leads to. -/
def Reaches (tick : τ → ε → τ) (step : σ → ε → σ) (G : τ → σ → Prop) (c : τ) (s : σ)
    (es : List ε) : Prop :=
  ∃ es₁ es₂, es = es₁ ++ es₂ ∧ G (es₁.foldl tick c) (run step s es₁)

theorem reaches_cons {c : τ} {s : σ} {e : ε} {es : List ε}
    (h : Reaches tick step G (tick c e) (step s e) es) : Reaches tick step G c s (e :: es) := by
  obtain ⟨es₁, es₂, rfl, hgoal⟩ := h
  exact ⟨e :: es₁, es₂, rfl, hgoal⟩

/-- Each event comes at a time that the clock allows. -/
def Timed (tick : τ → ε → τ) (allows : τ → ε → Prop) : τ → List ε → Prop
  | _, [] => True
  | c, e :: es => allows c e ∧ Timed tick allows (tick c e) es

/-- Timed events keep a property of the clock and the state, unless the goal is reached. -/
theorem timed_reaches
    (hstep : ∀ c s e, R c s → W e → allows c e →
      R (tick c e) (step s e) ∨ G (tick c e) (step s e))
    {c : τ} {s : σ} (hs : R c s) {es : List ε} (hes : ∀ e ∈ es, W e)
    (htimed : Timed tick allows c es) :
    R (es.foldl tick c) (run step s es) ∨ Reaches tick step G c s es := by
  induction es generalizing c s with
  | nil => exact .inl hs
  | cons e es ih =>
      obtain ⟨hallowed, hrest⟩ := htimed
      obtain hstays | hgoal := hstep c s e hs (hes e (List.mem_cons_self ..)) hallowed
      · obtain hends | hreached :=
          ih hstays (fun e' he' => hes e' (List.mem_cons_of_mem e he')) hrest
        · exact .inl hends
        · exact .inr (reaches_cons hreached)
      · exact .inr ⟨[e], es, rfl, hgoal⟩

end

/-! Instants. -/

variable {clock : ε → Option Nat} {gap : Nat} {R G : Nat → σ → Prop}

/-- The instant after an event. -/
def instant (clock : ε → Option Nat) (now : Nat) (e : ε) : Nat := (clock e).getD now

/-- The latest instant of the events, `now` before them. -/
def latest (clock : ε → Option Nat) (now : Nat) (es : List ε) : Nat :=
  es.foldl (instant clock) now

/-- No instant is earlier than the one before, nor more than `gap` later. -/
def Paced (clock : ε → Option Nat) (gap : Nat) : Nat → List ε → Prop :=
  Timed (instant clock) fun now e => ∀ t ∈ clock e, now ≤ t ∧ t ≤ now + gap

/-- Paced events keep a property of the state and the latest instant, unless the goal is
reached. -/
theorem paced_reaches
    (hcalm : ∀ now s e, R now s → W e → clock e = none → R now (step s e))
    (htimed : ∀ now s e t, R now s → W e → clock e = some t → now ≤ t → t ≤ now + gap →
      R t (step s e) ∨ G t (step s e))
    {now : Nat} {s : σ} (hs : R now s) {es : List ε} (hes : ∀ e ∈ es, W e)
    (hpaced : Paced clock gap now es) :
    R (latest clock now es) (run step s es) ∨ Reaches (instant clock) step G now s es := by
  refine timed_reaches (fun c s e hR he hallowed => ?_) hs hes hpaced
  unfold instant
  cases ht : clock e with
  | none => exact .inl (hcalm c s e hR he ht)
  | some t =>
      obtain ⟨hearly, hlate⟩ := hallowed t ht
      exact htimed c s e t hR he ht hearly hlate

/-- A property of the state and the latest instant lasts while the events are paced. -/
theorem run_paced (hcalm : ∀ now s e, R now s → W e → clock e = none → R now (step s e))
    (htimed : ∀ now s e t, R now s → W e → clock e = some t → now ≤ t → t ≤ now + gap →
      R t (step s e))
    {now : Nat} {s : σ} (hs : R now s) {es : List ε} (hes : ∀ e ∈ es, W e)
    (hpaced : Paced clock gap now es) : R (latest clock now es) (run step s es) := by
  obtain hends | ⟨_, _, _, hnever⟩ := paced_reaches (G := fun _ _ => False) hcalm
    (fun now s e t hR he ht hearly hlate => .inl (htimed now s e t hR he ht hearly hlate)) hs hes
    hpaced
  · exact hends
  · exact hnever.elim

end Machine
