import Mathlib.Data.List.Basic

/-!
# Write sets

The state of a machine is seen through its parts and its log. What a
computation does is bounded by the parts that it may write and by the kinds of
the entries that it may add to the log; the other parts stay as they are.
-/

namespace Machine

/-- The parts of a state, its log, newest entry first, and the kinds of entries. -/
structure View (σ ι κ α : Type*) (β : ι → Type*) where
  part : ∀ i, σ → β i
  log : σ → List α
  kind : α → κ

variable {σ ι κ α : Type*} {β : ι → Type*}

/-- From `s` to `t` only the parts `W` are written, and only entries of the kinds
`K` are added. -/
structure Does (V : View σ ι κ α β) (W : List ι) (K : List κ) (s t : σ) : Prop where
  keeps : ∀ i, i ∉ W → V.part i t = V.part i s
  adds : ∃ new, V.log t = new ++ V.log s ∧ ∀ a ∈ new, V.kind a ∈ K

namespace Does

variable {V : View σ ι κ α β} {W W' : List ι} {K K' : List κ} {s t u : σ}

theorem refl : Does V [] [] s s where
  keeps := fun _ _ => rfl
  adds := ⟨[], rfl, fun _ h => absurd h List.not_mem_nil⟩

/-- What two computations do, one after the other. -/
theorem trans (h : Does V W K s t) (h' : Does V W' K' t u) :
    Does V (W ++ W') (K ++ K') s u where
  keeps := by
    intro i hi
    rw [List.mem_append, not_or] at hi
    rw [h'.keeps i hi.2, h.keeps i hi.1]
  adds := by
    obtain ⟨new, hnew, hkind⟩ := h.adds
    obtain ⟨new', hnew', hkind'⟩ := h'.adds
    refine ⟨new' ++ new, by rw [hnew', hnew, List.append_assoc], fun a ha => ?_⟩
    rcases List.mem_append.1 ha with ha | ha
    · exact List.mem_append_right K (hkind' a ha)
    · exact List.mem_append_left K' (hkind a ha)

/-- Larger bounds; concrete ones are compared by `decide`. -/
theorem mono (h : Does V W K s t) (hle : W ⊆ W' ∧ K ⊆ K') : Does V W' K' s t where
  keeps := fun i hi => h.keeps i fun hmem => hi (hle.1 hmem)
  adds := by
    obtain ⟨new, hnew, hkind⟩ := h.adds
    exact ⟨new, hnew, fun a ha => hle.2 (hkind a ha)⟩

/-- Assignments, which add nothing to the log. -/
theorem assign (hkeeps : ∀ i, i ∉ W → V.part i t = V.part i s) (hlog : V.log t = V.log s) :
    Does V W [] s t where
  keeps := hkeeps
  adds := ⟨[], hlog, fun _ h => absurd h List.not_mem_nil⟩

/-- An entry of the log, which leaves the parts alone. -/
theorem entry {a : α} (hkeeps : ∀ i, V.part i t = V.part i s) (hlog : V.log t = a :: V.log s) :
    Does V [] [V.kind a] s t where
  keeps := fun i _ => hkeeps i
  adds := ⟨[a], hlog, fun b hb => by rw [List.mem_singleton.1 hb]; exact List.mem_cons_self ..⟩

/-- A property of logs that the added entries keep. -/
theorem preserves {P : List α → Prop} (h : Does V W K s t)
    (hP : ∀ a log, V.kind a ∈ K → P log → P (a :: log)) (hs : P (V.log s)) : P (V.log t) := by
  obtain ⟨new, hnew, hkind⟩ := h.adds
  rw [hnew]
  clear hnew
  induction new with
  | nil => exact hs
  | cons a new ih =>
      have hrest := ih fun b hb => hkind b (List.mem_cons_of_mem a hb)
      exact hP a _ (hkind a (List.mem_cons_self ..)) hrest

/-- What is read off the log stays the same when the added entries do not matter. -/
theorem read_eq {γ : Type*} {read : List α → γ} (h : Does V W K s t)
    (hread : ∀ a log, V.kind a ∈ K → read (a :: log) = read log) :
    read (V.log t) = read (V.log s) :=
  h.preserves (P := fun log => read log = read (V.log s))
    (fun a log ha hlog => (hread a log ha).trans hlog) rfl

end Does

end Machine
