import Mathlib.Data.List.Forall2
import Mathlib.Logic.Relation
import Mathlib.Tactic.Common

/-!
# Effects and logs

A computation that touches a state in small effects is a chain of them, and an
invariant of every effect is one of every chain. A log lists what was done,
newest entry first; `Each P log` says that every entry satisfies `P` together
with the log that was there before it, and `Shows old log ks` that entries of the kinds `ks`
have come to `old`, in this order.
-/

namespace Machine

variable {σ α : Type*}

/-- An invariant of every effect is one of every chain of effects. -/
theorem chain_preserves {effect : σ → σ → Prop} {Inv : σ → Prop}
    (heffect : ∀ s t, effect s t → Inv s → Inv t) {s t : σ}
    (hchain : Relation.ReflTransGen effect s t) (hInv : Inv s) : Inv t := by
  induction hchain with
  | refl => exact hInv
  | tail _ hlast ih => exact heffect _ _ hlast ih

/-- Every entry satisfies `P`, given the entries before it. -/
def Each (P : α → List α → Prop) : List α → Prop
  | [] => True
  | a :: log => P a log ∧ Each P log

@[simp] theorem each_nil (P : α → List α → Prop) : Each P [] := trivial

@[simp] theorem each_cons (P : α → List α → Prop) (a : α) (log : List α) :
    Each P (a :: log) ↔ P a log ∧ Each P log := Iff.rfl

instance decidableEach (P : α → List α → Prop) [∀ a log, Decidable (P a log)] :
    ∀ log : List α, Decidable (Each P log)
  | [] => isTrue trivial
  | a :: log =>
      have := decidableEach P log
      inferInstanceAs (Decidable (P a log ∧ Each P log))

theorem each_of_forall {P : α → List α → Prop} {log : List α}
    (h : ∀ a ∈ log, ∀ earlier, P a earlier) : Each P log := by
  induction log with
  | nil => trivial
  | cons a log ih =>
      exact ⟨h a (List.mem_cons_self ..) log, ih fun b hb => h b (List.mem_cons_of_mem a hb)⟩

/-- In a log whose entries all satisfy `P`, they satisfy `Q` and `Q'` together. -/
theorem Each.congr {P Q Q' : α → List α → Prop} {log : List α} (h : Each P log)
    (hQ : ∀ a earlier, P a earlier → Each P earlier → (Q a earlier ↔ Q' a earlier)) :
    Each Q log ↔ Each Q' log := by
  induction log with
  | nil => exact Iff.rfl
  | cons a log ih =>
      obtain ⟨ha, hlog⟩ := h
      rw [each_cons, each_cons, hQ a log ha hlog, ih hlog]

/-- Entries of the kinds `ks`, newest first, are among those that follow `old`. -/
def Shows (old log : List α) (ks : List (α → Bool)) : Prop :=
  ∃ newer, log = newer ++ old ∧ List.SublistForall₂ (fun k a => k a = true) ks newer

namespace Shows

variable {old log : List α} {ks : List (α → Bool)}

theorem start (log : List α) : Shows log log [] := ⟨[], rfl, .nil⟩

theorem later (h : Shows old log ks) {log' : List α} (hlog : log <:+ log') :
    Shows old log' ks := by
  obtain ⟨newer, rfl, hfound⟩ := h
  obtain ⟨latest, rfl⟩ := hlog
  obtain ⟨l, hl, hsub⟩ := List.sublistForall₂_iff.1 hfound
  exact ⟨latest ++ newer, (List.append_assoc ..).symm,
    List.sublistForall₂_iff.2 ⟨l, hl, hsub.trans (List.sublist_append_right ..)⟩⟩

theorem earlier (h : Shows old log ks) {old' : List α} (hold : old' <:+ old) :
    Shows old' log ks := by
  obtain ⟨newer, rfl, hfound⟩ := h
  obtain ⟨between, rfl⟩ := hold
  obtain ⟨l, hl, hsub⟩ := List.sublistForall₂_iff.1 hfound
  exact ⟨newer ++ between, (List.append_assoc ..).symm,
    List.sublistForall₂_iff.2 ⟨l, hl, hsub.trans (List.sublist_append_left ..)⟩⟩

theorem cons (h : Shows old log ks) {k : α → Bool} {a : α} (ha : k a = true) :
    Shows old (a :: log) (k :: ks) := by
  obtain ⟨newer, rfl, hfound⟩ := h
  exact ⟨a :: newer, rfl, .cons ha hfound⟩

end Shows

end Machine
