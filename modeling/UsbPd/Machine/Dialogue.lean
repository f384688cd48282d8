import Mathlib.Tactic.Common

/-!
# Dialogues

A program that asks its environment one question after the other and goes on from each
reply. `answer` runs it against a sequence of replies, whatever they are, and keeps the
questions; `interpret` runs it against a machine that answers.
-/

namespace Machine

/-- A program with questions in `Q`, replies in `R` and a result in `α`. -/
inductive Dialogue (Q R α : Type) where
  | done (a : α)
  | ask (q : Q) (next : R → Dialogue Q R α)

namespace Dialogue

variable {Q R α β σ : Type}

def bind : Dialogue Q R α → (α → Dialogue Q R β) → Dialogue Q R β
  | done a, f => f a
  | ask q next, f => ask q fun r => (next r).bind f

instance : Monad (Dialogue Q R) where
  pure := done
  bind := bind

/-- A single question. -/
def request (q : Q) : Dialogue Q R R := ask q done

/-- The result and the questions, the `n`-th of them answered by `replies n`. -/
def answer : Dialogue Q R α → (Nat → R) → α × List Q
  | done a, _ => (a, [])
  | ask q next, replies =>
    let rest := (next (replies 0)).answer fun n => replies (n + 1)
    (rest.1, q :: rest.2)

/-- The result against a machine, and the machine after it. -/
def interpret (handler : Q → σ → R × σ) : Dialogue Q R α → σ → α × σ
  | done a, s => (a, s)
  | ask q next, s =>
    let reply := handler q s
    (next reply.1).interpret handler reply.2

section

variable (a : α) (q : Q) (d : Dialogue Q R α) (f : α → Dialogue Q R β) (replies : Nat → R)
  (handler : Q → σ → R × σ) (s : σ)

@[simp] theorem answer_pure : (pure a : Dialogue Q R α).answer replies = (a, []) := rfl

@[simp] theorem answer_request : (request q : Dialogue Q R R).answer replies = (replies 0, [q]) :=
  rfl

/-- What follows a dialogue sees the replies behind those it used. -/
theorem answer_bind :
    (d >>= f).answer replies =
      let rest := (f (d.answer replies).1).answer fun n => replies (n + (d.answer replies).2.length)
      (rest.1, (d.answer replies).2 ++ rest.2) := by
  induction d generalizing replies with
  | done a => rfl
  | ask q next ih =>
      have hrest := ih (replies 0) fun n => replies (n + 1)
      have hshift : (fun n => replies (n + ((next (replies 0)).answer fun n =>
          replies (n + 1)).2.length + 1)) =
          fun n => replies (n + (((next (replies 0)).answer fun n =>
            replies (n + 1)).2.length + 1)) := rfl
      change (((next (replies 0) >>= f).answer fun n => replies (n + 1)).1,
        q :: ((next (replies 0) >>= f).answer fun n => replies (n + 1)).2) = _
      rw [hrest, hshift]
      rfl

@[simp] theorem interpret_pure : (pure a : Dialogue Q R α).interpret handler s = (a, s) := rfl

@[simp] theorem interpret_request : (request q).interpret handler s = handler q s := rfl

theorem interpret_bind :
    (d >>= f).interpret handler s =
      (f (d.interpret handler s).1).interpret handler (d.interpret handler s).2 := by
  induction d generalizing s with
  | done a => rfl
  | ask q next ih => exact ih (handler q s).1 (handler q s).2

theorem interpret_bind_ite (p : α → Prop) [DecidablePred p] (g : α → Dialogue Q R β) :
    (d >>= fun a => if p a then f a else g a).interpret handler s =
      if p (d.interpret handler s).1 then
        (f (d.interpret handler s).1).interpret handler (d.interpret handler s).2
      else (g (d.interpret handler s).1).interpret handler (d.interpret handler s).2 := by
  rw [interpret_bind, apply_ite fun e : Dialogue Q R β =>
    e.interpret handler (d.interpret handler s).2]

end

end Dialogue

end Machine
