import Mathlib.Algebra.Ring.Nat
import Mathlib.Algebra.Ring.Int.Defs
import Mathlib.Data.Int.Order.Basic
import Mathlib.Tactic.Common

/-!
# Checked integer arithmetic

The arithmetic of a language with integer types of bounded range. An operation whose
exact result the type cannot hold has no result, so an expression has a value only if
none of its intermediate results overflows, wraps or divides by zero.
-/

namespace Machine

/-- The range of an integer type. -/
structure IntType where
  lo : Int
  hi : Int
  deriving DecidableEq

namespace IntType

variable (t : IntType) {x y : Int} {a b : Nat}

/-- The value `x` in the type, by conversion or assignment. -/
def represent (x : Int) : Option Int := if t.lo ≤ x ∧ x ≤ t.hi then some x else none

def mul (x y : Int) : Option Int := t.represent (x * y)

/-- Division truncates toward zero. -/
def div (x y : Int) : Option Int := if y = 0 then none else t.represent (x.tdiv y)

theorem represent_of_hi_lt (h : t.hi < x) : t.represent x = none :=
  if_neg fun hx => (Int.not_le.2 h) hx.2

/-! Non-negative values, as natural numbers. -/

section

variable {t} (hlo : t.lo ≤ 0)

include hlo

theorem represent_natCast (ha : (a : Int) ≤ t.hi) : t.represent a = some (a : Int) :=
  if_pos ⟨Int.le_trans hlo (Int.natCast_nonneg a), ha⟩

theorem mul_natCast (h : ((a * b : Nat) : Int) ≤ t.hi) :
    t.mul a b = some ((a * b : Nat) : Int) := by
  rw [mul, ← Int.natCast_mul]
  exact represent_natCast hlo h

theorem div_natCast (hb : b ≠ 0) (h : ((a / b : Nat) : Int) ≤ t.hi) :
    t.div a b = some ((a / b : Nat) : Int) := by
  have hzero : (b : Int) ≠ 0 := by exact_mod_cast hb
  rw [div, if_neg hzero, Int.tdiv_eq_ediv_of_nonneg (Int.natCast_nonneg a), ← Int.natCast_ediv]
  exact represent_natCast hlo h

end

end IntType

end Machine
