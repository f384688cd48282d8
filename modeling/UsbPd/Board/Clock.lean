import UsbPd.Protocol.Iteration

/-!
# The clock

`get_time` puts its value together from two 32-bit counters of the timer:
`millis()`, multiplied by 1000 in 32 bits, and the last three digits of
`micros()`. The two counters are read one after the other, so a `Reading` has
two times. A value is the time of the first read, moved by the offset of the
digits and set back by 2^32 with every wrap of the product.
-/

namespace UsbPd

/-- `millis()`, with `u` microseconds on the timer. -/
def millis (u : Nat) : Nat := u / 1000 % 2 ^ 32

/-- `micros()`. -/
def micros (u : Nat) : Nat := u % 2 ^ 32

/-- The times of the two reads of one call of `get_time`. -/
structure Reading where
  atMillis : Nat
  atMicros : Nat
  le : atMillis ≤ atMicros

namespace Reading

variable (r s : Reading)

/-- `get_time().val`; the product is one of 32-bit numbers. -/
def getTime : Nat := millis r.atMillis * 1000 % 2 ^ 32 + micros r.atMicros % 1000

/-- The time between the two reads. -/
def gap : Nat := r.atMicros - r.atMillis

/-- The millisecond of the first read. -/
def millisecond : Nat := r.atMillis / 1000

/-- How often the product has wrapped. -/
def wraps : Nat := r.millisecond * 1000 / 2 ^ 32

/-- The microseconds that the second read adds. -/
def digits : Nat := micros r.atMicros % 1000

/-- What the digits add to the time of the first read. -/
def offset : Int := (r.digits : Int) - (r.atMillis % 1000 : Nat)

/-- The time from the first call to the second. -/
def elapsed : Nat := s.atMillis - r.atMillis

/-- The error that the two calls are allowed: a millisecond and the time between
their reads. -/
def tolerance : Nat := 1000 + r.gap + s.gap

theorem getTime_eq : r.getTime = r.millisecond * 1000 % 2 ^ 32 + r.digits := by
  unfold getTime millis millisecond digits
  omega

/-- The value is the time of the first read, moved by the offset and the wraps. -/
theorem getTime_offset : (r.getTime : Int) = r.atMillis + r.offset - r.wraps * 2 ^ 32 := by
  rw [getTime_eq]
  unfold offset wraps millisecond
  omega

theorem digits_lt : r.digits < 1000 := Nat.mod_lt _ (by decide)

/-- The second of two calls in a row follows the first: its value is not
smaller, it has advanced by the real time to within the tolerance, and a timer
set with the first fires in time. -/
structure Follows : Prop where
  monotone : r.getTime ≤ s.getTime
  accurate : ((s.getTime : Int) - r.getTime - r.elapsed s).natAbs ≤ r.tolerance s
  expires : ∀ (p : Port) (state : PdState) (delay : Nat), 0 < delay →
    delay + r.tolerance s ≤ r.elapsed s →
    (p.setStateTimeout (r.getTime + delay) state).checkTimeout s.getTime =
      (p.setStateTimeout (r.getTime + delay) state).setState state
  waits : ∀ (p : Port) (state : PdState) (delay : Nat), r.elapsed s + r.tolerance s < delay →
    (p.setStateTimeout (r.getTime + delay) state).checkTimeout s.getTime =
      p.setStateTimeout (r.getTime + delay) state

/-- The product has wrapped equally often, the digits do not fall within one
millisecond, and their offset moves by no more than the tolerance. -/
structure InStep : Prop where
  wraps : r.wraps = s.wraps
  digits : r.millisecond = s.millisecond → r.digits ≤ s.digits
  offset : (s.offset - r.offset).natAbs ≤ r.tolerance s

variable {r s}

/-- Without a wrap in between, the values are ordered as the milliseconds and
the digits are. -/
theorem getTime_le_iff (h : r.atMicros ≤ s.atMillis) (hwraps : r.wraps = s.wraps) :
    r.getTime ≤ s.getTime ↔ (r.millisecond = s.millisecond → r.digits ≤ s.digits) := by
  have hr := r.digits_lt
  have hle := r.le
  have hms : r.millisecond ≤ s.millisecond := Nat.div_le_div_right (by omega)
  rw [getTime_eq, getTime_eq]
  unfold wraps at hwraps
  constructor
  · intro hval heq
    rw [heq] at hval
    omega
  · intro hdigits
    rcases Nat.lt_or_eq_of_le hms with hlt | heq
    · omega
    · have := hdigits heq
      rw [heq]
      omega

theorem follows_of_inStep (h : r.atMicros ≤ s.atMillis) (hstep : r.InStep s) : r.Follows s := by
  have hr := r.getTime_offset
  have hs := s.getTime_offset
  have hwraps := hstep.wraps
  have hle := r.le
  have haccurate : ((s.getTime : Int) - r.getTime - r.elapsed s).natAbs ≤ r.tolerance s := by
    have heq : (s.getTime : Int) - r.getTime - r.elapsed s = s.offset - r.offset := by
      unfold elapsed
      omega
    rw [heq]
    exact hstep.offset
  refine ⟨(getTime_le_iff h hwraps).2 hstep.digits, haccurate, ?_, ?_⟩
  · intro p state delay hdelay hlate
    refine if_pos ⟨?_, ?_⟩
    · change r.getTime + delay ≠ 0
      omega
    · change r.getTime + delay ≤ s.getTime
      omega
  · intro p state delay hearly
    refine if_neg fun hfires => ?_
    have hval : r.getTime + delay ≤ s.getTime := hfires.2
    omega

/-- The value can only have wrapped unnoticed if the reads take as long as the
wrap. -/
theorem inStep_of_follows (h : r.atMicros ≤ s.atMillis) (hshort : r.gap + s.gap < 2 ^ 31)
    (hfollows : r.Follows s) : r.InStep s := by
  have hr := r.getTime_offset
  have hs := s.getTime_offset
  have hle := r.le
  have haccurate := hfollows.accurate
  have hoffset : ∀ t : Reading, -1000 < t.offset ∧ t.offset < 1000 := by
    intro t
    have := t.digits_lt
    unfold offset
    omega
  have hro := hoffset r
  have hso := hoffset s
  have hlimit : r.tolerance s < 2 ^ 31 + 1000 := by
    unfold tolerance
    omega
  have helapsed : (r.elapsed s : Int) = s.atMillis - r.atMillis := by
    unfold elapsed
    omega
  have hwraps : r.wraps = s.wraps := by omega
  have heq : s.offset - r.offset = (s.getTime : Int) - r.getTime - r.elapsed s := by
    rw [hwraps] at hr
    omega
  refine ⟨hwraps, (getTime_le_iff h hwraps).1 hfollows.monotone, ?_⟩
  rw [heq]
  exact hfollows.accurate

/-- Of two calls in a row the second follows the first whenever they are in
step, and, unless the reads take more than half an hour, only then. -/
theorem follows_iff_inStep (r s : Reading) (h : r.atMicros ≤ s.atMillis) :
    (r.InStep s → r.Follows s) ∧ (r.gap + s.gap < 2 ^ 31 → r.Follows s → r.InStep s) :=
  ⟨follows_of_inStep h, inStep_of_follows h⟩

/-- Two calls one millisecond apart, soon after the start. -/
theorem follows_soon : (⟨998, 998, by decide⟩ : Reading).Follows ⟨2000, 2001, by decide⟩ :=
  (follows_iff_inStep _ _ (by decide)).1 ⟨by decide, by decide, by decide⟩

/-- A millisecond that begins between the two reads sets the clock back. -/
theorem not_follows_boundary :
    ¬ ∀ r s : Reading, r.atMicros ≤ s.atMillis → r.Follows s := by
  intro h
  have hback := (h ⟨998, 998, by decide⟩ ⟨999, 1000, by decide⟩ (by decide)).monotone
  revert hback
  decide

/-- Before the first wrap, calls that read both counters within one millisecond
are in step. -/
theorem inStep_of_lt {r s : Reading} (h : r.atMicros ≤ s.atMillis) (hs : s.atMicros < 2 ^ 32)
    (hr : r.atMicros / 1000 = r.millisecond) (hs' : s.atMicros / 1000 = s.millisecond) :
    r.InStep s := by
  have hle := r.le
  have hle' := s.le
  unfold millisecond at hr hs'
  refine ⟨?_, ?_, ?_⟩
  · unfold wraps millisecond
    omega
  · unfold millisecond digits micros
    omega
  · unfold offset digits micros tolerance gap
    omega

end Reading

end UsbPd
