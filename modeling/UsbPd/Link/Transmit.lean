import UsbPd.Link.Log

/-!
# Results of transmissions

`pd_transmit` returns before the outcome of the message is known. What it
returns is therefore about the message exactly when the partner treats it as the
last reported one.
-/

namespace UsbPd

/-- The result of an SOP transmission. -/
def Call.sopResult : Call → Option Int
  | .transmit .sop _ _ res => some res
  | _ => none

/-- The result of an SOP transmission is the status reported before it. -/
theorem Call.Faithful.result {c : Call} {earlier : List Call} (h : c.Faithful earlier) {res : Int}
    (hres : res ∈ c.sopResult) : res = resultAfter earlier := by
  cases c with
  | transmit type header data res' =>
      cases type with
      | sop =>
          obtain rfl := Option.some.inj hres
          exact h.1
      | _ => cases hres
  | _ => cases hres

theorem resultAfter_nonneg (log : List Call) :
    0 ≤ resultAfter log ↔ lastReport log = .success := by
  unfold resultAfter
  split <;> simp_all

/-- The interrupts of an alert. -/
def Call.polled : Call → Option Interrupts
  | .alert irq => some irq
  | _ => none

/-- The number of SOP messages sent; the next one has this number. -/
def sopCount (log : List Call) : Nat := log.countP fun c => c.sopResult.isSome

/-- The number of the last SOP message while no alert was polled since. -/
def inFlight : List Call → Option Nat
  | [] => none
  | .alert _ :: _ => none
  | .transmit .sop _ _ _ :: log => some (sopCount log)
  | _ :: log => inFlight log

namespace Port

/-- Every SOP transmission returned a non-negative value exactly when the
partner acknowledged that message. -/
def ResultsTruthful (p : Port) (acked : Nat → Bool) : Prop :=
  Machine.Each (fun c earlier => ∀ res ∈ c.sopResult,
    (0 ≤ res ↔ acked (sopCount earlier) = true)) p.log

/-- The partner acknowledged every SOP message exactly when the last status
reported before the message was a success. -/
def AckedAsReported (p : Port) (acked : Nat → Bool) : Prop :=
  Machine.Each (fun c earlier => ∀ _res ∈ c.sopResult,
    (acked (sopCount earlier) = true ↔ lastReport earlier = .success)) p.log

/-- The alerts report the outcomes: an alert that reports a success alone or a
failure alone reports that of the message in flight. -/
def OutcomesPolled (p : Port) (acked : Nat → Bool) : Prop :=
  Machine.Each (fun c earlier => ∀ irq ∈ c.polled, ∀ n ∈ inFlight earlier,
    (irq.txSuccess = true → (irq.retryFail || irq.collision) = false → acked n = true) ∧
    ((irq.retryFail || irq.collision) = true → irq.txSuccess = false → acked n = false)) p.log

/-- In every run and for every partner, the results are about the messages just
sent exactly when each of these fares as the last status reported before it. -/
theorem resultsTruthful_iff (b : Board) (es : List Event) (acked : Nat → Bool) :
    (after b es).ResultsTruthful acked ↔ (after b es).AckedAsReported acked := by
  refine (Linked.after b es).sent.congr fun c earlier hsent _ => ?_
  refine forall₂_congr fun res hres => ?_
  rw [hsent.result hres, resultAfter_nonneg]
  exact iff_comm

/-- A GET_SOURCE_CAP at the first attach that nobody acknowledges is reported as
sent. -/
theorem not_resultsTruthful_getSourceCap :
    ¬ ∀ (es : List Event) (acked : Nat → Bool), (after .shipped es).OutcomesPolled acked →
      (after .shipped es).ResultsTruthful acked := by
  intro h
  have hresults := h (attachAsSink ++ [.alert ⟨0, 0x10, 0⟩ 110000]) (fun _ => false)
    (by unfold OutcomesPolled; decide +kernel)
  revert hresults
  unfold ResultsTruthful
  decide +kernel

end Port

end UsbPd
