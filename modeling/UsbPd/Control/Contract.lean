import UsbPd.Control.Rules

/-!
# The explicit contract

`PD_FLAGS_EXPLICIT_CONTRACT` is set with every agreement and cleared with every
accepted power role swap, so it is truthful unless a hard reset is executed
while it is set.
-/

namespace UsbPd

namespace Port

/-- A Request was accepted after the last hard reset and power role swap. -/
def contractAgreed (p : Port) : Bool := (History.ofLog p.log).contract

/-- The event executes a hard reset while the flag is set. -/
def resetsContract (b : Board) (p : Port) : Event → Bool
  | .iterate inp => p.pd.flags.explicitContract && p.pd.taskState == .hardResetExecute &&
      !inp.reset && !inp.message.any (p.interruptsReset b)
  | .alert irq _ => p.pd.flags.explicitContract && irq.hardReset
  | _ => false

/-- The flag is truthful, and a request refused without a contract leads back to
the wait for capabilities. -/
structure ContractTruthful (b : Board) (p : Port) : Prop where
  agreed : p.pd.flags.explicitContract = true → p.contractAgreed = true
  refused : p.contractAgreed = false → p.pd.taskState = .snkRequested → ∀ (now : Nat) (m : PdMsg),
    m.isCtrl .reject = true ∨ m.isCtrl .wait = true →
    (p.handleRequest b now m).pd.taskState = .snkDiscovery

end Port

namespace Control

/-- The flag says what the log says. -/
def Truthful (v : Control) : Prop := v.explicit = true → v.history.contract = true

namespace Truthful

variable {v w : Control}

theorem start : Truthful Control.start := by
  intro h
  cases h

/-- Changes that keep the flag and the agreement. -/
theorem congr (h : Truthful v) (hexplicit : w.explicit = v.explicit)
    (hcontract : w.history.contract = v.history.contract) : Truthful w := by
  intro hw
  rw [hcontract]
  exact h (hexplicit ▸ hw)

theorem setState (h : Truthful v) (s : PdState) : Truthful (v.setState s) :=
  h.congr (by simp) (by simp)

theorem applyReset (h : Truthful v) (reset : Bool) : Truthful (v.applyReset reset) := by
  cases reset <;> exact h

/-- A hard reset without a contract. -/
theorem executeHardReset (h : v.explicit = false) : Truthful v.executeHardReset := by
  intro hw
  rw [executeHardReset_eq] at hw
  exact absurd (h.symm.trans hw) (by decide)

theorem reaction (h : Truthful v) {kind : MsgKind} (hw : Reaction v kind w) : Truthful w := by
  cases hw with
  | ignored => exact h
  | granted => intro _; simp
  | requestAccepted => intro _; simp
  | srcSwapAccepted => intro hw; simp at hw
  | snkSwapAccepted => intro hw; simp at hw
  | softAccepted => exact h.setState _
  | softReset => exact h.setState _
  | sourceOn => exact setState (v := v.setRole .sink) h _
  | retryLater => exact h
  | _ => exact h.setState _

theorem outcome (h : Truthful v) (hw : Outcome v w)
    (hreset : v.task = .hardResetExecute → v.explicit = false) : Truthful w := by
  cases hw with
  | executesReset htask =>
      split
      · exact executeHardReset (v := v.setPull false) (hreset htask)
      · exact executeHardReset (hreset htask)
  | _ => exact h.congr (by simp [attachSource, attachSink]) (by simp [attachSource, attachSink])

theorem finish (h : Truthful v) (thisState : PdState) :
    Machine.Ensures (v.finish thisState) Truthful := by
  refine v.finish_ensures h (fun _ => setState (v := v.setLast thisState) h _) ?_
  intro w hw _ _ _
  exact setState (v := w.note .detach) hw _

theorem runSwitch (h : Truthful v) (hreset : v.task = .hardResetExecute → v.explicit = false) :
    Machine.Ensures v.runSwitch Truthful :=
  Machine.Ensures.flatMap v.runState_outcome fun _ hw => (h.outcome hw hreset).finish v.task

theorem softResetCall (h : Truthful v) : Truthful v.softResetCall := by
  unfold Control.softResetCall
  split
  · exact h.setState _
  · exact h

theorem requestPowerSwap (h : Truthful v) : Truthful v.requestPowerSwap := by
  unfold Control.requestPowerSwap
  split_ifs
  · exact h.setState _
  · exact h.setState _
  · exact h

theorem requestDataSwap (h : Truthful v) : Truthful v.requestDataSwap := by
  unfold Control.requestDataSwap
  split
  · exact h.setState _
  · exact h

end Truthful

theorem truthful_invariant (b : Board) :
    ControlInvariant b (fun p e => p.resetsContract b e = false) Truthful where
  start := .start
  iterate := by
    intro p inp hC h w hw
    have hreceived : Truthful w := by
      rcases receive_reaction _ hw with rfl | ⟨kind, -, -, hreaction⟩
      · exact h.applyReset inp.reset
      · exact (h.applyReset inp.reset).reaction hreaction
    refine hreceived.runSwitch fun htask => ?_
    -- no message leads to the execution, so the port was there before it
    obtain rfl := eq_of_receive _ hw htask (by decide)
    cases hr : inp.reset with
    | true =>
        rw [hr] at htask
        cases htask
    | false =>
        rw [hr] at htask hw
        change p.pd.taskState = .hardResetExecute at htask
        have hquiet : inp.message.any (p.interruptsReset b) = false := by
          cases hany : inp.message.any (p.interruptsReset b) with
          | false => rfl
          | true =>
              obtain ⟨m, hm, hinterrupts⟩ := (Option.any_eq_true _ _).1 hany
              rw [hm] at hw
              exact absurd htask (p.control.task_ne_of_interrupts hw htask (by decide)
                (Port.kind_of_interruptsReset hinterrupts))
        change p.pd.flags.explicitContract = false
        simpa [Port.resetsContract, htask, hr, hquiet] using hC
  complete := fun p irq now ok _ h => h
  hardReset := by
    intro p irq now ok hC hirq _
    refine Truthful.executeHardReset ?_
    change p.pd.flags.explicitContract = false
    simpa [Port.resetsContract, hirq] using hC
  softReset := fun p _ h => h.softResetCall
  powerSwap := fun p _ h => h.requestPowerSwap
  dataSwap := fun p _ h => h.requestDataSwap

end Control

namespace Port

/-- A request refused without the flag leads back to `PD_STATE_SNK_DISCOVERY`. -/
theorem handleRequest_refused (b : Board) {p : Port} (htask : p.pd.taskState = .snkRequested)
    (hflag : p.pd.flags.explicitContract = false) (now : Nat) {m : PdMsg}
    (hm : m.isCtrl .reject = true ∨ m.isCtrl .wait = true) :
    (p.handleRequest b now m).pd.taskState = .snkDiscovery := by
  have hconn : p.control.connected = true := by
    unfold Control.connected Control.roleIfElse
    cases p.control.role <;> simp [htask]
  have hhandled := p.control_handleRequest_mem b now m
  have hkind : ∃ wait, p.control.handle (m.kind b) = [p.control.handleRejectWait wait] := by
    rcases hm with hm | hm
    · refine ⟨false, ?_⟩
      rw [PdMsg.kind_of_isCtrl b hm]
      simp [Control.handle, hconn, Control.handleCtrl]
    · refine ⟨true, ?_⟩
      rw [PdMsg.kind_of_isCtrl b hm]
      simp [Control.handle, hconn, Control.handleCtrl]
  obtain ⟨wait, hwait⟩ := hkind
  rw [hwait] at hhandled
  have htask' := congrArg Control.task (List.mem_singleton.1 hhandled)
  rw [control_task] at htask'
  rw [htask']
  simp [Control.handleRejectWait, htask, hflag]

/-- As long as no hard reset is executed while the flag is set, the flag is
truthful. -/
theorem contractTruthful_after (b : Board) (es : List Event)
    (h : AllSteps b (fun p e => p.resetsContract b e = false) es) :
    (after b es).ContractTruthful b := by
  have htruthful : (after b es).pd.flags.explicitContract = true →
      (after b es).contractAgreed = true := (Control.truthful_invariant b).after h
  refine ⟨htruthful, fun hvoid htask now m hm => handleRequest_refused b htask ?_ now hm⟩
  cases hflag : (after b es).pd.flags.explicitContract with
  | false => rfl
  | true => exact absurd (hvoid.symm.trans (htruthful hflag)) (by decide)

/-- A sink with a contract. -/
theorem contractTruthful_after_ready : (after .shipped readyAsSink).ContractTruthful .shipped :=
  contractTruthful_after .shipped _ (by decide +kernel)

/-- A received hard reset leaves the flag of the sink set. -/
theorem not_contractTruthful_hardReset :
    ¬ ∀ es : List Event, (after .shipped es).ContractTruthful .shipped := by
  intro h
  have hagreed := (h (readyAsSink ++ [.alert ⟨0, 1, 0⟩ 230000])).agreed
  revert hagreed
  decide +kernel

end Port

end UsbPd
