import UsbPd.Control.States

/-!
# The port refines the control machine

Every event takes the control part of the port to one of the outcomes of the
control machine. What the control machine keeps invariant therefore holds of
the port in every run.
-/

namespace UsbPd

namespace Port

variable (b : Board) (p : Port)

theorem control_runState_mem (inp : Input) :
    (p.runState b inp).control ∈ p.control.runState := by
  have harm : ∀ delay ≠ 0, ∀ next : PdState,
      (p.armOnEntry (inp.time .switch + delay) next).control = p.control.armOnEntry next := by
    intro delay hdelay next
    exact p.control_armOnEntry (add_delay_ne_zero _ _ hdelay) next
  unfold runState
  cases h : p.pd.taskState with
  | disabled => simp [Control.runState, h]
  | suspended => simp [Control.runState, h, control_suspended]
  | snkDisconnected => exact p.control_snkDisconnected_mem inp h
  | snkDisconnectedDebounce => exact p.control_snkDisconnectedDebounce_mem inp h
  | snkHardResetRecover => exact p.control_snkHardResetRecover_mem inp h
  | snkDiscovery => exact p.control_snkDiscovery_mem inp h
  | snkRequested => simp [Control.runState, h, control_snkRequested]
  | snkTransition => simp [Control.runState, h, snkTransition, harm pdTPsTransition (by decide)]
  | snkReady => exact p.control_snkReady_mem h
  | snkSwapInit => simp [Control.runState, h, snkSwapInit, control_sendOnEntry]
  | snkSwapSnkDisable => simp [Control.runState, h, snkSwapSnkDisable]
  | snkSwapSrcDisable =>
      simp [Control.runState, h, snkSwapSrcDisable, harm pdTPsSourceOff (by decide)]
  | snkSwapStandby => simp [Control.runState, h, control_snkSwapStandby]
  | snkSwapComplete => simp [Control.runState, h, control_snkSwapComplete]
  | srcDisconnected => exact p.control_srcDisconnected_mem inp h
  | srcDisconnectedDebounce => exact p.control_srcDisconnectedDebounce_mem inp h
  | srcHardResetRecover => exact p.control_srcHardResetRecover_mem inp h
  | srcStartup => simp [Control.runState, h, control_srcStartup]
  | srcDiscovery => exact p.control_srcDiscovery_mem b inp h
  | srcNegociate => simp [Control.runState, h, srcNegociate, harm pdTSenderResponse (by decide)]
  | srcAccepted => simp [Control.runState, h, srcAccepted, harm pdTSinkTransition (by decide)]
  | srcPowered => simp [Control.runState, h, control_srcPowered]
  | srcTransition => simp [Control.runState, h, control_srcTransition]
  | srcReady => exact p.control_srcReady_mem b h
  | srcGetSinkCap => simp [Control.runState, h, srcGetSinkCap, harm pdTSenderResponse (by decide)]
  | drSwap => simp [Control.runState, h, drSwap, control_sendOnEntry]
  | srcSwapInit => simp [Control.runState, h, srcSwapInit, control_sendOnEntry]
  | srcSwapSnkDisable =>
      simp [Control.runState, h, srcSwapSnkDisable, harm pdTSinkTransition (by decide)]
  | srcSwapSrcDisable => simp [Control.runState, h, control_srcSwapSrcDisable]
  | srcSwapStandby => simp [Control.runState, h, control_srcSwapStandby]
  | softReset => simp [Control.runState, h, control_softReset]
  | hardResetSend =>
      obtain ⟨few, hfew⟩ := p.control_hardResetSend inp
      cases few <;> simp [Control.runState, h, hfew]
  | hardResetExecute => simp [Control.runState, h, control_hardResetExecute]

theorem control_checkTimeout_mem (now : Nat) :
    (p.checkTimeout now).control ∈ p.control.checkTimeout := by
  unfold checkTimeout Control.checkTimeout
  by_cases harmed : p.pd.timeout = 0
  · have hv : ¬ p.control.armed = true := by
      simp [control, harmed]
    rw [if_neg hv, if_neg (fun h => h.1 harmed)]
    simp
  · have hv : p.control.armed = true := by
      simp [control, harmed]
    rw [if_pos hv]
    by_cases hnow : p.pd.timeout ≤ now
    · rw [if_pos ⟨harmed, hnow⟩, control_setState]
      simp [control]
    · rw [if_neg (fun h => hnow h.2)]
      simp

theorem control_checkSourceDetach_mem (inp : Input) (h : p.pd.powerRole = .source) :
    (p.checkSourceDetach inp).control ∈
      [p.control, (p.control.note .detach).setState .srcDisconnected] := by
  unfold checkSourceDetach
  rw [if_pos h]
  simp only
  generalize hq : (if (p.tcpmGetCc inp.ccTail).pd.polarity = true then
      (p.tcpmGetCc inp.ccTail).modifySt fun st => { st with cc1 := st.cc2 }
    else p.tcpmGetCc inp.ccTail) = q
  have hcontrol : q.control = p.control := by
    rw [← hq]
    split
    · rw [control_modifySt _ _ ⟨rfl, rfl⟩, control_tcpmGetCc]
    · exact p.control_tcpmGetCc inp.ccTail
  by_cases hopen : q.st.cc1 = .open
  · simp [hopen, pdTrySrcEnable, hcontrol]
  · simp [hopen, hcontrol]

theorem control_finish_mem (thisState : PdState) (inp : Input) :
    (p.finish thisState inp).control ∈ p.control.finish thisState := by
  unfold finish Control.finish
  rw [List.mem_flatMap]
  refine ⟨((p.setLast thisState).checkTimeout (inp.time .tail)).control, ?_, ?_⟩
  · rw [← control_setLast]
    exact (p.setLast thisState).control_checkTimeout_mem _
  · generalize (p.setLast thisState).checkTimeout (inp.time .tail) = q
    simp only [checkSinkDetach_eq]
    unfold Control.checkDetach
    by_cases hidle : ¬ q.pdIsConnected = true ∨ q.pdIsPowerSwapping = true
    · have hv : ¬ (q.control.connected = true ∧ ¬ q.control.powerSwapping = true ∧
          q.control.role = .source) := by
        rintro ⟨hconn, hswap, -⟩
        exact hidle.elim (fun h => h hconn) hswap
      rw [if_pos hidle, if_neg hv]
      simp
    · rw [if_neg hidle]
      rw [not_or, not_not] at hidle
      by_cases hrole : q.pd.powerRole = .source
      · have hv : q.control.connected = true ∧ ¬ q.control.powerSwapping = true ∧
            q.control.role = .source := ⟨hidle.1, hidle.2, hrole⟩
        rw [if_pos hv]
        exact q.control_checkSourceDetach_mem inp hrole
      · have hv : ¬ (q.control.connected = true ∧ ¬ q.control.powerSwapping = true ∧
            q.control.role = .source) := fun h => hrole h.2.2
        unfold checkSourceDetach
        rw [if_neg hrole, if_neg hv]
        simp

theorem control_applySuspend : p.applySuspend.control = p.control.applySuspend := by
  unfold applySuspend Control.applySuspend
  by_cases h : p.pd.reqSuspendState = true
  · simp [h]
  · simp [h]

/-- One iteration. -/
theorem control_pdRunStateMachine_mem (inp : Input) :
    (p.pdRunStateMachine b inp).control ∈
      p.control.iterate inp.reset (inp.message.map (PdMsg.kind b)) := by
  have hreceive := (p.beforeMessage inp).control_receive_mem b inp
  rw [control_beforeMessage] at hreceive
  unfold Control.iterate
  rw [List.mem_flatMap]
  refine ⟨_, hreceive, ?_⟩
  rw [← control_applySuspend]
  change ((((p.beforeSwitch b inp)).runState b inp).finish _ inp).control ∈
    (p.beforeSwitch b inp).control.runSwitch
  unfold Control.runSwitch
  rw [List.mem_flatMap]
  exact ⟨_, control_runState_mem b _ inp, control_finish_mem _ _ inp⟩

theorem control_pdTransmitComplete (status : TxStatus) :
    (p.pdTransmitComplete status).control = p.control.setTx (status == .success) := by
  cases status <;> rfl

theorem control_modifyChip (f : Fusb302 → Fusb302)
    (h : (f p.chip).pullingUp = p.chip.pullingUp ∧
      (f p.chip).vconnEnabled = p.chip.vconnEnabled) :
    (p.modifyChip f).control = p.control := by
  obtain ⟨hup, hvconn⟩ := h
  simp [control, hup, hvconn]

theorem control_completeTransmissions (irq : Interrupts) :
    (p.completeTransmissions irq).control = p.control.completeTransmissions irq := by
  have hreset : ∀ q : Port, (q.modifyChip Fusb302.pdReset).control = q.control :=
    fun q => q.control_modifyChip _ ⟨rfl, rfl⟩
  unfold completeTransmissions Control.completeTransmissions
  simp only [apply_ite control, control_pdTransmitComplete, hreset]
  rfl

theorem control_tcpcAlert (irq : Interrupts) (now : Nat) :
    (p.tcpcAlert irq now).control = p.control.alert irq := by
  have hreset : ∀ q : Port, (q.modifyChip Fusb302.pdReset).control = q.control :=
    fun q => q.control_modifyChip _ ⟨rfl, rfl⟩
  have hflush : ∀ q : Port, (q.modifyChip Fusb302.flushRxFifo).control = q.control :=
    fun q => q.control_modifyChip _ ⟨rfl, rfl⟩
  unfold tcpcAlert Control.alert
  simp only [apply_ite control, control_pdExecuteHardReset, control_completeTransmissions,
    control_record, Control.note_alert, hreset, hflush, ite_self]

/-- One event. -/
theorem control_step_mem (e : Event) : (p.step b e).control ∈ p.control.step b e := by
  cases e with
  | iterate inp => exact p.control_pdRunStateMachine_mem b inp
  | alert irq now => simp [step, Control.step, control_tcpcAlert]
  | softReset =>
      by_cases h : p.pdIsConnected = true
      · simp [step, Control.step, pdSoftReset, Control.softResetCall, h]
      · simp [step, Control.step, pdSoftReset, Control.softResetCall, h]
  | requestPowerSwap =>
      by_cases hsrc : p.pd.taskState = .srcReady
      · simp [step, Control.step, pdRequestPowerSwap, Control.requestPowerSwap, hsrc]
      by_cases hsnk : p.pd.taskState = .snkReady
      · simp [step, Control.step, pdRequestPowerSwap, Control.requestPowerSwap, hsnk]
      · simp [step, Control.step, pdRequestPowerSwap, Control.requestPowerSwap, hsrc, hsnk]
  | requestDataSwap =>
      by_cases h : p.pd.taskState = p.readyReturnState
      · simp [step, Control.step, pdRequestDataSwap, Control.requestDataSwap, h]
      · simp [step, Control.step, pdRequestDataSwap, Control.requestDataSwap, h]
  | sendVdm vid cmd data => simp [step, Control.step]
  | setDualRole state => simp [step, Control.step, control_modifySt]
  | pingEnable enable => simp [step, Control.step]
  | setNewPowerRequest => simp [step, Control.step, control_modifyPd]
  | vbusLow => simp [step, Control.step]
  | setMaxVoltage mv => simp [step, Control.step, control_modifySt]
  | button => simp [step, Control.step, pressButton, control_modifySt]

theorem control_refines : Machine.Refines control (step b) (Control.step b) :=
  fun p e => p.control_step_mem b e

end Port

/-- The control part of the port that `setup` leaves. -/
def Control.start : Control where
  task := .snkDisconnected
  last := .disabled
  role := .sink
  armed := false
  timeoutState := .disabled
  explicit := false
  pullingUp := false
  vconn := false
  txOk := true
  fewResets := true
  hardResetSent := false
  suspending := false
  history := { receiving := false, vbus := false, hardResetPending := false, contract := false }

theorem Port.control_setup : Port.setup.control = Control.start := by
  decide

end UsbPd
