import UsbPd.Control.Machine

/-!
# The control part of the port's operations

Each operation of the port has its counterpart on the control machine. The
lemmas below push `Port.control` through an operation; with them the control
part of a whole handler is computed by rewriting.
-/

namespace UsbPd

namespace Fusb302

@[simp] theorem tcpcWrite_pullingUp (c : Fusb302) (r : TcpcReg) (v : BitVec 8) :
    (c.tcpcWrite r v).pullingUp = c.pullingUp := rfl

@[simp] theorem tcpcWrite_vconnEnabled (c : Fusb302) (r : TcpcReg) (v : BitVec 8) :
    (c.tcpcWrite r v).vconnEnabled = c.vconnEnabled := rfl

@[simp] theorem tcpcWrite_ccPolarity (c : Fusb302) (r : TcpcReg) (v : BitVec 8) :
    (c.tcpcWrite r v).ccPolarity = c.ccPolarity := rfl

@[simp] theorem setPolarity_pullingUp (c : Fusb302) (polarity : Int) :
    (c.setPolarity polarity).pullingUp = c.pullingUp := by
  simp [setPolarity]

@[simp] theorem setPolarity_vconnEnabled (c : Fusb302) (polarity : Int) :
    (c.setPolarity polarity).vconnEnabled = c.vconnEnabled := by
  simp [setPolarity]

@[simp] theorem setPolarity_ccPolarity (c : Fusb302) (polarity : Int) :
    (c.setPolarity polarity).ccPolarity = polarity := rfl

@[simp] theorem setMsgHeader_pullingUp (c : Fusb302) (prole drole : Bool) :
    (c.setMsgHeader prole drole).pullingUp = c.pullingUp := by
  simp [setMsgHeader]

@[simp] theorem setMsgHeader_vconnEnabled (c : Fusb302) (prole drole : Bool) :
    (c.setMsgHeader prole drole).vconnEnabled = c.vconnEnabled := by
  simp [setMsgHeader]

@[simp] theorem setMsgHeader_ccPolarity (c : Fusb302) (prole drole : Bool) :
    (c.setMsgHeader prole drole).ccPolarity = c.ccPolarity := by
  simp [setMsgHeader]

@[simp] theorem autoGoodcrcEnable_pullingUp (c : Fusb302) (enable : Bool) :
    (c.autoGoodcrcEnable enable).pullingUp = c.pullingUp := by
  simp [autoGoodcrcEnable]

@[simp] theorem autoGoodcrcEnable_vconnEnabled (c : Fusb302) (enable : Bool) :
    (c.autoGoodcrcEnable enable).vconnEnabled = c.vconnEnabled := by
  simp [autoGoodcrcEnable]

@[simp] theorem setRxEnable_pullingUp (c : Fusb302) (enable : Bool) :
    (c.setRxEnable enable).2.pullingUp = c.pullingUp := by
  cases enable with
  | false => simp [setRxEnable]
  | true =>
      by_cases h : c.ccPolarity ≠ 0 ∧ c.ccPolarity ≠ 1 <;> simp [setRxEnable, flushRxFifo, h]

@[simp] theorem setRxEnable_vconnEnabled (c : Fusb302) (enable : Bool) :
    (c.setRxEnable enable).2.vconnEnabled = c.vconnEnabled := by
  cases enable with
  | false => simp [setRxEnable]
  | true =>
      by_cases h : c.ccPolarity ≠ 0 ∧ c.ccPolarity ≠ 1 <;> simp [setRxEnable, flushRxFifo, h]

@[simp] theorem setRxEnable_false_fst (c : Fusb302) : (c.setRxEnable false).1 = .success := rfl

theorem setRxEnable_true_fst (c : Fusb302) (h : c.ccPolarity = 0 ∨ c.ccPolarity = 1) :
    (c.setRxEnable true).1 = .success := by
  unfold setRxEnable
  rcases h with h | h <;> simp [h]

@[simp] theorem setCc_vconnEnabled (c : Fusb302) (pull : CcPull) :
    (c.setCc pull).2.vconnEnabled = c.vconnEnabled := by
  cases pull <;> simp [setCc]

@[simp] theorem setCc_rp_pullingUp (c : Fusb302) : (c.setCc .rp).2.pullingUp = true := rfl

@[simp] theorem setCc_rd_pullingUp (c : Fusb302) : (c.setCc .rd).2.pullingUp = false := rfl

@[simp] theorem transmit_pullingUp (c : Fusb302) (type : TransmitType) :
    (c.transmit type).pullingUp = c.pullingUp := by
  cases type <;> simp [transmit, flushTxFifo]

@[simp] theorem transmit_vconnEnabled (c : Fusb302) (type : TransmitType) :
    (c.transmit type).vconnEnabled = c.vconnEnabled := by
  cases type <;> simp [transmit, flushTxFifo]

@[simp] theorem measureCcPinSource_pullingUp (c : Fusb302) (pin2 : Bool) (vnc rd : BitVec 8) :
    (c.measureCcPinSource pin2 vnc rd).2.pullingUp = c.pullingUp := by
  by_cases h : vnc &&& status0Comp = 0#8 <;> simp [measureCcPinSource, h]

@[simp] theorem measureCcPinSource_vconnEnabled (c : Fusb302) (pin2 : Bool) (vnc rd : BitVec 8) :
    (c.measureCcPinSource pin2 vnc rd).2.vconnEnabled = c.vconnEnabled := by
  by_cases h : vnc &&& status0Comp = 0#8 <;> simp [measureCcPinSource, h]

@[simp] theorem getCc_pullingUp (c : Fusb302) (r : CcReading) (cc1 cc2 : CcVoltage) :
    (c.getCc r cc1 cc2).2.2.pullingUp = c.pullingUp := by
  by_cases hup : c.pullingUp
  · by_cases hvconn : c.vconnEnabled
    · by_cases hpol : c.ccPolarity = 0 <;> simp [getCc, detectCcPinSourceManual, hup, hvconn, hpol]
    · simp [getCc, detectCcPinSourceManual, hup, hvconn]
  · simp [getCc, detectCcPinSink, hup]

@[simp] theorem getCc_vconnEnabled (c : Fusb302) (r : CcReading) (cc1 cc2 : CcVoltage) :
    (c.getCc r cc1 cc2).2.2.vconnEnabled = c.vconnEnabled := by
  by_cases hup : c.pullingUp
  · by_cases hvconn : c.vconnEnabled
    · by_cases hpol : c.ccPolarity = 0 <;> simp [getCc, detectCcPinSourceManual, hup, hvconn, hpol]
    · simp [getCc, detectCcPinSourceManual, hup, hvconn]
  · simp [getCc, detectCcPinSink, hup]

/-- With Rp presented and VCONN off no reading looks like an Rp of the partner. -/
theorem getCc_source (c : Fusb302) (r : CcReading) (cc1 cc2 : CcVoltage)
    (hup : c.pullingUp = true) (hvconn : c.vconnEnabled = false) :
    (c.getCc r cc1 cc2).1 ∈ [CcVoltage.open, .ra, .rd] ∧
      (c.getCc r cc1 cc2).2.1 ∈ [CcVoltage.open, .ra, .rd] := by
  have hmeasure : ∀ (c : Fusb302) (pin2 : Bool) (vnc rd : BitVec 8),
      (c.measureCcPinSource pin2 vnc rd).1 ∈ [CcVoltage.open, .ra, .rd] := by
    intro c pin2 vnc rd
    by_cases hvnc : vnc &&& status0Comp = 0#8
    · by_cases hrd : rd &&& status0Comp = 0#8 <;> simp [measureCcPinSource, hvnc, hrd]
    · simp [measureCcPinSource, hvnc]
  simp only [getCc, hup, if_true, detectCcPinSourceManual, hvconn, Bool.false_eq_true, if_false]
  exact ⟨hmeasure _ _ _ _, hmeasure _ _ _ _⟩

/-- With Rd presented no reading looks like an Rd or Ra of the partner. -/
theorem getCc_sink (c : Fusb302) (r : CcReading) (cc1 cc2 : CcVoltage)
    (hdown : c.pullingUp = false) :
    (c.getCc r cc1 cc2).1 ∈ [CcVoltage.open, .snkDef, .snk15, .snk30] ∧
      (c.getCc r cc1 cc2).2.1 ∈ [CcVoltage.open, .snkDef, .snk15, .snk30] := by
  have hconvert : ∀ (c : Fusb302) (lvl : BitVec 8), c.pullingUp = false →
      c.convertBcLvl lvl ∈ [CcVoltage.open, .snkDef, .snk15, .snk30] := by
    intro c lvl hc
    simp only [convertBcLvl, hc, Bool.false_eq_true, if_false]
    split
    · simp
    · split
      · simp
      · split <;> simp
  simp only [getCc, hdown, Bool.false_eq_true, if_false, detectCcPinSink]
  exact ⟨hconvert _ _ (by simp [hdown]), hconvert _ _ (by simp [hdown])⟩

end Fusb302

namespace Control

@[simp] theorem note_received (v : Control) (m : PdMsg) : v.note (.received m) = v := rfl

@[simp] theorem note_alert (v : Control) (irq : Interrupts) : v.note (.alert irq) = v := rfl

@[simp] theorem note_msgIdReset (v : Control) : v.note .msgIdReset = v := rfl

@[simp] theorem note_inputCurrentLimit (v : Control) (ma mv : Nat) :
    v.note (.inputCurrentLimit ma mv) = v := rfl

@[simp] theorem note_transitionVoltage (v : Control) (idx : Nat) :
    v.note (.transitionVoltage idx) = v := rfl

@[simp] theorem note_transmit_sop (v : Control) (header : BitVec 16) (data : List Word)
    (res : Int) : v.note (.transmit .sop header data res) = v := rfl

@[simp] theorem note_transmit_bist (v : Control) (header : BitVec 16) (data : List Word)
    (res : Int) : v.note (.transmit .bistMode2 header data res) = v := rfl

end Control

namespace Port

variable (p : Port)

/-! Updates outside the control part. -/

@[simp] theorem control_record (c : Call) : (p.record c).control = p.control.note c := rfl

@[simp] theorem control_setFlags (flags : PdFlags) :
    (p.setFlags flags).control = p.control.setExplicit flags.explicitContract := rfl

@[simp] theorem control_setExplicit_self :
    p.control.setExplicit p.pd.flags.explicitContract = p.control := rfl

/-- Flags other than `PD_FLAGS_EXPLICIT_CONTRACT` are not part of the control. -/
@[simp high] theorem control_setFlags_of_explicit (flags : PdFlags)
    (h : flags.explicitContract = p.pd.flags.explicitContract) :
    (p.setFlags flags).control = p.control := by
  rw [control_setFlags, h, control_setExplicit_self]

@[simp] theorem control_setPowerRole (role : PowerRole) :
    (p.setPowerRole role).control = p.control.setRole role := rfl

@[simp] theorem control_resetMsgId : p.resetMsgId.control = p.control := rfl

@[simp] theorem control_incId : p.incId.control = p.control := rfl

@[simp] theorem control_pdSetInputCurrentLimit (ma mv : Nat) :
    (p.pdSetInputCurrentLimit ma mv).control = p.control := rfl

@[simp] theorem control_pdPowerSupplyReset :
    p.pdPowerSupplyReset.control = p.control.note (.vbus false) := rfl

@[simp] theorem control_pdSetPowerSupplyReady :
    p.pdSetPowerSupplyReady.2.control = p.control.note (.vbus true) := rfl

@[simp] theorem control_pdTransitionVoltage (idx : Nat) :
    (p.pdTransitionVoltage idx).control = p.control := rfl

/-! Calls into the port controller. -/

@[simp] theorem control_tcpmSetCc_rp : (p.tcpmSetCc .rp).control = p.control.setPull true := rfl

@[simp] theorem control_tcpmSetCc_rd : (p.tcpmSetCc .rd).control = p.control.setPull false := rfl

@[simp] theorem control_tcpmSetPolarity (polarity : Bool) :
    (p.tcpmSetPolarity polarity).control = p.control := rfl

@[simp] theorem control_tcpmSetMsgHeader (prole : PowerRole) (drole : DataRole) :
    (p.tcpmSetMsgHeader prole drole).control = p.control := rfl

@[simp] theorem control_pdUpdateRoles : p.pdUpdateRoles.control = p.control := rfl

@[simp] theorem control_tcpmGetCc (r : CcReading) : (p.tcpmGetCc r).control = p.control := by
  simp [control, tcpmGetCc]

@[simp] theorem control_tcpmSetRxEnable_false :
    (p.tcpmSetRxEnable false).control = p.control.note (.rxEnable false) := by
  simp [tcpmSetRxEnable, control, record, Control.note, History.ofLog]

theorem control_tcpmSetRxEnable_true (h : p.chip.ccPolarity = 0 ∨ p.chip.ccPolarity = 1) :
    (p.tcpmSetRxEnable true).control = p.control.note (.rxEnable true) := by
  have hres := p.chip.setRxEnable_true_fst h
  simp [tcpmSetRxEnable, hres, control, record, Control.note, History.ofLog]

/-! Transmissions. -/

theorem pdTransmit_fst (type : TransmitType) (header : BitVec 16) (data : List Word) :
    (p.pdTransmit type header data).1 = if p.pd.txStatus = .success then 1 else -1 := rfl

theorem pdTransmit_fst_neg (type : TransmitType) (header : BitVec 16) (data : List Word) :
    (p.pdTransmit type header data).1 < 0 ↔ p.control.txOk = false := by
  by_cases h : p.pd.txStatus = .success <;> simp [pdTransmit_fst, control, h]

theorem pdTransmit_fst_nonneg (type : TransmitType) (header : BitVec 16) (data : List Word) :
    0 ≤ (p.pdTransmit type header data).1 ↔ p.control.txOk = true := by
  by_cases h : p.pd.txStatus = .success <;> simp [pdTransmit_fst, control, h]

@[simp] theorem control_pdTransmit_sop (header : BitVec 16) (data : List Word) :
    (p.pdTransmit .sop header data).2.control = p.control := by
  simp [pdTransmit, pdCommIsEnabled, control, record, History.ofLog, History.note]

@[simp] theorem control_pdTransmit_bist (header : BitVec 16) (data : List Word) :
    (p.pdTransmit .bistMode2 header data).2.control = p.control := by
  simp [pdTransmit, pdCommIsEnabled, control, record, History.ofLog, History.note]

@[simp] theorem control_pdTransmit_hardReset (header : BitVec 16) (data : List Word) :
    (p.pdTransmit .hardReset header data).2.control =
      p.control.note (.transmit .hardReset 0 [] 0) := by
  simp [pdTransmit, pdCommIsEnabled, control, record, History.ofLog, History.note, Control.note]

@[simp] theorem control_sendControl (type : CtrlMsgType) :
    (p.sendControl type).2.control = p.control := by
  simp [sendControl]

@[simp] theorem control_sendSinkCap (b : Board) : (p.sendSinkCap b).control = p.control := by
  simp [sendSinkCap]

@[simp] theorem control_sendRequest (rdo : Word) :
    (p.sendRequest rdo).2.control = p.control := by
  simp [sendRequest]

@[simp] theorem control_sendSourceCap (b : Board) :
    (p.sendSourceCap b).2.control = p.control := by
  unfold sendSourceCap
  split <;> simp

theorem sendControl_neg (type : CtrlMsgType) :
    (p.sendControl type).1 < 0 ↔ p.control.txOk = false :=
  p.pdTransmit_fst_neg ..

theorem sendControl_nonneg (type : CtrlMsgType) :
    0 ≤ (p.sendControl type).1 ↔ p.control.txOk = true :=
  p.pdTransmit_fst_nonneg ..

theorem sendRequest_neg (rdo : Word) : (p.sendRequest rdo).1 < 0 ↔ p.control.txOk = false :=
  p.pdTransmit_fst_neg ..

theorem sendSourceCap_nonneg (b : Board) :
    0 ≤ (p.sendSourceCap b).1 ↔ p.control.txOk = true := by
  unfold sendSourceCap
  split <;> exact p.pdTransmit_fst_nonneg ..

/-! State changes. -/

theorem control_setStateTimeout {timeout : Nat} (h : timeout ≠ 0) (next : PdState) :
    (p.setStateTimeout timeout next).control = p.control.arm next := by
  simp [control, setStateTimeout, Control.arm, h]

@[simp] theorem control_enterDisconnected :
    p.enterDisconnected.control = p.control.enterDisconnected := by
  by_cases h : p.pd.powerRole = .source
  · have hv : p.control.role = .source := h
    simp [enterDisconnected, Control.enterDisconnected, h, hv, pdSetInputCurrentLimit, record]
    rfl
  · have hv : p.control.role ≠ .source := h
    simp [enterDisconnected, Control.enterDisconnected, h, hv, pdSetInputCurrentLimit, record]
    rfl

end Port

end UsbPd
