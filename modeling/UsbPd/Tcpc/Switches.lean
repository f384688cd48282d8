import UsbPd.Tcpc.Fusb302

/-!
# The switches of the port controller

SWITCHES0, SWITCHES1 and MASK are read and rewritten by several operations of the
driver, each of which changes some of their bits. `Registers.switches` reads these bits,
and there is one lemma for each operation that says what becomes of them. `Coupled` says
how they go with the driver's own record of what it selected.
-/

namespace UsbPd

/-- `enum tcpm_transmit_type`, all of it. -/
inductive TcpmTransmitType where
  | sop | sopPrime | sopPrimePrime | sopDebugPrime | sopDebugPrimePrime
  | hardReset | cableReset | bistMode2
  deriving DecidableEq, Repr

/-- The type, if `fusb302_tcpm_transmit` has a case for it. -/
def TcpmTransmitType.accepted : TcpmTransmitType → Option TransmitType
  | .sop => some .sop
  | .hardReset => some .hardReset
  | .bistMode2 => some .bistMode2
  | _ => none

/-- The bits of SWITCHES0, SWITCHES1 and MASK that the driver keeps a record of. -/
@[ext] structure Switches where
  pullUp1 : Bool
  pullUp2 : Bool
  pullDown1 : Bool
  pullDown2 : Bool
  vconn1 : Bool
  vconn2 : Bool
  meas1 : Bool
  meas2 : Bool
  txcc1 : Bool
  txcc2 : Bool
  autoGcrc : Bool
  bcLvlMasked : Bool
  deriving DecidableEq

def Registers.switches (regs : Registers) : Switches where
  pullUp1 := regs.switches0.getLsbD 6
  pullUp2 := regs.switches0.getLsbD 7
  pullDown1 := regs.switches0.getLsbD 0
  pullDown2 := regs.switches0.getLsbD 1
  vconn1 := regs.switches0.getLsbD 4
  vconn2 := regs.switches0.getLsbD 5
  meas1 := regs.switches0.getLsbD 2
  meas2 := regs.switches0.getLsbD 3
  txcc1 := regs.switches1.getLsbD 0
  txcc2 := regs.switches1.getLsbD 1
  autoGcrc := regs.switches1.getLsbD 2
  bcLvlMasked := regs.mask.getLsbD 0

namespace Fusb302

/-- `fusb302_tcpm_transmit` for every type: the FIFO is flushed in any case. -/
def tcpmTransmit (c : Fusb302) (type : TcpmTransmitType) : EcResult × Fusb302 :=
  match type.accepted with
  | some type => (.success, c.transmit type)
  | none => (.errorUnimplemented, c.flushTxFifo)

/-! What each operation does to the switches. -/

section

variable (c : Fusb302)

theorem switches_setPolarity (polarity : Int) :
    (c.setPolarity polarity).regs.switches = { c.regs.switches with
      vconn1 := c.vconnEnabled && polarity ≠ 0
      vconn2 := c.vconnEnabled && polarity = 0
      meas1 := polarity = 0
      meas2 := polarity ≠ 0
      txcc1 := polarity = 0
      txcc2 := polarity ≠ 0 } := by
  unfold setPolarity
  cases hvconn : c.vconnEnabled <;> by_cases hpolarity : polarity = 0 <;>
    simp [Registers.switches, tcpcWrite, tcpcRead, writeReg, readReg, hpolarity,
      switches0VconnCc1, switches0VconnCc2, switches0MeasCc1, switches0MeasCc2,
      switches1Txcc1En, switches1Txcc2En]

theorem switches_setVconn_false :
    (c.setVconn false).regs.switches =
      { c.regs.switches with vconn1 := false, vconn2 := false } := by
  simp [setVconn, Registers.switches, tcpcWrite, tcpcRead, writeReg, readReg, switches0VconnCc1,
    switches0VconnCc2]

theorem switches_setCc_rp :
    (c.setCc .rp).2.regs.switches = { c.regs.switches with
      pullUp1 := true
      pullUp2 := true
      pullDown1 := false
      pullDown2 := false
      vconn1 := c.vconnEnabled && c.ccPolarity ≠ 0
      vconn2 := c.vconnEnabled && c.ccPolarity = 0 } := by
  unfold setCc
  cases hvconn : c.vconnEnabled <;> by_cases hpolarity : c.ccPolarity = 0 <;>
    simp [Registers.switches, tcpcWrite, tcpcRead, writeReg, readReg, hpolarity,
      switches0Cc2PuEn, switches0Cc1PuEn, switches0Cc1PdEn, switches0Cc2PdEn, switches0VconnCc1,
      switches0VconnCc2]

theorem switches_setCc_rd :
    (c.setCc .rd).2.regs.switches = { c.regs.switches with
      pullUp1 := false, pullUp2 := false, pullDown1 := true, pullDown2 := true } := by
  simp [setCc, Registers.switches, tcpcWrite, tcpcRead, writeReg, readReg, switches0Cc2PuEn,
    switches0Cc1PuEn, switches0Cc1PdEn, switches0Cc2PdEn]

theorem switches_setCc_open :
    (c.setCc .open).2.regs.switches = { c.regs.switches with
      pullUp1 := false, pullUp2 := false, pullDown1 := false, pullDown2 := false } := by
  simp [setCc, Registers.switches, tcpcWrite, tcpcRead, writeReg, readReg, switches0Cc2PuEn,
    switches0Cc1PuEn, switches0Cc1PdEn, switches0Cc2PdEn]

theorem switches_setMsgHeader (powerRole dataRole : Bool) :
    (c.setMsgHeader powerRole dataRole).regs.switches = c.regs.switches := by
  cases powerRole <;> cases dataRole <;>
    simp [setMsgHeader, Registers.switches, tcpcWrite, tcpcRead, writeReg, readReg,
      switches1PowerRole, switches1DataRole]

theorem switches_setRxEnable_true (hpolarity : c.ccPolarity = 0 ∨ c.ccPolarity = 1) :
    (c.setRxEnable true).2.regs.switches = { c.regs.switches with
      meas1 := c.ccPolarity = 0
      meas2 := c.ccPolarity ≠ 0
      autoGcrc := true
      bcLvlMasked := true } := by
  unfold setRxEnable
  rcases hpolarity with h | h <;>
    simp [h, autoGoodcrcEnable, flushRxFifo, Registers.switches, tcpcWrite, tcpcRead, writeReg,
      readReg, switches0MeasCc1, switches0MeasCc2, switches1AutoGcrc, maskBcLvl]

theorem switches_setRxEnable_false :
    (c.setRxEnable false).2.regs.switches = { c.regs.switches with
      meas1 := false, meas2 := false, autoGcrc := false, bcLvlMasked := false } := by
  simp [setRxEnable, autoGoodcrcEnable, Registers.switches, tcpcWrite, tcpcRead, writeReg, readReg,
    switches0MeasCc1, switches0MeasCc2, switches1AutoGcrc, maskBcLvl]

theorem switches_transmit (type : TransmitType) :
    (c.transmit type).regs.switches = c.regs.switches := by
  cases type <;> rfl

theorem switches_tcpmTransmit (type : TcpmTransmitType) :
    (c.tcpmTransmit type).2.regs.switches = c.regs.switches := by
  unfold tcpmTransmit
  split
  · exact c.switches_transmit _
  · rfl

theorem switches_selectRpValue (rp : RpValue) :
    (c.selectRpValue rp).regs.switches = c.regs.switches := by
  cases rp <;> rfl

/-- After `fusb302_tcpm_init` both pull-downs are on, and CC1 is the CC line. -/
theorem switches_init :
    c.init.regs.switches =
      { pullUp1 := false, pullUp2 := false, pullDown1 := true, pullDown2 := true,
        vconn1 := false, vconn2 := false, meas1 := true, meas2 := false, txcc1 := true,
        txcc2 := false, autoGcrc := false, bcLvlMasked := false } := by
  cases hvconn : c.vconnEnabled <;>
    simp [init, autoGoodcrcEnable, setVconn, setPolarity, hvconn, tcpcWrite, tcpcRead, writeReg,
      readReg, Registers.switches, Registers.default, resetSwReset, switches0VconnCc1,
      switches0VconnCc2, switches0MeasCc1, switches0MeasCc2, switches1Txcc1En, switches1Txcc2En,
      switches1AutoGcrc, maskBcLvl, maskCollision, maskAlert, maskCrcChk]

end

/-! `fusb302_tcpm_get_cc` restores SWITCHES0. -/

section

variable (c : Fusb302)

theorem switches0_measureCcPinSource (pin2 : Bool) (vnc rd : BitVec 8) :
    (c.measureCcPinSource pin2 vnc rd).2.regs.switches0 = c.regs.switches0 := by
  unfold measureCcPinSource
  simp only
  split_ifs <;> rfl

/-- Only the measure switches are touched, and they are put back. -/
theorem switches0_restored (orig : BitVec 8) :
    let reg := orig &&& ~~~switches0MeasCc2 ||| switches0MeasCc1
    let reg := reg &&& ~~~switches0MeasCc1 ||| switches0MeasCc2
    let reg := if orig &&& switches0MeasCc1 = 0 then reg &&& ~~~switches0MeasCc1
      else reg ||| switches0MeasCc1
    (if orig &&& switches0MeasCc2 = 0 then reg &&& ~~~switches0MeasCc2
      else reg ||| switches0MeasCc2) = orig := by
  revert orig
  decide +kernel

theorem switches0_detectCcPinSink (r : CcReading) :
    (c.detectCcPinSink r).2.2.regs.switches0 = c.regs.switches0 :=
  switches0_restored c.regs.switches0

theorem switches0_getCc (r : CcReading) (cc1 cc2 : CcVoltage) :
    (c.getCc r cc1 cc2).2.2.regs.switches0 = c.regs.switches0 := by
  unfold getCc detectCcPinSourceManual
  split_ifs
  · exact c.switches0_measureCcPinSource _ _ _
  · exact c.switches0_measureCcPinSource _ _ _
  · exact (switches0_measureCcPinSource _ _ _ _).trans (c.switches0_measureCcPinSource _ _ _)
  · exact c.switches0_detectCcPinSink r

/-- Besides SWITCHES0, a measurement touches MEASURE only. -/
theorem switches_getCc (r : CcReading) (cc1 cc2 : CcVoltage) :
    (c.getCc r cc1 cc2).2.2.regs.switches = c.regs.switches := by
  have hswitches0 := c.switches0_getCc r cc1 cc2
  have hrest : (c.getCc r cc1 cc2).2.2.regs.switches1 = c.regs.switches1 ∧
      (c.getCc r cc1 cc2).2.2.regs.mask = c.regs.mask := by
    unfold getCc detectCcPinSourceManual measureCcPinSource
    simp only
    split_ifs <;> exact ⟨rfl, rfl⟩
  unfold Registers.switches
  rw [hswitches0, hrest.1, hrest.2]

end

end Fusb302

/-- What the driver has selected, as far as it concerns the switches. -/
structure Selected where
  ccPolarity : Int
  vconnEnabled : Bool
  pullingUp : Bool
  rxEnable : Bool

/-- The selection agrees with the switches. -/
structure Coupled (sel : Selected) (sw : Switches) : Prop where
  vconn : (sw.vconn1 = true ∨ sw.vconn2 = true) ↔ sel.vconnEnabled = true
  vconn1 : sw.vconn1 = true → sel.ccPolarity = 1
  vconn2 : sw.vconn2 = true → sel.ccPolarity = 0
  txcc : sel.ccPolarity = 0 ∧ sw.txcc1 = true ∧ sw.txcc2 = false ∨
    sel.ccPolarity = 1 ∧ sw.txcc1 = false ∧ sw.txcc2 = true
  rxOn : sel.rxEnable = true →
    ((sw.meas1 = true ↔ sel.ccPolarity = 0) ∧ (sw.meas2 = true ↔ sel.ccPolarity = 1)) ∧
      sw.autoGcrc = true ∧ sw.bcLvlMasked = true
  rxOff : sel.rxEnable = false → sw.autoGcrc = false ∧ sw.bcLvlMasked = false
  pullUp : sel.pullingUp = true → (sw.pullUp1 = true ∧ sw.pullUp2 = true) ∧
    sw.pullDown1 = false ∧ sw.pullDown2 = false
  noPullUp : sel.pullingUp = false → sw.pullUp1 = false ∧ sw.pullUp2 = false

namespace Coupled

variable {sel : Selected} {sw : Switches} (h : Coupled sel sw)

include h

theorem polarity : sel.ccPolarity = 0 ∨ sel.ccPolarity = 1 := by
  rcases h.txcc with ⟨h0, -⟩ | ⟨h1, -⟩
  · exact .inl h0
  · exact .inr h1

theorem polarized (enable polarity : Bool) :
    Coupled { sel with ccPolarity := polarity.toNat, vconnEnabled := enable } { sw with
      vconn1 := enable && polarity
      vconn2 := enable && !polarity
      meas1 := !polarity
      meas2 := polarity
      txcc1 := !polarity
      txcc2 := polarity } where
  vconn := by cases polarity <;> simp
  vconn1 := by cases polarity <;> simp
  vconn2 := by cases polarity <;> simp
  txcc := by cases polarity <;> simp
  rxOn hrx := ⟨by cases polarity <;> simp, (h.rxOn hrx).2⟩
  rxOff := h.rxOff
  pullUp := h.pullUp
  noPullUp := h.noPullUp

theorem vconnOff :
    Coupled { sel with vconnEnabled := false } { sw with vconn1 := false, vconn2 := false } where
  vconn := by simp
  vconn1 := by simp
  vconn2 := by simp
  txcc := h.txcc
  rxOn := h.rxOn
  rxOff := h.rxOff
  pullUp := h.pullUp
  noPullUp := h.noPullUp

theorem pullsUp :
    Coupled { sel with pullingUp := true } { sw with
      pullUp1 := true
      pullUp2 := true
      pullDown1 := false
      pullDown2 := false
      vconn1 := sel.vconnEnabled && sel.ccPolarity ≠ 0
      vconn2 := sel.vconnEnabled && sel.ccPolarity = 0 } where
  vconn := by rcases h.polarity with h0 | h1 <;> simp [*]
  vconn1 := by rcases h.polarity with h0 | h1 <;> simp [*]
  vconn2 := by rcases h.polarity with h0 | h1 <;> simp [*]
  txcc := h.txcc
  rxOn := h.rxOn
  rxOff := h.rxOff
  pullUp _ := ⟨⟨rfl, rfl⟩, rfl, rfl⟩
  noPullUp hup := by cases hup

theorem pullsDown (down : Bool) :
    Coupled { sel with pullingUp := false } { sw with
      pullUp1 := false, pullUp2 := false, pullDown1 := down, pullDown2 := down } where
  vconn := h.vconn
  vconn1 := h.vconn1
  vconn2 := h.vconn2
  txcc := h.txcc
  rxOn := h.rxOn
  rxOff := h.rxOff
  pullUp hup := by cases hup
  noPullUp _ := ⟨rfl, rfl⟩

theorem receives :
    Coupled { sel with rxEnable := true } { sw with
      meas1 := sel.ccPolarity = 0
      meas2 := sel.ccPolarity ≠ 0
      autoGcrc := true
      bcLvlMasked := true } where
  vconn := h.vconn
  vconn1 := h.vconn1
  vconn2 := h.vconn2
  txcc := h.txcc
  rxOn _ := ⟨by rcases h.polarity with h0 | h1 <;> simp [*], rfl, rfl⟩
  rxOff hrx := by cases hrx
  pullUp := h.pullUp
  noPullUp := h.noPullUp

theorem ignores :
    Coupled { sel with rxEnable := false } { sw with
      meas1 := false, meas2 := false, autoGcrc := false, bcLvlMasked := false } where
  vconn := h.vconn
  vconn1 := h.vconn1
  vconn2 := h.vconn2
  txcc := h.txcc
  rxOn hrx := by cases hrx
  rxOff _ := ⟨rfl, rfl⟩
  pullUp := h.pullUp
  noPullUp := h.noPullUp

end Coupled

namespace Fusb302

def selected (c : Fusb302) : Selected where
  ccPolarity := c.ccPolarity
  vconnEnabled := c.vconnEnabled
  pullingUp := c.pullingUp
  rxEnable := c.rxEnable

/-- The driver's record agrees with the registers. -/
def Matches (c : Fusb302) : Prop := Coupled c.selected c.regs.switches

namespace Matches

variable {c : Fusb302}

theorem of_eq {d : Fusb302} (h : c.Matches) (hselected : d.selected = c.selected)
    (hswitches : d.regs.switches = c.regs.switches) : d.Matches := by
  unfold Matches
  rw [hselected, hswitches]
  exact h

variable (h : c.Matches)

include h

theorem setPolarity (polarity : Bool) : (c.setPolarity polarity.toNat).Matches := by
  have hcoupled := Coupled.polarized h c.vconnEnabled polarity
  have hselected : (c.setPolarity polarity.toNat).selected =
      { c.selected with ccPolarity := polarity.toNat } := rfl
  unfold Matches
  rw [hselected, switches_setPolarity]
  cases polarity <;> exact hcoupled

theorem setVconn_true : (c.setVconn true).Matches := by
  obtain ⟨polarity, hpolarity⟩ : ∃ polarity : Bool, c.ccPolarity = polarity.toNat := by
    rcases Coupled.polarity h with h0 | h1
    · exact ⟨false, h0⟩
    · exact ⟨true, h1⟩
  have hcoupled := Coupled.polarized h true polarity
  have heq : c.setVconn true =
      { c with vconnEnabled := true }.setPolarity polarity.toNat := by
    rw [← hpolarity]
    rfl
  unfold Matches
  rw [heq, switches_setPolarity]
  cases polarity <;> exact hcoupled

theorem setVconn (enable : Bool) : (c.setVconn enable).Matches := by
  cases enable with
  | false =>
      unfold Matches
      rw [switches_setVconn_false]
      exact Coupled.vconnOff h
  | true => exact h.setVconn_true

theorem setCc (pull : CcPull) : (c.setCc pull).2.Matches := by
  unfold Matches
  cases pull with
  | ra => exact h
  | rp =>
      rw [switches_setCc_rp]
      exact Coupled.pullsUp h
  | rd =>
      rw [switches_setCc_rd]
      exact Coupled.pullsDown h true
  | «open» =>
      rw [switches_setCc_open]
      exact Coupled.pullsDown h false

theorem setRxEnable (enable : Bool) : (c.setRxEnable enable).2.Matches := by
  unfold Matches
  cases enable with
  | false =>
      rw [switches_setRxEnable_false]
      exact Coupled.ignores h
  | true =>
      have hselected : (c.setRxEnable true).2.selected = { c.selected with rxEnable := true } := by
        have hknown := Coupled.polarity h
        unfold Fusb302.setRxEnable
        rcases hknown with h0 | h1
        · rw [if_pos rfl, if_neg fun hne => hne.1 h0]
          rfl
        · rw [if_pos rfl, if_neg fun hne => hne.2 h1]
          rfl
      rw [hselected, switches_setRxEnable_true c (Coupled.polarity h)]
      exact Coupled.receives h

theorem setMsgHeader (powerRole dataRole : Bool) : (c.setMsgHeader powerRole dataRole).Matches :=
  h.of_eq rfl (c.switches_setMsgHeader powerRole dataRole)

theorem selectRpValue (rp : RpValue) : (c.selectRpValue rp).Matches :=
  h.of_eq (by cases rp <;> rfl) (c.switches_selectRpValue rp)

theorem getCc (r : CcReading) (cc1 cc2 : CcVoltage) : (c.getCc r cc1 cc2).2.2.Matches := by
  have hselected : (c.getCc r cc1 cc2).2.2.selected = c.selected := by
    unfold Fusb302.getCc detectCcPinSourceManual measureCcPinSource
    simp only
    split_ifs <;> rfl
  exact h.of_eq hselected (c.switches_getCc r cc1 cc2)

theorem tcpmTransmit (type : TcpmTransmitType) : (c.tcpmTransmit type).2.Matches :=
  h.of_eq (by cases type <;> rfl) (c.switches_tcpmTransmit type)

theorem pdReset : c.pdReset.Matches := h

theorem flushRxFifo : c.flushRxFifo.Matches := h

end Matches

/-- `fusb302_tcpm_init` clears neither `pulling_up` nor `rx_enable`. -/
theorem matches_init_iff (c : Fusb302) :
    c.init.Matches ↔ c.pullingUp = false ∧ c.rxEnable = false := by
  have hselected : c.init.selected =
      { ccPolarity := 0, vconnEnabled := false, pullingUp := c.pullingUp,
        rxEnable := c.rxEnable } := rfl
  unfold Matches
  rw [hselected, switches_init]
  constructor
  · intro h
    refine ⟨Bool.eq_false_iff.2 fun hup => ?_, Bool.eq_false_iff.2 fun hrx => ?_⟩
    · have hpull := (h.pullUp hup).1.1
      cases hpull
    · have hgcrc := (h.rxOn hrx).2.1
      cases hgcrc
  · rintro ⟨hup, hrx⟩
    constructor <;> simp [hup, hrx]

end Fusb302

end UsbPd
