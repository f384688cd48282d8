import UsbPd.Tcpc.Switches
import UsbPd.System.Run

/-!
# The driver's record along runs

Calls of the driver in any order, and the interrupt handler between them, keep the
record of the driver in agreement with the switches of the chip. The exception is
`fusb302_tcpm_init`: it restores the registers, but assumes `pulling_up` and `rx_enable`
to be 0, and on a port that was in use they may not be.
-/

namespace UsbPd

/-- A call of the driver of the port controller. -/
inductive DriverCall where
  | init
  | setPolarity (polarity : Bool)
  | setVconn (enable : Bool)
  | setCc (pull : CcPull)
  | setRxEnable (enable : Bool)
  | setMsgHeader (powerRole dataRole : Bool)
  | getCc (reading : CcReading) (cc1 cc2 : CcVoltage)
  | selectRpValue (rp : RpValue)
  | transmit (type : TcpmTransmitType)
  /-- reads the receive FIFO and writes no register -/
  | getMessage
  | tcpcAlert (irq : Interrupts) (now : Nat)

namespace Port

/-- The port after a call. -/
def driverCall (p : Port) : DriverCall → Port
  | .init => p.modifyChip Fusb302.init
  | .setPolarity polarity => p.modifyChip fun c => c.setPolarity polarity.toNat
  | .setVconn enable => p.modifyChip fun c => c.setVconn enable
  | .setCc pull => p.modifyChip fun c => (c.setCc pull).2
  | .setRxEnable enable => p.modifyChip fun c => (c.setRxEnable enable).2
  | .setMsgHeader powerRole dataRole => p.modifyChip fun c => c.setMsgHeader powerRole dataRole
  | .getCc reading cc1 cc2 => p.modifyChip fun c => (c.getCc reading cc1 cc2).2.2
  | .selectRpValue rp => p.modifyChip fun c => c.selectRpValue rp
  | .transmit type => p.modifyChip fun c => (c.tcpmTransmit type).2
  | .getMessage => p
  | .tcpcAlert irq now => p.tcpcAlert irq now

/-- The driver's record agrees with the chip, and a measurement of the CC lines would
leave SWITCHES0 as it is. -/
def ShadowMatches (p : Port) : Prop :=
  p.chip.Matches ∧ ∀ reading cc1 cc2,
    (p.chip.getCc reading cc1 cc2).2.2.regs.switches0 = p.chip.regs.switches0

theorem shadowMatches_iff (p : Port) : p.ShadowMatches ↔ p.chip.Matches :=
  and_iff_left fun reading cc1 cc2 => p.chip.switches0_getCc reading cc1 cc2

/-! The interrupt handler resets the PD logic, flushes the FIFO and executes a hard reset. -/

theorem pdTransmitComplete_chip (p : Port) (status : TxStatus) :
    (p.pdTransmitComplete status).chip = p.chip := by
  unfold pdTransmitComplete
  split <;> rfl

theorem setState_chip (p : Port) {s : PdState} (hs : s ≠ .srcDisconnected ∧ s ≠ .snkDisconnected) :
    (p.setState s).chip = p.chip := by
  unfold setState
  simp only [hs.1, hs.2, or_self, and_false, if_false]
  split <;> rfl

theorem matches_completeTransmissions {p : Port} (h : p.chip.Matches) (irq : Interrupts) :
    (p.completeTransmissions irq).chip.Matches := by
  unfold completeTransmissions
  simp only [apply_ite Port.chip, pdTransmitComplete_chip, modifyChip_chip, ite_self]
  split
  · exact h.pdReset
  · exact h

theorem matches_pdExecuteHardReset {p : Port} (h : p.chip.Matches) (now : Nat) :
    (p.pdExecuteHardReset now).chip.Matches := by
  unfold pdExecuteHardReset
  simp only
  split_ifs
  · rw [setState_chip (s := .snkHardResetRecover) _ (by decide)]
    exact h.setCc .rd
  · rw [setState_chip (s := .srcHardResetRecover) _ (by decide)]
    exact h.setCc .rd
  · rw [setState_chip (s := .snkHardResetRecover) _ (by decide)]
    exact h
  · rw [setState_chip (s := .srcHardResetRecover) _ (by decide)]
    exact h

theorem matches_tcpcAlert {p : Port} (h : p.chip.Matches) (irq : Interrupts) (now : Nat) :
    (p.tcpcAlert irq now).chip.Matches := by
  have hcomplete : ((p.record (.alert irq)).completeTransmissions irq).chip.Matches :=
    matches_completeTransmissions (p := p.record (.alert irq)) h irq
  have hreset : (((p.record (.alert irq)).completeTransmissions irq).modifyChip
      Fusb302.pdReset).chip.Matches := hcomplete.pdReset
  unfold tcpcAlert
  simp only
  split_ifs
  · exact (matches_pdExecuteHardReset hreset now).flushRxFifo
  · exact matches_pdExecuteHardReset hreset now
  · exact hcomplete.flushRxFifo
  · exact hcomplete

/-- Every call but `fusb302_tcpm_init` keeps the agreement. -/
theorem matches_driverCall {p : Port} (h : p.chip.Matches) {call : DriverCall}
    (hcall : call ≠ .init) : (p.driverCall call).chip.Matches := by
  cases call with
  | init => exact absurd rfl hcall
  | setPolarity polarity => exact h.setPolarity polarity
  | setVconn enable => exact h.setVconn enable
  | setCc pull => exact h.setCc pull
  | setRxEnable enable => exact h.setRxEnable enable
  | setMsgHeader powerRole dataRole => exact h.setMsgHeader powerRole dataRole
  | getCc reading cc1 cc2 => exact h.getCc reading cc1 cc2
  | selectRpValue rp => exact h.selectRpValue rp
  | transmit type => exact h.tcpmTransmit type
  | getMessage => exact h
  | tcpcAlert irq now => exact matches_tcpcAlert h irq now

/-- The two variables that `fusb302_tcpm_init` assumes to be 0 are. -/
def InitAssumption (p : Port) (call : DriverCall) : Prop :=
  call = .init → p.chip.pullingUp = false ∧ p.chip.rxEnable = false

theorem shadowMatches_init_iff (p : Port) :
    (p.driverCall .init).ShadowMatches ↔ p.InitAssumption .init := by
  have hinit : p.InitAssumption .init ↔ p.chip.pullingUp = false ∧ p.chip.rxEnable = false :=
    forall_prop_of_true rfl
  rw [shadowMatches_iff, hinit]
  exact Fusb302.matches_init_iff p.chip

theorem shadowMatches_driverCall_iff (p : Port) (call : DriverCall) (h : p.ShadowMatches) :
    (p.driverCall call).ShadowMatches ↔ p.InitAssumption call := by
  by_cases hcall : call = .init
  · rw [hcall]
    exact p.shadowMatches_init_iff
  · rw [shadowMatches_iff] at h ⊢
    exact iff_of_true (matches_driverCall h hcall) fun hinit => absurd hinit hcall

/-- From any port, `fusb302_tcpm_init` and the calls after it keep the driver's record in
agreement with the chip exactly if every `fusb302_tcpm_init` among them finds what it
assumes. -/
theorem shadowMatches_along_iff (p : Port) (calls : List DriverCall) :
    Machine.Along driverCall (fun q call => (q.driverCall call).ShadowMatches) p
        (.init :: calls) ↔
      Machine.Along driverCall InitAssumption p (.init :: calls) := by
  rw [Machine.along_cons, Machine.along_cons, ← shadowMatches_init_iff]
  exact and_congr_right fun h => Machine.along_next_iff shadowMatches_driverCall_iff h calls

/-- A port that is reset while it receives. -/
theorem not_shadowMatches_reinit :
    ¬Machine.Along driverCall (fun q call => (q.driverCall call).ShadowMatches) powerOn
      [.init, .setRxEnable true, .init] := by
  rintro ⟨-, -, hreinit, -⟩
  rw [shadowMatches_iff] at hreinit
  have hgcrc := (hreinit.rxOn (by decide)).2.1
  revert hgcrc
  decide

end Port

end UsbPd
