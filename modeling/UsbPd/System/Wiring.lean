import UsbPd.Conduct.Iteration
import UsbPd.Control.Termination
import UsbPd.System.Shadow

/-!
# The wiring of every run

What the chip presents to the cable in every reachable state: one kind of termination on
both pins, no VCONN, the transmitter and the measurement on the pin of the polarity that the
port works with, and the configuration that `fusb302_tcpm_init` wrote. As long as no event
leaves a power role swap half-way, the termination is that of the power role.
-/

namespace UsbPd

/-- The registers that hold the configuration; MASK without the bit of the CC levels. -/
structure Configuration where
  control0 : BitVec 8
  control1 : BitVec 8
  control2 : BitVec 8
  control3 : BitVec 8
  power : BitVec 8
  mask : BitVec 8
  maska : BitVec 8
  maskb : BitVec 8
  deriving DecidableEq

def Registers.configuration (regs : Registers) : Configuration where
  control0 := regs.control0
  control1 := regs.control1
  control2 := regs.control2
  control3 := regs.control3
  power := regs.power
  mask := regs.mask &&& ~~~Fusb302.maskBcLvl
  maska := regs.maska
  maskb := regs.maskb

/-- The current source for default USB power, three retries, the interrupts that the handler
looks at, no toggling, no test mode, all blocks powered. -/
def Configuration.initial : Configuration where
  control0 := 0x04
  control1 := 0x00
  control2 := 0x02
  control3 := 0x07
  power := 0x0F
  mask := 0xE4
  maska := 0xE2
  maskb := 0xFE

namespace Fusb302

/-! What the operations do to the configuration. -/

section

variable {c : Fusb302} (h : c.regs.configuration = .initial)

include h

theorem configuration_setCc {pull : CcPull} (hpull : pull = .rp ∨ pull = .rd) :
    (c.setCc pull).2.regs.configuration = .initial := by
  obtain rfl | rfl := hpull
  · exact h
  · simp only [Registers.configuration, Configuration.initial, Configuration.mk.injEq] at h
    simp [setCc, tcpcWrite, tcpcRead, writeReg, readReg, Registers.configuration,
      Configuration.initial, h, control2Toggle]

theorem configuration_setRxEnable (enable : Bool) :
    (c.setRxEnable enable).2.regs.configuration = .initial := by
  simp only [Registers.configuration, Configuration.initial, Configuration.mk.injEq] at h
  have hmask : (c.regs.mask ||| maskBcLvl) &&& ~~~maskBcLvl = c.regs.mask &&& ~~~maskBcLvl := by
    rw [BitVec.and_or_distrib_right]
    simp [maskBcLvl]
  unfold setRxEnable
  simp only
  split_ifs <;>
    simp [autoGoodcrcEnable, flushRxFifo, tcpcWrite, tcpcRead, writeReg, readReg,
      Registers.configuration, Configuration.initial, hmask, h, control1RxFlush, BitVec.and_assoc]
  rfl

theorem configuration_getCc (r : CcReading) (cc1 cc2 : CcVoltage) :
    (c.getCc r cc1 cc2).2.2.regs.configuration = .initial := by
  unfold getCc detectCcPinSourceManual measureCcPinSource
  simp only
  split_ifs <;> exact h

theorem configuration_transmit (type : TransmitType) :
    (c.transmit type).regs.configuration = .initial := by
  simp only [Registers.configuration, Configuration.initial, Configuration.mk.injEq] at h
  cases type <;>
    simp [transmit, flushTxFifo, tcpcWrite, tcpcRead, writeReg, readReg, Registers.configuration,
      Configuration.initial, h, control0TxFlush, control0TxStart, control1BistMode2,
      control1RxFlush, control3SendHardReset]

theorem configuration_flushRxFifo : c.flushRxFifo.regs.configuration = .initial := by
  simp only [Registers.configuration, Configuration.initial, Configuration.mk.injEq] at h
  simp [flushRxFifo, tcpcWrite, writeReg, Registers.configuration, Configuration.initial, h,
    control1RxFlush]

end

/-- The chip of a port that works with `polarity`. -/
structure Wired (c : Fusb302) (polarity : Bool) : Prop where
  record : c.Matches
  polarity : c.ccPolarity = polarity.toNat
  vconn : c.vconnEnabled = false
  pullDown : c.regs.switches.pullDown1 = !c.pullingUp ∧ c.regs.switches.pullDown2 = !c.pullingUp
  configuration : c.regs.configuration = .initial

namespace Wired

variable {c : Fusb302} {polarity : Bool} (h : c.Wired polarity)

include h

/-- The registers outside the switches. -/
theorem of_switches {d : Fusb302} (hselected : d.selected = c.selected)
    (hswitches : d.regs.switches = c.regs.switches) (hconf : d.regs.configuration = .initial) :
    d.Wired polarity := by
  have hup : d.pullingUp = c.pullingUp := congrArg Selected.pullingUp hselected
  exact {
    record := h.record.of_eq hselected hswitches
    polarity := (congrArg Selected.ccPolarity hselected).trans h.polarity
    vconn := (congrArg Selected.vconnEnabled hselected).trans h.vconn
    pullDown := by
      rw [hswitches, hup]
      exact h.pullDown
    configuration := hconf }

theorem orient (newPolarity : Bool) : (c.setPolarity newPolarity.toNat).Wired newPolarity where
  record := h.record.setPolarity newPolarity
  polarity := rfl
  vconn := h.vconn
  pullDown := by
    rw [switches_setPolarity]
    exact h.pullDown
  configuration := h.configuration

theorem setCc {pull : CcPull} (hpull : pull = .rp ∨ pull = .rd) :
    (c.setCc pull).2.Wired polarity where
  record := h.record.setCc pull
  polarity := by
    obtain rfl | rfl := hpull <;> exact h.polarity
  vconn := by
    obtain rfl | rfl := hpull <;> exact h.vconn
  pullDown := by
    obtain rfl | rfl := hpull
    · rw [switches_setCc_rp]
      exact ⟨rfl, rfl⟩
    · rw [switches_setCc_rd]
      exact ⟨rfl, rfl⟩
  configuration := configuration_setCc h.configuration hpull

theorem setRxEnable (enable : Bool) : (c.setRxEnable enable).2.Wired polarity := by
  have hselected : (c.setRxEnable enable).2.selected = { c.selected with rxEnable := enable } := by
    unfold Fusb302.setRxEnable
    simp only
    split_ifs <;> simp_all [selected, tcpcWrite, flushRxFifo, autoGoodcrcEnable]
  have hpulls : (c.setRxEnable enable).2.regs.switches.pullDown1 = c.regs.switches.pullDown1 ∧
      (c.setRxEnable enable).2.regs.switches.pullDown2 = c.regs.switches.pullDown2 := by
    cases enable with
    | false =>
        rw [switches_setRxEnable_false]
        exact ⟨rfl, rfl⟩
    | true =>
        rw [switches_setRxEnable_true c (Coupled.polarity h.record)]
        exact ⟨rfl, rfl⟩
  exact {
    record := h.record.setRxEnable enable
    polarity := (congrArg Selected.ccPolarity hselected).trans h.polarity
    vconn := (congrArg Selected.vconnEnabled hselected).trans h.vconn
    pullDown := by
      have hup : (c.setRxEnable enable).2.pullingUp = c.pullingUp :=
        congrArg Selected.pullingUp hselected
      rw [hpulls.1, hpulls.2, hup]
      exact h.pullDown
    configuration := configuration_setRxEnable h.configuration enable }

theorem setMsgHeader (powerRole dataRole : Bool) :
    (c.setMsgHeader powerRole dataRole).Wired polarity :=
  h.of_switches rfl (c.switches_setMsgHeader powerRole dataRole) h.configuration

theorem getCc (r : CcReading) (cc1 cc2 : CcVoltage) :
    (c.getCc r cc1 cc2).2.2.Wired polarity := by
  have hselected : (c.getCc r cc1 cc2).2.2.selected = c.selected := by
    unfold Fusb302.getCc detectCcPinSourceManual measureCcPinSource
    simp only
    split_ifs <;> rfl
  exact h.of_switches hselected (c.switches_getCc r cc1 cc2)
    (configuration_getCc h.configuration r cc1 cc2)

theorem transmit (type : TransmitType) : (c.transmit type).Wired polarity :=
  h.of_switches (by cases type <;> rfl) (c.switches_transmit type)
    (configuration_transmit h.configuration type)

theorem pdReset : c.pdReset.Wired polarity := h

theorem flushRxFifo : c.flushRxFifo.Wired polarity :=
  h.of_switches rfl rfl (configuration_flushRxFifo h.configuration)

end Wired

end Fusb302

namespace Port

variable {b : Board} {p q : Port}

/-- The chip works with the polarity of the port. -/
def Wired (p : Port) : Prop := p.chip.Wired p.pd.polarity

theorem wired_setup : setup.Wired where
  record := by constructor <;> decide
  polarity := by decide
  vconn := by decide
  pullDown := by decide
  configuration := by decide

theorem Wired.of_vital (hp : p.Wired) {q : Port} (h : q.vital = p.vital) : q.Wired := by
  have hchip : q.chip = p.chip := congrArg Vital.chip h
  have hpolarity : q.pd.polarity = p.pd.polarity := congrArg Vital.polarity h
  unfold Wired
  rw [hchip, hpolarity]
  exact hp

theorem chip_tcpmSetRxEnable (p : Port) (enable : Bool) :
    (p.tcpmSetRxEnable enable).chip = (p.chip.setRxEnable enable).2 := by
  unfold tcpmSetRxEnable
  simp only
  split_ifs <;> rfl

theorem wired_action (h : Action b p q) (hp : p.Wired) : q.Wired := by
  cases h with
  | assign h => exact hp.of_vital (congrArg Prod.fst h)
  | enter hs hdetached h => exact hp.of_vital (congrArg Prod.fst h)
  | conclude hs h => exact Wired.of_vital (p := p.record _) hp (congrArg Prod.fst h)
  | transition hs h => exact Wired.of_vital (p := p.record _) hp (congrArg Prod.fst h)
  | present hpull => exact Fusb302.Wired.setCc hp hpull
  | roles powerRole dataRole => exact Fusb302.Wired.setMsgHeader hp _ _
  | orient polarity => exact Fusb302.Wired.orient hp polarity
  | rxEnable enable =>
      unfold Wired
      rw [chip_tcpmSetRxEnable, tcpmSetRxEnable_pd]
      exact Fusb302.Wired.setRxEnable hp enable
  | measure r => exact Fusb302.Wired.getCc hp r _ _
  | pdReset => exact Fusb302.Wired.pdReset hp
  | flush => exact Fusb302.Wired.flushRxFifo hp
  | send data htype hcrc hpsRdy hdata => exact Fusb302.Wired.transmit hp .sop
  | sendVdm => exact Fusb302.Wired.transmit hp .sop
  | signal h => exact Fusb302.Wired.transmit hp _
  | _ => exact hp

theorem after_wired (b : Board) (es : List Event) : (after b es).Wired :=
  after_kept wired_setup (fun _ _ => wired_action) es

/-- What the registers say about the cable: Rp on both pins or Rd on both, VCONN on neither,
transmitter and measurement on the pin of the polarity, GoodCRC and the interrupt of the CC
levels as the receiver is, everything else as it was configured. -/
structure Presents (p : Port) (sw : Switches) : Prop where
  pullUp : sw.pullUp1 = p.chip.pullingUp ∧ sw.pullUp2 = p.chip.pullingUp
  pullDown : sw.pullDown1 = !p.chip.pullingUp ∧ sw.pullDown2 = !p.chip.pullingUp
  vconn : sw.vconn1 = false ∧ sw.vconn2 = false
  transmitter : sw.txcc1 = !p.pd.polarity ∧ sw.txcc2 = p.pd.polarity
  receiver : sw.autoGcrc = p.chip.rxEnable ∧ sw.bcLvlMasked = p.chip.rxEnable
  measured : p.chip.rxEnable = true → sw.meas1 = !p.pd.polarity ∧ sw.meas2 = p.pd.polarity
  configuration : p.chip.regs.configuration = .initial

theorem Wired.pullUp (h : p.Wired) : p.chip.regs.switches.pullUp1 = p.chip.pullingUp ∧
    p.chip.regs.switches.pullUp2 = p.chip.pullingUp := by
  cases hup : p.chip.pullingUp with
  | false => exact h.record.noPullUp hup
  | true => exact (h.record.pullUp hup).1

theorem Wired.vconn_off (h : p.Wired) : p.chip.regs.switches.vconn1 = false ∧
    p.chip.regs.switches.vconn2 = false := by
  have hnone : ¬(p.chip.regs.switches.vconn1 = true ∨ p.chip.regs.switches.vconn2 = true) :=
    fun hon => Bool.false_ne_true (h.vconn.symm.trans (h.record.vconn.1 hon))
  simpa using hnone

/-- The known polarity decides the pin. -/
theorem Wired.pins (h : p.Wired) :
    (p.chip.regs.switches.txcc1 = !p.pd.polarity ∧
      p.chip.regs.switches.txcc2 = p.pd.polarity) ∧
    (p.chip.rxEnable = true → p.chip.regs.switches.meas1 = !p.pd.polarity ∧
      p.chip.regs.switches.meas2 = p.pd.polarity) := by
  have hsel : p.chip.selected.ccPolarity = p.pd.polarity.toNat := h.polarity
  have hrx := h.record.rxOn
  have htx := h.record.txcc
  rw [hsel] at hrx htx
  cases hpol : p.pd.polarity with
  | false =>
      simp only [hpol] at hrx htx
      obtain ⟨-, htx⟩ | ⟨hne, -⟩ := htx
      · exact ⟨htx, fun hon => ⟨(hrx hon).1.1.2 rfl, by simpa using (hrx hon).1.2⟩⟩
      · cases hne
  | true =>
      simp only [hpol] at hrx htx
      obtain ⟨hne, -⟩ | ⟨-, htx⟩ := htx
      · cases hne
      · exact ⟨htx, fun hon => ⟨by simpa using (hrx hon).1.1, (hrx hon).1.2.2 rfl⟩⟩

theorem Wired.receiver (h : p.Wired) : p.chip.regs.switches.autoGcrc = p.chip.rxEnable ∧
    p.chip.regs.switches.bcLvlMasked = p.chip.rxEnable := by
  cases hrx : p.chip.rxEnable with
  | false => exact h.record.rxOff hrx
  | true => exact (h.record.rxOn hrx).2

/-- After every run the registers present what the port works with. -/
theorem after_presents (b : Board) (es : List Event) :
    (after b es).Presents (after b es).chip.regs.switches :=
  have h := after_wired b es
  ⟨h.pullUp, h.pullDown, h.vconn_off, h.pins.1, h.receiver, h.pins.2, h.configuration⟩

/-! The terminations and VBUS. -/

/-- On both pins Rp is presented by a source alone and Rd by a sink alone, and only a source
drives VBUS. -/
structure TerminationsAgree (p : Port) : Prop where
  rp : (p.chip.regs.switches.pullUp1 = true ↔ p.pd.powerRole = .source) ∧
    (p.chip.regs.switches.pullUp2 = true ↔ p.pd.powerRole = .source)
  rd : (p.chip.regs.switches.pullDown1 = true ↔ p.pd.powerRole = .sink) ∧
    (p.chip.regs.switches.pullDown2 = true ↔ p.pd.powerRole = .sink)
  vbus : (History.ofLog p.log).vbus = true → p.pd.powerRole = .source

/-- As long as no event leaves a swap half-way, the terminations agree with the
role outside the completing states. -/
theorem terminationsAgree_after (b : Board) (es : List Event)
    (h : AllSteps b (fun p e => p.leavesSwap e = false) es) :
    (after b es).completingSwap = false → (after b es).TerminationsAgree := by
  intro hswap
  have hterm := ((Control.swapSafe_invariant b).after h).terminations
  have hpull : (after b es).chip.pullingUp = ((after b es).pd.powerRole == .source) :=
    hterm.pull hswap
  have hwired := after_wired b es
  obtain ⟨hup1, hup2⟩ := hwired.pullUp
  obtain ⟨hdown1, hdown2⟩ := hwired.pullDown
  refine ⟨?_, ?_, hterm.vbus hswap⟩
  · rw [hup1, hup2, hpull]
    cases (after b es).pd.powerRole <;> decide
  · rw [hdown1, hdown2, hpull]
    cases (after b es).pd.powerRole <;> decide

/-- A sink that takes over the supply: PR_Swap accepted, the old source off. -/
def sinkTakesOver : List Event :=
  readyAsSink ++ [.requestPowerSwap, iterateAt 230000 rpOnCc1 none,
    iterateAt 240000 rpOnCc1 (some (ctrlMsg .accept)),
    iterateAt 250000 rpOnCc1 (some (ctrlMsg .psRdy))]

/-- The swap completes. -/
theorem terminationsAgree_after_swap :
    (after .shipped (sinkTakesOver ++
      [iterateAt 260000 rpOnCc1 none, iterateAt 270000 rdOnCc1 none])).TerminationsAgree :=
  terminationsAgree_after .shipped _ (by decide +kernel) (by decide +kernel)

/-- A soft reset by the application while the sink takes over leaves a sink that
presents Rp. -/
theorem not_terminationsAgree_softReset :
    ¬ ∀ es : List Event, (after .shipped es).completingSwap = false →
      (after .shipped es).TerminationsAgree := by
  intro h
  have hrp := (h (sinkTakesOver ++ [.softReset]) (by decide +kernel)).rp.1
  revert hrp
  decide +kernel

end Port

end UsbPd
