import UsbPd.System.Wiring
import UsbPd.Tcpc.Bus

/-!
# Measuring the CC lines

`fusb302_tcpm_get_cc` on the bus: the driver closes the measure switch of one pin after the
other, sets the reference of the comparator, reads STATUS0 and puts the switches back. The
voltage of a pin depends on the cable and on the resistors that the chip puts on that pin. The
levels that come out are those of the two pins, and the operation of `Fusb302` reads the same.
-/

namespace UsbPd

/-- The voltage of a pin in millivolts, with the pull-up and the pull-down of the chip. -/
abbrev Pin := Bool → Bool → Nat

structure Cable where
  pin1 : Pin
  pin2 : Pin

/-- The measurement block of the chip: the voltage of an MDAC code, the BC_LVL field for a
voltage, and what is measured while no switch or both are closed. -/
structure MeasureBlock where
  mdac : Byte → Nat
  bcLvl : Nat → Byte
  floating : Nat

/-- A transfer on the bus, or `tcpc_read(port, TCPC_REG_STATUS0, &reg)`. -/
inductive Access where
  | transfer (t : Transfer)
  | readStatus0

/-- A program that measures. -/
abbrev Probe := Machine.Dialogue Access Reply

namespace Probe

open Fusb302 Machine.Dialogue

def tcpcRead (reg : TcpcReg) : Probe Byte := do
  let r ← request (.transfer (.read reg))
  return r.byte 0

def tcpcReadStatus0 : Probe Byte := do
  let r ← request .readStatus0
  return r.byte 0

def tcpcWrite (reg : TcpcReg) (v : Byte) : Probe Unit := do
  let _ ← request (.transfer (.write reg (.const v)))
  return ()

/-- `fusb302_measure_cc_pin_source`. -/
def measureCcPinSource (st : ChipState) (pin2 : Bool) : Probe CcVoltage := do
  let saved ← tcpcRead .switches0
  let reg := saved &&& ~~~(switches0MeasCc1 ||| switches0MeasCc2)
  let reg := reg ||| (if pin2 then switches0Cc2PuEn else switches0Cc1PuEn)
  let reg := reg ||| (if pin2 then switches0MeasCc2 else switches0MeasCc1)
  tcpcWrite .switches0 reg
  tcpcWrite .measure st.mdacVnc
  let status ← tcpcReadStatus0
  if status &&& status0Comp = 0 then
    tcpcWrite .measure st.mdacRd
    let status ← tcpcReadStatus0
    tcpcWrite .switches0 saved
    return if status &&& status0Comp = 0 then .ra else .rd
  else
    tcpcWrite .switches0 saved
    return .open

/-- `fusb302_detect_cc_pin_source_manual`. -/
def detectCcPinSourceManual (st : ChipState) (cc1 cc2 : CcVoltage) :
    Probe (CcVoltage × CcVoltage) := do
  if st.vconnEnabled then
    if st.ccPolarity ≠ 0 then
      let level ← measureCcPinSource st true
      return (cc1, level)
    else
      let level ← measureCcPinSource st false
      return (level, cc2)
  else
    let level1 ← measureCcPinSource st false
    let level2 ← measureCcPinSource st true
    return (level1, level2)

/-- `fusb302_convert_bc_lvl`. -/
def convertBcLvl (st : ChipState) (bcLvl : Byte) : CcVoltage :=
  if st.pullingUp then
    if bcLvl = 0 then .ra else if bcLvl.toNat < 3 then .rd else .open
  else if bcLvl = 1 then .snkDef
  else if bcLvl = 2 then .snk15
  else if bcLvl = 3 then .snk30
  else .open

/-- `fusb302_detect_cc_pin_sink`. -/
def detectCcPinSink (st : ChipState) : Probe (CcVoltage × CcVoltage) := do
  let orig ← tcpcRead .switches0
  tcpcWrite .switches0 (orig &&& ~~~switches0MeasCc2 ||| switches0MeasCc1)
  let bcLvl1 ← tcpcReadStatus0
  let reg ← tcpcRead .switches0
  tcpcWrite .switches0 (reg &&& ~~~switches0MeasCc1 ||| switches0MeasCc2)
  let bcLvl2 ← tcpcReadStatus0
  let reg ← tcpcRead .switches0
  let reg := if orig &&& switches0MeasCc1 = 0 then reg &&& ~~~switches0MeasCc1
    else reg ||| switches0MeasCc1
  let reg := if orig &&& switches0MeasCc2 = 0 then reg &&& ~~~switches0MeasCc2
    else reg ||| switches0MeasCc2
  tcpcWrite .switches0 reg
  return (convertBcLvl st (bcLvl1 &&& status0BcLvl), convertBcLvl st (bcLvl2 &&& status0BcLvl))

/-- `fusb302_tcpm_get_cc`. -/
def getCc (st : ChipState) (cc1 cc2 : CcVoltage) : Probe (CcVoltage × CcVoltage) :=
  if st.pullingUp then detectCcPinSourceManual st cc1 cc2 else detectCcPinSink st

end Probe

/-! The chip on a cable. -/

namespace MeasureBlock

open Fusb302

variable (block : MeasureBlock) (cable : Cable)

/-- What the measurement block sees, by the bits of SWITCHES0. -/
def voltage (switches0 : Byte) : Nat :=
  match switches0.getLsbD 2, switches0.getLsbD 3 with
  | true, false => cable.pin1 (switches0.getLsbD 6) (switches0.getLsbD 0)
  | false, true => cable.pin2 (switches0.getLsbD 7) (switches0.getLsbD 1)
  | _, _ => block.floating

/-- STATUS0: the comparator and the BC_LVL field. -/
def status0 (regs : Registers) : Byte :=
  let v := block.voltage cable regs.switches0
  (if block.mdac (regs.measure &&& 0x3F) < v then status0Comp else 0) |||
    (block.bcLvl v &&& status0BcLvl)

/-- The registers of the chip, and its measurements. -/
def handle : Access → Registers → Reply × Registers
  | .transfer t, regs => Registers.handle t regs
  | .readStatus0, regs => (some fun _ => block.status0 cable regs, regs)

/-- The level of a pin that is pulled up, by the two references. -/
def sourceLevel (vnc rd : Byte) (v : Nat) : CcVoltage :=
  if block.mdac (vnc &&& 0x3F) < v then .open
  else if block.mdac (rd &&& 0x3F) < v then .rd
  else .ra

/-- The level of a pin that is pulled down. -/
def sinkLevel (v : Nat) : CcVoltage :=
  if block.bcLvl v &&& status0BcLvl = 1 then .snkDef
  else if block.bcLvl v &&& status0BcLvl = 2 then .snk15
  else if block.bcLvl v &&& status0BcLvl = 3 then .snk30
  else .open

@[simp] theorem interpret_tcpcRead (reg : TcpcReg) (regs : Registers) :
    (Probe.tcpcRead reg).interpret (block.handle cable) regs = (readReg regs reg, regs) := rfl

@[simp] theorem interpret_tcpcWrite (reg : TcpcReg) (v : Byte) (regs : Registers) :
    (Probe.tcpcWrite reg v).interpret (block.handle cable) regs = ((), writeReg regs reg v) := rfl

@[simp] theorem interpret_tcpcReadStatus0 (regs : Registers) :
    Probe.tcpcReadStatus0.interpret (block.handle cable) regs =
      (block.status0 cable regs, regs) := rfl

theorem status0_comp (regs : Registers) : block.status0 cable regs &&& status0Comp = 0 ↔
    ¬ block.mdac (regs.measure &&& 0x3F) < block.voltage cable regs.switches0 := by
  have hbits : ∀ lvl : Byte, (status0Comp ||| (lvl &&& status0BcLvl)) &&& status0Comp ≠ 0 ∧
      ((0 : Byte) ||| (lvl &&& status0BcLvl)) &&& status0Comp = 0 := by
    decide +kernel
  unfold status0
  simp only
  split_ifs with hlt
  · exact iff_of_false (hbits _).1 (not_not.2 hlt)
  · exact iff_of_true (hbits _).2 hlt

theorem status0_bcLvl (regs : Registers) : block.status0 cable regs &&& status0BcLvl =
    block.bcLvl (block.voltage cable regs.switches0) &&& status0BcLvl := by
  have hbits : ∀ lvl : Byte,
      (status0Comp ||| (lvl &&& status0BcLvl)) &&& status0BcLvl = lvl &&& status0BcLvl ∧
      ((0 : Byte) ||| (lvl &&& status0BcLvl)) &&& status0BcLvl = lvl &&& status0BcLvl := by
    decide +kernel
  unfold status0
  simp only
  split_ifs
  · exact (hbits _).1
  · exact (hbits _).2

/-- SWITCHES0 while a pin is measured with its pull-up. -/
theorem voltage_source (saved : Byte) :
    (block.voltage cable (saved &&& ~~~(switches0MeasCc1 ||| switches0MeasCc2) |||
        switches0Cc1PuEn ||| switches0MeasCc1) = cable.pin1 true (saved.getLsbD 0)) ∧
      (block.voltage cable (saved &&& ~~~(switches0MeasCc1 ||| switches0MeasCc2) |||
        switches0Cc2PuEn ||| switches0MeasCc2) = cable.pin2 true (saved.getLsbD 1)) := by
  constructor <;>
    simp [voltage, switches0MeasCc1, switches0MeasCc2, switches0Cc1PuEn, switches0Cc2PuEn]

/-- SWITCHES0 while the pins are measured as they are. -/
theorem voltage_sink (orig : Byte) :
    (block.voltage cable (orig &&& ~~~switches0MeasCc2 ||| switches0MeasCc1) =
        cable.pin1 (orig.getLsbD 6) (orig.getLsbD 0)) ∧
      (block.voltage cable ((orig &&& ~~~switches0MeasCc2 ||| switches0MeasCc1) &&&
        ~~~switches0MeasCc1 ||| switches0MeasCc2) =
        cable.pin2 (orig.getLsbD 7) (orig.getLsbD 1)) := by
  constructor <;> simp [voltage, switches0MeasCc1, switches0MeasCc2]

/-- STATUS0 as far as the comparator goes. -/
def comparator (code : Byte) (v : Nat) : Byte :=
  if block.mdac (code &&& 0x3F) < v then status0Comp else 0

theorem comparator_eq_zero (code : Byte) (v : Nat) :
    block.comparator code v &&& status0Comp = 0 ↔ ¬ block.mdac (code &&& 0x3F) < v := by
  unfold comparator
  split_ifs with hlt
  · exact iff_of_false (by decide) (not_not.2 hlt)
  · exact iff_of_true (by decide) hlt

/-- What `fusb302_tcpm_get_cc` reads on the cable. -/
def reading (c : Fusb302) : CcReading where
  vnc1 := block.comparator c.mdacVnc (cable.pin1 true c.regs.switches.pullDown1)
  rd1 := block.comparator c.mdacRd (cable.pin1 true c.regs.switches.pullDown1)
  vnc2 := block.comparator c.mdacVnc (cable.pin2 true c.regs.switches.pullDown2)
  rd2 := block.comparator c.mdacRd (cable.pin2 true c.regs.switches.pullDown2)
  bcLvl1 := block.bcLvl (cable.pin1 c.regs.switches.pullUp1 c.regs.switches.pullDown1)
  bcLvl2 := block.bcLvl (cable.pin2 c.regs.switches.pullUp2 c.regs.switches.pullDown2)

/-- The pin that is measured, pulled up. -/
def pulledUp (pin2 : Bool) (sw : Switches) : Nat :=
  if pin2 then cable.pin2 true sw.pullDown2 else cable.pin1 true sw.pullDown1

/-- The measurement of one pin. -/
def measureOn (c : Fusb302) (pin2 : Bool) : CcVoltage × Fusb302 :=
  c.measureCcPinSource pin2 (block.comparator c.mdacVnc (pulledUp cable pin2 c.regs.switches))
    (block.comparator c.mdacRd (pulledUp cable pin2 c.regs.switches))

/-- It leaves the record and the switches alone. -/
theorem kept_measureOn (c : Fusb302) (pin2 : Bool) :
    (block.measureOn cable c pin2).2.chipState = c.chipState ∧
      (block.measureOn cable c pin2).2.regs.switches = c.regs.switches := by
  unfold measureOn Fusb302.measureCcPinSource
  simp only
  split_ifs <;> exact ⟨rfl, rfl⟩

theorem interpret_measureCcPinSource (c : Fusb302) (pin2 : Bool) :
    (Probe.measureCcPinSource c.chipState pin2).interpret (block.handle cable) c.regs =
      ((block.measureOn cable c pin2).1, (block.measureOn cable c pin2).2.regs) := by
  obtain ⟨hpin1, hpin2⟩ := block.voltage_source cable c.regs.switches0
  have hv : block.voltage cable (c.regs.switches0 &&& ~~~(switches0MeasCc1 ||| switches0MeasCc2) |||
      (if pin2 then switches0Cc2PuEn else switches0Cc1PuEn) |||
      (if pin2 then switches0MeasCc2 else switches0MeasCc1)) =
        pulledUp cable pin2 c.regs.switches := by
    cases pin2
    · exact hpin1
    · exact hpin2
  unfold measureOn
  generalize pulledUp cable pin2 c.regs.switches = v at hv
  unfold Probe.measureCcPinSource Fusb302.measureCcPinSource
  simp only [Machine.Dialogue.interpret_bind, interpret_tcpcRead, interpret_tcpcWrite,
    interpret_tcpcReadStatus0, status0_comp, comparator_eq_zero, readReg, writeReg,
    Fusb302.tcpcRead, Fusb302.tcpcWrite, chipState]
  generalize (c.regs.switches0 &&& ~~~(switches0MeasCc1 ||| switches0MeasCc2) |||
    (if pin2 then switches0Cc2PuEn else switches0Cc1PuEn) |||
    (if pin2 then switches0MeasCc2 else switches0MeasCc1)) = reg at hv
  rw [hv]
  by_cases hvnc : block.mdac (c.mdacVnc &&& 0x3F) < v
  · rw [if_neg (not_not.2 hvnc), if_neg (not_not.2 hvnc)]
    rfl
  · rw [if_pos hvnc, if_pos hvnc]
    simp only [Machine.Dialogue.interpret_bind, interpret_tcpcWrite, interpret_tcpcReadStatus0,
      status0_comp, writeReg, hv, Machine.Dialogue.interpret_pure]

/-- Without VCONN one pin is measured after the other. -/
theorem detectCcPinSourceManual_reading {c : Fusb302} (hvconn : c.vconnEnabled = false)
    (cc1 cc2 : CcVoltage) : c.detectCcPinSourceManual (block.reading cable c) cc1 cc2 =
      ((block.measureOn cable c false).1,
        (block.measureOn cable (block.measureOn cable c false).2 true).1,
        (block.measureOn cable (block.measureOn cable c false).2 true).2) := by
  obtain ⟨hstate, hswitches⟩ := block.kept_measureOn cable c false
  have hvnc := congrArg ChipState.mdacVnc hstate
  have hrd := congrArg ChipState.mdacRd hstate
  have hsecond : (block.measureOn cable c false).2.measureCcPinSource true
        (block.comparator c.mdacVnc (pulledUp cable true c.regs.switches))
        (block.comparator c.mdacRd (pulledUp cable true c.regs.switches)) =
      block.measureOn cable (block.measureOn cable c false).2 true := by
    conv_rhs => rw [measureOn, hswitches]
    rw [show (block.measureOn cable c false).2.mdacVnc = c.mdacVnc from hvnc,
      show (block.measureOn cable c false).2.mdacRd = c.mdacRd from hrd]
  rw [← hsecond]
  exact if_neg (Bool.not_eq_true _ ▸ hvconn)

theorem interpret_detectCcPinSourceManual (c : Fusb302) (cc1 cc2 : CcVoltage) :
    (Probe.detectCcPinSourceManual c.chipState cc1 cc2).interpret (block.handle cable) c.regs =
      let m := c.detectCcPinSourceManual (block.reading cable c) cc1 cc2
      ((m.1, m.2.1), m.2.2.regs) := by
  have hrecord : c.chipState.vconnEnabled = c.vconnEnabled ∧
      c.chipState.ccPolarity = c.ccPolarity := ⟨rfl, rfl⟩
  unfold Probe.detectCcPinSourceManual
  rw [hrecord.1, hrecord.2]
  by_cases hvconn : c.vconnEnabled = true
  · unfold Fusb302.detectCcPinSourceManual
    rw [if_pos hvconn, if_pos hvconn]
    by_cases hpolarity : c.ccPolarity ≠ 0
    · rw [if_pos hpolarity, if_pos hpolarity, Machine.Dialogue.interpret_bind,
        interpret_measureCcPinSource]
      rfl
    · rw [if_neg hpolarity, if_neg hpolarity, Machine.Dialogue.interpret_bind,
        interpret_measureCcPinSource]
      rfl
  · have hoff : c.vconnEnabled = false := Bool.not_eq_true _ ▸ hvconn
    have hpins := block.detectCcPinSourceManual_reading cable hoff cc1 cc2
    have hstate := (block.kept_measureOn cable c false).1
    rw [if_neg hvconn, hpins, Machine.Dialogue.interpret_bind, interpret_measureCcPinSource,
      Machine.Dialogue.interpret_bind, ← hstate, interpret_measureCcPinSource]
    rfl

theorem interpret_detectCcPinSink (c : Fusb302) :
    (Probe.detectCcPinSink c.chipState).interpret (block.handle cable) c.regs =
      let m := c.detectCcPinSink (block.reading cable c)
      ((m.1, m.2.1), m.2.2.regs) := by
  obtain ⟨hpin1, hpin2⟩ := block.voltage_sink cable c.regs.switches0
  unfold Probe.detectCcPinSink Fusb302.detectCcPinSink
  simp only [Machine.Dialogue.interpret_bind, interpret_tcpcRead, interpret_tcpcWrite,
    interpret_tcpcReadStatus0, status0_bcLvl, readReg, writeReg, Fusb302.tcpcRead,
    Fusb302.tcpcWrite, hpin1, hpin2, Machine.Dialogue.interpret_pure]
  rfl

/-- The program computes what `getCc` does with the reading of the cable. -/
theorem interpret_getCc (c : Fusb302) (cc1 cc2 : CcVoltage) :
    (Probe.getCc c.chipState cc1 cc2).interpret (block.handle cable) c.regs =
      let m := c.getCc (block.reading cable c) cc1 cc2
      ((m.1, m.2.1), m.2.2.regs) := by
  have hrecord : c.chipState.pullingUp = c.pullingUp := rfl
  unfold Probe.getCc Fusb302.getCc
  rw [hrecord]
  cases c.pullingUp with
  | true => exact block.interpret_detectCcPinSourceManual cable c cc1 cc2
  | false => exact block.interpret_detectCcPinSink cable c

/-- The level of a pin by the resistor that the driver selected. -/
def level (c : Fusb302) (pin : Pin) : CcVoltage :=
  if c.pullingUp then block.sourceLevel c.mdacVnc c.mdacRd (pin true false)
  else block.sinkLevel (pin false true)

/-- A chip that pulls down takes the BC_LVL fields for the levels. -/
theorem getCc_pullDown {c : Fusb302} (hdown : c.pullingUp = false) {r : CcReading} {v₁ v₂ : Nat}
    (hpin1 : r.bcLvl1 = block.bcLvl v₁) (hpin2 : r.bcLvl2 = block.bcLvl v₂) (cc1 cc2 : CcVoltage) :
    (c.getCc r cc1 cc2).1 = block.sinkLevel v₁ ∧ (c.getCc r cc1 cc2).2.1 = block.sinkLevel v₂ := by
  unfold Fusb302.getCc Fusb302.detectCcPinSink Fusb302.convertBcLvl sinkLevel
  simp only [hpin1, hpin2, Fusb302.tcpcWrite, hdown, Bool.false_eq_true, if_false, and_self]

/-- A chip that pulls up without VCONN takes the comparator for the levels. -/
theorem getCc_pullUp {c : Fusb302} (hup : c.pullingUp = true) (hvconn : c.vconnEnabled = false)
    {r : CcReading} {v₁ v₂ : Nat} (hvnc1 : r.vnc1 = block.comparator c.mdacVnc v₁)
    (hrd1 : r.rd1 = block.comparator c.mdacRd v₁) (hvnc2 : r.vnc2 = block.comparator c.mdacVnc v₂)
    (hrd2 : r.rd2 = block.comparator c.mdacRd v₂) (cc1 cc2 : CcVoltage) :
    (c.getCc r cc1 cc2).1 = block.sourceLevel c.mdacVnc c.mdacRd v₁ ∧
      (c.getCc r cc1 cc2).2.1 = block.sourceLevel c.mdacVnc c.mdacRd v₂ := by
  have hpin : ∀ (d : Fusb302) (pin2 : Bool) (v : Nat), (d.measureCcPinSource pin2
      (block.comparator c.mdacVnc v) (block.comparator c.mdacRd v)).1 =
        block.sourceLevel c.mdacVnc c.mdacRd v := by
    intro d pin2 v
    unfold Fusb302.measureCcPinSource sourceLevel
    simp only [comparator_eq_zero]
    split_ifs <;> rfl
  unfold Fusb302.getCc Fusb302.detectCcPinSourceManual
  simp only [hup, hvconn, if_true, Bool.false_eq_true, if_false, hvnc1, hrd1, hvnc2, hrd2]
  exact ⟨hpin _ _ _, hpin _ _ _⟩

/-- The levels that come out are those of the pins. -/
theorem getCc_levels {c : Fusb302} {polarity : Bool} (h : c.Wired polarity) (cc1 cc2 : CcVoltage) :
    (c.getCc (block.reading cable c) cc1 cc2).1 = block.level c cable.pin1 ∧
      (c.getCc (block.reading cable c) cc1 cc2).2.1 = block.level c cable.pin2 := by
  obtain ⟨hdown1, hdown2⟩ := h.pullDown
  unfold level
  cases hup : c.pullingUp with
  | true =>
      rw [hup] at hdown1 hdown2
      have hpin1 : cable.pin1 true c.regs.switches.pullDown1 = cable.pin1 true false := by
        rw [hdown1]
        rfl
      have hpin2 : cable.pin2 true c.regs.switches.pullDown2 = cable.pin2 true false := by
        rw [hdown2]
        rfl
      rw [if_pos rfl, if_pos rfl, ← hpin1, ← hpin2]
      exact block.getCc_pullUp hup h.vconn rfl rfl rfl rfl cc1 cc2
  | false =>
      obtain ⟨hup1, hup2⟩ := h.record.noPullUp hup
      rw [hup] at hdown1 hdown2
      have hpin1 : (block.reading cable c).bcLvl1 = block.bcLvl (cable.pin1 false true) := by
        rw [← show c.regs.switches.pullUp1 = false from hup1,
          ← show c.regs.switches.pullDown1 = true from hdown1]
        rfl
      have hpin2 : (block.reading cable c).bcLvl2 = block.bcLvl (cable.pin2 false true) := by
        rw [← show c.regs.switches.pullUp2 = false from hup2,
          ← show c.regs.switches.pullDown2 = true from hdown2]
        rfl
      exact block.getCc_pullDown hup hpin1 hpin2 cc1 cc2

end MeasureBlock

namespace Port

variable {b : Board} {p q : Port}

/-- The references of the comparator. -/
def references (p : Port) : Byte × Byte := (p.chip.mdacVnc, p.chip.mdacRd)

theorem references_of_vital (h : q.vital = p.vital) : q.references = p.references :=
  congrArg (fun v : Vital => (v.chip.mdacVnc, v.chip.mdacRd)) h

/-- Only `fusb302_tcpm_select_rp_value` sets the references. -/
theorem references_action (h : Action b p q) : q.references = p.references := by
  cases h with
  | assign h => exact references_of_vital (congrArg Prod.fst h)
  | enter hs hdetached h => exact references_of_vital (congrArg Prod.fst h)
  | conclude hs h => exact references_of_vital (p := p.record _) (congrArg Prod.fst h)
  | transition hs h => exact references_of_vital (p := p.record _) (congrArg Prod.fst h)
  | present hpull =>
      obtain rfl | rfl := hpull <;> rfl
  | rxEnable enable =>
      unfold references
      rw [chip_tcpmSetRxEnable]
      unfold Fusb302.setRxEnable
      simp only
      split_ifs <;> rfl
  | measure r =>
      unfold references tcpmGetCc Fusb302.getCc Fusb302.detectCcPinSourceManual
        Fusb302.measureCcPinSource
      simp only
      split_ifs <;> rfl
  | signal h =>
      rename_i type
      cases type <;> rfl
  | _ => rfl

theorem after_references (b : Board) (es : List Event) : (after b es).references =
    (Fusb302.measureMdacMv 1600, Fusb302.measureMdacMv 200) := by
  have hsetup : setup.references = (Fusb302.measureMdacMv 1600, Fusb302.measureMdacMv 200) := by
    decide
  exact after_kept hsetup (fun _ _ h hp => (references_action h).trans hp) es

/-- The level of a pin by the resistor that the port presents, with the references for default
USB power. -/
def levelOf (p : Port) (block : MeasureBlock) (pin : Pin) : CcVoltage :=
  if p.chip.pullingUp then block.sourceLevel (Fusb302.measureMdacMv 1600)
    (Fusb302.measureMdacMv 200) (pin true false)
  else block.sinkLevel (pin false true)

/-- On every cable `fusb302_tcpm_get_cc` finds the level of either pin and puts the switches back,
and the port goes on as after `tcpm_get_cc`. -/
theorem after_measures (b : Board) (es : List Event) (block : MeasureBlock) (cable : Cable) :
    let p := after b es
    let q := p.tcpmGetCc (block.reading cable p.chip)
    (Probe.getCc p.chip.chipState p.st.cc1 p.st.cc2).interpret (block.handle cable) p.chip.regs =
        ((q.st.cc1, q.st.cc2), q.chip.regs) ∧
      q.st.cc1 = p.levelOf block cable.pin1 ∧ q.st.cc2 = p.levelOf block cable.pin2 ∧
      q.chip.regs.switches = p.chip.regs.switches := by
  intro p q
  have hwired : p.chip.Wired p.pd.polarity := after_wired b es
  obtain ⟨hvnc, hrd⟩ := Prod.mk.inj (after_references b es)
  have hlevel : ∀ pin, block.level p.chip pin = p.levelOf block pin := fun pin => by
    unfold MeasureBlock.level levelOf
    rw [← hvnc, ← hrd]
  obtain ⟨hcc1, hcc2⟩ := block.getCc_levels cable hwired p.st.cc1 p.st.cc2
  exact ⟨block.interpret_getCc cable p.chip p.st.cc1 p.st.cc2, hcc1.trans (hlevel _),
    hcc2.trans (hlevel _), p.chip.switches_getCc _ _ _⟩

end Port

end UsbPd
